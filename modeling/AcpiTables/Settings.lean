import AcpiTables.CommandLine
import AcpiTables.Config
import AcpiTables.Settings.Document

/-!
# Settings

The configuration of a run is settled in three steps, each of which may override the
one before: the defaults, with highlighting exactly on a terminal; the settings file;
and the command line.

A settings file may set three keys, each once: `consistency-checking` and `colour` to a
truth value, and `arch` to a text.  Whether that text names an architecture is checked
when the configuration is settled.
-/

namespace AcpiTables

set_option autoImplicit false

/-- The contents of a settings file. -/
structure FileSettings where
  /-- Whether consistency is checked. -/
  consistencyChecking : Option Bool
  /-- Whether findings are highlighted. -/
  colour : Option Bool
  /-- The name of the target architecture. -/
  architecture : Option String
  deriving DecidableEq, Repr

namespace FileSettings

/-- Nothing set. -/
def none : FileSettings := ⟨Option.none, Option.none, Option.none⟩

/-- Takes one setting, unless its key is unknown or set before or its value has the wrong kind. -/
def set? (settings : FileSettings) (key : String) (value : SettingValue) :
    Option FileSettings :=
  match key, value with
  | "consistency-checking", .boolean value =>
      if settings.consistencyChecking.isNone then
        some { settings with consistencyChecking := some value }
      else Option.none
  | "colour", .boolean value =>
      if settings.colour.isNone then some { settings with colour := some value } else Option.none
  | "arch", .text value =>
      if settings.architecture.isNone then some { settings with architecture := some value }
      else Option.none
  | _, _ => Option.none

/-- Reads the text of a settings file. -/
def parse? (document : String) : Option FileSettings := do
  (← Document.read? document).foldlM (fun settings setting => settings.set? setting.1 setting.2)
    none

end FileSettings

/-- Why settings give no configuration. -/
inductive SettingsFault where
  /-- The settings file names an unknown architecture. -/
  | unknownArchitecture (name : String)
  deriving DecidableEq, Repr

namespace SettingsFault

def message : SettingsFault → String
  | .unknownArchitecture _ => "invalid `arch` in settings file"

/-- The wording of what caused a fault. -/
def cause : SettingsFault → String
  | .unknownArchitecture name =>
      "unknown architecture '" ++ name ++ "' (expected ia32, x64, arm or aarch64)"

end SettingsFault

namespace Config

/-- The configuration with the settings of a file. -/
def withFile (config : Config) (file : FileSettings) : Except SettingsFault Config := do
  let target ←
    match file.architecture with
    | none => pure config.target
    | some name =>
        match Architecture.ofName? name with
        | some architecture => pure (ArchitectureSet.single architecture)
        | none => throw (.unknownArchitecture name)
  return ⟨file.consistencyChecking.getD config.consistency, file.colour.getD config.highlight,
    target⟩

/-- The configuration with the options of a command line. -/
def withOptions (config : Config) (options : Options) : Config where
  consistency := config.consistency && !options.noConsistency
  highlight := options.colour.getD config.highlight
  target := (options.architecture.map ArchitectureSet.single).getD config.target

/-- The configuration of a run, given whether its output is a terminal. -/
def settle (file : FileSettings) (options : Options) (terminal : Bool) :
    Except SettingsFault Config := do
  let config ← withFile { default with highlight := terminal } file
  return config.withOptions options

end Config

end AcpiTables
