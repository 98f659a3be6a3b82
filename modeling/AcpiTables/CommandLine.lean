import AcpiTables.Architecture

/-!
# Command lines

A command line names the files to decode and sets options.  A switch stands alone; a
parameter takes a value, either attached (`--select=APIC`, `-sAPIC`, `-s=APIC`) or as
the next argument, which then must not start with a dash unless it is a dash alone.
Several one-letter switches may share a dash.  Behind `--` every argument is a file.

A switch or parameter given twice is misuse, except that the two colour switches
override each other.  Help and version take effect where they stand, so misuse before
them wins and misuse behind them goes unnoticed.
-/

namespace AcpiTables

set_option autoImplicit false

/-- What a valid command line asks for. -/
structure Options where
  /-- The files to decode, in order. -/
  files : List String
  /-- The settings file. -/
  config : Option String
  /-- The signature of the tables to decode; other tables are skipped. -/
  select : Option String
  /-- Whether a hex dump precedes each table. -/
  dump : Bool
  /-- Whether consistency checks are switched off. -/
  noConsistency : Bool
  /-- The choice of colours, if there is one. -/
  colour : Option Bool
  /-- The target architecture. -/
  architecture : Option Architecture
  /-- Whether notes are suppressed. -/
  quiet : Bool
  /-- Whether further notes are wanted. -/
  verbose : Bool
  deriving DecidableEq, Repr

/-- Nothing asked for yet. -/
def Options.none : Options :=
  ⟨[], Option.none, Option.none, false, false, Option.none, Option.none, false, false⟩

namespace CommandLine

/-- Why a command line is not carried out. -/
inductive Stop where
  /-- The command line is misused. -/
  | usage
  /-- Help is asked for. -/
  | help
  /-- The version is asked for. -/
  | version
  deriving DecidableEq, Repr

/-- An option that stands alone. -/
inductive Switch where
  | dump
  | noConsistency
  | colour
  | noColour
  | quiet
  | verbose
  | help
  | version
  deriving DecidableEq, Repr

/-- An option that takes a value. -/
inductive Parameter where
  | config
  | select
  | architecture
  deriving DecidableEq, Repr

/-- What an option's name stands for. -/
inductive Item where
  /-- A switch. -/
  | switch (switch : Switch)
  /-- A parameter. -/
  | parameter (parameter : Parameter)
  deriving DecidableEq, Repr

/-- The options with long names. -/
def longNames : List (String × Item) :=
  [ ("config", .parameter .config),
    ("select", .parameter .select),
    ("dump", .switch .dump),
    ("no-consistency", .switch .noConsistency),
    ("colour", .switch .colour),
    ("no-colour", .switch .noColour),
    ("arch", .parameter .architecture),
    ("quiet", .switch .quiet),
    ("verbose", .switch .verbose),
    ("help", .switch .help),
    ("version", .switch .version) ]

/-- The options with one-letter names. -/
def shortNames : List (Char × Item) :=
  [ ('s', .parameter .select),
    ('d', .switch .dump),
    ('q', .switch .quiet),
    ('v', .switch .verbose),
    ('h', .switch .help),
    ('V', .switch .version) ]

/-! ## Setting options -/

/-- Takes a value that may be given once only. -/
def once {α : Type} (previous : Option α) (value : α) : Except Stop (Option α) :=
  match previous with
  | none => .ok (some value)
  | some _ => .error .usage

/-- Takes a choice of colours, which overrides the opposite choice only. -/
def chooseColour (options : Options) (colour : Bool) : Except Stop Options :=
  if options.colour = some colour then .error .usage
  else .ok { options with colour := some colour }

def turnOn (options : Options) : Switch → Except Stop Options
  | .dump => if options.dump then .error .usage else .ok { options with dump := true }
  | .noConsistency =>
      if options.noConsistency then .error .usage else .ok { options with noConsistency := true }
  | .colour => chooseColour options true
  | .noColour => chooseColour options false
  | .quiet => if options.quiet then .error .usage else .ok { options with quiet := true }
  | .verbose => if options.verbose then .error .usage else .ok { options with verbose := true }
  | .help => .error .help
  | .version => .error .version

/-- Takes the value of a parameter; the path of a settings file is not empty. -/
def assign (options : Options) (value : String) : Parameter → Except Stop Options
  | .config => do
      if value.isEmpty then throw .usage
      return { options with config := ← once options.config value }
  | .select => do
      return { options with select := ← once options.select value }
  | .architecture =>
      match Architecture.ofName? value with
      | none => .error .usage
      | some architecture => do
          return { options with architecture := ← once options.architecture architecture }

/-- Takes a file, whose name is not empty. -/
def addFile (options : Options) (file : String) : Except Stop Options :=
  if file.isEmpty then .error .usage
  else .ok { options with files := options.files ++ [file] }

/-! ## Reading arguments -/

/-- The options read so far, and what the next argument has to be. -/
structure Progress where
  /-- The options read so far. -/
  options : Options
  /-- The parameter whose value is the next argument. -/
  awaiting : Option Parameter
  /-- Whether `--` was read, so that only files follow. -/
  filesOnly : Bool

/-- Reads an option with a long name, behind its two dashes. -/
def readLong (options : Options) (argument : List Char) : Except Stop Progress :=
  let name := String.ofList (argument.takeWhile (· != '='))
  let attached := argument.dropWhile (· != '=')
  match longNames.lookup name, attached with
  | some (.switch switch), [] => do
      return ⟨← turnOn options switch, none, false⟩
  | some (.parameter parameter), [] => .ok ⟨options, some parameter, false⟩
  | some (.parameter parameter), _ :: value => do
      return ⟨← assign options (String.ofList value) parameter, none, false⟩
  | some (.switch _), _ :: _ => .error .usage
  | none, _ => .error .usage

/-- Reads options with one-letter names, behind their common dash. -/
def readShort (options : Options) : List Char → Except Stop Progress
  | [] => .ok ⟨options, none, false⟩
  | letter :: rest =>
      match shortNames.lookup letter, rest with
      | some (.switch switch), rest => do
          readShort (← turnOn options switch) rest
      | some (.parameter parameter), [] => .ok ⟨options, some parameter, false⟩
      | some (.parameter parameter), '=' :: value => do
          return ⟨← assign options (String.ofList value) parameter, none, false⟩
      | some (.parameter parameter), value => do
          return ⟨← assign options (String.ofList value) parameter, none, false⟩
      | none, _ => .error .usage

def readArgument (progress : Progress) (argument : String) : Except Stop Progress := do
  if progress.filesOnly then
    return { progress with options := ← addFile progress.options argument }
  match progress.awaiting, argument.toList with
  | some _, '-' :: _ :: _ => throw .usage
  | some parameter, _ =>
      return ⟨← assign progress.options argument parameter, none, false⟩
  | none, ['-', '-'] => return { progress with filesOnly := true }
  | none, '-' :: '-' :: name => readLong progress.options name
  | none, '-' :: letter :: letters => readShort progress.options (letter :: letters)
  | none, _ => return { progress with options := ← addFile progress.options argument }

/-- Accepts the options if nothing is missing and they do not contradict each other. -/
def finish (progress : Progress) : Except Stop Options :=
  let options := progress.options
  if progress.awaiting.isSome || options.files.isEmpty || (options.quiet && options.verbose) then
    .error .usage
  else .ok options

/-- Reads a command line, without the name of the program. -/
def parse (arguments : List String) : Except Stop Options := do
  finish (← arguments.foldlM readArgument ⟨.none, none, false⟩)

/-! ## Texts -/

def versionText : String := "acpiview 0.1.0\n"

/-- The text that tells how to use the program. -/
def helpText : String :=
  "Dump and validate raw ACPI table images\n\n" ++
    "Usage: acpiview [OPTIONS] <FILES>...\n\n" ++
    "Arguments:\n" ++
    "  <FILES>...  Raw table images to decode, one table per file\n\n" ++
    "Options:\n" ++
    "      --config <PATH>   TOML file with default settings; flags take precedence\n" ++
    "  -s, --select <SIG>    Only decode tables with this 4-character signature\n" ++
    "  -d, --dump            Hex dump each table before decoding it\n" ++
    "      --no-consistency  Skip offset, field and structure count validation\n" ++
    "      --colour          Colour errors, warnings and section headers\n" ++
    "      --no-colour       Never colour output\n" ++
    "      --arch <ARCH>     Architecture whose structures may appear in the tables " ++
    "[possible values: ia32, x64, arm, aarch64]\n" ++
    "  -q, --quiet           Suppress diagnostics; show only table output and the summary\n" ++
    "  -v, --verbose         Enable verbose diagnostics with per-table timings\n" ++
    "  -h, --help            Print help\n" ++
    "  -V, --version         Print version\n"

/-- The text shown when the command line is misused. -/
def usageText : String :=
  "error: the command line is not valid\n\n" ++
    "Usage: acpiview [OPTIONS] <FILES>...\n\n" ++
    "For more information, try '--help'.\n"

end CommandLine

end AcpiTables
