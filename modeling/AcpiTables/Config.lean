import AcpiTables.Architecture

/-!
# Configuration of a decoding session

The configuration is fixed for the lifetime of a session: whether consistency
is checked, whether findings are highlighted, and for which architectures the
tables are meant.
-/

namespace AcpiTables

set_option autoImplicit false

/-- What a session checks, how it shows it, and for which architectures. -/
structure Config where
  /-- Checks declared offsets, field values and structure counts. -/
  consistency : Bool
  /-- Styles errors, warnings and headings. -/
  highlight : Bool
  /-- The architectures whose structures may appear in a table. -/
  target : ArchitectureSet
  deriving DecidableEq, Repr

namespace Config

/-- Everything is checked, nothing is highlighted, and every architecture is allowed. -/
def default : Config := ⟨true, false, .all⟩

/-- A configuration on one line, with the names of its settings. -/
def describe (config : Config) : String :=
  "Config \x7b consistency_checking: " ++ toString config.consistency ++
    ", highlight: " ++ toString config.highlight ++
    ", target: " ++ config.target.describe ++ " \x7d"

end Config

end AcpiTables
