import AcpiTables.Structure.Schema
import AcpiTables.Text.Escaped

/-!
# Descriptions of fields and structure kinds

Fields and kinds of structure can be described on one line, with the name of every
member.  Renderers, checks and decoders have no text of their own, so a description
only tells whether there is one.
-/

namespace AcpiTables

set_option autoImplicit false

/-- The name of a format in descriptions. -/
def NumberFormat.describe : NumberFormat → String
  | .hex => "Hex"
  | .hexUpper => "HexUpper"
  | .decimal => "Decimal"

/-- A member that may be missing. -/
def describeOption {α : Type} (describe : α → String) : Option α → String
  | none => "None"
  | some value => "Some(" ++ describe value ++ ")"

/-- A way of showing a value. -/
def Render.describe : Render → String
  | .label => "Label"
  | .integer format => "Format(" ++ format.describe ++ ")"
  | .custom _ format =>
      "Custom \x7b format: " ++ describeOption NumberFormat.describe format ++ ", .. \x7d"

/-- A field on one line. -/
def Field.describe (field : Field) : String :=
  "Field \x7b name: " ++ describeOption quote field.name ++
    ", length: " ++ toString field.width ++
    ", offset: " ++ toString field.offset ++
    ", render: " ++ field.render.describe ++
    ", capture: " ++ toString field.captured ++
    ", validated: " ++ toString field.validator.isSome ++ " \x7d"

namespace Structure

/-- A method of decoding; of a field list only the number of fields is told. -/
def Method.describe : Method → String
  | .record fields => "Fields(" ++ toString fields.length ++ ")"
  | .custom _ => "Func"
  | .unsupported => "NotImplemented"

/-- A kind of structure on one line. -/
def Kind.describe (kind : Kind) : String :=
  "StructInfo \x7b name: " ++ quote kind.name ++
    ", type_code: " ++ toString kind.code ++
    ", compat: " ++ kind.allowed.describe ++
    ", parser: " ++ kind.method.describe ++ " \x7d"

end Structure

end AcpiTables
