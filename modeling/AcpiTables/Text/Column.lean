/-!
# Columns

Labels are padded with spaces so that values start in one column.  Widths count
Unicode code points.
-/

namespace AcpiTables

set_option autoImplicit false

/-- A run of spaces. -/
def spaces (count : Nat) : String :=
  String.ofList (List.replicate count ' ')

/-- A text filled up on the right with spaces; a text that is already as wide is kept whole. -/
def padRight (width : Nat) (text : String) : String :=
  text ++ spaces (width - text.length)

/-- The column that the separator after a label keeps free for label and indent together. -/
def labelColumn : Nat := 36

/-- A label behind `indent` spaces, filled up to the label column. -/
def columnLabel (indent : Nat) (label : String) : String :=
  spaces indent ++ padRight (labelColumn - indent) label

end AcpiTables
