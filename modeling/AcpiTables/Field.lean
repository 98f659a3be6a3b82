import AcpiTables.Bytes
import AcpiTables.Decoder
import AcpiTables.Text.Numeral

/-!
# Fields of a record

A record is described by the list of its fields.  A field has a width and a
declared offset, perhaps a label, a way to show its value, and perhaps a check of
its value.  A field without a label is hidden: it takes its place in the record
and is never shown.

A renderer and a check are decoders, so they may do in the session whatever a decoder
may do.
-/

namespace AcpiTables

set_option autoImplicit false

/-- A value handed to a field's check or to a structure's decoder, told apart by its kind. -/
inductive Argument where
  | byte (value : UInt8)
  | word (value : UInt32)
  | text (value : String)
  deriving DecidableEq, Repr

/-- Shows the bytes of a field, given the field's format if it has one. -/
abbrev Renderer : Type := Option NumberFormat → Bytes → Decoder Unit

/-- Checks the bytes of a field, given the field's argument if it has one. -/
abbrev Validator : Type := Bytes → Option Argument → Decoder Unit

/-- How the value of a traced field is shown. -/
inductive Render where
  /-- Only the label is shown. -/
  | label
  /-- The value is a little-endian integer. -/
  | integer (format : NumberFormat)
  /-- The value is shown by a renderer of its own. -/
  | custom (renderer : Renderer) (format : Option NumberFormat)

/-- One field of a record. -/
structure Field where
  /-- The label, or none for a hidden field. -/
  name : Option String
  width : Nat
  /-- The offset at which the record's layout declares the field. -/
  offset : Nat
  render : Render
  /-- Whether the place of the field is kept for the caller. -/
  captured : Bool
  /-- The check of the value, if any. -/
  validator : Option Validator
  /-- The argument handed to the check. -/
  argument : Option Argument

namespace Field

/-- A field of which only the label is shown. -/
def labelled (name : String) (width offset : Nat) : Field :=
  ⟨some name, width, offset, .label, false, none, none⟩

/-- A field that is never shown. -/
def hidden (width offset : Nat) : Field :=
  ⟨none, width, offset, .label, false, none, none⟩

def integer (format : NumberFormat) (name : String) (width offset : Nat) : Field :=
  { labelled name width offset with render := .integer format }

/-- A field shown in lowercase hexadecimal. -/
def hex (name : String) (width offset : Nat) : Field := integer .hex name width offset

/-- A field shown in uppercase hexadecimal. -/
def hexUpper (name : String) (width offset : Nat) : Field := integer .hexUpper name width offset

def decimal (name : String) (width offset : Nat) : Field := integer .decimal name width offset

/-- The field with its place kept for the caller. -/
def kept (field : Field) : Field := { field with captured := true }

/-- The field with a check of its value. -/
def checkedBy (validator : Validator) (field : Field) : Field :=
  { field with validator := some validator }

/-- Runs the field's check, if it has one. -/
def validate (field : Field) (bytes : Bytes) : Decoder Unit :=
  match field.validator with
  | none => pure ()
  | some validator => validator bytes field.argument

end Field

end AcpiTables
