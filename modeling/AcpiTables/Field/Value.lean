import AcpiTables.Field

/-!
# Showing field values

An integer is shown when it has 1, 2, 4 or 8 bytes; bytes of any other number are
refused, and then nothing is emitted.  Characters are shown byte by byte: without a
format each byte is the character with that code point, and with a format the bytes
are numerals without a marker, one space between two of them.
-/

namespace AcpiTables

set_option autoImplicit false

open Decoder

/-- The widths in which integers are shown. -/
def isIntegerWidth (width : Nat) : Bool :=
  width == 1 || width == 2 || width == 4 || width == 8

/-- Shows a little-endian integer, or tells that the bytes have no integer width. -/
def showInteger (format : NumberFormat) (bytes : Bytes) : Decoder Bool :=
  if isIntegerWidth bytes.length then do
    print (format.numeral bytes.littleEndian)
    return true
  else
    return false

/-- One byte as a character or as a bare numeral. -/
def byteText (format : Option NumberFormat) (byte : UInt8) : String :=
  match format with
  | none => String.singleton (Char.ofNat byte.toNat)
  | some format => format.digitText byte.toNat

/-- Shows bytes one by one, with spaces between numerals. -/
def showBytes (format : Option NumberFormat) : Bytes → Decoder Unit
  | [] => pure ()
  | [byte] => print (byteText format byte)
  | byte :: rest => do
      print (byteText format byte)
      if format.isSome then print " "
      showBytes format rest

/-- The renderer that shows at most `limit` bytes one by one. -/
def characters (limit : Nat) : Renderer := fun format bytes =>
  showBytes format (bytes.take limit)

namespace Field

/-- A field shown as characters. -/
def text (name : String) (width offset : Nat) : Field :=
  { labelled name width offset with render := .custom (characters width) none }

/-- Shows the value of a field, or tells that its width cannot be shown. -/
def showValue (field : Field) (bytes : Bytes) : Decoder Bool :=
  match field.render with
  | .label => return true
  | .integer format => showInteger format bytes
  | .custom renderer format => do
      renderer format bytes
      return true

end Field

end AcpiTables
