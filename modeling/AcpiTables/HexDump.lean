import AcpiTables.Bytes
import AcpiTables.Decoder
import AcpiTables.Text.Numeral

/-!
# Hex dumps

A dump shows sixteen bytes on a line: the offset of the first, the bytes in uppercase
hexadecimal with a dash before the ninth, and the same bytes as characters, with a dot
for every byte that is not printable ASCII.  The characters of a line are emitted when
the next line begins or the data ends, and a short last line is filled up with spaces
so that its characters line up.
-/

namespace AcpiTables

set_option autoImplicit false

namespace HexDump

open Decoder

/-- The character that stands for a byte: itself if it is printable ASCII, else a dot. -/
def byteChar (byte : UInt8) : Char :=
  if 0x20 ≤ byte.toNat ∧ byte.toNat < 0x7F then Char.ofNat byte.toNat else '.'

/-- The text before a byte: a new line at multiples of sixteen, a dash halfway between. -/
def lead (count : Nat) (line : List Char) : String :=
  if count % 16 = 0 then
    "  " ++ String.ofList line ++ "\n" ++ NumberFormat.hexUpper.digitTextOfWidth 8 count ++ " : "
  else if count % 8 = 0 then "- "
  else ""

/-- The characters of the current line before a byte is added: none where a line begins. -/
def lineBefore (count : Nat) (line : List Char) : List Char :=
  if count % 16 = 0 then [] else line

/-- The spaces that a dump of `count` bytes needs to fill its last line. -/
def padding (count : Nat) : Nat :=
  let partialLine := count % 16
  if partialLine = 0 then 0
  else if partialLine ≤ 8 then 48 - partialLine * 3 + 2
  else 48 - partialLine * 3

/-- Shows the bytes from position `count` on, behind the characters of the current line. -/
def showFrom (count : Nat) (line : List Char) : Bytes → Decoder Unit
  | [] => print (spaces (padding count) ++ "  " ++ String.ofList line ++ "\n\n")
  | byte :: rest => do
      print (lead count line ++ NumberFormat.hexUpper.digitTextOfWidth 2 byte.toNat ++ " ")
      showFrom (count + 1) (lineBefore count line ++ [byteChar byte]) rest

/-- Shows the length of the data and its bytes. -/
def showAll (data : Bytes) : Decoder Unit := do
  print ("Length   : " ++ toString data.length ++ "\n")
  showFrom 0 [] data

end HexDump

end AcpiTables
