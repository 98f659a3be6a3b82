import AcpiTables.Bytes
import AcpiTables.Text.Numeral
import AcpiTables.Text.Standalone

/-!
# Escaped bytes and quoted text

Bytes that may not be text are shown with escapes: tabs, line ends, quotes and
backslashes by a letter or themselves behind a backslash, printable ASCII as it
is, and every other byte as `\x` and two lowercase hexadecimal digits.

A quoted text stands between double quotes, with a backslash escape for the
characters that would end or break the quotation.  Every other character is itself
if it stands alone, and else is named by its code point.
-/

namespace AcpiTables

set_option autoImplicit false

/-- One byte in escaped form. -/
def escapeByte (byte : UInt8) : List Char :=
  let code := byte.toNat
  if code = 9 then ['\\', 't']
  else if code = 10 then ['\\', 'n']
  else if code = 13 then ['\\', 'r']
  else if code = 34 ∨ code = 39 ∨ code = 92 then ['\\', Char.ofNat code]
  else if 32 ≤ code ∧ code < 127 then [Char.ofNat code]
  else '\\' :: 'x' :: (NumberFormat.hex.digitTextOfWidth 2 code).toList

/-- A run of bytes in escaped form. -/
def escapeBytes (data : Bytes) : String :=
  String.ofList (data.flatMap escapeByte)

/-- One character of a quoted text. -/
def quoteChar (char : Char) : List Char :=
  match char with
  | '"' => ['\\', '"']
  | '\\' => ['\\', '\\']
  | '\n' => ['\\', 'n']
  | '\r' => ['\\', 'r']
  | '\t' => ['\\', 't']
  | '\x00' => ['\\', '0']
  | char =>
      if isStandalone char then [char]
      else ['\\', 'u', '\x7b'] ++ NumberFormat.hex.digits char.toNat ++ ['\x7d']

/-- A text between double quotes. -/
def quote (text : String) : String :=
  String.ofList ('"' :: text.toList.flatMap quoteChar ++ ['"'])

end AcpiTables
