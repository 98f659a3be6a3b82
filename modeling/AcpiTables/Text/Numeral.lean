/-!
# Numerals

Numbers are shown in lowercase hexadecimal, uppercase hexadecimal or decimal.
`digits` gives the bare digits and `numeral` puts `0x` before hexadecimal ones.
No numeral has leading zeros unless a minimum width asks for them.
-/

namespace AcpiTables

set_option autoImplicit false

/-- The base and letter case in which a number is shown. -/
inductive NumberFormat where
  /-- Lowercase hexadecimal. -/
  | hex
  /-- Uppercase hexadecimal. -/
  | hexUpper
  /-- Unsigned decimal. -/
  | decimal
  deriving DecidableEq, Repr

namespace NumberFormat

/-- The base of a format. -/
def base : NumberFormat → Nat
  | .hex => 16
  | .hexUpper => 16
  | .decimal => 10

/-- The digits of a number, most significant first; zero has the one digit `0`. -/
def digits (format : NumberFormat) (number : Nat) : List Char :=
  match format with
  | .hex => Nat.toDigits 16 number
  | .hexUpper => (Nat.toDigits 16 number).map Char.toUpper
  | .decimal => Nat.toDigits 10 number

/-- The digits of a number as text. -/
def digitText (format : NumberFormat) (number : Nat) : String :=
  String.ofList (format.digits number)

/-- What stands before the digits: `0x` for both hexadecimal formats. -/
def marker : NumberFormat → String
  | .hex => "0x"
  | .hexUpper => "0x"
  | .decimal => ""

/-- A number with its marker. -/
def numeral (format : NumberFormat) (number : Nat) : String :=
  format.marker ++ format.digitText number

/-- The digits of a number, filled up on the left with zeros to a minimum width. -/
def digitTextOfWidth (format : NumberFormat) (width number : Nat) : String :=
  let digits := format.digits number
  String.ofList (List.replicate (width - digits.length) '0' ++ digits)

end NumberFormat

end AcpiTables
