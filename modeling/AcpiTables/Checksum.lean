import AcpiTables.Bytes
import AcpiTables.Decoder
import AcpiTables.Text.Numeral

/-!
# Checksums

The bytes of a table add up to zero modulo 256.  A logged verification says whether
they do, and counts an error if they do not.
-/

namespace AcpiTables

set_option autoImplicit false

namespace Checksum

open Decoder

/-- Tells whether the bytes add up to zero, and reports the answer if `log` asks for it. -/
def verify (log : Bool) (data : Bytes) : Decoder Bool := do
  let sum := data.sum
  if log then
    if sum = 0 then
      printStyled .success "Table Checksum : OK\n\n"
    else
      countError
      printStyled .error
        ("Table Checksum : FAILED (" ++ NumberFormat.hexUpper.numeral sum.toNat ++ ")\n\n")
  return sum == 0

end Checksum

end AcpiTables
