import AcpiTables.Record

/-!
# Table headers

Every table starts with the same 36 bytes: a signature of four characters, the length
of the whole table, a revision, a checksum and the identities of its makers.  The
header can be read silently, to learn signature, length and revision, or traced.
-/

namespace AcpiTables

set_option autoImplicit false

/-- What a reading of a header found; a member is missing when the data ended before it. -/
structure Header where
  /-- The four bytes of the signature. -/
  signature : Option Bytes
  /-- The declared length of the whole table. -/
  length : Option Nat
  revision : Option Nat
  deriving DecidableEq, Repr

namespace Header

/-- The number of bytes of a header. -/
def size : Nat := 36

/-- The fields of a header. -/
def fields : List Field :=
  [ (Field.text "Signature" 4 0).kept,
    (Field.decimal "Length" 4 4).kept,
    (Field.decimal "Revision" 1 8).kept,
    .hexUpper "Checksum" 1 9,
    .text "Oem ID" 6 10,
    .text "Oem Table ID" 8 16,
    .hexUpper "Oem Revision" 4 24,
    .text "Creator ID" 4 28,
    .hexUpper "Creator Revision" 4 32 ]

/-- Why a combined field list is refused. -/
inductive CombineFault where
  /-- The announced number of fields is not that of header and tail together. -/
  | wrongCount
  deriving DecidableEq, Repr

def CombineFault.message : CombineFault → String
  | .wrongCount => "wrong combined field count"

/-- The header fields followed by a table's own, if `total` announces their number. -/
def withTail? (total : Nat) (tail : List Field) : Except CombineFault (List Field) :=
  if total = fields.length + tail.length then .ok (fields ++ tail) else .error .wrongCount

/-- The header members of a reading whose fields start with the header's. -/
def ofReading (reading : Reading) : Header where
  signature := (reading.capture? 0).bind fun capture =>
    if capture.bytes.length = 4 then some capture.bytes else none
  length := reading.number? 1 4
  revision := reading.number? 2 1

/-- Traces the header and gives the number of bytes consumed with the members found. -/
def trace (data : Bytes) : Decoder (Nat × Header) := do
  let reading ← Record.decode true 0 (some "ACPI Table Header") (data.take size) fields
  return (reading.consumed, ofReading reading)

/-- Reads the header without tracing it. -/
def read (data : Bytes) : Decoder (Nat × Header) := do
  let reading ← Record.decode false 0 none (data.take size) fields
  return (reading.consumed, ofReading reading)

end Header

end AcpiTables
