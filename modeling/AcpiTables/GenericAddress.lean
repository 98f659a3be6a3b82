import AcpiTables.Record

/-!
# Generic addresses

A generic address names a register by its address space, width, offset, access size
and address, in twelve bytes.  It is shown as a record of its own, on the lines below
the field that holds it.
-/

namespace AcpiTables

set_option autoImplicit false

namespace GenericAddress

open Decoder

/-- The number of bytes of a generic address. -/
def size : Nat := 12

/-- The fields of a generic address. -/
def fields : List Field :=
  [ .hex "Address Space ID" 1 0,
    .hex "Register Bit Width" 1 1,
    .hex "Register Bit Offset" 1 2,
    .hex "Address Size" 1 3,
    .hex "Address" 8 4 ]

/-- Shows a generic address below the current line and gives the number of bytes consumed. -/
def showBelow (indent : UInt64) (data : Bytes) : Decoder Nat := do
  print "\n"
  let reading ← Record.decode true indent none data fields
  return reading.consumed

/-- The renderer for a field that holds a generic address. -/
def renderer : Renderer := fun _ data => do
  let _ ← showBelow 2 (data.take size)

end GenericAddress

end AcpiTables
