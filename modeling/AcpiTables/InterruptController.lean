import AcpiTables.Header
import AcpiTables.Structure.Walk

/-!
# The table of interrupt controllers

The multiple-APIC description table, with the signature `APIC`, lists the interrupt
controllers of a machine.  A fixed part of 44 bytes, the header and two fields of its
own, is followed by structures.  The structures of Arm's generic interrupt controller
are decoded; those of the x86 family are known and counted.

Two fields are checked: the vector base of the distributor is reserved and zero, and the
overflow interrupt of the profiling extension is a private peripheral interrupt.  A
complete table has at most one distributor.
-/

namespace AcpiTables

set_option autoImplicit false

namespace InterruptController

open Decoder

def signature : Bytes := [0x41, 0x50, 0x49, 0x43]

def privateMin : Nat := 16

def privateMax : Nat := 31

def extendedMin : Nat := 1056

def extendedMax : Nat := 1119

/-- The identifier assigned to the interrupt of the profiling buffer. -/
def profilingBufferInterrupt : Nat := 21

def distributorCode : UInt32 := 12

/-- What may be wrong with the values of the table. -/
inductive Fault where
  /-- The vector base of a distributor is not zero. -/
  | vectorBase
  /-- An overflow interrupt is not a private peripheral interrupt. -/
  | overflowRange (interrupt : Nat)
  /-- An overflow interrupt is private, but not the assigned one. -/
  | overflowAssignment (interrupt : Nat)
  /-- The table has more than one distributor. -/
  | severalDistributors
  deriving DecidableEq, Repr

def Fault.message : Fault → String
  | .vectorBase => "System Vector Base must be zero."
  | .overflowRange interrupt =>
      s!"SPE Overflow Interrupt ID of {interrupt} is not in the allowed PPI ID ranges of " ++
        s!"{privateMin}-{privateMax} or {extendedMin}-{extendedMax} (for GICv3.1 or later)."
  | .overflowAssignment interrupt =>
      s!"SPE Overflow Interrupt ID of {interrupt} is not compliant with SBSA Level 3 PPI ID " ++
        s!"assignment: {profilingBufferInterrupt}."
  | .severalDistributors => "Only one GICD must be present"

/-- Whether an interrupt is a private peripheral interrupt, extended or not. -/
def isPrivate (interrupt : Nat) : Bool :=
  (privateMin ≤ interrupt && interrupt ≤ privateMax) ||
    (extendedMin ≤ interrupt && interrupt ≤ extendedMax)

/-- Checks that the vector base of a distributor is zero. -/
def checkVectorBase : Validator := fun data _ =>
  match data.number? 0 4 with
  | some base => if base = 0 then return else error (Fault.message .vectorBase)
  | none => return

/-- Checks the overflow interrupt of the profiling extension; zero means there is none. -/
def checkOverflowInterrupt : Validator := fun data _ =>
  match data.number? 0 2 with
  | none => return
  | some interrupt =>
      if interrupt = 0 then return
      else if !isPrivate interrupt then error (Fault.message (.overflowRange interrupt))
      else if interrupt ≠ profilingBufferInterrupt then
        warning (Fault.message (.overflowAssignment interrupt))
      else return

/-! ## Layouts -/

/-- The fixed part of the table. -/
def fields : List Field :=
  Header.fields ++
    [ .hex "Local Interrupt Controller Address" 4 36,
      .hex "Flags" 4 40 ]

def processorInterfaceFields : List Field :=
  [ .hex "Type" 1 0,
    .decimal "Length" 1 1,
    .hex "Reserved" 2 2,
    .hex "CPU Interface Number" 4 4,
    .hex "ACPI Processor UID" 4 8,
    .hex "Flags" 4 12,
    .hex "Parking Protocol Version" 4 16,
    .hex "Performance Interrupt GSIV" 4 20,
    .hex "Parked Address" 8 24,
    .hex "Physical Base Address" 8 32,
    .hex "GICV" 8 40,
    .hex "GICH" 8 48,
    .hex "VGIC Maintenance interrupt" 4 56,
    .hex "GICR Base Address" 8 60,
    .hex "MPIDR" 8 68,
    .hex "Processor Power Efficiency Class" 1 76,
    .hex "Reserved" 1 77,
    (Field.hex "SPE overflow Interrupt" 2 78).checkedBy checkOverflowInterrupt ]

def distributorFields : List Field :=
  [ .hex "Type" 1 0,
    .decimal "Length" 1 1,
    .hex "Reserved" 2 2,
    .hex "GIC ID" 4 4,
    .hex "Physical Base Address" 8 8,
    (Field.hex "System Vector Base" 4 16).checkedBy checkVectorBase,
    .decimal "GIC Version" 1 20,
    { Field.labelled "Reserved" 3 21 with render := .custom (characters 3) (some .hex) } ]

def messageFrameFields : List Field :=
  [ .hex "Type" 1 0,
    .decimal "Length" 1 1,
    .hex "Reserved" 2 2,
    .hex "MSI Frame ID" 4 4,
    .hex "Physical Base Address" 8 8,
    .hex "Flags" 4 16,
    .decimal "SPI Count" 2 20,
    .hex "SPI Base" 2 22 ]

def redistributorFields : List Field :=
  [ .hex "Type" 1 0,
    .decimal "Length" 1 1,
    .hex "Reserved" 2 2,
    .hex "Discovery Range Base Address" 8 4,
    .hex "Discovery Range Length" 4 12 ]

def translationServiceFields : List Field :=
  [ .hex "Type" 1 0,
    .decimal "Length" 1 1,
    .hex "Reserved" 2 2,
    .hex "GIC ITS ID" 4 4,
    .hex "Physical Base Address" 8 8,
    .hex "Reserved" 4 16 ]

/-- The kinds of structure, each at the position of its code. -/
def kinds : List Structure.Kind :=
  [ ⟨"Processor Local APIC", 0, .x86, .unsupported⟩,
    ⟨"I/O APIC", 1, .x86, .unsupported⟩,
    ⟨"Interrupt Source Override", 2, .x86, .unsupported⟩,
    ⟨"NMI Source", 3, .x86, .unsupported⟩,
    ⟨"Local APIC NMI", 4, .x86, .unsupported⟩,
    ⟨"Local APIC Address Override", 5, .x86, .unsupported⟩,
    ⟨"I/O SAPIC", 6, .x86, .unsupported⟩,
    ⟨"Local SAPIC", 7, .x86, .unsupported⟩,
    ⟨"Platform Interrupt Sources", 8, .x86, .unsupported⟩,
    ⟨"Processor Local x2APIC", 9, .x86, .unsupported⟩,
    ⟨"Local x2APIC NMI", 10, .x86, .unsupported⟩,
    ⟨"GICC", 11, .armAny, .record processorInterfaceFields⟩,
    ⟨"GICD", distributorCode, .armAny, .record distributorFields⟩,
    ⟨"GIC MSI Frame", 13, .armAny, .record messageFrameFields⟩,
    ⟨"GICR", 14, .armAny, .record redistributorFields⟩,
    ⟨"GIC ITS", 15, .armAny, .record translationServiceFields⟩ ]

def schema : Structure.Schema where
  name := "Interrupt Controller Structure"
  kinds := kinds
  faultless := by rfl

/-! ## Decoding -/

/-- Reports a complete walk that found more than one distributor. -/
def checkDistributors (status : Structure.WalkStatus) (census : Structure.Census schema) :
    Decoder Unit :=
  match status, census.count? distributorCode with
  | .complete, some count =>
      whenChecking do
        if 1 < count then error (Fault.message .severalDistributors)
  | _, _ => return

/-- Decodes a table that ends where its header says. -/
def decode (table : Bytes) : Decoder Unit := do
  let reading ← Record.decode true 0 (some "MADT") table fields
  let (status, census) ← Structure.walk schema table reading.consumed
  checkDistributors status census

end InterruptController

end AcpiTables
