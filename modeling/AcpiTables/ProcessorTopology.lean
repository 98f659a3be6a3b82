import AcpiTables.Header
import AcpiTables.Structure.Walk

/-!
# The table of processor topology

The processor properties topology table, with the signature `PPTT`, describes the tree
of processors and their caches.  The header is followed by structures: processor nodes,
caches and identities.

A processor node has seven fields and then as many references to private resources as
its last field says; a node is refused when it is too short for its fields or for its
references.  Caches are checked value by value, some rules only for Arm targets.
-/

namespace AcpiTables

set_option autoImplicit false

namespace ProcessorTopology

open Decoder

def signature : Bytes := [0x50, 0x50, 0x54, 0x54]

/-- The largest number of sets of a cache when indices are extended. -/
def extendedSetsMax : Nat := 1 <<< 24

/-- The largest number of sets of a cache when indices are not extended. -/
def setsMax : Nat := 1 <<< 15

/-- The smallest cache line on Arm, in bytes. -/
def lineSizeMin : Nat := 16

/-- The largest cache line on Arm, in bytes. -/
def lineSizeMax : Nat := 2048

/-- What may be wrong with a structure of the table. -/
inductive Fault where
  /-- A cache has no sets. -/
  | noSets
  /-- A cache has more sets than extended indices reach. -/
  | extendedSets
  /-- A cache has more sets than plain indices reach. -/
  | plainSets
  /-- A cache has no ways. -/
  | noWays
  /-- A cache line is shorter or longer than Arm allows. -/
  | lineSizeRange
  /-- The size of a cache line is not a power of two. -/
  | lineSizePower
  /-- A reserved bit of the attributes is set. -/
  | reservedAttributes
  /-- A processor node ends before its number of private resources. -/
  | shortNode (name : String) (length : Nat)
  /-- A processor node is too short for its private resources. -/
  | resourceCount (count remaining : Nat)
  deriving DecidableEq, Repr

def Fault.message : Fault → String
  | .noSets => "Cache number of sets must be greater than 0"
  | .extendedSets =>
      "When ARMv8.3-CCIDX is implemented the maximum cache number of sets must be " ++
        s!"less than or equal to {extendedSetsMax}"
  | .plainSets =>
      "Without ARMv8.3-CCIDX, the maximum cache number of sets must be less than or " ++
        s!"equal to {setsMax}. Ignore this message if ARMv8.3-CCIDX is implemented"
  | .noWays => "Cache associativity must be greater than 0"
  | .lineSizeRange =>
      s!"The cache line size must be between {lineSizeMin} and {lineSizeMax} bytes on " ++
        "ARM Platforms."
  | .lineSizePower => "The cache line size is not a power of 2."
  | .reservedAttributes => "Attributes bits [7:5] are reserved and must be zero."
  | .shortNode name length => s!"Insufficient {name} Structure length. Length = {length}."
  | .resourceCount count remaining =>
      s!"Invalid Number of Private Resources. PrivateResourceCount = {count}. " ++
        s!"RemainingBufferLength = {remaining}. Parsing of this structure aborted."

/-! ## Checks of a cache -/

/-- Runs a check on Arm targets only. -/
def onArm (check : Decoder Unit) : Decoder Unit := do
  if (← scope).config.target.isArm then check

/-- Checks the number of sets. -/
def checkSets : Validator := fun data _ =>
  match data.number? 0 4 with
  | none => return
  | some sets =>
      if sets = 0 then error (Fault.message .noSets)
      else onArm do
        if extendedSetsMax < sets then error (Fault.message .extendedSets)
        else if setsMax < sets then warning (Fault.message .plainSets)

/-- Checks the associativity. -/
def checkAssociativity : Validator := fun data _ =>
  match data with
  | ways :: _ => if ways = 0 then error (Fault.message .noWays) else return
  | [] => return

/-- Checks that the reserved bits of the attributes are zero. -/
def checkAttributes : Validator := fun data _ =>
  match data with
  | attributes :: _ =>
      if attributes &&& 0xE0 = 0 then return else error (Fault.message .reservedAttributes)
  | [] => return

/-- Whether a number is one, two, four and so on, among the numbers of 16 bits. -/
def isPowerOfTwo (number : Nat) : Bool :=
  (List.range 16).any fun exponent => number == 1 <<< exponent

/-- Checks the size of a cache line, which is bounded on Arm only. -/
def checkLineSize : Validator := fun data _ => onArm do
  match data.number? 0 2 with
  | none => return
  | some size =>
      if size < lineSizeMin ∨ lineSizeMax < size then error (Fault.message .lineSizeRange)
      else if !isPowerOfTwo size then error (Fault.message .lineSizePower)

/-! ## Layouts -/

/-- The fixed part of the table: the header alone. -/
def fields : List Field := Header.fields

/-- The fields of a processor node. -/
def processorFields : List Field :=
  [ .hex "Type" 1 0,
    .decimal "Length" 1 1,
    .hex "Reserved" 2 2,
    .hex "Flags" 4 4,
    .hex "Parent" 4 8,
    .hex "ACPI Processor ID" 4 12,
    (Field.decimal "Number of private resources" 4 16).kept ]

/-- The position of the number of private resources among the fields of a node. -/
def resourceCountIndex : Nat := 6

/-- The fields of a cache. -/
def cacheFields : List Field :=
  [ .hex "Type" 1 0,
    .decimal "Length" 1 1,
    .hex "Reserved" 2 2,
    .hex "Flags" 4 4,
    .hex "Next Level of Cache" 4 8,
    .hex "Size" 4 12,
    (Field.decimal "Number of sets" 4 16).checkedBy checkSets,
    (Field.decimal "Associativity" 1 20).checkedBy checkAssociativity,
    (Field.hex "Attributes" 1 21).checkedBy checkAttributes,
    (Field.decimal "Line size" 2 22).checkedBy checkLineSize ]

/-- The fields of an identity. -/
def identityFields : List Field :=
  [ .hex "Type" 1 0,
    .decimal "Length" 1 1,
    .hex "Reserved" 2 2,
    .text "VENDOR_ID" 4 4,
    .hex "LEVEL_1_ID" 8 8,
    .hex "LEVEL_2_ID" 8 16,
    .hex "MAJOR_REV" 2 24,
    .hex "MINOR_REV" 2 26,
    .hex "SPIN_REV" 2 28 ]

/-! ## Processor nodes -/

/-- The number of bytes of a reference. -/
def referenceSize : Nat := 4

/-- Shows references to private resources, one on a line, numbered from `index` on. -/
def showReferences (index : Nat) : (count : Nat) → Bytes → Decoder Unit
  | 0, _ => return
  | count + 1, data => do
      fieldLabel 4 s!"Private resource [{index}]"
      print (NumberFormat.hex.numeral (Bytes.littleEndian (data.take referenceSize)) ++ "\n")
      showReferences (index + 1) count (data.drop referenceSize)

/-- Decodes a processor node and shows its private resources, if all of them fit. -/
def decodeProcessor (call : Structure.Call) (data : Bytes) : Decoder Unit := do
  let reading ← Record.decode true call.indent (some (Structure.title call.name call.index)) data
    processorFields
  match reading.number? resourceCountIndex 4 with
  | none => error (Fault.message (.shortNode call.name data.length))
  | some count =>
      let resources := data.drop reading.consumed
      if referenceSize * count ≤ resources.length then showReferences 0 count resources
      else error (Fault.message (.resourceCount count resources.length))

/-- The kinds of structure, each at the position of its code. -/
def kinds : List Structure.Kind :=
  [ ⟨"Processor", 0, .all, .custom decodeProcessor⟩,
    ⟨"Cache", 1, .all, .record cacheFields⟩,
    ⟨"ID", 2, .all, .record identityFields⟩ ]

def schema : Structure.Schema where
  name := "Processor Topology Structure"
  kinds := kinds
  faultless := by rfl

/-! ## Decoding -/

/-- Decodes a table that ends where its header says. -/
def decode (table : Bytes) : Decoder Unit := do
  let reading ← Record.decode true 0 (some "PPTT") table fields
  let _ ← Structure.walk schema table reading.consumed

end ProcessorTopology

end AcpiTables
