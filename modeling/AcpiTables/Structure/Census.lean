import AcpiTables.Structure.Schema

/-!
# Counting structures while decoding them

A census holds, for every kind of a schema, how many of its structures were handed out
for decoding.  Handing out a structure shows its offset, decodes it by the method of its
kind and counts it; structures of unsupported kinds are counted as well, and unknown
codes change nothing.  The index of a structure is the count of its kind before it.

The validation of a census shows the counts of the kinds allowed on the target and
reports every kind that is not allowed but was found.
-/

namespace AcpiTables

set_option autoImplicit false

namespace Structure

open Decoder

/-- The number of structures counted for each kind of a schema. -/
structure Census (schema : Schema) where
  /-- One count for each kind, at the position of its code. -/
  counts : Vector UInt32 schema.kinds.length
  deriving DecidableEq

/-- What may be wrong with a structure's code or with the count of a kind. -/
inductive Fault where
  /-- The family has no kind with this code. -/
  | unknownCode (family : String) (code : UInt32)
  /-- The kind is known but not decoded. -/
  | unsupported (name : String)
  /-- Structures of this kind may not appear on the target. -/
  | disallowed (name : String) (count : UInt32)
  deriving DecidableEq, Repr

def Fault.message : Fault → String
  | .unknownCode family code => s!"Unknown {family}. Type = {code}"
  | .unsupported name => s!"Parsing of {name} Structure is not implemented"
  | .disallowed name count =>
      s!"{name} Structure is not valid for the target architecture (found {count})"

/-- The title of a structure: the name of its kind and its index. -/
def title (name : String) (index : UInt32) : String := s!"{name} [{index}]"

namespace Census

variable {schema : Schema}

def zero (schema : Schema) : Census schema := ⟨Vector.replicate _ 0⟩

/-- The count of a code, unless the code is unknown. -/
def count? (census : Census schema) (code : UInt32) : Option UInt32 := census.counts[code.toNat]?

/-- Counts one more structure of the kind at a position. -/
def increment (census : Census schema) (position : Nat) (known : position < schema.kinds.length) :
    Census schema :=
  ⟨census.counts.set position (addSaturating32 census.counts[position] 1)⟩

/-- Decodes one structure by the method of its kind; tells whether the kind is supported. -/
def decodeKind (kind : Kind) (index : UInt32) (indent : UInt64)
    (arguments : Option Argument × Option Argument) (data : Bytes) : Decoder Bool :=
  match kind.method with
  | .record fields => do
      let _ ← Record.decode true indent (some (title kind.name index)) data fields
      return true
  | .custom decoder => do
      decoder ⟨kind.name, index, indent, arguments⟩ data
      return true
  | .unsupported => do
      error (Fault.message (.unsupported kind.name))
      return false

/--
Hands out one structure: shows its offset, decodes it and counts it.  The answer tells
whether the code is known and its kind supported.
-/
def dispatch (census : Census schema) (indent : UInt64) (data : Bytes) (offset : Nat)
    (code : UInt32) (arguments : Option Argument × Option Argument) :
    Decoder (Bool × Census schema) := do
  fieldLabel indent "* Offset *"
  print (NumberFormat.hex.numeral offset ++ "\n")
  if known : code.toNat < schema.kinds.length then
    let supported ← decodeKind schema.kinds[code.toNat] census.counts[code.toNat] indent
      arguments data
    return (supported, census.increment code.toNat known)
  else
    error (Fault.message (.unknownCode schema.name code))
    return (false, census)

/-! ## Validation -/

/-- The spaces before a line of the breakdown. -/
def breakdownIndent : Nat := 2

/-- The breakdown line of a kind. -/
def breakdownLine (name : String) (count : UInt32) : String :=
  columnLabel breakdownIndent name ++ " : " ++ toString count ++ "\n"

/-- Shows or reports the count of one kind; tells whether the kind may have that count. -/
def validateKind (kind : Kind) (count : UInt32) : Decoder Bool := do
  let target := (← scope).config.target
  if kind.allowed.intersects target then
    print (breakdownLine kind.name count)
    return true
  else if count = 0 then
    return true
  else
    error (Fault.message (.disallowed kind.name count))
    return false

/-- Validates kinds with their counts one after another. -/
def validateKinds : List (Kind × UInt32) → Decoder Bool
  | [] => return true
  | (kind, count) :: rest => do
      let here ← validateKind kind count
      let there ← validateKinds rest
      return here && there

/-- Shows the counts of all kinds; tells whether every kind that was found is allowed. -/
def validate (census : Census schema) : Decoder Bool := do
  print "\nTable Breakdown:\n"
  validateKinds (schema.kinds.zip census.counts.toList)

end Census

end Structure

end AcpiTables
