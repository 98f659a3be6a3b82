import AcpiTables.Structure.Census

/-!
# Walking over structures

The fixed part of a table is followed by structures, each starting with its type code
and its own length.  A walk looks at these two bytes, hands out the bytes of the
structure and goes on behind it, whether or not the structure could be decoded.  It
ends early where no header can be read or a length is impossible, and reports that.

Every walk starts with an empty census.  A walk that reaches the end of the table
validates its census if the session checks consistency.
-/

namespace AcpiTables

set_option autoImplicit false

namespace Structure

open Decoder

/-- The fields read ahead to learn the code and the length of a structure. -/
def headFields : List Field :=
  [ (Field.hidden 1 0).kept,
    (Field.labelled "Length" 1 1).kept,
    .labelled "Reserved" 2 2 ]

/-- The indent of the structures of a table. -/
def structureIndent : UInt64 := 2

/-- How a walk ended. -/
inductive WalkStatus where
  | complete
  /-- The table ended inside the code and length of a structure. -/
  | truncated
  /-- A structure declared a length of zero or one that passes the end of the table. -/
  | invalidLength
  deriving DecidableEq, Repr

/-- Why a walk ended early. -/
inductive WalkFault where
  /-- The code and length of a structure do not fit into what remains. -/
  | truncatedHead (family : String) (remaining : Nat)
  /-- A declared length is impossible. -/
  | invalidLength (family : String) (length offset tableLength : Nat)
  deriving DecidableEq, Repr

def WalkFault.message : WalkFault → String
  | .truncatedHead family remaining =>
      s!"Insufficient remaining table buffer length to read the {family} header. " ++
        s!"Length = {remaining}."
  | .invalidLength family length offset tableLength =>
      s!"Invalid {family} length. Length = {length}. Offset = {offset}. " ++
        s!"AcpiTableLength = {tableLength}."

variable {schema : Schema}

/-- Validates the census of a complete walk. -/
def finish (census : Census schema) : Decoder (WalkStatus × Census schema) := do
  whenChecking do
    let _ ← census.validate
  return (.complete, census)

theorem length_drop_lt {remaining : Bytes} {length : Nat}
    (possible : 0 < length ∧ length ≤ remaining.length) :
    (remaining.drop length).length < remaining.length := by
  simp only [List.length_drop]
  omega

/-- Hands out the structures of the bytes that remain at an offset. -/
def walkFrom (tableLength offset : Nat) (census : Census schema) (remaining : Bytes) :
    Decoder (WalkStatus × Census schema) :=
  if remaining.isEmpty then finish census
  else do
    let head ← Record.decode false 0 none remaining headFields
    match head.number? 0 1, head.number? 1 1 with
    | some code, some length =>
        if _possible : 0 < length ∧ length ≤ remaining.length then do
          let (_, census) ← census.dispatch structureIndent (remaining.take length) offset
            (UInt32.ofNat code) (none, none)
          walkFrom tableLength (offset + length) census (remaining.drop length)
        else do
          error (WalkFault.message (.invalidLength schema.name length offset tableLength))
          return (.invalidLength, census)
    | _, _ => do
        error (WalkFault.message (.truncatedHead schema.name remaining.length))
        return (.truncated, census)
termination_by remaining.length
decreasing_by exact length_drop_lt _possible

/-- Hands out every structure of a table from an offset on, with an empty census. -/
def walk (schema : Schema) (table : Bytes) (offset : Nat) :
    Decoder (WalkStatus × Census schema) :=
  walkFrom table.length offset (.zero schema) (table.drop offset)

end Structure

end AcpiTables
