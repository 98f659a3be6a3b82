import AcpiTables.Record

/-!
# Schemas of structure types

The structures of one family of tables are told apart by a type code.  A schema lists
the kinds of structure in the order of their codes, so that a code is the position of
its kind.  Each kind has a name, the architectures it may appear on, and a method of
decoding: a field list, a decoder of its own, or none yet.

A schema carries the evidence that it has no fault: no kind declares a code other than
its position, and no field list is empty.  `Schema.ofKinds?` builds a schema or names
the first fault.
-/

namespace AcpiTables

set_option autoImplicit false

namespace Structure

/-- What a structure decoder of its own is told about the structure, besides its bytes. -/
structure Call where
  name : String
  /-- How many structures of this kind were counted before. -/
  index : UInt32
  /-- The indent that the caller asks for. -/
  indent : UInt64
  /-- Two arguments that the caller may pass. -/
  arguments : Option Argument × Option Argument

/-- How structures of a kind are decoded. -/
inductive Method where
  /-- As a record under an indexed title. -/
  | record (fields : List Field)
  /-- By a decoder of its own. -/
  | custom (decoder : Call → Bytes → Decoder Unit)
  /-- Not at all: the kind is known and counted only. -/
  | unsupported

/-- Whether a method is a field list without fields. -/
def Method.hasNoFields : Method → Bool
  | .record fields => fields.isEmpty
  | _ => false

/-- One kind of structure. -/
structure Kind where
  name : String
  code : UInt32
  /-- The architectures on which structures of this kind may appear. -/
  allowed : ArchitectureSet
  method : Method

/-- Why a list of kinds is no schema. -/
inductive SchemaFault where
  /-- A kind declares a code that is not its position. -/
  | codeMismatch (position : Nat) (code : UInt32)
  /-- A kind is to be decoded by a field list without fields. -/
  | emptyFieldList (code : UInt32)
  deriving DecidableEq, Repr

def SchemaFault.message : SchemaFault → String
  | .codeMismatch position code =>
      s!"structure database entry {position} declares type code {code}"
  | .emptyFieldList code => s!"structure type {code} has an empty field list"

/-- The fault of a kind at a position, if it has one; a wrong code comes first. -/
def Kind.fault? (position : Nat) (kind : Kind) : Option SchemaFault :=
  if kind.code.toNat ≠ position then some (.codeMismatch position kind.code)
  else if kind.method.hasNoFields then some (.emptyFieldList kind.code)
  else none

/-- The first fault in a list of kinds whose first one has the given position. -/
def firstFault? (position : Nat) : List Kind → Option SchemaFault
  | [] => none
  | kind :: kinds => (kind.fault? position).or (firstFault? (position + 1) kinds)

/-- The kinds of structure of one family of tables. -/
structure Schema where
  name : String
  /-- The kinds, each at the position of its code. -/
  kinds : List Kind
  /-- Every kind stands at the position of its code and no field list is empty. -/
  faultless : firstFault? 0 kinds = none

namespace Schema

/-- The schema with the given kinds, or its first fault. -/
def ofKinds? (name : String) (kinds : List Kind) : Except SchemaFault Schema :=
  match found : firstFault? 0 kinds with
  | none => .ok ⟨name, kinds, found⟩
  | some fault => .error fault

/-- Whether a code is known and its kind may appear on one of the target architectures. -/
def allows (schema : Schema) (code : UInt32) (target : ArchitectureSet) : Bool :=
  match schema.kinds[code.toNat]? with
  | some kind => kind.allowed.intersects target
  | none => false

end Schema

end Structure

end AcpiTables
