/-!
# Architectures and sets of them

A structure type may appear on some instruction-set architectures and not on
others.  There are four architectures, so a set of them is a vector of four
bits, and the set operations are the bitwise ones.
-/

namespace AcpiTables

set_option autoImplicit false

inductive Architecture where
  | ia32
  | x64
  | arm
  | aarch64
  deriving DecidableEq, Repr

namespace Architecture

/-- All architectures, in the order of their bits. -/
def all : List Architecture := [.ia32, .x64, .arm, .aarch64]

/-- The short name by which users select an architecture. -/
def name : Architecture → String
  | .ia32 => "ia32"
  | .x64 => "x64"
  | .arm => "arm"
  | .aarch64 => "aarch64"

/-- The name of an architecture's flag in the description of a set. -/
def flagName : Architecture → String
  | .ia32 => "IA32"
  | .x64 => "X64"
  | .arm => "ARM"
  | .aarch64 => "AARCH64"

/-- The position of an architecture's bit. -/
def position : Architecture → Nat
  | .ia32 => 0
  | .x64 => 1
  | .arm => 2
  | .aarch64 => 3

/-- The architecture with a given short name. -/
def ofName? (name : String) : Option Architecture :=
  all.find? fun architecture => architecture.name == name

/-- The architecture with a given flag name. -/
def ofFlagName? (name : String) : Option Architecture :=
  all.find? fun architecture => architecture.flagName == name

end Architecture

/-- A set of architectures, one bit for each. -/
structure ArchitectureSet where
  /-- Bit `position` says whether the architecture at that position belongs to the set. -/
  bits : BitVec 4
  deriving DecidableEq, Repr

namespace ArchitectureSet

def empty : ArchitectureSet := ⟨0⟩

/-- The set of all four architectures. -/
def all : ArchitectureSet := ⟨15⟩

def single (architecture : Architecture) : ArchitectureSet :=
  ⟨BitVec.twoPow 4 architecture.position⟩

def x86 : ArchitectureSet := ⟨3⟩

def armAny : ArchitectureSet := ⟨12⟩

def member (architecture : Architecture) (set : ArchitectureSet) : Bool :=
  set.bits.getLsbD architecture.position

def union (first second : ArchitectureSet) : ArchitectureSet := ⟨first.bits ||| second.bits⟩

def intersection (first second : ArchitectureSet) : ArchitectureSet :=
  ⟨first.bits &&& second.bits⟩

/-- The architectures of the first set that are not in the second. -/
def difference (first second : ArchitectureSet) : ArchitectureSet :=
  ⟨first.bits &&& ~~~second.bits⟩

def complement (set : ArchitectureSet) : ArchitectureSet := ⟨~~~set.bits⟩

/-- The union of the sets of single architectures. -/
def ofList (architectures : List Architecture) : ArchitectureSet :=
  architectures.foldl (fun set architecture => set.union (single architecture)) empty

def isEmpty (set : ArchitectureSet) : Bool := set.bits == 0

/-- Whether the set has every architecture. -/
def isAll (set : ArchitectureSet) : Bool := set.bits == 15

/-- Whether two sets share an architecture. -/
def intersects (first second : ArchitectureSet) : Bool := !(first.intersection second).isEmpty

/-- Whether the first set has every architecture of the second. -/
def contains (first second : ArchitectureSet) : Bool :=
  first.intersection second == second

/-- Whether Arm rules apply: the set has an Arm architecture and no x86 one. -/
def isArm (set : ArchitectureSet) : Bool :=
  set.intersects armAny && !set.intersects x86

/-- The set with the given bits, unless a bit names no architecture. -/
def ofBits? (bits : Nat) : Option ArchitectureSet :=
  if bits < 16 then some ⟨BitVec.ofNat 4 bits⟩ else none

/-- The set with the given bits; bits that name no architecture are dropped. -/
def ofBitsTruncated (bits : Nat) : ArchitectureSet := ⟨BitVec.ofNat 4 bits⟩

/-- The bits of a set as a number. -/
def toNat (set : ArchitectureSet) : Nat := set.bits.toNat

/-- A set as its flags joined by bars. -/
def describe (set : ArchitectureSet) : String :=
  if set.isEmpty then "ArchCompat(0x0)"
  else
    let flags := (Architecture.all.filter fun architecture => set.member architecture).map
      Architecture.flagName
    "ArchCompat(" ++ String.intercalate " | " flags ++ ")"

end ArchitectureSet

end AcpiTables
