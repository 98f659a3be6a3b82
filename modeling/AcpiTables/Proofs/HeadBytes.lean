import AcpiTables.Proofs.Counting
import AcpiTables.Proofs.Patches

/-!
# The bytes that structures are recognised by

A walk recognises a structure by two bytes: its type code, and behind that its length.  Only a
length of zero or past the end of the table is invalid and ends the walk, so a structure may have
one byte.  It does not hold the length that it was recognised by then, and since the walk goes on
behind it, that byte is also the type code of the next structure.

A structure holds its length byte exactly if that byte is not 1 (`Framed.two_le_length_iff`), and no
byte serves two structures exactly if this holds of all structures but the last
(`Framed.pairwise_headsApart_iff`).
-/

namespace AcpiTables

set_option autoImplicit false

namespace Structure

/-- The offsets of the two bytes that a structure is recognised by. -/
def Slice.headOffsets (slice : Slice) : List Nat := [slice.offset, slice.offset + 1]

/-- No byte serves both structures. -/
def Slice.HeadsApart (earlier later : Slice) : Prop :=
  ∀ offset ∈ earlier.headOffsets, offset ∉ later.headOffsets

instance (earlier later : Slice) : Decidable (earlier.HeadsApart later) :=
  inferInstanceAs (Decidable (∀ offset ∈ _, offset ∉ _))

theorem Slice.headsApart_iff {earlier later : Slice} (ordered : earlier.offset < later.offset) :
    earlier.HeadsApart later ↔ earlier.offset + 2 ≤ later.offset := by
  simp only [HeadsApart, headOffsets, List.mem_cons, List.not_mem_nil, or_false]
  constructor
  · intro apart
    have next := apart (earlier.offset + 1) (.inr rfl)
    omega
  · intro behind offset here there
    omega

variable {table : Bytes} {start stop : Nat} {slices : List Slice}

/-! ## Structures that hold their length byte -/

/-- The length that a structure was recognised by is its length. -/
theorem Framed.declared_of_mem (framed : Framed table start slices stop) :
    ∀ slice ∈ slices, 0 < slice.bytes.length ∧
      table[slice.offset + 1]?.map UInt8.toNat = some slice.bytes.length := by
  induction framed with
  | nil offset => exact List.forall_mem_nil _
  | cons slice code length nonempty bytes later ih =>
      exact List.forall_mem_cons.mpr ⟨⟨nonempty, length⟩, ih⟩

/-- A structure has only one byte exactly if its length byte is 1. -/
theorem Framed.two_le_length_iff (framed : Framed table start slices stop) {slice : Slice}
    (there : slice ∈ slices) :
    2 ≤ slice.bytes.length ↔ table[slice.offset + 1]? ≠ some 1 := by
  obtain ⟨nonempty, declared⟩ := framed.declared_of_mem slice there
  obtain ⟨length, found, width⟩ := Option.map_eq_some_iff.mp declared
  have one : length = 1 ↔ slice.bytes.length = 1 := by
    rw [← UInt8.toNat_inj, width]
    rfl
  rw [found, ne_eq, Option.some.injEq, one]
  omega

theorem Framed.getElem?_one_iff (framed : Framed table start slices stop) {slice : Slice}
    (there : slice ∈ slices) :
    slice.bytes[1]? = table[slice.offset + 1]? ↔ 2 ≤ slice.bytes.length := by
  obtain ⟨_, declared⟩ := framed.declared_of_mem slice there
  obtain ⟨length, found, _⟩ := Option.map_eq_some_iff.mp declared
  have held := framed.slice?_of_mem slice there
  constructor
  · intro same
    rw [found] at same
    exact (List.getElem?_eq_some_iff.mp same).1
  · intro two
    have taken := Bytes.take_drop_of_slice? held
    rw [← taken, List.getElem?_take_of_lt two, List.getElem?_drop]

/-! ## Bytes that serve two structures -/

theorem Framed.offset_of_first (framed : Framed table start slices stop) {slice : Slice}
    (first : slices[0]? = some slice) : slice.offset = start := by
  cases framed with
  | nil => cases first
  | cons => cases first; rfl

/-- The structure behind another one starts where that one ends. -/
theorem Framed.offset_of_next (framed : Framed table start slices stop) {index : Nat}
    {slice next : Slice} (here : slices[index]? = some slice)
    (behind : slices[index + 1]? = some next) : next.offset = slice.stop := by
  induction framed generalizing index with
  | nil offset => cases here
  | cons first code length nonempty bytes later ih =>
      cases index with
      | zero =>
          cases here
          exact later.offset_of_first behind
      | succ index => exact ih here behind

theorem Framed.code_of_mem (framed : Framed table start slices stop) :
    ∀ slice ∈ slices, table[slice.offset]? = some slice.code := by
  induction framed with
  | nil offset => exact List.forall_mem_nil _
  | cons slice code length nonempty bytes later ih => exact List.forall_mem_cons.mpr ⟨code, ih⟩

/-- Behind a structure of one byte, the length byte of that structure is the next type code. -/
theorem Framed.code_of_next (framed : Framed table start slices stop) {index : Nat}
    {slice next : Slice} (here : slices[index]? = some slice)
    (behind : slices[index + 1]? = some next) (one : table[slice.offset + 1]? = some 1) :
    next.offset = slice.offset + 1 ∧ next.code = 1 := by
  have member := List.mem_of_getElem? here
  have nonempty := (framed.declared_of_mem slice member).1
  have few : ¬ 2 ≤ slice.bytes.length := fun two => (framed.two_le_length_iff member).mp two one
  have place : next.offset = slice.offset + 1 := by
    rw [framed.offset_of_next here behind, Slice.stop]
    omega
  have code := framed.code_of_mem next (List.mem_of_getElem? behind)
  rw [place, one] at code
  exact ⟨place, (Option.some.inj code).symm⟩

/-- **No byte serves two structures exactly if all structures but the last hold their length
bytes.** -/
theorem Framed.pairwise_headsApart_iff (framed : Framed table start slices stop) :
    slices.Pairwise Slice.HeadsApart ↔ ∀ slice ∈ slices.dropLast, 2 ≤ slice.bytes.length := by
  induction framed with
  | nil offset => exact iff_of_true .nil (List.forall_mem_nil _)
  | @cons slice rest stop code length nonempty bytes later ih =>
      rw [List.pairwise_cons, ih]
      cases rest with
      | nil =>
          exact iff_of_true ⟨List.forall_mem_nil _, List.forall_mem_nil _⟩ (List.forall_mem_nil _)
      | cons next rest =>
          rw [List.dropLast_cons_cons]
          refine (and_congr_left fun _ => ?_).trans List.forall_mem_cons.symm
          have place : next.offset = slice.stop := later.offset_of_first rfl
          constructor
          · intro apart
            have behind := (Slice.headsApart_iff (by rw [place, Slice.stop]; omega)).mp
              (apart next List.mem_cons_self)
            rw [place, Slice.stop] at behind
            omega
          · intro two other there
            have behind := later.start_le_of_mem other there
            rw [Slice.stop] at behind
            exact (Slice.headsApart_iff (by omega)).mpr (by omega)

end Structure

end AcpiTables
