import AcpiTables.Proofs.Additivity
import AcpiTables.Proofs.FieldLists

/-!
# Where the structures of an interrupt controller table are looked for

The structures of the table follow a fixed part of 44 bytes: the header and two fields of four
bytes each.  The walk starts behind what was decoded of the fixed part, and a field that the table
cuts off is not decoded.  So a table that ends inside one of the two fields is walked from where
that field starts, and the bytes of the field are taken for a structure.

`walkStart` is the offset at which a table of a given length is walked from.  Every structure is
looked for behind the fixed part exactly when the table is long enough for it, or ends where a
field does (`structures_behind_fixed_part_iff`).
-/

namespace AcpiTables

set_option autoImplicit false

open Decoder

namespace Structure

/-! ## Where a walk looks -/

/-- The offsets at which a walk looks for a structure: those of the structures that it hands out,
and the one at which it ends early. -/
def Outline.heads (outline : Outline) : List Nat :=
  outline.slices.map Slice.offset ++ if outline.status = .complete then [] else [outline.stop]

theorem le_of_mem_heads {start offset : Nat} {remaining : Bytes}
    (there : offset ∈ (outlineFrom start remaining).heads) : start ≤ offset := by
  fun_induction outlineFrom start remaining with
  | case1 start => cases there
  | case2 start code => exact Nat.le_of_eq (List.mem_singleton.mp there).symm
  | case3 start code length body possible later ih =>
      rcases List.mem_cons.mp there with rfl | behind
      · exact Nat.le_refl _
      · have further := ih behind
        omega
  | case4 start code length body impossible => exact Nat.le_of_eq (List.mem_singleton.mp there).symm

/-- Where something remains, the walk looks for a structure at once. -/
theorem start_mem_heads {start : Nat} {remaining : Bytes} (some : remaining ≠ []) :
    start ∈ (outlineFrom start remaining).heads := by
  fun_cases outlineFrom start remaining with
  | case1 => exact absurd rfl some
  | case2 => exact List.mem_singleton.mpr rfl
  | case3 => exact List.mem_cons_self
  | case4 => exact List.mem_singleton.mpr rfl

/-- A walk never looks before a bound if it starts behind it, or has nothing to look for. -/
theorem forall_heads_le_iff {table : Bytes} {start bound : Nat} :
    (∀ offset ∈ (outline table start).heads, bound ≤ offset) ↔
      bound ≤ start ∨ table.length ≤ start := by
  constructor
  · intro behind
    by_cases nothing : table.drop start = []
    · exact .inr (List.drop_eq_nil_iff.mp nothing)
    · exact .inl (behind start (start_mem_heads nothing))
  · rintro (behind | nothing) offset there
    · exact Nat.le_trans behind (le_of_mem_heads there)
    · rw [outline, List.drop_eq_nil_iff.mpr nothing, outlineFrom] at there
      cases there

end Structure

namespace InterruptController

open Structure

/-- The number of bytes of the header and the two fields behind it. -/
def fixedSize : Nat := 44

/-- The fields of the table's own behind the header. -/
def ownFields : List Field := fields.drop Header.fields.length

/-- The offset at which the structures of a table are looked for, by the length of the table. -/
def walkStart (length : Nat) : Nat := Header.size + 4 * min ((length - Header.size) / 4) 2

/-- Of the fixed part, the header and the fields that are all there are consumed. -/
theorem consumed_fields {table : Bytes} (header : Header.size ≤ table.length) :
    (Record.reading table fields).consumed = walkStart table.length := by
  have split : fields = Header.fields ++ ownFields := rfl
  have widths : ∀ field ∈ ownFields, field.width = 4 := by decide
  have number : ownFields.length = 2 := rfl
  rw [split, Record.reading_append, Reading.followedBy, Header.consumed_fields header,
    Record.reading, Record.consumed_readingFrom_of_width (by decide) widths, List.length_drop,
    number, Nat.zero_add, walkStart]

/-- A table is decoded by its fixed part, the structures from `walkStart` on, and the check of the
census. -/
theorem decode_eq_handOut {table : Bytes} (header : Header.size ≤ table.length) :
    decode table = (do
      let _ ← Record.decode true 0 (some "MADT") table fields
      let census ← handOut (outline table (walkStart table.length)).slices (.zero schema)
      let (status, census) ← conclude table (outline table (walkStart table.length)).stop
        (outline table (walkStart table.length)).status census
      checkDistributors status census) := by
  funext session
  rw [decode, bind_apply, Record.decode_value, consumed_fields header, walk_eq_handOut, bind_assoc]
  rfl

/-- What is noted of a table are the structures of its outline from `walkStart` on. -/
theorem map_slice_decodeNoting {table : Bytes} (header : Header.size ≤ table.length)
    (session : Session) : (decodeNoting table session).1.map Visit.slice =
      (outline table (walkStart table.length)).slices := by
  rw [decodeNoting, bind_apply, Record.decode_value, consumed_fields header]
  exact map_slice_handOutNoting _ _ _

/-- A table is walked from behind the fixed part, or has nothing left to walk over, exactly if it
has the whole fixed part or ends where one of its fields starts. -/
theorem walkStart_behind_iff {length : Nat} (header : Header.size ≤ length) :
    fixedSize ≤ walkStart length ∨ length ≤ walkStart length ↔
      fixedSize ≤ length ∨ length = 36 ∨ length = 40 := by
  unfold walkStart Header.size fixedSize at *
  omega

/-- **Where the structures of an interrupt controller table are looked for.**  A table that has a
header is decoded by its fixed part and a walk from `walkStart` on.  The walk hands out and reports
nothing before the end of the fixed part exactly if the table has the whole fixed part, or ends
where one of its fields starts. -/
theorem structures_behind_fixed_part_iff {table : Bytes} (header : Header.size ≤ table.length) :
    decode table = (do
      let _ ← Record.decode true 0 (some "MADT") table fields
      let census ← handOut (outline table (walkStart table.length)).slices (.zero schema)
      let (status, census) ← conclude table (outline table (walkStart table.length)).stop
        (outline table (walkStart table.length)).status census
      checkDistributors status census) ∧
    ((∀ offset ∈ (outline table (walkStart table.length)).heads, fixedSize ≤ offset) ↔
      fixedSize ≤ table.length ∨ table.length = 36 ∨ table.length = 40) :=
  ⟨decode_eq_handOut header, forall_heads_le_iff.trans (walkStart_behind_iff header)⟩

/-- In a table that ends behind the first of its fields nothing is looked for.  In one of 46 bytes
a structure of two bytes is found behind the fixed part, and handed out. -/
theorem structures_behind_fixed_part_of_forty_and_more :
    let cut : Bytes := List.replicate 40 0
    let whole : Bytes := List.replicate 44 0 ++ [0, 2]
    (Header.size ≤ cut.length ∧ ∀ offset ∈ (outline cut (walkStart 40)).heads, fixedSize ≤ offset) ∧
    (Header.size ≤ whole.length ∧
      (outline whole (walkStart 46)).slices = [⟨44, 0, [0, 2]⟩]) ∧
    ∀ offset ∈ (outline whole (walkStart 46)).heads, fixedSize ≤ offset := by
  intro cut whole
  have header : Header.size ≤ cut.length := by decide
  have headerWhole : Header.size ≤ whole.length := by decide
  have found : outline whole (walkStart 46) = ⟨place 44 [[0, 2]], 46, .complete⟩ := by
    have sized : ∀ bytes ∈ [[0, 2]], SelfSized bytes := by decide
    exact outlineFrom_flatten sized 44
  have behind := (structures_behind_fixed_part_iff headerWhole).2.mpr (.inl (by decide))
  refine ⟨⟨header, ?_⟩, ⟨headerWhole, ?_⟩, behind⟩
  · exact (structures_behind_fixed_part_iff header).2.mpr (.inr (.inr rfl))
  · rw [found]
    rfl

/-- A table of 38 bytes, which end with two bytes of the interrupt controller address. -/
def cutTable : Bytes :=
  signature ++ [38, 0, 0, 0, 5, 0x1C] ++ List.replicate 26 0x41 ++ [0, 2]

/-- The last two bytes of the cut table, a part of the address, are handed out as a structure. -/
theorem address_handed_out_as_structure :
    Header.size ≤ cutTable.length ∧
      ∃ visit ∈ (decodeNoting cutTable (.start .default)).1, visit.slice.offset < fixedSize := by
  have header : Header.size ≤ cutTable.length := by decide
  have start : walkStart cutTable.length = 36 := rfl
  have found : outline cutTable 36 = ⟨place 36 [[0, 2]], 38, .complete⟩ := by
    have sized : ∀ bytes ∈ [[0, 2]], SelfSized bytes := by decide
    exact outlineFrom_flatten sized 36
  have slices := map_slice_decodeNoting header (.start .default)
  rw [start, found] at slices
  have there : ⟨36, 0, [0, 2]⟩ ∈ (decodeNoting cutTable (.start .default)).1.map Visit.slice :=
    slices ▸ List.mem_cons_self
  obtain ⟨visit, noted, slice⟩ := List.mem_map.mp there
  refine ⟨header, visit, noted, ?_⟩
  rw [slice]
  decide

end InterruptController

end AcpiTables
