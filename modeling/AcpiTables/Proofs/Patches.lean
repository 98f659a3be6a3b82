import AcpiTables.Proofs.Framing
import AcpiTables.Proofs.HeldBytes

/-!
# Tables that differ inside one structure

Where the structures of a table lie is decided by their type and length bytes alone.  The outline
of a table is the only way in which structures can be framed in it and end as it does
(`outline_of_framed`), so two tables of one length with the same type and length bytes have the
same structures but for what these hold.  In particular, if two tables differ only inside one
structure, behind its type and length bytes, then every other structure is the same in both, and
their walks end alike (`outline_of_differsInside`).
-/

namespace AcpiTables

set_option autoImplicit false

namespace Structure

variable {table other : Bytes} {start stop : Nat} {slices : List Slice}

/-! ## The outline is the only framing -/

theorem drop_eq_cons_cons {offset : Nat} {first second : UInt8}
    (here : table[offset]? = some first) (next : table[offset + 1]? = some second) :
    table.drop offset = first :: second :: table.drop (offset + 2) := by
  obtain ⟨inside, rfl⟩ := List.getElem?_eq_some_iff.mp here
  obtain ⟨insideNext, rfl⟩ := List.getElem?_eq_some_iff.mp next
  rw [List.drop_eq_getElem_cons inside, List.drop_eq_getElem_cons insideNext]

/-- Where nothing is framed, the walk ends at once. -/
theorem outline_of_endsAs {status : WalkStatus} (ends : EndsAs table start status) :
    outline table start = ⟨[], start, status⟩ := by
  unfold outline
  cases status with
  | complete => rw [List.drop_eq_nil_of_le ends, outlineFrom]
  | truncated =>
      have last : start < table.length := by
        rw [← (show start + 1 = table.length from ends)]
        exact Nat.lt_succ_self start
      rw [List.drop_eq_getElem_cons last, List.drop_eq_nil_of_le (Nat.le_of_eq ends.symm),
        outlineFrom]
  | invalidLength =>
      obtain ⟨two, length, declared, bad⟩ := ends
      have inside : start < table.length := by omega
      have remains : (table.drop start).length = table.length - start := List.length_drop
      have shape := drop_eq_cons_cons (List.getElem?_eq_getElem inside) declared
      have impossible : ¬ (0 < length.toNat ∧ length.toNat ≤ (table.drop start).length) := by
        omega
      rw [shape] at impossible ⊢
      rw [outlineFrom, dif_neg impossible]

/-- **Structures that are framed in a table and end as it does are its outline.** -/
theorem outline_of_framed {status : WalkStatus} (framed : Framed table start slices stop)
    (ends : EndsAs table stop status) : outline table start = ⟨slices, stop, status⟩ := by
  induction framed with
  | nil offset => exact outline_of_endsAs ends
  | cons slice code length nonempty bytes later ih =>
      obtain ⟨declared, next, width⟩ := Option.map_eq_some_iff.mp length
      have shape := drop_eq_cons_cons code next
      rw [Bytes.slice?] at bytes
      split at bytes
      · rename_i inside
        have possible : 0 < declared.toNat ∧ declared.toNat ≤ (table.drop slice.offset).length := by
          rw [width, List.length_drop]
          omega
        have taken := Option.some.inj bytes
        have behind := ih ends
        rw [Slice.stop, outline] at behind
        rw [shape] at possible
        rw [outline, shape, outlineFrom_cons_of_possible possible, ← shape, List.drop_drop, width,
          behind, taken]
      · cases bytes

/-! ## The order of the structures -/

theorem Framed.start_le_of_mem (framed : Framed table start slices stop) :
    ∀ slice ∈ slices, start ≤ slice.offset := by
  induction framed with
  | nil offset => exact List.forall_mem_nil _
  | cons slice code length nonempty bytes later ih =>
      intro found there
      rcases List.mem_cons.mp there with rfl | behind
      · exact Nat.le_refl _
      · exact Nat.le_trans (Nat.le_add_right _ _) (ih found behind)

theorem Framed.le_stop_of_mem (framed : Framed table start slices stop) :
    start ≤ stop ∧ ∀ slice ∈ slices, slice.stop ≤ stop := by
  induction framed with
  | nil offset => exact ⟨Nat.le_refl _, List.forall_mem_nil _⟩
  | cons slice code length nonempty bytes later ih =>
      obtain ⟨ordered, within⟩ := ih
      have early := Nat.le_trans (Nat.le_add_right _ _) ordered
      exact ⟨early, List.forall_mem_cons.mpr ⟨ordered, within⟩⟩

/-- Every structure ends before the next ones start. -/
theorem Framed.pairwise (framed : Framed table start slices stop) :
    slices.Pairwise fun first second => first.stop ≤ second.offset := by
  induction framed with
  | nil offset => exact .nil
  | cons slice code length nonempty bytes later ih =>
      exact List.pairwise_cons.mpr ⟨later.start_le_of_mem, ih⟩

theorem Framed.slice?_of_mem (framed : Framed table start slices stop) :
    ∀ slice ∈ slices, table.slice? slice.offset slice.bytes.length = some slice.bytes := by
  induction framed with
  | nil offset => exact List.forall_mem_nil _
  | cons slice code length nonempty bytes later ih => exact List.forall_mem_cons.mpr ⟨bytes, ih⟩

/-! ## Structures of another table at the same places -/

/-- What another table holds at the place of a structure. -/
def Slice.within (slice : Slice) (table : Bytes) : Slice :=
  { slice with bytes := (table.drop slice.offset).take slice.bytes.length }

theorem Slice.length_within {slice : Slice} (inside : slice.stop ≤ table.length) :
    (slice.within table).bytes.length = slice.bytes.length := by
  rw [Slice.stop] at inside
  simp only [Slice.within, List.length_take, List.length_drop]
  omega

theorem stop_le_of_slice? {slice : Slice}
    (found : table.slice? slice.offset slice.bytes.length = some slice.bytes) :
    slice.stop ≤ table.length :=
  Bytes.le_of_slice? found

/-- A structure is the same in both tables if they agree at its place. -/
theorem Slice.within_of_agree {slice : Slice}
    (found : table.slice? slice.offset slice.bytes.length = some slice.bytes)
    (agree : ∀ position, slice.offset ≤ position → position < slice.stop →
      other[position]? = table[position]?) : slice.within other = slice := by
  have same : (other.drop slice.offset).take slice.bytes.length =
      (table.drop slice.offset).take slice.bytes.length :=
    Bytes.take_drop_congr fun index inside =>
      agree _ (Nat.le_add_right _ _) (Nat.add_lt_add_left inside _)
  rw [Slice.within, same, Bytes.take_drop_of_slice? found]

/-- **Tables with the same type and length bytes have structures at the same places.** -/
theorem framed_within (framed : Framed table start slices stop)
    (length : other.length = table.length)
    (heads : ∀ slice ∈ slices, other[slice.offset]? = table[slice.offset]? ∧
      other[slice.offset + 1]? = table[slice.offset + 1]?) :
    Framed other start (slices.map fun slice => slice.within other) stop := by
  induction framed with
  | nil offset => exact .nil offset
  | cons slice code declared nonempty bytes later ih =>
      obtain ⟨⟨sameCode, sameLength⟩, headsBehind⟩ := List.forall_mem_cons.mp heads
      have inside : slice.stop ≤ other.length := by
        rw [length]
        exact stop_le_of_slice? bytes
      have width := Slice.length_within inside
      have stops : (slice.within other).stop = slice.stop := by
        rw [Slice.stop, width]
        rfl
      refine .cons (slice.within other) (sameCode.trans code) ?_ ?_ ?_ ?_
      · rw [width]
        exact (congrArg (Option.map UInt8.toNat) sameLength).trans declared
      · rw [width]
        exact nonempty
      · rw [width, Bytes.slice?]
        exact if_pos inside
      · rw [stops]
        exact ih headsBehind

/-! ## One structure that differs -/

/-- Two tables of one length that agree except inside a structure, behind its type and length
bytes. -/
structure DiffersInside (slice : Slice) (table other : Bytes) : Prop where
  length : other.length = table.length
  outside : ∀ position, position < slice.offset + 2 ∨ slice.stop ≤ position →
    other[position]? = table[position]?

section Differs

variable {slice : Slice} {index : Nat}

/-- The other structures lie before the one that differs, or behind it. -/
theorem Framed.apart (framed : Framed table start slices stop) (here : slices[index]? = some slice)
    {position : Nat} {found : Slice} (there : slices[position]? = some found)
    (ne : position ≠ index) : found.stop ≤ slice.offset ∨ slice.stop ≤ found.offset := by
  obtain ⟨insideHere, rfl⟩ := List.getElem?_eq_some_iff.mp here
  obtain ⟨insideThere, rfl⟩ := List.getElem?_eq_some_iff.mp there
  have ordered := List.pairwise_iff_getElem.mp framed.pairwise
  rcases Nat.lt_or_gt_of_ne ne with before | behind
  · exact .inl (ordered position index insideThere insideHere before)
  · exact .inr (ordered index position insideHere insideThere behind)

theorem map_within_eq_set (framed : Framed table start slices stop)
    (here : slices[index]? = some slice) (differs : DiffersInside slice table other) :
    (slices.map fun slice => slice.within other) = slices.set index (slice.within other) := by
  refine List.ext_getElem? fun position => ?_
  rw [List.getElem?_map, List.getElem?_set]
  by_cases same : index = position
  · subst same
    obtain ⟨inside, _⟩ := List.getElem?_eq_some_iff.mp here
    rw [if_pos rfl, if_pos inside, here, Option.map_some]
  · rw [if_neg same]
    cases there : slices[position]? with
    | none => rfl
    | some found =>
        have apart := framed.apart here there (Ne.symm same)
        have bytes := framed.slice?_of_mem found (List.mem_of_getElem? there)
        have kept : found.within other = found := by
          refine Slice.within_of_agree bytes fun place low high => differs.outside place ?_
          omega
        rw [Option.map_some, kept]

/-- The type and length bytes of all structures are the same in both tables. -/
theorem heads_of_differsInside (framed : Framed table start slices stop)
    (here : slices[index]? = some slice) (differs : DiffersInside slice table other) :
    ∀ found ∈ slices, other[found.offset]? = table[found.offset]? ∧
      other[found.offset + 1]? = table[found.offset + 1]? := by
  intro found member
  obtain ⟨position, inside, rfl⟩ := List.getElem_of_mem member
  have there := List.getElem?_eq_getElem inside
  by_cases same : position = index
  · subst same
    have self : slices[position] = slice := Option.some.inj (there.symm.trans here)
    rw [self]
    exact ⟨differs.outside _ (.inl (by omega)), differs.outside _ (.inl (by omega))⟩
  · have apart := framed.apart here there same
    have grows : slices[position].offset ≤ slices[position].stop := Nat.le_add_right _ _
    exact ⟨differs.outside _ (by omega), differs.outside _ (by omega)⟩

theorem endsAs_of_differsInside {status : WalkStatus} (behind : slice.stop ≤ stop)
    (differs : DiffersInside slice table other) (ends : EndsAs table stop status) :
    EndsAs other stop status := by
  have length := differs.length
  have next : other[stop + 1]? = table[stop + 1]? := differs.outside _ (.inr (by omega))
  cases status with
  | complete => exact Nat.le_trans (Nat.le_of_eq length) ends
  | truncated => exact Eq.trans ends length.symm
  | invalidLength =>
      obtain ⟨two, declared, found, bad⟩ := ends
      rw [← length] at two bad
      exact ⟨two, declared, next.trans found, bad⟩

/-- **If two tables differ only inside one structure**, behind its type and length bytes, all
other structures are the same, and the walks end at the same place and in the same way. -/
theorem outline_of_differsInside (here : (outline table start).slices[index]? = some slice)
    (differs : DiffersInside slice table other) :
    outline other start = { outline table start with
      slices := (outline table start).slices.set index (slice.within other) } := by
  have framed : Framed table start (outline table start).slices (outline table start).stop :=
    framed_outlineFrom start _ rfl
  have ends : EndsAs table (outline table start).stop (outline table start).status :=
    outlineFrom_endsAs start _ rfl
  have behind := framed.le_stop_of_mem.2 slice (List.mem_of_getElem? here)
  rw [← map_within_eq_set framed here differs]
  exact outline_of_framed
    (framed_within framed differs.length (heads_of_differsInside framed here differs))
    (endsAs_of_differsInside behind differs ends)

end Differs

end Structure

end AcpiTables
