import AcpiTables.Proofs.Geometry
import AcpiTables.Proofs.HeldBytes

/-!
# Reads

A table is read in two ways: at an offset of its bytes, and from the first byte of a field that was
captured in a decode.  The bytes of a captured field are held by the data it was decoded from, at
the offset where it was captured (`Record.holdsAt_of_capture?`), so the second way is the first one
at that offset, as far as the field is wide.  `reads_are_exact` says when a read succeeds, what it
gives and what has no part in it.
-/

namespace AcpiTables

set_option autoImplicit false

/-! ## Captured fields -/

/-- **The data that a field was decoded from holds its bytes**, where it was captured. -/
theorem Record.holdsAt_of_capture? {data : Bytes} {fields : List Field} {index : Nat}
    {capture : Capture} (found : (reading data fields).capture? index = some capture) :
    data.HoldsAt capture.offset capture.bytes := by
  cases here : fields[index]? with
  | none =>
      rw [capture?_reading_of_le (List.getElem?_eq_none_iff.mp here)] at found
      cases found
  | some field =>
      obtain ⟨_, inside, rfl⟩ := (capture?_reading here capture).mp found
      exact Bytes.holdsAt_take_drop inside

/-! ## Reads -/

/-- **Reads are exact.**  A read succeeds exactly if offset and width add up to at most the length
of the data, and gives the bytes, or the little-endian number, that the data holds there; no other
byte has a part in it.  A number of eight bytes is put together from its halves.  A captured field
is read in the same way, and gives what the data has at its place. -/
theorem reads_are_exact :
    (∀ (data : Bytes) (offset width : Nat),
      ((data.slice? offset width).isSome ↔ offset + width ≤ data.length) ∧
      ((data.number? offset width).isSome ↔ offset + width ≤ data.length) ∧
      (data.slice? offset width = (data.drop? offset).bind fun rest => rest.take? width) ∧
      (∀ bytes, data.slice? offset width = some bytes ↔
        data.HoldsAt offset bytes ∧ bytes.length = width) ∧
      (data.number? offset width = (data.slice? offset width).map fun bytes =>
        (bytes.mapIdx fun index byte => byte.toNat * 256 ^ index).sum) ∧
      ∀ number, data.number? offset width = some number ↔
        number < 256 ^ width ∧ data.HoldsAt offset (Bytes.ofNumber width number)) ∧
    (∀ (data other : Bytes) (offset width : Nat), offset + width ≤ data.length →
      offset + width ≤ other.length →
      (∀ index < width, data[offset + index]? = other[offset + index]?) →
      data.slice? offset width = other.slice? offset width ∧
      data.number? offset width = other.number? offset width) ∧
    (∀ (data : Bytes) (offset : Nat), data.number? offset 8 = do
      let low ← data.number? offset 4
      let high ← data.number? (offset + 4) 4
      return low + 2 ^ 32 * high) ∧
    (∀ (capture : Capture) (width : Nat),
      (capture.slice? width = none ↔ capture.bytes.length < width) ∧
      (capture.number? width = none ↔ capture.bytes.length < width) ∧
      (∀ bytes, capture.slice? width = some bytes ↔
        bytes <+: capture.bytes ∧ bytes.length = width) ∧
      ∀ number, capture.number? width = some number ↔
        number < 256 ^ width ∧ Bytes.ofNumber width number <+: capture.bytes) ∧
    ∀ (trace : Bool) (indent : UInt64) (title : Option String) (data : Bytes) (fields : List Field)
      (session : Session) (index : Nat) (capture : Capture),
      (Record.decode trace indent title data fields session).1.capture? index = some capture →
      ∀ width ≤ capture.bytes.length,
        capture.slice? width = data.slice? capture.offset width ∧
        capture.number? width = data.number? capture.offset width := by
  refine ⟨fun data offset width => ?_, fun data other offset width inside insideOther same => ?_,
    fun data offset => data.number?_add offset 4 4, fun capture width => ?_, ?_⟩
  · have sums : data.number? offset width = (data.slice? offset width).map fun bytes =>
        (bytes.mapIdx fun index byte => byte.toNat * 256 ^ index).sum := by
      rw [Bytes.number?, funext Bytes.littleEndian_eq_sum]
    exact ⟨Bytes.isSome_slice?_iff, Bytes.isSome_number?_iff, data.slice?_eq_bind offset width,
      fun bytes => Bytes.slice?_eq_some_iff, sums, fun number => Bytes.number?_eq_some_iff⟩
  · have bytes := Bytes.slice?_congr inside insideOther same
    rw [Bytes.number?, Bytes.number?, bytes]
    exact ⟨rfl, rfl⟩
  · have fromStart : 0 + width = width := Nat.zero_add width
    rw [Capture.slice?, Capture.number?, Bytes.slice?_eq_none_iff, Bytes.number?_eq_none_iff,
      fromStart]
    refine ⟨Iff.rfl, Iff.rfl, fun bytes => ?_, fun number => ?_⟩
    · rw [Bytes.slice?_eq_some_iff, Bytes.holdsAt_zero_iff]
    · rw [Bytes.number?_eq_some_iff, Bytes.holdsAt_zero_iff]
  · intro trace indent title data fields session index capture found width narrow
    rw [Record.decode_value] at found
    have held := Record.holdsAt_of_capture? found
    have inside : 0 + width ≤ capture.bytes.length := (Nat.zero_add width).symm ▸ narrow
    exact ⟨held.slice?_eq inside, held.number?_eq inside⟩

/-- Nine bytes, the first of which no read covers.  The last read of eight bytes ends with the data,
and a read of none may start at its end.  At the largest offset the sum of offset and width would be
zero as a word, and the read is refused all the same. -/
theorem reads_are_exact_around_the_end :
    let behind : Bytes := [0x78, 0x56, 0x34, 0x12, 0xF0, 0xDE, 0xBC, 0x9A]
    let data : Bytes := 0xFF :: behind
    let last : UInt64 := 0xFFFFFFFFFFFFFFFF
    let fields := [Field.hidden 1 0, (Field.hidden 2 1).kept]
    let view : Capture := ⟨1, [0x78, 0x56]⟩
    data.number? 1 8 = some 0x9ABCDEF012345678 ∧ data.number? 2 8 = none ∧
    data.slice? 9 0 = some [] ∧ data.slice? 10 0 = none ∧
    last + 1 = 0 ∧ data.number? last.toNat 1 = none ∧
    data.number? 1 8 = Bytes.number? (0x00 :: behind ++ [0x00]) 1 8 ∧
    (Record.decode false 0 none data fields (.start .default)).1.capture? 1 = some view ∧
    view.number? 2 = data.number? 1 2 ∧ view.number? 4 = none := by
  intro behind data last fields view
  obtain ⟨reads, others, _, views, decoded⟩ := reads_are_exact
  have whole : data.number? 1 8 = some 0x9ABCDEF012345678 :=
    ((reads data 1 8).2.2.2.2.2 _).mpr ⟨by decide, [0xFF], [], by decide, rfl⟩
  have same := (others data (0x00 :: behind ++ [0x00]) 1 8 (by decide) (by decide) (by decide)).2
  have found :
      (Record.decode false 0 none data fields (.start .default)).1.capture? 1 = some view := by
    decide
  have captured := (decoded false 0 none data fields (.start .default) 1 view found 2 (by decide)).2
  have narrow := (views view 4).2.1.mpr (by decide)
  exact ⟨whole, by decide, by decide, by decide, by decide, by decide, same, found, captured,
    narrow⟩

end AcpiTables
