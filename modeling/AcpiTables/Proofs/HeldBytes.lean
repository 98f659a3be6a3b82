import AcpiTables.Proofs.Numerals

/-!
# Bytes at a place

Data holds bytes at an offset if it is made of some bytes before them, these bytes, and some bytes
behind them (`Bytes.HoldsAt`).  A read finds exactly the bytes of its width that the data holds at
its offset (`Bytes.slice?_eq_some_iff`), so it succeeds exactly if the sum of offset and width is at
most the length of the data.  That sum need never be formed: a read may as well drop what is before
the offset and then take what it needs, with a check of its own for either step
(`Bytes.slice?_eq_bind`), and then no offset is too large.

A number is read exactly if the data holds its little-endian bytes (`Bytes.number?_eq_some_iff`),
and a wide number is its lower part and its upper part (`Bytes.number?_add`).  What is read inside
held bytes is what is read of the data there (`Bytes.HoldsAt.slice?_eq`), and a read depends on no
other bytes than those it covers (`Bytes.slice?_congr`).
-/

namespace AcpiTables

set_option autoImplicit false

namespace Bytes

variable {data bytes : Bytes} {offset width : Nat}

/-! ## Bytes at an offset -/

/-- The bytes stand in the data at an offset. -/
def HoldsAt (data : Bytes) (offset : Nat) (bytes : Bytes) : Prop :=
  ∃ before behind, data = before ++ bytes ++ behind ∧ before.length = offset

theorem slice?_of_le (inside : offset + width ≤ data.length) :
    data.slice? offset width = some ((data.drop offset).take width) :=
  if_pos inside

theorem isSome_slice?_iff : (data.slice? offset width).isSome ↔ offset + width ≤ data.length := by
  rw [← Option.ne_none_iff_isSome, Ne, slice?_eq_none_iff, Nat.not_lt]

/-- Bytes that were read are all in the data. -/
theorem le_of_slice? (found : data.slice? offset width = some bytes) :
    offset + width ≤ data.length :=
  isSome_slice?_iff.mp (Option.isSome_of_eq_some found)

theorem take_drop_of_slice? (found : data.slice? offset width = some bytes) :
    (data.drop offset).take width = bytes := by
  rw [slice?_of_le (le_of_slice? found)] at found
  exact Option.some.inj found

theorem holdsAt_take_drop (inside : offset + width ≤ data.length) :
    data.HoldsAt offset ((data.drop offset).take width) := by
  refine ⟨data.take offset, (data.drop offset).drop width, ?_, ?_⟩
  · rw [List.append_assoc, List.take_append_drop, List.take_append_drop]
  · exact List.length_take_of_le (Nat.le_of_add_right_le inside)

/-- **A read finds the bytes that the data holds.** -/
theorem slice?_eq_some_iff :
    data.slice? offset width = some bytes ↔ data.HoldsAt offset bytes ∧ bytes.length = width := by
  constructor
  · intro found
    refine ⟨?_, slice?_length found⟩
    rw [← take_drop_of_slice? found]
    exact holdsAt_take_drop (le_of_slice? found)
  · rintro ⟨⟨before, behind, rfl, rfl⟩, rfl⟩
    simp [slice?]

/-- Bytes at the start of data are a prefix of it. -/
theorem holdsAt_zero_iff : data.HoldsAt 0 bytes ↔ bytes <+: data := by
  constructor
  · rintro ⟨before, behind, rfl, empty⟩
    rw [List.eq_nil_of_length_eq_zero empty]
    exact List.prefix_append bytes behind
  · rintro ⟨behind, rfl⟩
    exact ⟨[], behind, rfl, rfl⟩

/-- **A read inside held bytes is a read of the data there.** -/
theorem HoldsAt.slice?_eq (held : data.HoldsAt offset bytes) {inner : Nat}
    (inside : inner + width ≤ bytes.length) :
    bytes.slice? inner width = data.slice? (offset + inner) width := by
  obtain ⟨before, behind, rfl, rfl⟩ := held
  have there : before.length + inner + width ≤ (before ++ bytes ++ behind).length := by
    simp only [List.length_append]
    omega
  have rest : width ≤ (bytes.drop inner).length := by
    rw [List.length_drop]
    omega
  rw [slice?_of_le inside, slice?_of_le there, List.append_assoc, ← List.drop_drop,
    List.drop_left, List.drop_append_of_le_length (by omega), List.take_append_of_le_length rest]

/-- The data behind its first bytes, unless it has fewer. -/
def drop? (data : Bytes) (count : Nat) : Option Bytes :=
  if count ≤ data.length then some (data.drop count) else none

/-- The first bytes of the data, unless it has fewer. -/
def take? (data : Bytes) (count : Nat) : Option Bytes :=
  if count ≤ data.length then some (data.take count) else none

/-- **A read in two steps**, neither of which adds the width to the offset. -/
theorem slice?_eq_bind (data : Bytes) (offset width : Nat) :
    data.slice? offset width = (data.drop? offset).bind fun rest => rest.take? width := by
  by_cases there : offset ≤ data.length
  · have fits : width ≤ (data.drop offset).length ↔ offset + width ≤ data.length := by
      rw [List.length_drop]
      omega
    rw [drop?, if_pos there, Option.bind_some, take?, slice?]
    simp only [fits]
  · rw [drop?, if_neg there, Option.bind_none, slice?, if_neg (by omega)]

/-- Data that agrees at some positions holds the same bytes there. -/
theorem take_drop_congr {other : Bytes}
    (same : ∀ index < width, data[offset + index]? = other[offset + index]?) :
    (data.drop offset).take width = (other.drop offset).take width := by
  apply List.ext_getElem?
  intro index
  rw [List.getElem?_take, List.getElem?_take, List.getElem?_drop, List.getElem?_drop]
  split
  · next covered => exact same index covered
  · rfl

/-- **A read depends on the bytes it covers and on no others.** -/
theorem slice?_congr {other : Bytes} (inside : offset + width ≤ data.length)
    (insideOther : offset + width ≤ other.length)
    (same : ∀ index < width, data[offset + index]? = other[offset + index]?) :
    data.slice? offset width = other.slice? offset width := by
  rw [slice?_of_le inside, slice?_of_le insideOther, take_drop_congr same]

/-! ## Numbers at an offset -/

/-- The little-endian bytes of a number, as many as asked for. -/
def ofNumber : (width number : Nat) → Bytes
  | 0, _ => []
  | width + 1, number => UInt8.ofNat number :: ofNumber width (number / 256)

@[simp] theorem length_ofNumber (width number : Nat) : (ofNumber width number).length = width := by
  induction width generalizing number with
  | zero => rfl
  | succ width ih => rw [ofNumber, List.length_cons, ih]

/-- The bytes of a number hold the number, as far as there are enough of them. -/
theorem littleEndian_ofNumber (width number : Nat) :
    littleEndian (ofNumber width number) = number % 256 ^ width := by
  induction width generalizing number with
  | zero => exact (Nat.mod_one number).symm
  | succ width ih =>
      have low : (UInt8.ofNat number).toNat = number % 256 := UInt8.toNat_ofNat'
      rw [ofNumber, littleEndian, low, ih, Nat.pow_succ', Nat.mod_mul]

theorem littleEndian_lt_pow (bytes : Bytes) : littleEndian bytes < 256 ^ bytes.length := by
  have bound := littleEndian_lt bytes
  rwa [Nat.one_shiftLeft, Nat.pow_mul] at bound

/-- Bytes are those of the number that they hold. -/
theorem ofNumber_littleEndian (bytes : Bytes) :
    ofNumber bytes.length (littleEndian bytes) = bytes := by
  rw [← littleEndian_inj (length_ofNumber _ _), littleEndian_ofNumber]
  exact Nat.mod_eq_of_lt (littleEndian_lt_pow bytes)

theorem littleEndian_append (first second : Bytes) :
    littleEndian (first ++ second) =
      littleEndian first + 256 ^ first.length * littleEndian second := by
  induction first with
  | nil =>
      rw [List.nil_append, littleEndian, List.length_nil, Nat.pow_zero, Nat.one_mul, Nat.zero_add]
  | cons byte first ih =>
      rw [List.cons_append, littleEndian, littleEndian, ih, List.length_cons, Nat.pow_succ',
        Nat.mul_add, Nat.mul_assoc, Nat.add_assoc]

theorem isSome_number?_iff : (data.number? offset width).isSome ↔ offset + width ≤ data.length := by
  rw [number?, Option.isSome_map, isSome_slice?_iff]

theorem number?_eq_none_iff : data.number? offset width = none ↔ data.length < offset + width := by
  rw [number?, Option.map_eq_none_iff, slice?_eq_none_iff]

theorem number?_of_le (inside : offset + width ≤ data.length) :
    data.number? offset width = some (littleEndian ((data.drop offset).take width)) := by
  rw [number?, slice?_of_le inside, Option.map_some]

/-- **A number is read exactly if the data holds its bytes.** -/
theorem number?_eq_some_iff {number : Nat} :
    data.number? offset width = some number ↔
      number < 256 ^ width ∧ data.HoldsAt offset (ofNumber width number) := by
  rw [number?, Option.map_eq_some_iff]
  constructor
  · rintro ⟨bytes, found, rfl⟩
    obtain ⟨held, rfl⟩ := slice?_eq_some_iff.mp found
    rw [ofNumber_littleEndian]
    exact ⟨littleEndian_lt_pow bytes, held⟩
  · rintro ⟨fits, held⟩
    refine ⟨_, slice?_eq_some_iff.mpr ⟨held, length_ofNumber width number⟩, ?_⟩
    rw [littleEndian_ofNumber, Nat.mod_eq_of_lt fits]

/-- **A wide number is read in two parts**, the lower one first. -/
theorem number?_add (data : Bytes) (offset width more : Nat) :
    data.number? offset (width + more) = do
      let low ← data.number? offset width
      let high ← data.number? (offset + width) more
      return low + 256 ^ width * high := by
  by_cases inside : offset + (width + more) ≤ data.length
  · have full : ((data.drop offset).take width).length = width := by
      rw [List.length_take, List.length_drop]
      omega
    rw [number?_of_le inside, number?_of_le (by omega), number?_of_le (by omega), List.take_add,
      List.drop_drop, littleEndian_append, full]
    rfl
  · have whole : data.number? offset (width + more) = none := number?_eq_none_iff.mpr (by omega)
    rw [whole]
    cases lower : data.number? offset width with
    | none => rfl
    | some low =>
        have upper : data.number? (offset + width) more = none :=
          number?_eq_none_iff.mpr (by omega)
        rw [upper]
        rfl

theorem HoldsAt.number?_eq (held : data.HoldsAt offset bytes) {inner : Nat}
    (inside : inner + width ≤ bytes.length) :
    bytes.number? inner width = data.number? (offset + inner) width := by
  rw [number?, held.slice?_eq inside, number?]

end Bytes

end AcpiTables
