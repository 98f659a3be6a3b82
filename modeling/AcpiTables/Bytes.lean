/-!
# Bytes and little-endian numbers

A table image is a list of bytes.  Tables are little-endian and promise no
alignment, so a number is read from any offset by taking the bytes it covers,
and a read that would pass the end of the data gives nothing.

Offsets and widths are natural numbers, so the sum of an offset and a width
never wraps: `slice?` succeeds exactly when that exact sum is at most the length
of the data.
-/

namespace AcpiTables

set_option autoImplicit false

/-- A table image, or a run of bytes inside one. -/
abbrev Bytes := List UInt8

namespace Bytes

/-- The number whose base-256 digits are the bytes, least significant first. -/
def littleEndian : Bytes → Nat
  | [] => 0
  | byte :: rest => byte.toNat + 256 * littleEndian rest

/-- The `width` bytes at `offset`, unless the data ends before them. -/
def slice? (data : Bytes) (offset width : Nat) : Option Bytes :=
  if offset + width ≤ data.length then some ((data.drop offset).take width) else none

/-- The little-endian number held in the `width` bytes at `offset`. -/
def number? (data : Bytes) (offset width : Nat) : Option Nat :=
  (slice? data offset width).map littleEndian

/-- The sum of all bytes, modulo 256. -/
def sum (data : Bytes) : UInt8 :=
  data.foldl (· + ·) 0

/-! ## Reads at a given place -/

theorem slice?_eq_none_iff {data : Bytes} {offset width : Nat} :
    slice? data offset width = none ↔ data.length < offset + width := by
  unfold slice?
  split <;> simp <;> omega

theorem slice?_length {data bytes : Bytes} {offset width : Nat}
    (found : slice? data offset width = some bytes) : bytes.length = width := by
  unfold slice? at found
  split at found
  · cases found
    simp only [List.length_take, List.length_drop]
    omega
  · cases found

theorem littleEndian_lt (data : Bytes) : littleEndian data < 1 <<< (8 * data.length) := by
  induction data with
  | nil => decide
  | cons byte rest inductionHypothesis =>
      have bound := byte.toNat_lt
      rw [Nat.one_shiftLeft] at *
      simp only [littleEndian, List.length_cons, Nat.mul_add, Nat.pow_add]
      omega

end Bytes

end AcpiTables
