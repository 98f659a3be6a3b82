/-!
# Saturating sums of machine words

Counts and indents never wrap around: a sum that does not fit stays at the
largest value of the word.  The two statements about sums say so in the natural
numbers, and `saturate32_min_add` says that it does not matter whether a part of a sum
was held at the largest word before.
-/

namespace AcpiTables

set_option autoImplicit false

/-- The 32-bit word for a number, the largest word for a number that does not fit. -/
def saturate32 (number : Nat) : UInt32 :=
  UInt32.ofNat (min (0xFFFFFFFF) number)

/-- The sum of two 32-bit counts, held at the largest count when it does not fit. -/
def addSaturating32 (first second : UInt32) : UInt32 :=
  UInt32.ofNat (min (0xFFFFFFFF) (first.toNat + second.toNat))

/-- The sum of two 64-bit widths, held at the largest width when it does not fit. -/
def addSaturating64 (first second : UInt64) : UInt64 :=
  UInt64.ofNat (min (0xFFFFFFFFFFFFFFFF) (first.toNat + second.toNat))

@[simp] theorem toNat_saturate32 (number : Nat) :
    (saturate32 number).toNat = min (0xFFFFFFFF) number := by
  unfold saturate32
  rw [UInt32.toNat_ofNat']
  exact Nat.mod_eq_of_lt (by omega)

@[simp] theorem toNat_addSaturating32 (first second : UInt32) :
    (addSaturating32 first second).toNat = min (0xFFFFFFFF) (first.toNat + second.toNat) :=
  toNat_saturate32 _

@[simp] theorem toNat_addSaturating64 (first second : UInt64) :
    (addSaturating64 first second).toNat = min (0xFFFFFFFFFFFFFFFF) (first.toNat + second.toNat) := by
  unfold addSaturating64
  rw [UInt64.toNat_ofNat']
  exact Nat.mod_eq_of_lt (by omega)

theorem addSaturating32_eq (first second : UInt32) :
    addSaturating32 first second = saturate32 (first.toNat + second.toNat) := rfl

/-- A word is held at itself. -/
@[simp] theorem saturate32_toNat (word : UInt32) : saturate32 word.toNat = word := by
  have bound := word.toNat_lt
  rw [← UInt32.toNat_inj, toNat_saturate32]
  omega

/-- Holding a part of a sum at the largest word changes nothing. -/
theorem saturate32_min_add (first second : Nat) :
    saturate32 (min (0xFFFFFFFF) first + second) = saturate32 (first + second) := by
  rw [← UInt32.toNat_inj, toNat_saturate32, toNat_saturate32]
  omega

theorem saturate32_eq_zero_iff {number : Nat} : saturate32 number = 0 ↔ number = 0 := by
  rw [← UInt32.toNat_inj, toNat_saturate32]
  change min _ number = 0 ↔ number = 0
  omega

theorem one_lt_saturate32_iff {number : Nat} : 1 < saturate32 number ↔ 1 < number := by
  rw [UInt32.lt_iff_toNat_lt, toNat_saturate32]
  change 1 < min _ number ↔ 1 < number
  omega

end AcpiTables
