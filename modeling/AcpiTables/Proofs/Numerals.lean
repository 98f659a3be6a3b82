import AcpiTables.Field.Value
import Mathlib.Algebra.GroupWithZero.Nat

/-!
# Numerals read back

A numeral is a marker and then digits.  The digits of a format are the characters of its alphabet,
each worth its position there, and a run of digits is worth what they say from left to right
(`NumberFormat.value`).  The digits of a number are of the alphabet (`mem_alphabet_of_mem_digits`),
are worth the number (`value_digits`), and start with a zero only if the number is zero
(`digits_eq_of_head?`), so a number is known from its numeral (`digits_inj`).

The number that bytes hold is the sum of the bytes at their powers of 256
(`Bytes.littleEndian_eq_sum`), and bytes of one length that hold the same number are the same
(`Bytes.littleEndian_inj`).  Together this says what becomes of the bytes of an integer that is
shown (`integers_are_shown_faithfully`).
-/

namespace AcpiTables

set_option autoImplicit false

open Decoder

namespace NumberFormat

/-- The digits of a format, each at the position that is its value. -/
def alphabet : NumberFormat → List Char
  | .hex => "0123456789abcdef".toList
  | .hexUpper => "0123456789ABCDEF".toList
  | .decimal => "0123456789".toList

/-- What a run of digits is worth, the most significant one first. -/
def value (format : NumberFormat) (digits : List Char) : Nat :=
  digits.foldl (fun worth digit => worth * format.base + format.alphabet.idxOf digit) 0

/-- The character that a format has for a small number. -/
def digitFor (format : NumberFormat) (number : Nat) : Char :=
  match format with
  | .hexUpper => (Nat.digitChar number).toUpper
  | _ => Nat.digitChar number

variable {format : NumberFormat}

theorem one_lt_base (format : NumberFormat) : 1 < format.base := by
  cases format <;> decide

/-- The digit for a number is at the position of that number in the alphabet, and it is a zero only
for zero. -/
theorem digitFor_spec : ∀ (format : NumberFormat), ∀ number < format.base,
    format.digitFor number ∈ format.alphabet ∧
      format.alphabet.idxOf (format.digitFor number) = number ∧
      (format.digitFor number = '0' → number = 0)
  | .hex => by decide
  | .hexUpper => by decide
  | .decimal => by decide

/-! ## The digits of a number -/

theorem digits_of_lt {number : Nat} (small : number < format.base) :
    format.digits number = [format.digitFor number] := by
  cases format with
  | hex => exact Nat.toDigits_of_lt_base small
  | hexUpper => exact congrArg (List.map Char.toUpper) (Nat.toDigits_of_lt_base small)
  | decimal => exact Nat.toDigits_of_lt_base small

/-- The last digit of a larger number stands behind the digits of the rest. -/
theorem digits_of_le {number : Nat} (large : format.base ≤ number) :
    format.digits number = format.digits (number / format.base) ++
      [format.digitFor (number % format.base)] := by
  have rest : Nat.toDigits format.base number =
      Nat.toDigits format.base (number / format.base) ++ [(number % format.base).digitChar] :=
    Nat.toDigits_of_base_le (one_lt_base format) large
  cases format with
  | hex => exact rest
  | hexUpper => exact (congrArg (List.map Char.toUpper) rest).trans List.map_append
  | decimal => exact rest

/-- Induction on the digits of a number: it has one digit, or it has one more than the rest. -/
theorem induction_on_digits (format : NumberFormat) {motive : Nat → Prop}
    (small : ∀ number, number < format.base → motive number)
    (large : ∀ number, format.base ≤ number → motive (number / format.base) → motive number)
    (number : Nat) : motive number := by
  induction number using Nat.strongRecOn with
  | ind number ih =>
      have wide := one_lt_base format
      rcases Nat.lt_or_ge number format.base with below | above
      · exact small number below
      · exact large number above (ih _ (Nat.div_lt_self (by omega) wide))

theorem mod_base_lt (format : NumberFormat) (number : Nat) : number % format.base < format.base :=
  Nat.mod_lt number (Nat.zero_lt_of_lt (one_lt_base format))

theorem digits_ne_nil (format : NumberFormat) (number : Nat) : format.digits number ≠ [] := by
  rcases Nat.lt_or_ge number format.base with below | above
  · rw [digits_of_lt below]
    exact List.cons_ne_nil _ _
  · rw [digits_of_le above]
    exact List.append_ne_nil_of_right_ne_nil _ (List.cons_ne_nil _ _)

theorem mem_alphabet_of_mem_digits {number : Nat} {digit : Char}
    (there : digit ∈ format.digits number) : digit ∈ format.alphabet := by
  induction number using induction_on_digits format with
  | small number below =>
      rw [digits_of_lt below, List.mem_singleton] at there
      rw [there]
      exact (digitFor_spec format number below).1
  | large number above ih =>
      rw [digits_of_le above, List.mem_append, List.mem_singleton] at there
      rcases there with early | rfl
      · exact ih early
      · exact (digitFor_spec format _ (mod_base_lt format number)).1

theorem eq_zero_of_head? {number : Nat} (zero : (format.digits number).head? = some '0') :
    number = 0 := by
  induction number using induction_on_digits format with
  | small number below =>
      rw [digits_of_lt below] at zero
      exact (digitFor_spec format number below).2.2 (Option.some.inj zero)
  | large number above ih =>
      obtain ⟨first, others, split⟩ := List.exists_cons_of_ne_nil
        (digits_ne_nil format (number / format.base))
      rw [digits_of_le above, split, List.cons_append, List.head?_cons] at zero
      rw [split, List.head?_cons] at ih
      have rest : 0 < number / format.base :=
        Nat.div_pos above (Nat.zero_lt_of_lt (one_lt_base format))
      exact absurd (ih zero) (Nat.ne_of_gt rest)

/-- A number of more than one digit does not start with a zero. -/
theorem digits_eq_of_head? {number : Nat} (zero : (format.digits number).head? = some '0') :
    format.digits number = ['0'] := by
  rw [eq_zero_of_head? zero]
  cases format <;> rfl

/-! ## What digits are worth -/

theorem value_concat (digits : List Char) (digit : Char) :
    format.value (digits ++ [digit]) =
      format.value digits * format.base + format.alphabet.idxOf digit := by
  rw [value, List.foldl_append, List.foldl_cons, List.foldl_nil, value]

/-- **The digits of a number are worth the number.** -/
theorem value_digits (format : NumberFormat) (number : Nat) :
    format.value (format.digits number) = number := by
  induction number using induction_on_digits format with
  | small number below =>
      rw [digits_of_lt below, ← List.nil_append [format.digitFor number], value_concat,
        (digitFor_spec format number below).2.1]
      exact (congrArg (· + number) (Nat.zero_mul _)).trans (Nat.zero_add number)
  | large number above ih =>
      rw [digits_of_le above, value_concat, ih,
        (digitFor_spec format _ (mod_base_lt format number)).2.1, Nat.mul_comm, Nat.div_add_mod]

/-- **A number is known from its digits.** -/
theorem digits_inj {first second : Nat} :
    format.digits first = format.digits second ↔ first = second := by
  constructor
  · intro same
    rw [← value_digits format first, same, value_digits]
  · intro same
    rw [same]

theorem numeral_inj {first second : Nat} :
    format.numeral first = format.numeral second ↔ first = second := by
  have digits : format.digits first = format.digits second ↔ first = second := digits_inj
  rw [← digits, numeral, numeral, digitText, digitText, String.append_right_inj, String.ofList_inj]

end NumberFormat

/-! ## The number that bytes hold -/

namespace Bytes

theorem sum_mapIdx_eq (start : Nat) (bytes : Bytes) :
    (bytes.mapIdx fun index byte => byte.toNat * 256 ^ (start + index)).sum =
      256 ^ start * littleEndian bytes := by
  induction bytes generalizing start with
  | nil => rfl
  | cons byte bytes ih =>
      have later : (bytes.mapIdx fun index byte => byte.toNat * 256 ^ (start + (index + 1))).sum =
          256 ^ (start + 1) * littleEndian bytes := by
        rw [← ih (start + 1)]
        refine congrArg (fun weigh => (bytes.mapIdx weigh).sum) (funext fun index => ?_)
        rw [Nat.add_assoc, Nat.add_comm 1 index]
      rw [List.mapIdx_cons, List.sum_cons, later, littleEndian, Nat.mul_add, Nat.pow_succ,
        Nat.mul_assoc, Nat.add_zero, Nat.mul_comm byte.toNat]

/-- **The number that bytes hold is the sum of the bytes at their powers of 256.** -/
theorem littleEndian_eq_sum (bytes : Bytes) :
    littleEndian bytes = (bytes.mapIdx fun index byte => byte.toNat * 256 ^ index).sum := by
  have sum := sum_mapIdx_eq 0 bytes
  simp only [Nat.zero_add, Nat.pow_zero, Nat.one_mul] at sum
  exact sum.symm

/-- **Bytes of one length are known from the number that they hold.** -/
theorem littleEndian_inj {first second : Bytes} (length : first.length = second.length) :
    littleEndian first = littleEndian second ↔ first = second := by
  induction first generalizing second with
  | nil =>
      rw [List.length_nil, eq_comm, List.length_eq_zero_iff] at length
      rw [length]
      exact iff_of_true rfl rfl
  | cons byte first ih =>
      cases second with
      | nil => cases length
      | cons other second =>
          have bound := byte.toNat_lt
          have otherBound := other.toNat_lt
          rw [List.cons_eq_cons, ← ih (Nat.succ.inj length), ← UInt8.toNat_inj, littleEndian,
            littleEndian]
          omega

end Bytes

/-! ## Integers -/

theorem isIntegerWidth_iff {width : Nat} : isIntegerWidth width = true ↔ width ∈ [1, 2, 4, 8] := by
  simp [isIntegerWidth, or_assoc]

theorem showInteger_of_width (format : NumberFormat) {bytes : Bytes}
    (width : bytes.length ∈ [1, 2, 4, 8]) (session : Session) :
    showInteger format bytes session =
      (true, session.emit ⟨format.numeral bytes.littleEndian, none⟩) := by
  rw [showInteger, if_pos (isIntegerWidth_iff.mpr width)]
  rfl

theorem showInteger_of_other_width (format : NumberFormat) {bytes : Bytes}
    (width : bytes.length ∉ [1, 2, 4, 8]) (session : Session) :
    showInteger format bytes session = (false, session) := by
  rw [showInteger, if_neg (fun shown => width (isIntegerWidth_iff.mp shown))]
  rfl

/-- **Integers are shown faithfully.**  Bytes are shown, and said to be shown, exactly if there are
1, 2, 4 or 8 of them.  Then one text is printed: the marker of the format and digits of its
alphabet, without a zero in front of other digits, which are worth the sum of the bytes at their
powers of 256.  So two runs of bytes of one such length are printed alike exactly if they are the
same.  Of any other number of bytes nothing is printed, and the session is left as it is. -/
theorem integers_are_shown_faithfully (format : NumberFormat) :
    (∀ (bytes : Bytes) (session : Session),
      let run := showInteger format bytes session
      (run.1 = true ↔ bytes.length ∈ [1, 2, 4, 8]) ∧
      (run.2.emits ≠ session.emits ↔ bytes.length ∈ [1, 2, 4, 8]) ∧
      (bytes.length ∈ [1, 2, 4, 8] → ∃ digits : List Char,
        run.2 = session.emit ⟨format.marker ++ String.ofList digits, none⟩ ∧
        digits ≠ [] ∧ (∀ digit ∈ digits, digit ∈ format.alphabet) ∧
        (digits.head? = some '0' → digits = ['0']) ∧
        format.value digits = (bytes.mapIdx fun index byte => byte.toNat * 256 ^ index).sum) ∧
      (bytes.length ∉ [1, 2, 4, 8] → run = (false, session))) ∧
    ∀ (first second : Bytes) (session : Session), first.length = second.length →
      first.length ∈ [1, 2, 4, 8] →
        ((showInteger format first session).2 = (showInteger format second session).2 ↔
          first = second) := by
  constructor
  · intro bytes session run
    by_cases width : bytes.length ∈ [1, 2, 4, 8]
    · have shown : run = (true, session.emit ⟨format.numeral bytes.littleEndian, none⟩) :=
        showInteger_of_width format width session
      have more : run.2.emits ≠ session.emits := by
        rw [shown, Session.emit_eq_record, Session.emits_record]
        simp [Report.ofEmit]
      refine ⟨iff_of_true (congrArg Prod.fst shown) width, iff_of_true more width, fun _ => ?_,
        fun other => absurd width other⟩
      refine ⟨format.digits bytes.littleEndian, congrArg Prod.snd shown,
        NumberFormat.digits_ne_nil format _, fun digit => NumberFormat.mem_alphabet_of_mem_digits,
        NumberFormat.digits_eq_of_head?, ?_⟩
      rw [NumberFormat.value_digits, Bytes.littleEndian_eq_sum]
    · have refused : run = (false, session) := showInteger_of_other_width format width session
      have unshown : ¬ run.1 = true := by
        rw [refused]
        exact Bool.false_ne_true
      have same : run.2.emits = session.emits := congrArg (fun run => run.2.emits) refused
      exact ⟨iff_of_false unshown width, iff_of_false (not_not_intro same) width,
        fun inside => absurd inside width, fun _ => refused⟩
  · intro first second session length width
    have numerals : format.numeral first.littleEndian = format.numeral second.littleEndian ↔
        first = second :=
      NumberFormat.numeral_inj.trans (Bytes.littleEndian_inj length)
    rw [showInteger_of_width format width, showInteger_of_width format (length ▸ width), ← numerals]
    constructor
    · intro same
      have pushed := congrArg Session.output same
      exact congrArg Emit.text (Array.push_eq_push.mp pushed).1
    · intro same
      rw [same]

/-- The largest number of eight bytes, and two bytes that end in a zero, in capital digits. -/
theorem integers_are_shown_faithfully_at_the_largest_word :
    let bytes : Bytes := List.replicate 8 0xFF
    let session : Session := .start .default
    bytes.length ∈ [1, 2, 4, 8] ∧
    (bytes.mapIdx fun index byte => byte.toNat * 256 ^ index).sum = 2 ^ 64 - 1 ∧
    (∃ digits : List Char,
      (showInteger .hexUpper bytes session).2 = session.emit ⟨"0x" ++ String.ofList digits, none⟩ ∧
      NumberFormat.hexUpper.value digits = 2 ^ 64 - 1) ∧
    ((showInteger .hexUpper [1, 0] session).2 ≠ (showInteger .hexUpper [0, 1] session).2) := by
  intro bytes session
  have width : bytes.length ∈ [1, 2, 4, 8] := by decide
  have sum : (bytes.mapIdx fun index byte => byte.toNat * 256 ^ index).sum = 2 ^ 64 - 1 := by decide
  obtain ⟨runs, pairs⟩ := integers_are_shown_faithfully .hexUpper
  obtain ⟨_, _, shown, _⟩ := runs bytes session
  obtain ⟨digits, printed, _, _, _, worth⟩ := shown width
  refine ⟨width, sum, ⟨digits, printed, worth.trans sum⟩, fun alike => ?_⟩
  exact absurd ((pairs [1, 0] [0, 1] session rfl (by decide)).mp alike) (by decide)

end AcpiTables
