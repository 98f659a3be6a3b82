import AcpiTables.Proofs.Framing
import AcpiTables.Table
import Mathlib.Tactic.SplitIfs

/-!
# Texts without an escape character

A terminal takes commands in sequences that start with the escape character.  A text without
that character is clean.  The numerals, labels and messages of the library are clean, and so are
escaped bytes; a byte that is shown as a character need not be.
-/

namespace AcpiTables

set_option autoImplicit false

/-- The character that starts a terminal's escape sequences. -/
def escapeCharacter : Char := '\x1b'

/-- The text has no escape character. -/
def Clean (text : String) : Prop := escapeCharacter ∉ text.toList

namespace Clean

instance (text : String) : Decidable (Clean text) :=
  inferInstanceAs (Decidable (¬ escapeCharacter ∈ text.toList))

/-- A literal text is clean if its characters say so. -/
theorem iff_not_mem {text : String} : Clean text ↔ '\x1b' ∉ text.toList := by
  simp only [Clean, escapeCharacter]

@[simp] theorem append_iff {first second : String} :
    Clean (first ++ second) ↔ Clean first ∧ Clean second := by
  simp [Clean, not_or]

theorem ofList {characters : List Char} (absent : escapeCharacter ∉ characters) :
    Clean (String.ofList characters) := by
  rw [Clean, String.toList_ofList]
  exact absent

@[simp] theorem toString_iff {text : String} : Clean (toString text) ↔ Clean text := Iff.rfl

/-! ## Columns -/

theorem not_mem_spaces {character : Char} (other : character ≠ ' ') (count : Nat) :
    character ∉ (AcpiTables.spaces count).toList := by
  rw [AcpiTables.spaces, String.toList_ofList]
  exact fun there => other (List.eq_of_mem_replicate there)

@[simp] theorem spaces (count : Nat) : Clean (spaces count) := not_mem_spaces (by decide) count

@[simp] theorem columnLabel_iff {indent : Nat} {label : String} :
    Clean (columnLabel indent label) ↔ Clean label := by
  simp [columnLabel, padRight]

/-! ## Numerals -/

/-- The characters of digits up to base 16. -/
def digitCharacters : List Char := "0123456789abcdef".toList

theorem digitChar_mem : ∀ digit < 16, Nat.digitChar digit ∈ digitCharacters := by decide

theorem mem_digitCharacters_of_mem_toDigits {base number : Nat} (large : 1 < base)
    (small : base ≤ 16) {character : Char} (there : character ∈ Nat.toDigits base number) :
    character ∈ digitCharacters := by
  induction number using Nat.strongRecOn with
  | ind number ih =>
      rw [Nat.toDigits_eq_if large] at there
      split at there
      · rw [List.mem_singleton.mp there]
        exact digitChar_mem number (by omega)
      · rcases List.mem_append.mp there with early | last
        · exact ih _ (Nat.div_lt_self (by omega) large) early
        · rw [List.mem_singleton.mp last]
          exact digitChar_mem _ (Nat.lt_of_lt_of_le (Nat.mod_lt _ (by omega)) small)

/-- A character that is no digit of base 16 is in no numeral. -/
theorem not_mem_digits {character : Char} (lower : character ∉ digitCharacters)
    (upper : character ∉ digitCharacters.map Char.toUpper) (format : NumberFormat)
    (number : Nat) : character ∉ format.digits number := by
  intro there
  cases format with
  | hex =>
      exact lower (mem_digitCharacters_of_mem_toDigits (by decide) (by decide) there)
  | decimal =>
      exact lower (mem_digitCharacters_of_mem_toDigits (by decide) (by decide) there)
  | hexUpper =>
      obtain ⟨digit, shown, raised⟩ := List.mem_map.mp there
      have known := mem_digitCharacters_of_mem_toDigits (by decide) (by decide) shown
      exact upper (List.mem_map.mpr ⟨digit, known, raised⟩)

/-- A character that is neither a digit of base 16 nor in a marker is in no numeral. -/
theorem not_mem_numeral {character : Char} (lower : character ∉ digitCharacters)
    (upper : character ∉ digitCharacters.map Char.toUpper) (other : character ≠ 'x')
    (format : NumberFormat) (number : Nat) : character ∉ (format.numeral number).toList := by
  have zero : character ≠ '0' := by
    rintro rfl
    exact lower (by decide)
  have marker : character ∉ format.marker.toList := by
    cases format <;> simp [NumberFormat.marker, zero, other]
  rw [NumberFormat.numeral, NumberFormat.digitText, String.toList_append, String.toList_ofList,
    List.mem_append, not_or]
  exact ⟨marker, not_mem_digits lower upper format number⟩

theorem not_mem_toString {character : Char} (lower : character ∉ digitCharacters)
    (upper : character ∉ digitCharacters.map Char.toUpper) (number : Nat) :
    character ∉ (toString number).toList := by
  rw [Nat.toString_eq_ofList_toDigits, String.toList_ofList]
  exact not_mem_digits lower upper .decimal number

theorem escapeCharacter_not_mem_digits (format : NumberFormat) (number : Nat) :
    escapeCharacter ∉ format.digits number :=
  not_mem_digits (by decide) (by decide) format number

@[simp] theorem digitText (format : NumberFormat) (number : Nat) :
    Clean (format.digitText number) :=
  ofList (escapeCharacter_not_mem_digits format number)

@[simp] theorem numeral (format : NumberFormat) (number : Nat) : Clean (format.numeral number) :=
  not_mem_numeral (by decide) (by decide) (by decide) format number

@[simp] theorem toString_nat (number : Nat) : Clean (toString number) :=
  not_mem_toString (by decide) (by decide) number

@[simp] theorem toString_uint32 (number : UInt32) : Clean (toString number) :=
  toString_nat number.toNat

/-! ## Escaped bytes -/

theorem escapeCharacter_not_mem_escapeByte (byte : UInt8) :
    escapeCharacter ∉ escapeByte byte := by
  have plain (code : Nat) (other : code ≠ 27) (ascii : code < 127) :
      escapeCharacter ≠ Char.ofNat code := by
    have spared : ∀ code < 127, code ≠ 27 → escapeCharacter ≠ Char.ofNat code := by decide
    exact spared code ascii other
  have digits : escapeCharacter ∉
      (NumberFormat.hex.digitTextOfWidth 2 byte.toNat).toList := by
    rw [NumberFormat.digitTextOfWidth, String.toList_ofList, List.mem_append, not_or]
    refine ⟨fun there => ?_, escapeCharacter_not_mem_digits .hex byte.toNat⟩
    exact absurd (List.eq_of_mem_replicate there) (by decide)
  simp only [escapeByte]
  split_ifs with tab newline carriage quoted printable
  · decide
  · decide
  · decide
  · simp only [List.mem_cons, List.not_mem_nil, or_false, not_or]
    exact ⟨by decide, plain _ (by omega) (by omega)⟩
  · rw [List.mem_singleton]
    exact plain _ (by omega) printable.2
  · simp only [List.mem_cons, not_or]
    exact ⟨by decide, by decide, digits⟩

@[simp] theorem escapeBytes (data : Bytes) : Clean (escapeBytes data) := by
  refine ofList fun there => ?_
  obtain ⟨byte, _, shown⟩ := List.mem_flatMap.mp there
  exact escapeCharacter_not_mem_escapeByte byte shown

end Clean

/-! ## Messages -/

namespace Record

theorem clean_offsetMismatch {record field : String} (titled : Clean record)
    (named : Clean field) (current declared : Nat) :
    Clean (Fault.message (.offsetMismatch record field current declared)) := by
  unfold Fault.message
  simp only [true_and, and_true, Clean.append_iff, Clean.toString_iff, Clean.toString_nat, titled,
    named]
  and_intros <;> exact .ofList (by decide)

theorem clean_unreadableWidth {record : String} (titled : Clean record) (width : Nat) :
    Clean (Fault.message (.unreadableWidth record width)) := by
  unfold Fault.message
  simp only [true_and, and_true, Clean.append_iff, Clean.toString_iff, Clean.toString_nat, titled]
  exact .ofList (by decide)

end Record

namespace Structure

theorem clean_title {name : String} (named : Clean name) (index : UInt32) :
    Clean (title name index) := by
  unfold title
  simp only [true_and, and_true, Clean.append_iff, Clean.toString_iff, Clean.toString_uint32, named]
  and_intros <;> exact .ofList (by decide)

theorem clean_breakdownLine {name : String} (named : Clean name) (count : UInt32) :
    Clean (Census.breakdownLine name count) := by
  unfold Census.breakdownLine
  simp only [true_and, and_true, Clean.append_iff, Clean.columnLabel_iff, Clean.toString_uint32,
    named]
  and_intros <;> exact .ofList (by decide)

theorem clean_unknownCode {family : String} (named : Clean family) (code : UInt32) :
    Clean (Fault.message (.unknownCode family code)) := by
  unfold Fault.message
  simp only [and_true, Clean.append_iff, Clean.toString_iff, Clean.toString_uint32, named]
  and_intros <;> exact .ofList (by decide)

theorem clean_unsupported {name : String} (named : Clean name) :
    Clean (Fault.message (.unsupported name)) := by
  unfold Fault.message
  simp only [and_true, Clean.append_iff, Clean.toString_iff, named]
  and_intros <;> exact .ofList (by decide)

theorem clean_disallowed {name : String} (named : Clean name) (count : UInt32) :
    Clean (Fault.message (.disallowed name count)) := by
  unfold Fault.message
  simp only [true_and, and_true, Clean.append_iff, Clean.toString_iff, Clean.toString_uint32, named]
  and_intros <;> exact .ofList (by decide)

/-- The fault that keeps a walk from going on is told cleanly. -/
theorem clean_faultAt {schema : Schema} {table : Bytes} {stop : Nat} {status : WalkStatus}
    {fault : WalkFault} (named : Clean schema.name)
    (early : faultAt schema table stop status = some fault) : Clean fault.message := by
  cases status with
  | complete => cases early
  | truncated | invalidLength =>
      cases early
      unfold WalkFault.message
      simp only [and_true, Clean.append_iff, Clean.toString_iff, Clean.toString_nat, named]
      and_intros <;> exact .ofList (by decide)

end Structure

theorem InterruptController.clean_message (fault : Fault) : Clean fault.message := by
  cases fault with
  | vectorBase | severalDistributors => exact .ofList (by decide)
  | overflowRange | overflowAssignment =>
      unfold Fault.message
      simp only [true_and, and_true, Clean.append_iff, Clean.toString_iff, Clean.toString_nat]
      and_intros <;> exact .ofList (by decide)

theorem ProcessorTopology.clean_message {fault : Fault}
    (named : ∀ name length, fault = .shortNode name length → Clean name) :
    Clean fault.message := by
  cases fault with
  | noSets | noWays | lineSizePower | reservedAttributes => exact .ofList (by decide)
  | extendedSets | plainSets | lineSizeRange | resourceCount =>
      unfold Fault.message
      simp only [and_true, Clean.append_iff, Clean.toString_iff, Clean.toString_nat]
      and_intros <;> exact .ofList (by decide)
  | shortNode name length =>
      unfold Fault.message
      simp only [and_true, Clean.append_iff, Clean.toString_iff, Clean.toString_nat,
        named name length rfl]
      and_intros <;> exact .ofList (by decide)

theorem Table.clean_message (fault : Fault) : Clean fault.message := by
  cases fault with
  | shortBuffer | shortTable | overlongTable =>
      unfold Fault.message
      simp only [and_true, Clean.append_iff, Clean.toString_iff, Clean.toString_nat]
      and_intros <;> exact .ofList (by decide)

end AcpiTables
