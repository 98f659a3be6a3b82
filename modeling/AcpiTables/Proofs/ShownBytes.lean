import AcpiTables.Proofs.Numerals
import AcpiTables.Proofs.Reports
import Mathlib.Data.List.Forall2

/-!
# Bytes shown one by one

Bytes that are shown one by one are emitted in small texts: a text for each byte, and with a format
a space between two of them (`shownEmits`, `reports_showBytes`).  Put together, these texts are the
characters with the code points of the bytes, or the digits of the bytes with a space between two of
them (`toList_plainText_shownEmits_some`).

Numerals have no marker and no fixed width, but digits are never spaces.  So a text of numerals
falls apart at its spaces into just these numerals (`splitOn_spaced`), none of them empty: no space
begins or ends the text, and no two spaces meet (`ends_of_not_mem_splitOn`).  The one text that is
not read part by part is the empty one, which would have an empty part and stands for no bytes
(`NumberFormat.readNumerals`).
-/

namespace AcpiTables

set_option autoImplicit false

open Decoder

/-! ## Texts of numerals -/

/-- A text without an empty part neither begins nor ends with a space. -/
theorem ends_of_not_mem_splitOn {text : List Char} (parts : [] ∉ text.splitOn ' ') :
    text.head? ≠ some ' ' ∧ text.getLast? ≠ some ' ' := by
  constructor
  · intro first
    obtain ⟨rest, rfl⟩ := List.head?_eq_some_iff.mp first
    rw [← List.nil_append (' ' :: rest), List.splitOn_append_cons_self, List.splitOn_nil] at parts
    exact parts List.mem_cons_self
  · intro last
    obtain ⟨rest, rfl⟩ := List.getLast?_eq_some_iff.mp last
    rw [List.splitOn_append_cons_self, List.splitOn_nil] at parts
    exact parts (List.mem_append_right _ (List.mem_singleton_self []))

namespace NumberFormat

variable {format : NumberFormat}

/-- Digits that a number is written with: some digits of the alphabet, without a zero in front of
others, that are worth the number. -/
structure AreDigits (format : NumberFormat) (digits : List Char) (number : Nat) : Prop where
  nonempty : digits ≠ []
  ofAlphabet : ∀ digit ∈ digits, digit ∈ format.alphabet
  canonical : digits.head? = some '0' → digits = ['0']
  worth : format.value digits = number

theorem areDigits_digits (format : NumberFormat) (number : Nat) :
    format.AreDigits (format.digits number) number where
  nonempty := digits_ne_nil format number
  ofAlphabet _ there := mem_alphabet_of_mem_digits there
  canonical := digits_eq_of_head?
  worth := value_digits format number

theorem space_not_mem_digits (format : NumberFormat) (number : Nat) :
    ' ' ∉ format.digits number := by
  have unknown : ' ' ∉ format.alphabet := by
    cases format <;> decide
  exact fun there => unknown (mem_alphabet_of_mem_digits there)

/-- Numbers as digits, with a space between two of them. -/
def spaced (format : NumberFormat) (numbers : List Nat) : List Char :=
  [' '].intercalate (numbers.map format.digits)

/-- The numbers that a text of digits and spaces is worth. -/
def readNumerals (format : NumberFormat) : List Char → List Nat
  | [] => []
  | text => (text.splitOn ' ').map format.value

theorem spaced_cons_cons (first second : Nat) (numbers : List Nat) :
    format.spaced (first :: second :: numbers) =
      format.digits first ++ [' '] ++ format.spaced (second :: numbers) :=
  List.intercalate_cons_cons

/-- **A text of numerals falls apart at its spaces.** -/
theorem splitOn_spaced {numbers : List Nat} (nonempty : numbers ≠ []) :
    (format.spaced numbers).splitOn ' ' = numbers.map format.digits := by
  refine List.splitOn_intercalate ' ' ?_ (by simpa using nonempty)
  intro digits there
  obtain ⟨number, _, rfl⟩ := List.mem_map.mp there
  exact space_not_mem_digits format number

theorem nil_not_mem_map_digits (numbers : List Nat) : [] ∉ numbers.map format.digits := by
  intro there
  obtain ⟨number, _, empty⟩ := List.mem_map.mp there
  exact digits_ne_nil format number empty

theorem spaced_eq_nil_iff {numbers : List Nat} : format.spaced numbers = [] ↔ numbers = [] := by
  constructor
  · intro empty
    by_contra nonempty
    have split : (format.spaced numbers).splitOn ' ' = _ := splitOn_spaced nonempty
    rw [empty, List.splitOn_nil] at split
    exact nil_not_mem_map_digits numbers (split ▸ List.mem_singleton_self [])
  · rintro rfl
    rfl

/-- No space stands in front of the first numeral or behind the last one. -/
theorem ends_spaced (format : NumberFormat) (numbers : List Nat) :
    (format.spaced numbers).head? ≠ some ' ' ∧ (format.spaced numbers).getLast? ≠ some ' ' := by
  by_cases empty : numbers = []
  · rw [empty]
    exact ⟨nofun, nofun⟩
  · refine ends_of_not_mem_splitOn ?_
    rw [splitOn_spaced empty]
    exact nil_not_mem_map_digits numbers

/-- **The numbers are read back from their text.** -/
theorem readNumerals_spaced (format : NumberFormat) (numbers : List Nat) :
    format.readNumerals (format.spaced numbers) = numbers := by
  by_cases empty : numbers = []
  · rw [empty]
    rfl
  · rw [readNumerals, splitOn_spaced empty, List.map_map]
    · exact List.map_id'' (value_digits format) numbers
    · exact fun none => empty (spaced_eq_nil_iff.mp none)

end NumberFormat

/-! ## The emits of bytes -/

/-- The texts in which bytes are shown: one for each byte, and a space between two numerals. -/
def shownTexts (format : Option NumberFormat) (bytes : Bytes) : List String :=
  let texts := bytes.map (byteText format)
  if format.isSome then texts.intersperse " " else texts

/-- What is emitted of bytes that are shown one by one. -/
def shownEmits (format : Option NumberFormat) (bytes : Bytes) : List Emit :=
  (shownTexts format bytes).map fun text => ⟨text, none⟩

theorem shownEmits_cons_cons (format : Option NumberFormat) (byte next : UInt8) (rest : Bytes) :
    shownEmits format (byte :: next :: rest) =
      ⟨byteText format byte, none⟩ ::
        ((if format.isSome then [⟨" ", none⟩] else []) ++ shownEmits format (next :: rest)) := by
  cases format <;> rfl

/-- **Bytes are shown by their emits**, and nothing is counted. -/
theorem reports_showBytes (scope : Scope) (format : Option NumberFormat) :
    ∀ bytes : Bytes, Reports (showBytes format bytes) scope () ⟨shownEmits format bytes, 0, 0⟩
  | [] => by
      cases format <;> exact Reports.pure ()
  | [byte] => by
      cases format <;> exact Reports.print _
  | byte :: next :: rest => by
      have first : Reports (print (byteText format byte)) scope () _ := Reports.print _
      have later := reports_showBytes scope format (next :: rest)
      rw [shownEmits_cons_cons]
      cases format with
      | none =>
          have said : Reports (do print (byteText none byte); showBytes none (next :: rest))
              scope () _ := first.bind later
          exact said
      | some format =>
          have said : Reports (do
              print (byteText (some format) byte)
              print " "
              showBytes (some format) (next :: rest)) scope () _ :=
            first.bind ((Reports.print " ").bind later)
          exact said

theorem toList_plainText_shownEmits (format : Option NumberFormat) (bytes : Bytes) :
    (plainText (shownEmits format bytes)).toList =
      (shownTexts format bytes).flatMap String.toList := by
  rw [plainText, String.toList_join, shownEmits, List.map_map]
  exact congrArg (List.flatMap String.toList) (List.map_id _)

/-- The character of a byte has the byte as its code point. -/
theorem toNat_ofNat_toNat (byte : UInt8) : (Char.ofNat byte.toNat).toNat = byte.toNat := by
  have bound := byte.toNat_lt
  have valid : byte.toNat.isValidChar := .inl (by omega)
  rw [Char.ofNat, dif_pos valid]
  rfl

/-- Without a format the text has one character for each byte, with its code point. -/
theorem toNat_plainText_shownEmits_none (bytes : Bytes) :
    (plainText (shownEmits none bytes)).toList.map Char.toNat = bytes.map UInt8.toNat := by
  have characters : (shownTexts none bytes).flatMap String.toList =
      bytes.map fun byte => Char.ofNat byte.toNat := by
    have single (byte : UInt8) : (byteText none byte).toList = [Char.ofNat byte.toNat] :=
      String.toList_singleton _
    have texts : shownTexts none bytes = bytes.map (byteText none) := rfl
    rw [texts, List.flatMap_map, List.map_eq_flatMap]
    exact congrArg (List.flatMap · bytes) (funext single)
  rw [toList_plainText_shownEmits, characters, List.map_map]
  exact List.map_congr_left fun byte _ => toNat_ofNat_toNat byte

/-- With a format the text has the digits of the bytes, with a space between two of them. -/
theorem toList_plainText_shownEmits_some (format : NumberFormat) :
    ∀ bytes : Bytes, (plainText (shownEmits (some format) bytes)).toList =
      format.spaced (bytes.map UInt8.toNat)
  | [] => rfl
  | [byte] => by
      simp [toList_plainText_shownEmits, shownTexts, byteText, NumberFormat.digitText,
        NumberFormat.spaced]
  | byte :: next :: rest => by
      have later := toList_plainText_shownEmits_some format (next :: rest)
      rw [List.map_cons, List.map_cons, NumberFormat.spaced_cons_cons, ← List.map_cons, ← later]
      simp [toList_plainText_shownEmits, shownTexts, byteText, NumberFormat.digitText]

/-- **Bytes that are shown one by one are read back.**  At most `limit` of them are shown, in texts
without styles, and nothing else changes.  Without a format the characters have these bytes as code
points.  With a format their numerals stand with single spaces between them, so the parts between
the spaces give the bytes back. -/
theorem shown_bytes_are_read_back (limit : Nat) (bytes : Bytes) :
    let shown := bytes.take (min limit bytes.length)
    (∀ (format : Option NumberFormat) (session : Session),
      characters limit format bytes session =
        ((), { session with output := session.output ++ shownEmits format shown }) ∧
      ∀ emit ∈ shownEmits format shown, emit.style = none) ∧
    (plainText (shownEmits none shown)).toList.map Char.toNat = shown.map UInt8.toNat ∧
    ∀ format : NumberFormat,
      let text := (plainText (shownEmits (some format) shown)).toList
      (∃ numerals : List (List Char),
        List.Forall₂ (fun digits byte => format.AreDigits digits byte.toNat) numerals shown ∧
        text = [' '].intercalate numerals ∧
        (shown ≠ [] → text.splitOn ' ' = numerals)) ∧
      text.head? ≠ some ' ' ∧ text.getLast? ≠ some ' ' ∧
      format.readNumerals text = shown.map UInt8.toNat ∧
      (text = [] ↔ shown = []) := by
  intro shown
  have cut : bytes.take limit = shown := List.take_eq_take_min
  refine ⟨fun format session => ⟨?_, ?_⟩, toNat_plainText_shownEmits_none shown, fun format => ?_⟩
  · rw [characters, cut, reports_showBytes session.scope format shown session rfl, Session.record,
      Counters.plus_zero]
  · intro emit there
    obtain ⟨text, _, rfl⟩ := List.mem_map.mp there
    rfl
  · intro text
    have spelled : text = format.spaced (shown.map UInt8.toNat) :=
      toList_plainText_shownEmits_some format shown
    have digits : List.Forall₂ (fun digits byte => format.AreDigits digits byte.toNat)
        ((shown.map UInt8.toNat).map format.digits) shown := by
      rw [List.map_map, List.forall₂_map_left_iff, List.forall₂_same]
      exact fun byte _ => NumberFormat.areDigits_digits format byte.toNat
    have nonempty : shown ≠ [] → shown.map UInt8.toNat ≠ [] := mt List.map_eq_nil_iff.mp
    obtain ⟨first, last⟩ := NumberFormat.ends_spaced format (shown.map UInt8.toNat)
    rw [spelled, NumberFormat.spaced_eq_nil_iff, List.map_eq_nil_iff]
    exact ⟨⟨_, digits, rfl, fun bytes => NumberFormat.splitOn_spaced (nonempty bytes)⟩, first, last,
      NumberFormat.readNumerals_spaced format _, Iff.rfl⟩

/-- Three of four bytes: their numerals are of different widths, and as a character the first one
ends a line. -/
theorem shown_bytes_are_read_back_of_three :
    let bytes : Bytes := [0x0A, 0xAB, 0x01, 0x41]
    let shown : Bytes := [0x0A, 0xAB, 0x01]
    let text := (plainText (shownEmits (some .hex) shown)).toList
    bytes.take (min 3 bytes.length) = shown ∧ shown ≠ [] ∧ text = "a ab 1".toList ∧
    List.Forall₂ (fun digits byte => NumberFormat.hex.AreDigits digits byte.toNat)
      (text.splitOn ' ') shown ∧
    NumberFormat.hex.readNumerals text = [0x0A, 0xAB, 0x01] ∧
    (plainText (shownEmits none shown)).toList.map Char.toNat = [0x0A, 0xAB, 0x01] := by
  intro bytes shown text
  have nonempty : shown ≠ [] := nofun
  obtain ⟨_, codes, spelled⟩ := shown_bytes_are_read_back 3 bytes
  obtain ⟨⟨numerals, digits, _, parts⟩, _, _, worth, _⟩ := spelled .hex
  have split : text.splitOn ' ' = numerals := parts nonempty
  refine ⟨rfl, nonempty, by decide, ?_, worth, codes⟩
  rw [split]
  exact digits

end AcpiTables
