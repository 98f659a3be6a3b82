import AcpiTables.Record
import Mathlib.Algebra.GroupWithZero.Nat

/-!
# Where the fields of a record lie

`Record.places` gives for every field of a list the place at which it is decoded, or
none for a field that does not fit into the bytes behind the fields decoded before it.
The places depend on the data and on the widths alone.

The value of a decode is a function of the places: it is `Record.reading`, whatever is
traced and shown, in every session, and for every renderer and check
(`Record.decode_value`).  So field lists with the same widths and the same kept fields
give the same reading (`Record.readingFrom_congr`).
-/

namespace AcpiTables

set_option autoImplicit false

open Decoder

namespace Record

/-- The places of fields that are decoded from the bytes at a running offset. -/
def places (offset : Nat) (rest : Bytes) : List Field → List (Option Capture)
  | [] => []
  | field :: fields =>
      if field.width ≤ rest.length then
        some ⟨offset, rest.take field.width⟩ ::
          places (offset + field.width) (rest.drop field.width) fields
      else none :: places offset rest fields

/-- The number of bytes at a place. -/
def placeWidth : Option Capture → Nat
  | some place => place.bytes.length
  | none => 0

/-- What is kept of a field that lies at a place. -/
def keep (field : Field) (place : Option Capture) : Option Capture :=
  if field.captured then place else none

/-- The reading of fields that are decoded from the bytes at a running offset. -/
def readingFrom (offset : Nat) (rest : Bytes) (fields : List Field) : Reading where
  consumed := offset + ((places offset rest fields).map placeWidth).sum
  captures := List.zipWith keep fields (places offset rest fields)

/-- The reading of a record: the bytes of the decoded fields and the places of the kept ones. -/
def reading (data : Bytes) (fields : List Field) : Reading := readingFrom 0 data fields

section Fields

variable {offset : Nat} {rest : Bytes} {field : Field} {fields : List Field}

theorem places_cons_of_fits (fits : field.width ≤ rest.length) :
    places offset rest (field :: fields) =
      some ⟨offset, rest.take field.width⟩ ::
        places (offset + field.width) (rest.drop field.width) fields := by
  rw [places, if_pos fits]

theorem places_cons_of_not_fits (passes : ¬ field.width ≤ rest.length) :
    places offset rest (field :: fields) = none :: places offset rest fields := by
  rw [places, if_neg passes]

/-- There is one entry for every field. -/
@[simp] theorem length_places : (places offset rest fields).length = fields.length := by
  fun_induction places offset rest fields with
  | case1 => rfl
  | case2 offset rest field fields fits ih => rw [List.length_cons, List.length_cons, ih]
  | case3 offset rest field fields passes ih => rw [List.length_cons, List.length_cons, ih]

theorem readingFrom_cons_of_fits (fits : field.width ≤ rest.length) :
    readingFrom offset rest (field :: fields) =
      (readingFrom (offset + field.width) (rest.drop field.width) fields).consCapture
        (if field.captured then some ⟨offset, rest.take field.width⟩ else none) := by
  simp [readingFrom, places_cons_of_fits fits, Reading.consCapture, keep, placeWidth, fits,
    Nat.add_assoc]

theorem readingFrom_cons_of_not_fits (passes : ¬ field.width ≤ rest.length) :
    readingFrom offset rest (field :: fields) =
      (readingFrom offset rest fields).consCapture none := by
  simp [readingFrom, places_cons_of_not_fits passes, Reading.consCapture, keep, placeWidth]

end Fields

/-! ## The value of a decode -/

theorem decodeFrom_value (trace : Bool) (title : Option String) (offset : Nat) (rest : Bytes)
    (fields : List Field) (session : Session) :
    (decodeFrom trace title offset rest fields session).1 = readingFrom offset rest fields := by
  induction fields generalizing offset rest session with
  | nil => rfl
  | cons field fields ih =>
      unfold decodeFrom
      by_cases fits : field.width ≤ rest.length
      · rw [if_pos fits, readingFrom_cons_of_fits fits]
        simp only [bind_apply, pure_apply, ih]
      · rw [if_neg fits, readingFrom_cons_of_not_fits fits]
        simp only [bind_apply, pure_apply, ih]

/-- **A decode gives the reading of its data**, whatever it shows and reports on the way. -/
theorem decode_value (trace : Bool) (indent : UInt64) (title : Option String) (data : Bytes)
    (fields : List Field) (session : Session) :
    (decode trace indent title data fields session).1 = reading data fields := by
  simp only [decode, indented, bind_apply, decodeFrom_value, reading]

/-- Where the whole record is there, all its bytes are consumed. -/
theorem consumed_readingFrom_of_whole {offset : Nat} {rest : Bytes} {fields : List Field}
    (whole : (fields.map Field.width).sum ≤ rest.length) :
    (readingFrom offset rest fields).consumed = offset + (fields.map Field.width).sum := by
  induction fields generalizing offset rest with
  | nil => rfl
  | cons field fields ih =>
      rw [List.map_cons, List.sum_cons] at whole ⊢
      have fits : field.width ≤ rest.length := by omega
      have behind : (fields.map Field.width).sum ≤ (rest.drop field.width).length := by
        rw [List.length_drop]
        omega
      rw [readingFrom_cons_of_fits fits, Reading.consCapture, ih behind, Nat.add_assoc]

/-! ## What the places depend on -/

/-- Fields with the same widths have the same places. -/
theorem places_congr {offset : Nat} {rest : Bytes} {fields others : List Field}
    (widths : fields.map Field.width = others.map Field.width) :
    places offset rest fields = places offset rest others := by
  induction fields generalizing offset rest others with
  | nil =>
      rw [List.map_nil, eq_comm, List.map_eq_nil_iff] at widths
      rw [widths]
  | cons field fields ih =>
      cases others with
      | nil => cases widths
      | cons other others =>
          obtain ⟨width, tail⟩ := List.cons_eq_cons.mp widths
          simp only [places, ← width, ih tail]

/-- Fields with the same widths, of which the same ones are kept, have the same reading. -/
theorem readingFrom_congr {offset : Nat} {rest : Bytes} {fields others : List Field}
    (widths : fields.map Field.width = others.map Field.width)
    (kept : fields.map Field.captured = others.map Field.captured) :
    readingFrom offset rest fields = readingFrom offset rest others := by
  have captures (found : List (Option Capture)) :
      List.zipWith keep fields found = List.zipWith keep others found := by
    have keep_eq (list : List Field) : List.zipWith keep list found =
        List.zipWith (fun captured place => if captured then place else none)
          (list.map Field.captured) found := by
      rw [List.zipWith_map_left]
      rfl
    rw [keep_eq, keep_eq, kept]
  simp only [readingFrom, places_congr widths, captures]

/-- A field wider than the remaining bytes has no place, and neither have the fields behind
it that are as wide. -/
theorem places_eq_none_of_passes {offset : Nat} {rest : Bytes} {fields : List Field}
    (passes : ∀ field ∈ fields, rest.length < field.width) :
    ∀ place ∈ places offset rest fields, place = none := by
  induction fields with
  | nil => simp [places]
  | cons field fields ih =>
      have skipped : ¬ field.width ≤ rest.length :=
        Nat.not_le.mpr (passes field List.mem_cons_self)
      rw [places_cons_of_not_fits skipped]
      intro place member
      rcases List.mem_cons.mp member with rfl | later
      · rfl
      · exact ih (fun other there => passes other (List.mem_cons_of_mem field there)) place later

end Record

end AcpiTables
