import AcpiTables.Proofs.HeldBytes
import AcpiTables.Proofs.Tallies

/-!
# Where records are whole and where they are cut

Data that has the whole of a consistent record holds every field at its declared offset
(`Record.places_of_whole`), so what is kept of a field is a plain read of the data there
(`Record.WellLaid.number?`).

A record whose widths never decrease is cut cleanly: data that ends early leaves its last field
without a place (`Record.places_last_of_short`), and a traced decode counts nothing, however short
the data is (`Record.counts_decode_of_widening`).
-/

namespace AcpiTables

set_option autoImplicit false

open Decoder

namespace Bytes

/-- A number read at the start of a slice is the number read from where the slice lies. -/
theorem number?_take_drop {data : Bytes} {offset width : Nat}
    (inside : offset + width ≤ data.length) :
    number? ((data.drop offset).take width) 0 width = data.number? offset width := by
  have whole : 0 + width ≤ ((data.drop offset).take width).length := by
    rw [List.length_take, List.length_drop]
    omega
  exact (holdsAt_take_drop inside).number?_eq whole

/-- Bytes before an offset are not changed if the data is cut there. -/
theorem take_drop_take {data : Bytes} {extent offset width : Nat}
    (inside : offset + width ≤ extent) :
    ((data.take extent).drop offset).take width = (data.drop offset).take width := by
  have fewer : width ≤ extent - offset := by omega
  rw [List.drop_take, List.take_take, Nat.min_eq_left fewer]

theorem number?_take {data : Bytes} {count offset width : Nat} (inside : offset + width ≤ count) :
    number? (data.take count) offset width = data.number? offset width := by
  unfold number? slice?
  rw [List.length_take, take_drop_take inside]
  by_cases there : offset + width ≤ data.length
  · rw [if_pos (by omega), if_pos there]
  · rw [if_neg (by omega), if_neg there]

theorem exists_number? {data : Bytes} {offset width : Nat} (inside : offset + width ≤ data.length) :
    ∃ number, data.number? offset width = some number :=
  ⟨_, number?_of_le inside⟩

end Bytes

namespace Record

/-! ## Whole records -/

section Whole

variable {data : Bytes} {fields : List Field}

/-- The fields of a whole consistent record lie at their declared offsets. -/
theorem places_of_whole {offset : Nat} (consistent : ConsistentFrom offset fields)
    (whole : offset + (fields.map Field.width).sum ≤ data.length) :
    places offset (data.drop offset) fields =
      fields.map fun field => some ⟨field.offset, bytesOf data field⟩ := by
  induction fields generalizing offset with
  | nil => rfl
  | cons field fields ih =>
      obtain ⟨rfl, later⟩ := consistent
      rw [List.map_cons, List.sum_cons] at whole
      have fits : field.width ≤ (data.drop field.offset).length := by
        rw [List.length_drop]
        omega
      rw [places_cons_of_fits fits, List.drop_drop, ih later (by omega), List.map_cons, bytesOf]

section Laid

variable {width : Nat} (laid : WellLaid fields width) (whole : width ≤ data.length)

include laid whole

theorem WellLaid.places_eq :
    places 0 data fields = fields.map fun field => some ⟨field.offset, bytesOf data field⟩ := by
  have sum : 0 + (fields.map Field.width).sum ≤ data.length := by
    rw [Nat.zero_add, laid.width]
    exact whole
  exact places_of_whole laid.consistent sum

/-- A whole record is consumed as a whole. -/
theorem WellLaid.consumed : (reading data fields).consumed = width := by
  have sum : (fields.map Field.width).sum ≤ data.length := by
    rw [laid.width]
    exact whole
  rw [reading, consumed_readingFrom_of_whole sum, laid.width, Nat.zero_add]

/-- A kept field of a whole record is captured at its declared offset. -/
theorem WellLaid.capture? {index : Nat} {field : Field} (here : fields[index]? = some field)
    (kept : field.captured = true) :
    (reading data fields).capture? index = some ⟨field.offset, bytesOf data field⟩ := by
  simp [reading, readingFrom, laid.places_eq whole, Reading.capture?, List.getElem?_zipWith, here,
    keep, kept]

/-- The number held in a kept field of a whole record. -/
theorem WellLaid.number? {index : Nat} {field : Field} (here : fields[index]? = some field)
    (kept : field.captured = true) (inside : field.offset + field.width ≤ data.length) :
    (reading data fields).number? index field.width = data.number? field.offset field.width := by
  rw [Reading.number?, laid.capture? whole here kept, Option.bind_some, Capture.number?]
  exact Bytes.number?_take_drop inside

/-- Reading a whole record without tracing it leaves the session as it is. -/
theorem WellLaid.decode_untraced {indent : UInt64} {title : Option String} :
    decode false indent title data fields = pure (reading data fields) := by
  have front : DecodesFront 0 data fields := by
    refine ⟨places 0 data fields, [], (List.append_nil _).symm, ?_, List.forall_mem_nil _⟩
    simp [laid.places_eq whole]
  funext session
  exact decode_untraced_of_no_drift fun _ =>
    (length_drifts_of_consistentFrom laid.consistent).trans (strays_eq_zero_iff.mpr front)

end Laid

end Whole

/-! ## Records that are cut -/

/-- Data that ends before the end of a record with growing widths has no place for the last
field. -/
theorem places_last_of_short {offset : Nat} {rest : Bytes} {fields : List Field} {last : Field}
    (widths : (fields ++ [last]).Pairwise fun earlier later => earlier.width ≤ later.width)
    (short : rest.length < ((fields ++ [last]).map Field.width).sum) :
    (places offset rest (fields ++ [last]))[fields.length]? = some none := by
  induction fields generalizing offset rest with
  | nil =>
      have passes : ¬ last.width ≤ rest.length := by
        simpa using short
      rw [List.nil_append, places_cons_of_not_fits passes]
      rfl
  | cons field fields ih =>
      obtain ⟨wider, later⟩ := List.pairwise_cons.mp widths
      rw [List.cons_append, List.map_cons, List.sum_cons] at short
      by_cases fits : field.width ≤ rest.length
      · rw [List.cons_append, places_cons_of_fits fits]
        refine ih later ?_
        rw [List.length_drop]
        omega
      · have missing :
            ∀ place ∈ places offset rest (field :: (fields ++ [last])), place = none := by
          refine places_eq_none_of_passes ?_
          intro other there
          rcases List.mem_cons.mp there with rfl | behind
          · omega
          · have least := wider other behind
            omega
        have inside : (field :: fields).length <
            (places offset rest (field :: (fields ++ [last]))).length := by
          simp
        rw [List.cons_append, List.getElem?_eq_getElem inside]
        exact congrArg some (missing _ (List.getElem_mem inside))

/-- Of fields of one width as many are decoded as the data has room for. -/
theorem consumed_readingFrom_of_width {width offset : Nat} {rest : Bytes} {fields : List Field}
    (positive : 0 < width) (widths : ∀ field ∈ fields, field.width = width) :
    (readingFrom offset rest fields).consumed =
      offset + width * min (rest.length / width) fields.length := by
  induction fields generalizing offset rest with
  | nil =>
      rw [List.length_nil, Nat.min_zero, Nat.mul_zero]
      rfl
  | cons field fields ih =>
      obtain ⟨here, later⟩ := List.forall_mem_cons.mp widths
      by_cases fits : field.width ≤ rest.length
      · have fewer : rest.length / width = (rest.drop width).length / width + 1 := by
          rw [List.length_drop, Nat.div_eq_sub_div positive (here ▸ fits)]
        rw [readingFrom_cons_of_fits fits, Reading.consCapture, here, ih later, List.length_cons,
          fewer, Nat.add_min_add_right, Nat.mul_succ]
        omega
      · have none : rest.length / width = 0 := Nat.div_eq_of_lt (by omega)
        rw [readingFrom_cons_of_not_fits fits, Reading.consCapture, ih later, none, Nat.zero_min,
          Nat.zero_min]

section Counts

variable {config : Config} {title : Option String}

/-- Where no field fits, a decode gives an empty reading and leaves the session as it is. -/
theorem decodeFrom_of_passes {trace : Bool} {offset : Nat} {rest : Bytes} {fields : List Field}
    (passes : ∀ field ∈ fields, rest.length < field.width) :
    decodeFrom trace title offset rest fields = pure (readingFrom offset rest fields) := by
  induction fields with
  | nil => rfl
  | cons field fields ih =>
      have skipped : ¬ field.width ≤ rest.length :=
        Nat.not_le.mpr (passes field List.mem_cons_self)
      have later := ih fun other there => passes other (List.mem_cons_of_mem field there)
      rw [decodeFrom, if_neg skipped, later, readingFrom_cons_of_not_fits skipped, pure_bind]

theorem counts_decodeFrom_of_widening {offset : Nat} {rest : Bytes} {fields : List Field}
    (consistent : ConsistentFrom offset fields)
    (widths : fields.Pairwise fun earlier later => earlier.width ≤ later.width)
    (shown : ∀ field ∈ fields, field.IsShown)
    (unchecked : ∀ field ∈ fields, field.isChecked = false) :
    Counts (decodeFrom true title offset rest fields) config (readingFrom offset rest fields)
      0 := by
  induction fields generalizing offset rest with
  | nil => exact Counts.pure _
  | cons field fields ih =>
      obtain ⟨wider, widthsRest⟩ := List.pairwise_cons.mp widths
      by_cases fits : field.width ≤ rest.length
      · obtain ⟨rfl, later⟩ := consistent
        have silent : Counts (field.validate (rest.take field.width)) config () 0 :=
          counts_validate_of_unchecked (unchecked field List.mem_cons_self)
        have visit : Counts (visitField true title field.offset field (rest.take field.width))
            config () (if config.consistency then 0 else 0) :=
          counts_visitField (shown field List.mem_cons_self) (List.length_take_of_le fits) silent
        rw [ite_self] at visit
        rw [decodeFrom, if_pos fits, readingFrom_cons_of_fits fits]
        exact visit.quiet_bind (Counts.bind_pure _ (ih later widthsRest
          (fun other there => shown other (List.mem_cons_of_mem field there))
          (fun other there => unchecked other (List.mem_cons_of_mem field there))))
      · have passes : ∀ other ∈ field :: fields, rest.length < other.width := by
          intro other there
          rcases List.mem_cons.mp there with rfl | behind
          · exact Nat.not_le.mp fits
          · exact Nat.lt_of_lt_of_le (Nat.not_le.mp fits) (wider other behind)
        rw [decodeFrom_of_passes passes]
        exact Counts.pure _

/-- **A consistent record whose widths never decrease counts nothing**, whether it is whole or
cut, if its fields can be shown and are not checked. -/
theorem counts_decode_of_widening {indent : UInt64} {data : Bytes} {fields : List Field}
    (consistent : ConsistentFrom 0 fields)
    (widths : fields.Pairwise fun earlier later => earlier.width ≤ later.width)
    (shown : ∀ field ∈ fields, field.IsShown)
    (unchecked : ∀ field ∈ fields, field.isChecked = false) :
    Counts (decode true indent title data fields) config (reading data fields) 0 := by
  refine Counts.indented (Counts.quiet_bind (counts_showTitle title) ?_)
  exact counts_decodeFrom_of_widening consistent widths shown unchecked

end Counts

end Record

end AcpiTables
