import AcpiTables.Proofs.Layout
import AcpiTables.Proofs.Reports
import AcpiTables.GenericAddress
import AcpiTables.ProcessorTopology

/-!
# Drift from declared offsets is never silent

A field list is consistent when every declared offset is the sum of the widths before it.
A field that does not fit is skipped and the running offset stays, so from then on the
declared offsets of a consistent list are ahead of the running offset, and every field
that is still decoded is a stray: it lies away from its declared offset.

An untraced decode reports exactly the decoded fields that lie away from their declared
offsets (`reports_decode_untraced`), and of a consistent list these are the strays
(`length_drifts_of_consistentFrom`).  Widths that never decrease leave no strays, since a
field that does not fit is followed only by fields that do not fit either
(`strays_of_pairwise_width`).
-/

namespace AcpiTables

set_option autoImplicit false

open Decoder

namespace Record

/-! ## Consistent field lists -/

/-- Every declared offset is the sum of the widths before it. -/
def Consistent (fields : List Field) : Prop :=
  ∀ before field after, fields = before ++ field :: after →
    field.offset = (before.map Field.width).sum

/-- Every declared offset is the given one plus the sum of the widths before it. -/
def ConsistentFrom (offset : Nat) : List Field → Prop
  | [] => True
  | field :: fields => field.offset = offset ∧ ConsistentFrom (offset + field.width) fields

instance decidableConsistentFrom (offset : Nat) : (fields : List Field) →
    Decidable (ConsistentFrom offset fields)
  | [] => .isTrue trivial
  | field :: fields =>
      have := decidableConsistentFrom (offset + field.width) fields
      inferInstanceAs (Decidable (field.offset = offset ∧
        ConsistentFrom (offset + field.width) fields))

theorem consistentFrom_iff {offset : Nat} {fields : List Field} :
    ConsistentFrom offset fields ↔ ∀ before field after, fields = before ++ field :: after →
      field.offset = offset + (before.map Field.width).sum := by
  induction fields generalizing offset with
  | nil => simp [ConsistentFrom]
  | cons field fields ih =>
      rw [ConsistentFrom, ih]
      constructor
      · rintro ⟨first, later⟩ before other after split
        cases before with
        | nil =>
            obtain ⟨rfl, rfl⟩ := List.cons_eq_cons.mp split
            exact first
        | cons head before =>
            obtain ⟨rfl, rfl⟩ := List.cons_eq_cons.mp split
            rw [later before other after rfl, List.map_cons, List.sum_cons, Nat.add_assoc]
      · intro every
        refine ⟨every [] field fields rfl, fun before other after split => ?_⟩
        rw [every (field :: before) other after (by rw [split, List.cons_append]),
          List.map_cons, List.sum_cons, Nat.add_assoc]

theorem consistent_iff {fields : List Field} : Consistent fields ↔ ConsistentFrom 0 fields := by
  simp only [consistentFrom_iff, Nat.zero_add, Consistent]

/-! ## Fields decoded away from their declared offsets -/

/-- A field with the place where it was decoded, if it was declared elsewhere. -/
def drift? (field : Field) : Option Capture → Option (Field × Nat)
  | some place => if place.offset = field.offset then none else some (field, place.offset)
  | none => none

/-- The fields decoded away from their declared offsets, each with the running offset. -/
def drifts (offset : Nat) (rest : Bytes) (fields : List Field) : List (Field × Nat) :=
  (fields.zip (places offset rest fields)).filterMap fun pair => drift? pair.1 pair.2

/-- The number of fields decoded behind the first field that did not fit. -/
def strays (offset : Nat) (rest : Bytes) (fields : List Field) : Nat :=
  ((places offset rest fields).dropWhile Option.isSome).countP Option.isSome

/-- The report of one field away from its declared offset. -/
def driftReport (scope : Scope) (title : Option String) (drift : Field × Nat) : Report :=
  .ofEmit ⟨"\n", none⟩ ++ .ofError scope (Fault.message (.offsetMismatch (title.getD "")
    (drift.1.name.getD "") drift.2 drift.1.offset))

/-- The report of all fields away from their declared offsets. -/
def driftReports (scope : Scope) (title : Option String) (found : List (Field × Nat)) : Report :=
  if scope.config.consistency then .join (found.map (driftReport scope title)) else .empty

theorem driftReports_nil (scope : Scope) (title : Option String) :
    driftReports scope title [] = .empty := by
  simp [driftReports]

theorem driftReports_append (scope : Scope) (title : Option String)
    (first second : List (Field × Nat)) :
    driftReports scope title (first ++ second) =
      driftReports scope title first ++ driftReports scope title second := by
  unfold driftReports
  split
  · rw [List.map_append, Report.join_append]
  · rw [Report.empty_append]

theorem errors_driftReports {scope : Scope} (checking : scope.config.consistency = true)
    (title : Option String) (found : List (Field × Nat)) :
    (driftReports scope title found).errors = found.length := by
  rw [driftReports, if_pos checking, Report.errors_join, List.map_map]
  have each : Report.errors ∘ driftReport scope title = fun _ => 1 := rfl
  rw [each, List.map_const', List.sum_replicate_nat, Nat.mul_one]

theorem warnings_driftReports (scope : Scope) (title : Option String)
    (found : List (Field × Nat)) : (driftReports scope title found).warnings = 0 := by
  unfold driftReports
  split
  · rw [Report.warnings_join, List.map_map]
    have each : Report.warnings ∘ driftReport scope title = fun _ => 0 := rfl
    rw [each, List.map_const', List.sum_replicate_nat, Nat.mul_zero]
  · rfl

/-- The line of every drifting field is among the emits. -/
theorem mem_emits_driftReports {scope : Scope} {title : Option String}
    {found : List (Field × Nat)} {drift : Field × Nat}
    (checking : scope.config.consistency = true) (member : drift ∈ found) :
    (driftReport scope title drift).emits ⊆ (driftReports scope title found).emits := by
  intro emit there
  rw [driftReports, if_pos checking, Report.emits_join, List.mem_flatMap]
  exact ⟨_, List.mem_map_of_mem member, there⟩

section Drifts

variable {offset : Nat} {rest : Bytes} {field : Field} {fields : List Field}

theorem drifts_cons_of_fits (fits : field.width ≤ rest.length) :
    drifts offset rest (field :: fields) =
      (if offset = field.offset then [] else [(field, offset)]) ++
        drifts (offset + field.width) (rest.drop field.width) fields := by
  simp only [drifts, places_cons_of_fits fits, List.zip_cons_cons, List.filterMap_cons, drift?]
  split <;> simp_all

theorem drifts_cons_of_not_fits (passes : ¬ field.width ≤ rest.length) :
    drifts offset rest (field :: fields) = drifts offset rest fields := by
  simp only [drifts, places_cons_of_not_fits passes, List.zip_cons_cons, List.filterMap_cons,
    drift?]

theorem strays_cons_of_fits (fits : field.width ≤ rest.length) :
    strays offset rest (field :: fields) =
      strays (offset + field.width) (rest.drop field.width) fields := by
  simp [strays, places_cons_of_fits fits]

theorem strays_cons_of_not_fits (passes : ¬ field.width ≤ rest.length) :
    strays offset rest (field :: fields) = (places offset rest fields).countP Option.isSome := by
  simp [strays, places_cons_of_not_fits passes]

end Drifts

/-! ## What an untraced decode reports -/

theorem reports_checkOffset {scope : Scope} (title : Option String) (field : Field)
    (offset : Nat) :
    Reports (checkOffset title field offset) scope ()
      (if offset = field.offset then .empty else driftReport scope title (field, offset)) := by
  unfold checkOffset
  split
  · exact Reports.pure ()
  · exact (Reports.print _).bind (Reports.error _)

theorem reports_visitField_untraced {scope : Scope} (title : Option String) (offset : Nat)
    (field : Field) (bytes : Bytes) :
    Reports (visitField false title offset field bytes) scope ()
      (driftReports scope title (if offset = field.offset then [] else [(field, offset)])) := by
  have checkOnly : visitField false title offset field bytes =
      (whenChecking (checkOffset title field offset) >>= fun _ => pure ()) := by
    cases field.name <;> rfl
  have report : driftReports scope title
      (if offset = field.offset then [] else [(field, offset)]) =
      if scope.config.consistency then
        if offset = field.offset then .empty else driftReport scope title (field, offset)
      else .empty := by
    unfold driftReports
    split
    · split <;> simp
    · rfl
  rw [checkOnly, report]
  exact Reports.bind_pure id (Reports.whenChecking fun _ => reports_checkOffset title field offset)

theorem reports_decodeFrom_untraced {scope : Scope} (title : Option String) (offset : Nat)
    (rest : Bytes) (fields : List Field) :
    Reports (decodeFrom false title offset rest fields) scope (readingFrom offset rest fields)
      (driftReports scope title (drifts offset rest fields)) := by
  induction fields generalizing offset rest with
  | nil =>
      rw [drifts, List.zip_nil_left, List.filterMap_nil, driftReports_nil]
      exact Reports.pure _
  | cons field fields ih =>
      unfold decodeFrom
      by_cases fits : field.width ≤ rest.length
      · rw [if_pos fits, drifts_cons_of_fits fits, driftReports_append,
          readingFrom_cons_of_fits fits]
        exact (reports_visitField_untraced title offset field _).bind
          (Reports.bind_pure _ (ih (offset + field.width) (rest.drop field.width)))
      · rw [if_neg fits, drifts_cons_of_not_fits fits, readingFrom_cons_of_not_fits fits]
        exact Reports.bind_pure _ (ih offset rest)

/-- **An untraced decode reports exactly the fields decoded away from their declared
offsets**, and nothing when consistency is not checked. -/
theorem reports_decode_untraced {scope : Scope} (indent : UInt64) (title : Option String)
    (data : Bytes) (fields : List Field) :
    Reports (decode false indent title data fields) scope (reading data fields)
      (driftReports scope title (drifts 0 data fields)) := by
  have inner : driftReports scope title (drifts 0 data fields) =
      .empty ++ driftReports (scope.nested indent) title (drifts 0 data fields) := by
    rw [Report.empty_append]
    rfl
  have untitled : showTitle false title = pure () := by
    cases title <;> rfl
  rw [inner]
  refine Reports.indented ?_
  rw [untitled]
  exact (Reports.pure ()).bind (reports_decodeFrom_untraced title 0 data fields)

/-! ## Consistent lists -/

/-- Once the declared offsets are ahead of the running offset, every decoded field drifts. -/
theorem length_drifts_of_ahead {offset declared : Nat} {rest : Bytes} {fields : List Field}
    (consistent : ConsistentFrom declared fields) (ahead : offset < declared) :
    (drifts offset rest fields).length = (places offset rest fields).countP Option.isSome := by
  induction fields generalizing offset declared rest with
  | nil => rfl
  | cons field fields ih =>
      obtain ⟨here, later⟩ := consistent
      by_cases fits : field.width ≤ rest.length
      · have drifted : offset ≠ field.offset := by omega
        rw [drifts_cons_of_fits fits, places_cons_of_fits fits, if_neg drifted,
          List.length_append, ih later (by omega), List.countP_cons_of_pos rfl,
          List.length_singleton, Nat.add_comm]
      · rw [drifts_cons_of_not_fits fits, places_cons_of_not_fits fits,
          ih later (by omega), List.countP_cons_of_neg (by simp)]

/-- In a consistent list the fields that drift are the strays. -/
theorem length_drifts_of_consistentFrom {offset : Nat} {rest : Bytes} {fields : List Field}
    (consistent : ConsistentFrom offset fields) :
    (drifts offset rest fields).length = strays offset rest fields := by
  induction fields generalizing offset rest with
  | nil => rfl
  | cons field fields ih =>
      obtain ⟨here, later⟩ := consistent
      by_cases fits : field.width ≤ rest.length
      · rw [drifts_cons_of_fits fits, strays_cons_of_fits fits, if_pos here.symm,
          List.nil_append, ih later]
      · rw [drifts_cons_of_not_fits fits, strays_cons_of_not_fits fits,
          length_drifts_of_ahead later (by omega)]

/-- The decoded fields are the first ones of the list. -/
def DecodesFront (offset : Nat) (rest : Bytes) (fields : List Field) : Prop :=
  ∃ front back, places offset rest fields = front ++ back ∧
    (∀ place ∈ front, place.isSome = true) ∧ ∀ place ∈ back, place = none

theorem strays_eq_zero_iff {offset : Nat} {rest : Bytes} {fields : List Field} :
    strays offset rest fields = 0 ↔ DecodesFront offset rest fields := by
  constructor
  · intro none
    have decoded : ∀ place ∈ (places offset rest fields).takeWhile Option.isSome,
        place.isSome = true := List.all_eq_true.mp List.all_takeWhile
    refine ⟨_, _, List.takeWhile_append_dropWhile.symm, decoded, ?_⟩
    intro place behind
    exact Option.not_isSome_iff_eq_none.mp (List.countP_eq_zero.mp none place behind)
  · rintro ⟨front, back, split, decoded, skipped⟩
    rw [strays, split, List.dropWhile_append_of_pos decoded, List.countP_eq_zero]
    intro place behind
    have missing := skipped place (List.dropWhile_subset _ behind)
    rw [missing]
    exact Bool.false_ne_true

/-- Where widths never decrease, nothing is decoded behind a field that does not fit. -/
theorem strays_of_pairwise_width {offset : Nat} {rest : Bytes} {fields : List Field}
    (widths : fields.Pairwise fun earlier later => earlier.width ≤ later.width) :
    strays offset rest fields = 0 := by
  induction fields generalizing offset rest with
  | nil => rfl
  | cons field fields ih =>
      obtain ⟨wider, later⟩ := List.pairwise_cons.mp widths
      by_cases fits : field.width ≤ rest.length
      · rw [strays_cons_of_fits fits, ih later]
      · rw [strays_cons_of_not_fits fits, List.countP_eq_zero]
        have missing : ∀ place ∈ places offset rest fields, place = none :=
          places_eq_none_of_passes fun other there =>
            Nat.lt_of_lt_of_le (Nat.not_le.mp fits) (wider other there)
        intro place there
        rw [missing place there]
        exact Bool.false_ne_true

/-! ## Other declared offsets -/

/-- A field declared at another offset. -/
def declaredAt (field : Field) (offset : Nat) : Field := { field with offset := offset }

@[simp] theorem width_declaredAt (field : Field) (offset : Nat) :
    (declaredAt field offset).width = field.width := rfl

@[simp] theorem offset_declaredAt (field : Field) (offset : Nat) :
    (declaredAt field offset).offset = offset := rfl

/-- The fields with other declared offsets. -/
def redeclare (fields : List Field) (offsets : List Nat) : List Field :=
  List.zipWith declaredAt fields offsets

theorem redeclare_cons (field : Field) (fields : List Field) (offset : Nat)
    (offsets : List Nat) :
    redeclare (field :: fields) (offset :: offsets) =
      declaredAt field offset :: redeclare fields offsets := rfl

/-- Whatever does not look at declared offsets is the same for the redeclared fields. -/
theorem map_redeclare {α : Type} {property : Field → α}
    (blind : ∀ field offset, property (declaredAt field offset) = property field)
    {fields : List Field} {offsets : List Nat} (same : offsets.length = fields.length) :
    (redeclare fields offsets).map property = fields.map property := by
  induction fields generalizing offsets with
  | nil => rfl
  | cons field fields ih =>
      cases offsets with
      | nil => cases same
      | cons offset offsets =>
          rw [redeclare_cons, List.map_cons, List.map_cons, blind, ih (Nat.succ.inj same)]

/-- Where the whole record is there, the fields that drift are the ones declared elsewhere. -/
theorem length_drifts_redeclare {offset : Nat} {rest : Bytes} {fields : List Field}
    {offsets : List Nat} (consistent : ConsistentFrom offset fields)
    (same : offsets.length = fields.length)
    (whole : (fields.map Field.width).sum ≤ rest.length) :
    (drifts offset rest (redeclare fields offsets)).length =
      (fields.zip offsets).countP fun pair => pair.1.offset != pair.2 := by
  induction fields generalizing offset rest offsets with
  | nil => rfl
  | cons field fields ih =>
      cases offsets with
      | nil => cases same
      | cons declared offsets =>
          obtain ⟨here, later⟩ := consistent
          rw [List.map_cons, List.sum_cons] at whole
          have fits : (declaredAt field declared).width ≤ rest.length := by
            rw [width_declaredAt]
            omega
          have wholeTail : (fields.map Field.width).sum ≤ (rest.drop field.width).length := by
            rw [List.length_drop]
            omega
          have tail := ih later (Nat.succ.inj same) wholeTail
          rw [redeclare_cons, drifts_cons_of_fits fits, List.length_append, width_declaredAt,
            offset_declaredAt, tail, List.zip_cons_cons, List.countP_cons, Nat.add_comm, here]
          by_cases moved : offset = declared <;> simp [moved]

/-! ## Kept fields -/

/-- A kept field that is captured lies at its place. -/
theorem places_of_capture? {offset : Nat} {rest : Bytes} {fields : List Field} {index : Nat}
    {field : Field} {capture : Capture} (here : fields[index]? = some field)
    (found : (readingFrom offset rest fields).capture? index = some capture) :
    (fields.zip (places offset rest fields))[index]? = some (field, some capture) := by
  simp only [Reading.capture?, readingFrom, List.getElem?_zipWith, here] at found
  rw [List.getElem?_zip_eq_some]
  refine ⟨here, ?_⟩
  cases place : (places offset rest fields)[index]? with
  | none => simp [place] at found
  | some place' =>
      simp only [place, Option.join_some, keep] at found
      split at found
      · rw [found]
      · cases found

/-- A kept field that is captured away from its declared offset drifts. -/
theorem mem_drifts_of_capture? {offset : Nat} {rest : Bytes} {fields : List Field} {index : Nat}
    {field : Field} {capture : Capture} (here : fields[index]? = some field)
    (found : (readingFrom offset rest fields).capture? index = some capture)
    (away : capture.offset ≠ field.offset) :
    (field, capture.offset) ∈ drifts offset rest fields := by
  rw [drifts, List.mem_filterMap]
  refine ⟨(field, some capture), List.mem_of_getElem? (places_of_capture? here found), ?_⟩
  rw [drift?, if_neg away]

/-! ## Drift is never silent -/

/-- The session after an untraced decode. -/
theorem decode_untraced (indent : UInt64) (title : Option String) (data : Bytes)
    (fields : List Field) (session : Session) :
    decode false indent title data fields session = (reading data fields,
      session.record (driftReports session.scope title (drifts 0 data fields))) :=
  reports_decode_untraced indent title data fields session rfl

/-- An untraced decode without drift leaves the session as it is. -/
theorem decode_untraced_of_no_drift {indent : UInt64} {title : Option String} {data : Bytes}
    {fields : List Field} {session : Session}
    (quiet : session.config.consistency = true → (drifts 0 data fields).length = 0) :
    decode false indent title data fields session = (reading data fields, session) := by
  have silent : driftReports session.scope title (drifts 0 data fields) = .empty := by
    cases checking : session.config.consistency with
    | true => rw [List.length_eq_zero_iff.mp (quiet checking), driftReports_nil]
    | false => simp [driftReports, Session.scope, checking]
  rw [decode_untraced, silent, Session.record_empty]

/-- The counts after an untraced decode that checks consistency. -/
theorem counters_decode_untraced {indent : UInt64} {title : Option String} {data : Bytes}
    {fields : List Field} {session : Session} (checking : session.config.consistency = true) :
    (decode false indent title data fields session).2.counters =
      session.counters.plus (drifts 0 data fields).length 0 := by
  have inScope : session.scope.config.consistency = true := checking
  rw [decode_untraced, Session.counters_record, errors_driftReports inScope,
    warnings_driftReports]

/-- The line that reports a field captured away from its declared offset. -/
def mismatchLine (scope : Scope) (title : Option String) (field : Field) (offset : Nat) : Emit :=
  ⟨"ERROR: " ++ Fault.message (.offsetMismatch (title.getD "") (field.name.getD "") offset
    field.offset) ++ "\n", scope.styled .error⟩

/-- The field lists of the library whose widths never decrease. -/
def widening : List (List Field) :=
  [Structure.headFields, ProcessorTopology.processorFields, GenericAddress.fields]

theorem consistent_of_mem_widening {fields : List Field} (member : fields ∈ widening) :
    Consistent fields ∧
      fields.Pairwise fun earlier later => earlier.width ≤ later.width := by
  simp only [widening, List.mem_cons, List.not_mem_nil, or_false] at member
  rw [consistent_iff]
  rcases member with rfl | rfl | rfl
  · exact ⟨by decide, by decide⟩
  · exact ⟨by decide, by decide⟩
  · exact ⟨by decide, by decide⟩

/-- **Drift is never silent.**  An untraced decode of a consistent list counts one error for each
field behind the first one that did not fit, and none exactly if the decoded fields are the first
ones of the list.  A field captured away from its declared offset is named.  Widening lists are
silent; in a whole record, each field declared elsewhere counts one error and changes no value. -/
theorem drift_is_never_silent (fields : List Field) (consistent : Consistent fields)
    (indent : UInt64) (title : Option String) (data : Bytes) (session : Session) :
    let decoded := decode false indent title data fields session
    decoded.1 = reading data fields ∧
    (session.config.consistency = true →
      decoded.2.counters = session.counters.plus (strays 0 data fields) 0 ∧
      ∀ index field capture, fields[index]? = some field →
        decoded.1.capture? index = some capture → capture.offset ≠ field.offset →
          0 < strays 0 data fields ∧ ∃ lines, decoded.2.emits = session.emits ++ lines ∧
            mismatchLine session.scope title field capture.offset ∈ lines) ∧
    (strays 0 data fields = 0 ↔ DecodesFront 0 data fields) ∧
    (fields.Pairwise (fun earlier later => earlier.width ≤ later.width) →
      decoded.2 = session) ∧
    (∀ list ∈ widening, (decode false indent title data list session).2 = session) ∧
    (∀ offsets, offsets.length = fields.length →
      (fields.map Field.width).sum ≤ data.length →
        let moved := decode false indent title data (redeclare fields offsets) session
        moved.1 = decoded.1 ∧
        (session.config.consistency = true → moved.2.counters = session.counters.plus
          ((fields.zip offsets).countP fun pair => pair.1.offset != pair.2) 0) ∧
        (session.config.consistency = false → moved.2 = session)) ∧
    (session.config.consistency = false → decoded.2 = session) := by
  have drifting : (drifts 0 data fields).length = strays 0 data fields :=
    length_drifts_of_consistentFrom (consistent_iff.mp consistent)
  intro decoded
  have value : decoded.1 = reading data fields := decode_value ..
  refine ⟨value, fun checking => ⟨?_, ?_⟩, strays_eq_zero_iff, ?_, ?_, ?_, ?_⟩
  · rw [← drifting]
    exact counters_decode_untraced checking
  · intro index field capture here found away
    rw [value] at found
    have member := mem_drifts_of_capture? here found away
    refine ⟨drifting ▸ List.length_pos_of_mem member, _,
      by rw [show decoded = _ from decode_untraced .., Session.emits_record], ?_⟩
    apply mem_emits_driftReports checking member
    simp [driftReport, mismatchLine, Report.ofEmit]
  · intro widths
    exact congrArg Prod.snd (decode_untraced_of_no_drift fun _ =>
      drifting.trans (strays_of_pairwise_width widths))
  · intro list member
    obtain ⟨listConsistent, widths⟩ := consistent_of_mem_widening member
    exact congrArg Prod.snd (decode_untraced_of_no_drift fun _ =>
      (length_drifts_of_consistentFrom (consistent_iff.mp listConsistent)).trans
        (strays_of_pairwise_width widths))
  · intro offsets same whole moved
    refine ⟨?_, fun checking => ?_, fun unchecked => ?_⟩
    · rw [value, show moved.1 = _ from decode_value ..]
      exact readingFrom_congr (map_redeclare (fun _ _ => rfl) same)
        (map_redeclare (fun _ _ => rfl) same)
    · rw [← length_drifts_redeclare (consistent_iff.mp consistent) same whole]
      exact counters_decode_untraced checking
    · exact congrArg Prod.snd (decode_untraced_of_no_drift fun checking => by
        rw [unchecked] at checking
        cases checking)
  · intro unchecked
    exact congrArg Prod.snd (decode_untraced_of_no_drift fun checking => by
      rw [unchecked] at checking
      cases checking)

/-- In three bytes a field of four bytes does not fit, and the byte declared behind it is
decoded in its place and counted as one error. -/
theorem drift_is_never_silent_behind_a_wide_field :
    let fields := [(Field.hidden 1 0).kept, (Field.hidden 4 1).kept, (Field.hidden 1 5).kept]
    Consistent fields ∧ strays 0 [1, 2, 3] fields = 1 ∧
      (decode false 0 none [1, 2, 3] fields (.start .default)).2.counters =
        Counters.zero.plus 1 0 := by
  intro fields
  have consistent : Consistent fields := consistent_iff.mpr (by decide)
  have counted := ((drift_is_never_silent fields consistent 0 none [1, 2, 3]
    (.start .default)).2.1 rfl).1
  exact ⟨consistent, rfl, counted⟩

end Record

end AcpiTables
