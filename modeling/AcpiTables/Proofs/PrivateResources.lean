import AcpiTables.Proofs.CleanText
import AcpiTables.Proofs.Steps
import AcpiTables.Proofs.TopologyVerdict

/-!
# Private resources of processor nodes

A processor node ends with references to private resources, and its last field says how many there
are.  This number is not to be trusted: references are shown only if all of them fit behind the
fields.  Then one line is shown for each of them, and nothing behind the last one is looked at;
otherwise the node is refused with one error and no reference is shown
(`resources_follow_their_count`).

What the fields of a node say is read off the steps of their decode (`reports_fields`).  The widths
of the fields never decrease, so a cut node says nothing about drifting fields, and no field is
refused or checked: the fields report no errors.  Lines of resources are told by their labels, and
no text about a field is one (`fieldReport_quiet`).
-/

namespace AcpiTables

set_option autoImplicit false

open Decoder

/-- Reports that count nothing count nothing together. -/
theorem Report.counts_join_of_quiet {reports : List Report}
    (quiet : ∀ report ∈ reports, report.errors = 0 ∧ report.warnings = 0) :
    (join reports).errors = 0 ∧ (join reports).warnings = 0 := by
  induction reports with
  | nil => exact ⟨rfl, rfl⟩
  | cons report reports ih =>
      obtain ⟨here, later⟩ := List.forall_mem_cons.mp quiet
      rw [join_cons, errors_append, warnings_append, here.1, here.2, (ih later).1, (ih later).2]
      exact ⟨rfl, rfl⟩

/-- Bytes inside the common start of two runs of bytes are the same in both. -/
theorem Bytes.take_drop_of_agree {first second : Bytes} {extent offset width : Nat}
    (agree : first.take extent = second.take extent) (inside : offset + width ≤ extent) :
    (first.drop offset).take width = (second.drop offset).take width := by
  rw [← Bytes.take_drop_take inside, agree, Bytes.take_drop_take inside]

namespace ProcessorTopology

open Record Structure

/-! ## Resource lines -/

/-- The label of a resource behind an indent, with the separator. -/
def resourceLabel (indent index : Nat) : String :=
  columnLabel indent s!"Private resource [{index}]" ++ " : "

/-- A text that labels a resource. -/
def IsResourceLabel (text : String) : Prop := ∃ indent index, text = resourceLabel indent index

theorem bracket_mem_resourceLabel (indent index : Nat) :
    '[' ∈ (resourceLabel indent index).toList := by
  have told : '[' ∈ (toString "Private resource [").toList := by decide
  simp [resourceLabel, columnLabel, padRight, told]

theorem not_isResourceLabel_of_bracket {text : String} (absent : '[' ∉ text.toList) :
    ¬ IsResourceLabel text := by
  rintro ⟨indent, index, rfl⟩
  exact absent (bracket_mem_resourceLabel indent index)

/-- A resource label does not end a line. -/
theorem not_isResourceLabel_of_line (text : String) : ¬ IsResourceLabel (text ++ "\n") := by
  rintro ⟨indent, index, same⟩
  have last := congrArg (·.toList.getLast?) same
  simp [resourceLabel] at last

/-- The reference at an index behind the fields of a node. -/
def reference (bytes : Bytes) (index : Nat) : Nat :=
  Bytes.littleEndian ((bytes.drop (20 + 4 * index)).take 4)

/-- The line that shows a reference. -/
def resourceLine (scope : Scope) (index reference : Nat) : Report :=
  .ofEmit ⟨resourceLabel (addSaturating64 scope.indent 4).toNat index, none⟩ ++
    .ofEmit ⟨NumberFormat.hex.numeral reference ++ "\n", none⟩

/-- The lines that show the first references of a node, as many as are counted. -/
def resourceLines (scope : Scope) (bytes : Bytes) (count : Nat) : Report :=
  .join ((List.range count).map fun index => resourceLine scope index (reference bytes index))

theorem reports_showReferences (scope : Scope) (index count : Nat) (data : Bytes) :
    Reports (showReferences index count data) scope ()
      (.join ((List.range count).map fun further => resourceLine scope (index + further)
        (Bytes.littleEndian ((data.drop (4 * further)).take 4)))) := by
  induction count generalizing index data with
  | zero => exact Reports.pure ()
  | succ count ih =>
      have later := ih (index + 1) (data.drop 4)
      have behind (further : Nat) : resourceLine scope (index + 1 + further)
            (Bytes.littleEndian (((data.drop 4).drop (4 * further)).take 4)) =
          resourceLine scope (index + (further + 1))
            (Bytes.littleEndian ((data.drop (4 * (further + 1))).take 4)) := by
        rw [List.drop_drop, Nat.add_assoc, Nat.add_comm 1, Nat.mul_succ, Nat.add_comm 4]
      simp only [behind] at later
      rw [List.range_succ_eq_map, List.map_cons, List.map_map, Report.join_cons, resourceLine,
        Report.append_assoc]
      exact (Reports.fieldLabel _ _).bind ((Reports.print _).bind later)

/-! ## What the fields of a node say -/

/-- The fields that are decoded of a node lie where they are declared, also if the node is cut. -/
theorem offset_of_mem_zip {bytes : Bytes} {field : Field} {place : Capture}
    (there : (field, some place) ∈ processorFields.zip (places 0 bytes processorFields)) :
    place.offset = field.offset := by
  have still : drifts 0 bytes processorFields = [] := by
    refine List.eq_nil_of_length_eq_zero ?_
    rw [length_drifts_of_consistentFrom wellLaid_processorFields.consistent]
    exact strays_of_pairwise_width pairwise_width_processorFields
  have known := List.filterMap_eq_nil_iff.mp still _ there
  dsimp only [drift?] at known
  split at known
  · next same => exact same
  · cases known

/-- A field of a node is an integer that can be shown, has no check, and has a label without a
bracket. -/
theorem plain_processorFields : ∀ field ∈ processorFields,
    (∃ format, field.render = .integer format) ∧ field.isUnreadable = false ∧
      field.validator = none ∧ ∀ label, field.name = some label → '[' ∉ label.toList := by
  simp [processorFields, Field.hex, Field.decimal, Field.integer, Field.labelled, Field.kept,
    Field.isUnreadable, isIntegerWidth]

/-- The steps about a node: comparisons that find no drift, labels, numbers and ends of lines. -/
theorem steps_cases {bytes : Bytes} {step : Step}
    (there : step ∈ steps true bytes processorFields) :
    (∃ field, step = .compare field field.offset) ∨
      (∃ label, step = .label label ∧ '[' ∉ label.toList) ∨
      (∃ format number, step = .number format number) ∨ step = .endLine := by
  obtain ⟨⟨field, place⟩, listed, about⟩ := List.mem_flatMap.mp there
  cases place with
  | none => cases about
  | some place =>
      obtain ⟨⟨format, shown⟩, readable, unchecked, plain⟩ :=
        plain_processorFields field (List.of_mem_zip listed).1
      have same := offset_of_mem_zip listed
      cases named : field.name with
      | none =>
          rw [stepsAt_of_hidden named, List.mem_singleton, same] at about
          exact .inl ⟨field, about⟩
      | some label =>
          rw [stepsAt_of_label named, Field.traceSteps, Field.valueSteps, Field.refusalSteps,
            Field.checkCalls, readable, shown, unchecked, same] at about
          have about : step = .compare field field.offset ∨ step = .label label ∨
              step = .number format place.bytes ∨ step = .endLine := by
            simpa using about
          rcases about with compared | told | numbered | ended
          · exact .inl ⟨field, compared⟩
          · exact .inr (.inl ⟨label, told, plain label named⟩)
          · exact .inr (.inr (.inl ⟨format, place.bytes, numbered⟩))
          · exact .inr (.inr (.inr ended))

/-- What the fields of a node say. -/
def fieldReport (scope : Scope) (call : Structure.Call) (bytes : Bytes) : Report :=
  let inner := scope.nested call.indent
  titleReport inner true (some (title call.name call.index)) ++
    .join ((steps true bytes processorFields).map
      (Step.report inner (some (title call.name call.index)) fun _ => .empty))

theorem call?_of_mem_steps {bytes : Bytes} {step : Step}
    (there : step ∈ steps true bytes processorFields) : step.call? = none := by
  rcases steps_cases there with ⟨field, rfl⟩ | ⟨label, rfl, _⟩ | ⟨format, number, rfl⟩ | rfl
  · rfl
  · rfl
  · rfl
  · rfl

theorem reports_fields {scope : Scope} (call : Structure.Call) (bytes : Bytes) :
    Reports (Record.decode true call.indent (some (title call.name call.index)) bytes
      processorFields) scope (reading bytes processorFields) (fieldReport scope call bytes) := by
  refine reports_decode fun made there => ?_
  obtain ⟨step, listed, called⟩ := List.mem_filterMap.mp there
  rw [call?_of_mem_steps listed] at called
  cases called

/-- What a step about a node says counts nothing and has no bracket. -/
theorem report_of_mem_steps {scope : Scope} {title : Option String} {bytes : Bytes} {step : Step}
    (there : step ∈ steps true bytes processorFields) :
    let said := step.report scope title fun _ => .empty
    said.errors = 0 ∧ said.warnings = 0 ∧ ∀ emit ∈ said.emits, '[' ∉ emit.text.toList := by
  rcases steps_cases there with ⟨field, rfl⟩ | ⟨label, rfl, plain⟩ | ⟨format, number, rfl⟩ | rfl
  · simp [Step.report, driftReports_nil]
  · refine ⟨rfl, rfl, fun emit said => ?_⟩
    rw [List.mem_singleton.mp said]
    simp [columnLabel, padRight, spaces, plain]
  · refine ⟨rfl, rfl, fun emit said => ?_⟩
    rw [List.mem_singleton.mp said]
    have digits : '[' ∉ format.digits number.littleEndian :=
      Clean.not_mem_digits (by decide) (by decide) format _
    cases format <;>
      simp [NumberFormat.numeral, NumberFormat.marker, NumberFormat.digitText, digits]
  · refine ⟨rfl, rfl, fun emit said => ?_⟩
    rw [List.mem_singleton.mp said]
    decide

/-- The fields of a node count nothing, and no text about them labels a resource. -/
theorem fieldReport_quiet (scope : Scope) (call : Structure.Call) (bytes : Bytes) :
    (fieldReport scope call bytes).errors = 0 ∧ (fieldReport scope call bytes).warnings = 0 ∧
      ∀ emit ∈ (fieldReport scope call bytes).emits, ¬ IsResourceLabel emit.text := by
  have quiet : ∀ said ∈ (steps true bytes processorFields).map
      (Step.report (scope.nested call.indent) (some (title call.name call.index)) fun _ => .empty),
      said.errors = 0 ∧ said.warnings = 0 := by
    intro said listed
    obtain ⟨step, there, rfl⟩ := List.mem_map.mp listed
    exact ⟨(report_of_mem_steps there).1, (report_of_mem_steps there).2.1⟩
  obtain ⟨errors, warnings⟩ := Report.counts_join_of_quiet quiet
  refine ⟨?_, ?_, fun emit said => ?_⟩
  · rw [fieldReport, Report.errors_append, errors]
    rfl
  · rw [fieldReport, Report.warnings_append, warnings]
    rfl
  · rw [fieldReport, Report.emits_append, Report.emits_join, List.flatMap_map] at said
    rcases List.mem_append.mp said with titled | about
    · have line (text : String) : text ++ " :\n" = text ++ " :" ++ "\n" := by
        rw [String.append_assoc]
        rfl
      rw [List.mem_singleton.mp titled]
      dsimp only
      rw [line]
      exact not_isResourceLabel_of_line _
    · obtain ⟨step, there, told⟩ := List.mem_flatMap.mp about
      exact not_isResourceLabel_of_bracket ((report_of_mem_steps there).2.2 emit told)

theorem resourceLines_quiet (scope : Scope) (bytes : Bytes) (count : Nat) :
    (resourceLines scope bytes count).errors = 0 ∧
      (resourceLines scope bytes count).warnings = 0 := by
  refine Report.counts_join_of_quiet fun said listed => ?_
  obtain ⟨index, _, rfl⟩ := List.mem_map.mp listed
  exact ⟨rfl, rfl⟩

/-! ## Nodes with and without their resources -/

/-- The number of private resources is that of the bytes from 16 to 20, if there are any. -/
theorem number?_reading (bytes : Bytes) :
    (reading bytes processorFields).number? resourceCountIndex 4 = bytes.number? 16 4 := by
  by_cases short : bytes.length < 20
  · rw [resourceCount_of_short short, eq_comm]
    exact Bytes.number?_eq_none_iff.mpr short
  · exact resourceCount_of_whole (Nat.not_lt.mp short)

/-- Why a node is refused that lacks its private resources. -/
def refusal (call : Structure.Call) (bytes : Bytes) : Fault :=
  match bytes.number? 16 4 with
  | none => .shortNode call.name bytes.length
  | some count => .resourceCount count (bytes.length - 20)

/-- Whether bytes hold a node with all its private resources, of the given number. -/
def HasResources (bytes : Bytes) (count : Nat) : Prop :=
  bytes.number? 16 4 = some count ∧ 4 * count ≤ bytes.length - 20

/-- Bytes with a number of private resources have all fields of a node. -/
theorem whole_of_number? {bytes : Bytes} {count : Nat} (number : bytes.number? 16 4 = some count) :
    20 ≤ bytes.length := by
  refine Nat.not_lt.mp fun short => ?_
  rw [Bytes.number?_eq_none_iff.mpr short] at number
  cases number

theorem reports_decodeProcessor_of_hasResources {scope : Scope} {call : Structure.Call}
    {bytes : Bytes} {count : Nat} (has : HasResources bytes count) :
    Reports (decodeProcessor call bytes) scope ()
      (fieldReport scope call bytes ++ resourceLines scope bytes count) := by
  refine (reports_fields call bytes).bind ?_
  have lines := reports_showReferences scope 0 count (bytes.drop 20)
  simp only [Nat.zero_add, List.drop_drop] at lines
  rw [number?_reading, has.1, wellLaid_processorFields.consumed (whole_of_number? has.1)]
  dsimp only
  rw [referenceSize, List.length_drop, if_pos has.2]
  exact lines

theorem reports_decodeProcessor_of_lacks {scope : Scope} {call : Structure.Call}
    {bytes : Bytes} (lacks : ∀ count, ¬ HasResources bytes count) :
    Reports (decodeProcessor call bytes) scope ()
      (fieldReport scope call bytes ++ .ofError scope (refusal call bytes).message) := by
  refine (reports_fields call bytes).bind ?_
  rw [number?_reading, refusal]
  cases number : bytes.number? 16 4 with
  | none => exact Reports.error _
  | some count =>
      have passes : ¬ 4 * count ≤ bytes.length - 20 := fun fits => lacks count ⟨number, fits⟩
      dsimp only
      rw [wellLaid_processorFields.consumed (whole_of_number? number), referenceSize,
        List.length_drop, if_neg passes]
      exact Reports.error _

section Agree

variable {first second : Bytes} {count : Nat}
  (agree : first.take (20 + 4 * count) = second.take (20 + 4 * count))
  (has : HasResources second count)

include agree has

theorem hasResources_of_agree : HasResources first count := by
  have whole := whole_of_number? has.1
  have lengths := congrArg List.length agree
  have inside : 16 + 4 ≤ 20 + 4 * count := by omega
  rw [List.length_take, List.length_take] at lengths
  refine ⟨?_, ?_⟩
  · rw [← Bytes.number?_take inside, agree, Bytes.number?_take inside, has.1]
  · have fits := has.2
    omega

theorem fieldReport_of_agree (scope : Scope) (call : Structure.Call) :
    fieldReport scope call first = fieldReport scope call second := by
  have wholeFirst := whole_of_number? (hasResources_of_agree agree has).1
  have wholeSecond := whole_of_number? has.1
  have inside : ∀ field ∈ processorFields, field.offset + field.width ≤ 20 := by decide
  have same : places 0 first processorFields = places 0 second processorFields := by
    rw [wellLaid_processorFields.places_eq wholeFirst,
      wellLaid_processorFields.places_eq wholeSecond]
    refine List.map_congr_left fun field listed => ?_
    have ends := inside field listed
    rw [bytesOf, bytesOf, Bytes.take_drop_of_agree agree (by omega)]
  rw [fieldReport, fieldReport, steps, steps, same]

/-- Bytes behind the last private resource are ignored. -/
theorem decodeProcessor_of_agree (call : Structure.Call) :
    decodeProcessor call first = decodeProcessor call second := by
  have hasToo := hasResources_of_agree agree has
  have lines (scope : Scope) :
      resourceLines scope first count = resourceLines scope second count := by
    refine congrArg Report.join (List.map_congr_left fun index listed => ?_)
    have before := List.mem_range.mp listed
    rw [reference, reference, Bytes.take_drop_of_agree agree (by omega)]
  funext session
  rw [reports_decodeProcessor_of_hasResources hasToo session rfl,
    reports_decodeProcessor_of_hasResources has session rfl, fieldReport_of_agree agree has, lines]

end Agree

/-- **Private resources follow their count**, which is the number at byte 16 of the node.  If so
many references fit behind the fields, their lines follow, each with its index and its number,
nothing is counted, and bytes behind the last reference change nothing.  In every other case one
error follows, and no resource.  There is never a warning. -/
theorem resources_follow_their_count (call : Structure.Call) (bytes : Bytes)
    (session : Session) :
    let fields := fieldReport session.scope call bytes
    (reading bytes processorFields).number? resourceCountIndex 4 = bytes.number? 16 4 ∧
    Record.decode true call.indent (some (title call.name call.index)) bytes processorFields
      session = (reading bytes processorFields, session.record fields) ∧
    fields.errors = 0 ∧ fields.warnings = 0 ∧
    (∀ emit ∈ fields.emits, ¬ IsResourceLabel emit.text) ∧
    (∀ count, bytes.number? 16 4 = some count → 4 * count ≤ bytes.length - 20 →
      let lines := (List.range count).map fun index =>
        resourceLine session.scope index (reference bytes index)
      decodeProcessor call bytes session = ((), session.record (fields ++ .join lines)) ∧
      (fields ++ .join lines).errors = 0 ∧ (fields ++ .join lines).warnings = 0 ∧
      (∀ index < count, bytes.number? (20 + 4 * index) 4 = some (reference bytes index)) ∧
      ∀ tail, decodeProcessor call (bytes.take (20 + 4 * count) ++ tail) =
        decodeProcessor call bytes) ∧
    ((¬ ∃ count, bytes.number? 16 4 = some count ∧ 4 * count ≤ bytes.length - 20) →
      let refused := Report.ofError session.scope (refusal call bytes).message
      decodeProcessor call bytes session = ((), session.record (fields ++ refused)) ∧
      (fields ++ refused).errors = 1 ∧ (fields ++ refused).warnings = 0 ∧
      ∀ emit ∈ (fields ++ refused).emits, ¬ IsResourceLabel emit.text) := by
  intro fields
  obtain ⟨errors, warnings, unlabelled⟩ := fieldReport_quiet session.scope call bytes
  refine ⟨number?_reading bytes, reports_fields call bytes session rfl, errors, warnings,
    unlabelled, ?_, ?_⟩
  · intro count number fits lines
    have has : HasResources bytes count := ⟨number, fits⟩
    have whole := whole_of_number? number
    obtain ⟨linesErrors, linesWarnings⟩ := resourceLines_quiet session.scope bytes count
    refine ⟨reports_decodeProcessor_of_hasResources has session rfl, ?_, ?_, ?_, fun tail => ?_⟩
    · exact Nat.add_eq_zero_iff.mpr ⟨errors, linesErrors⟩
    · exact Nat.add_eq_zero_iff.mpr ⟨warnings, linesWarnings⟩
    · intro index before
      rw [Bytes.number?, Bytes.slice?, if_pos (by omega)]
      rfl
    · refine decodeProcessor_of_agree ?_ has call
      exact List.take_left' (List.length_take_of_le (by omega))
  · intro lacks refused
    refine ⟨reports_decodeProcessor_of_lacks (fun count has => lacks ⟨count, has⟩) session rfl,
      ?_, ?_, ?_⟩
    · rw [Report.errors_append, errors]
      rfl
    · rw [Report.warnings_append, warnings]
      rfl
    · intro emit said
      rcases List.mem_append.mp said with about | refusing
      · exact unlabelled emit about
      · rw [List.mem_singleton.mp refusing]
        exact not_isResourceLabel_of_line _

/-- Of two references, the second one is shown with its index, and the byte behind it is ignored; if
a third one is announced, the node is refused. -/
theorem resources_follow_their_count_of_two :
    let call : Structure.Call := ⟨"Processor", 0, 2, none, none⟩
    let node (count : UInt8) : Bytes :=
      [0, 29, 0, 0] ++ List.replicate 12 0 ++ [count, 0, 0, 0, 44, 0, 0, 0, 1, 1, 0, 0, 7]
    let session : Session := .start ⟨true, false, .all⟩
    (decodeProcessor call (node 2) session).2.counters = ⟨0, 0⟩ ∧
    decodeProcessor call ((node 2).take 28 ++ []) = decodeProcessor call (node 2) ∧
    (node 2).number? 24 4 = some 257 ∧
    (decodeProcessor call (node 3) session).2.counters = ⟨1, 0⟩ := by
  intro call node session
  obtain ⟨_, _, _, _, _, shown, _⟩ := resources_follow_their_count call (node 2) session
  obtain ⟨_, _, _, _, _, _, refused⟩ := resources_follow_their_count call (node 3) session
  obtain ⟨all, errors, warnings, numbers, ignored⟩ := shown 2 rfl (by decide)
  have lacks : ¬ ∃ count, (node 3).number? 16 4 = some count ∧
      4 * count ≤ (node 3).length - 20 := by
    rintro ⟨count, number, fits⟩
    cases Option.some.inj ((show (node 3).number? 16 4 = some 3 from rfl).symm.trans number)
    exact absurd fits (by decide)
  obtain ⟨one, errorsToo, warningsToo, _⟩ := refused lacks
  refine ⟨?_, ignored [], numbers 1 (by decide), ?_⟩
  · rw [all, Session.counters_record, errors, warnings]
    decide
  · rw [one, Session.counters_record, errorsToo, warningsToo]
    decide

end ProcessorTopology

end AcpiTables
