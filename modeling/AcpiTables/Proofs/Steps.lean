import AcpiTables.Proofs.Geometry

/-!
# What a decode does about each field

A decode does a few things about every decoded field, one after another.  `Record.Step` lists them:
the field is compared with its declared offset; a traced and labelled field is then shown, its line
is ended, a width that cannot be shown is refused, and the value is checked.  Renderer and check are
functions of the field, and a step of their own calls them (`Record.Call`).

The steps of a decode are known before it runs: they depend on the fields and the data only
(`Record.steps`), and a decode performs them in order (`decode_eq_steps`).  So which functions are
called, how often, in which order and with what, is read off the list of steps
(`filterMap_call?_steps`).  Functions of a field that is not shown have no part in a decode
(`decode_seen`).  If the functions that are called report, the decode reports what its steps report
(`reports_decode`), and its counts are those of the drifting fields, of the refused widths and of
the calls (`counters_decode_traced`).
-/

namespace AcpiTables

set_option autoImplicit false

open Decoder

namespace Record

/-! ## Steps -/

/-- A call that a decode makes to a function of a field. -/
inductive Call where
  /-- The renderer shows the bytes, in the format of the field if it has one. -/
  | render (renderer : Renderer) (format : Option NumberFormat) (bytes : Bytes)
  /-- The check looks at the bytes, unless consistency is not checked. -/
  | check (validator : Validator) (bytes : Bytes) (argument : Option Argument)

def Call.perform : Call → Decoder Unit
  | .render renderer format bytes => renderer format bytes
  | .check validator bytes argument => whenChecking (validator bytes argument)

/-- One thing that a decode does about a decoded field. -/
inductive Step where
  /-- Report the field if it lies away from its declared offset. -/
  | compare (field : Field) (offset : Nat)
  | label (text : String)
  /-- Show the bytes as an integer. -/
  | number (format : NumberFormat) (bytes : Bytes)
  | call (made : Call)
  /-- End the line of the field. -/
  | endLine
  /-- Report a width that cannot be shown. -/
  | refuse (width : Nat)

namespace Step

/-- Performs a step in a record with a title. -/
def perform (title : Option String) : Step → Decoder Unit
  | .compare field offset => whenChecking (checkOffset title field offset)
  | .label text => fieldLabel 2 text
  | .number format bytes => print (format.numeral bytes.littleEndian)
  | .call made => made.perform
  | .endLine => print "\n"
  | .refuse width => error (Fault.message (.unreadableWidth (title.getD "") width))

/-- The call that a step makes, if it makes one. -/
def call? : Step → Option Call
  | .call made => some made
  | _ => none

end Step

end Record

namespace Field

/-- Whether the value is to be shown as an integer, of a width in which integers are not shown. -/
def isUnreadable (field : Field) : Bool :=
  match field.render with
  | .integer _ => !isIntegerWidth field.width
  | _ => false

/-- The call of the field's own renderer, if it has one. -/
def renderCalls (field : Field) (bytes : Bytes) : List Record.Call :=
  match field.render with
  | .custom renderer format => [.render renderer format bytes]
  | _ => []

/-- The call of the field's check, if it has one. -/
def checkCalls (field : Field) (bytes : Bytes) : List Record.Call :=
  match field.validator with
  | some validator => [.check validator bytes field.argument]
  | none => []

/-- How the value of a field is shown. -/
def valueSteps (field : Field) (bytes : Bytes) : List Record.Step :=
  match field.render with
  | .label => []
  | .integer format => if field.isUnreadable then [] else [.number format bytes]
  | .custom renderer format => [.call (.render renderer format bytes)]

/-- The refusal of a width that cannot be shown. -/
def refusalSteps (field : Field) : List Record.Step :=
  if field.isUnreadable then [.refuse field.width] else []

/-- How a labelled field is traced: its line, then a refusal, and then its check. -/
def traceSteps (field : Field) (label : String) (bytes : Bytes) : List Record.Step :=
  .label label :: field.valueSteps bytes ++ .endLine :: field.refusalSteps ++
    (field.checkCalls bytes).map .call

theorem isUnreadable_iff (field : Field) :
    field.isUnreadable = true ↔ ∃ format, field.render = .integer format ∧
      field.width ∉ [1, 2, 4, 8] := by
  unfold isUnreadable
  cases field.render with
  | label => simp
  | integer format => simp [isIntegerWidth, and_assoc]
  | custom renderer format => simp

end Field

namespace Record

/-- The steps about a field at its place; a field without a place has none. -/
def stepsAt (trace : Bool) : Field × Option Capture → List Step
  | (_, none) => []
  | (field, some place) =>
      .compare field place.offset ::
        match trace, field.name with
        | true, some label => field.traceSteps label place.bytes
        | _, _ => []

/-- The steps of a decode. -/
def steps (trace : Bool) (data : Bytes) (fields : List Field) : List Step :=
  (fields.zip (places 0 data fields)).flatMap (stepsAt trace)

/-- The calls about a field at its place: of its renderer, and then of its check. -/
def callsAt : Field × Option Capture → List Call
  | (_, none) => []
  | (field, some place) =>
      match field.name with
      | some _ => field.renderCalls place.bytes ++ field.checkCalls place.bytes
      | none => []

/-- Whether a field is decoded and labelled, and its width cannot be shown. -/
def isRefused : Field × Option Capture → Bool
  | (_, none) => false
  | (field, some _) => field.name.isSome && field.isUnreadable

section Shown

variable {field : Field} {place : Capture}

theorem stepsAt_of_hidden (hidden : field.name = none) (trace : Bool) :
    stepsAt trace (field, some place) = [.compare field place.offset] := by
  cases trace <;> simp [stepsAt, hidden]

theorem stepsAt_of_label {label : String} (named : field.name = some label) :
    stepsAt true (field, some place) =
      .compare field place.offset :: field.traceSteps label place.bytes := by
  simp [stepsAt, named]

theorem callsAt_of_hidden (hidden : field.name = none) :
    callsAt (field, some place) = [] := by
  simp [callsAt, hidden]

theorem callsAt_of_label {label : String} (named : field.name = some label) :
    callsAt (field, some place) =
      field.renderCalls place.bytes ++ field.checkCalls place.bytes := by
  simp [callsAt, named]

end Shown

variable {title : Option String}

/-! ## A decode performs its steps -/

theorem showValue_eq_steps (title : Option String) {field : Field} {bytes : Bytes}
    (whole : bytes.length = field.width) :
    field.showValue bytes = (do
      (field.valueSteps bytes).forM (Step.perform title)
      return !field.isUnreadable) := by
  unfold Field.showValue Field.valueSteps Field.isUnreadable
  cases field.render with
  | label => simp
  | integer format =>
      dsimp only
      rw [showInteger, whole]
      cases isIntegerWidth field.width <;> simp [Step.perform]
  | custom renderer format => simp [Step.perform, Call.perform]

theorem check_eq_steps (title : Option String) (field : Field) (bytes : Bytes) :
    whenChecking (field.validate bytes) =
      ((field.checkCalls bytes).map Step.call).forM (Step.perform title) := by
  unfold Field.validate Field.checkCalls
  cases field.validator with
  | none =>
      funext session
      exact ite_self _
  | some validator => simp [Step.perform, Call.perform]

theorem traceField_eq_steps {field : Field} {bytes : Bytes} (whole : bytes.length = field.width)
    (label : String) :
    traceField title label field bytes =
      (field.traceSteps label bytes).forM (Step.perform title) := by
  unfold traceField Field.traceSteps Field.refusalSteps
  rw [showValue_eq_steps title whole, check_eq_steps title]
  simp only [List.forM_eq_forM, List.forM_append, List.forM_cons, List.cons_append, bind_assoc,
    pure_bind]
  cases field.isUnreadable with
  | true => simp [Step.perform]
  | false => simp [Step.perform]

theorem visitField_eq_steps {field : Field} {place : Capture}
    (whole : place.bytes.length = field.width) (trace : Bool) :
    visitField trace title place.offset field place.bytes =
      (stepsAt trace (field, some place)).forM (Step.perform title) := by
  unfold visitField
  rw [List.forM_eq_forM]
  cases trace with
  | false => rfl
  | true =>
      cases named : field.name with
      | none =>
          rw [stepsAt_of_hidden named]
          rfl
      | some label =>
          rw [stepsAt_of_label named, List.forM_cons]
          dsimp only
          rw [traceField_eq_steps whole]
          rfl

/-- Every place in a decode holds the bytes of its field. -/
theorem length_bytes_of_mem_zip {data : Bytes} {fields : List Field} {field : Field}
    {place : Capture} (there : (field, some place) ∈ fields.zip (places 0 data fields)) :
    place.bytes.length = field.width := by
  obtain ⟨index, found⟩ := List.getElem?_of_mem there
  obtain ⟨here, atPlace⟩ := List.getElem?_zip_eq_some.mp found
  exact (placement_places data fields).length_bytes here atPlace

/-- Visits of placed fields perform their steps. -/
theorem forM_visitPlaced (trace : Bool) (title : Option String)
    {pairs : List (Field × Option Capture)}
    (whole : ∀ field place, (field, some place) ∈ pairs → place.bytes.length = field.width) :
    pairs.forM (visitPlaced trace title) =
      (pairs.flatMap (stepsAt trace)).forM (Step.perform title) := by
  simp only [List.forM_eq_forM]
  induction pairs with
  | nil => rfl
  | cons pair pairs ih =>
      have later := ih fun field place there =>
        whole field place (List.mem_cons_of_mem pair there)
      rw [List.forM_cons, List.flatMap_cons, List.forM_append, later]
      obtain ⟨field, place⟩ := pair
      cases place with
      | none => rfl
      | some place =>
          have here := whole field place List.mem_cons_self
          exact congrArg (· >>= _) (visitField_eq_steps here trace)

/-- **A decode performs its steps**, in a block and behind its title. -/
theorem decode_eq_steps (trace : Bool) (indent : UInt64) (title : Option String) (data : Bytes)
    (fields : List Field) :
    decode trace indent title data fields = indented indent (do
      showTitle trace title
      (steps trace data fields).forM (Step.perform title)
      return reading data fields) := by
  have visits : (fields.zip (places 0 data fields)).forM (visitPlaced trace title) =
      (steps trace data fields).forM (Step.perform title) :=
    forM_visitPlaced trace title fun field place there => length_bytes_of_mem_zip there
  rw [decode, decodeFrom_eq_visits, visits]
  rfl

/-! ## The calls among the steps -/

theorem filterMap_call?_valueSteps (field : Field) (bytes : Bytes) :
    (field.valueSteps bytes).filterMap Step.call? = field.renderCalls bytes := by
  unfold Field.valueSteps Field.renderCalls
  cases field.render with
  | label => rfl
  | integer format =>
      dsimp only
      split
      · rfl
      · rfl
  | custom renderer format => rfl

theorem filterMap_call?_traceSteps (field : Field) (label : String) (bytes : Bytes) :
    (field.traceSteps label bytes).filterMap Step.call? =
      field.renderCalls bytes ++ field.checkCalls bytes := by
  have refusals : field.refusalSteps.filterMap Step.call? = [] := by
    unfold Field.refusalSteps
    split
    · rfl
    · rfl
  have checks : ((field.checkCalls bytes).map Step.call).filterMap Step.call? =
      field.checkCalls bytes := by
    rw [List.filterMap_map]
    exact List.filterMap_some
  simp [Field.traceSteps, List.filterMap_cons, List.filterMap_append, filterMap_call?_valueSteps,
    refusals, checks, Step.call?]

theorem filterMap_call?_stepsAt (pair : Field × Option Capture) :
    (stepsAt true pair).filterMap Step.call? = callsAt pair := by
  obtain ⟨field, place⟩ := pair
  cases place with
  | none => rfl
  | some place =>
      cases named : field.name with
      | none =>
          rw [stepsAt_of_hidden named, callsAt_of_hidden named]
          rfl
      | some label =>
          rw [stepsAt_of_label named, callsAt_of_label named]
          exact filterMap_call?_traceSteps field label place.bytes

/-- A traced decode calls the renderer and the check of each labelled field that it decodes. -/
theorem filterMap_call?_steps (data : Bytes) (fields : List Field) :
    (steps true data fields).filterMap Step.call? =
      (fields.zip (places 0 data fields)).flatMap callsAt := by
  rw [steps, List.filterMap_flatMap]
  simp only [filterMap_call?_stepsAt]

/-- An untraced decode only compares offsets. -/
theorem mem_steps_untraced {data : Bytes} {fields : List Field} {step : Step}
    (there : step ∈ steps false data fields) : ∃ field offset, step = .compare field offset := by
  obtain ⟨⟨field, place⟩, _, member⟩ := List.mem_flatMap.mp there
  cases place with
  | none => cases member
  | some place => exact ⟨field, place.offset, List.mem_singleton.mp member⟩

theorem filterMap_call?_steps_untraced (data : Bytes) (fields : List Field) :
    (steps false data fields).filterMap Step.call? = [] := by
  rw [List.filterMap_eq_nil_iff]
  intro step there
  obtain ⟨field, offset, rfl⟩ := mem_steps_untraced there
  rfl

/-- The steps about one field lie between those about the fields before it and behind it. -/
theorem steps_eq_append {trace : Bool} {data : Bytes} {fields : List Field} {index : Nat}
    {field : Field} {place : Option Capture} (here : fields[index]? = some field)
    (found : (places 0 data fields)[index]? = some place) :
    steps trace data fields =
      ((fields.zip (places 0 data fields)).take index).flatMap (stepsAt trace) ++
        stepsAt trace (field, place) ++
        ((fields.zip (places 0 data fields)).drop (index + 1)).flatMap (stepsAt trace) := by
  have pair : (fields.zip (places 0 data fields))[index]? = some (field, place) :=
    List.getElem?_zip_eq_some.mpr ⟨here, found⟩
  obtain ⟨inside, same⟩ := List.getElem?_eq_some_iff.mp pair
  rw [steps, ← List.flatMap_singleton (stepsAt trace) (field, place), ← List.flatMap_append,
    ← List.flatMap_append, List.append_assoc, ← same, List.singleton_append,
    ← List.drop_eq_getElem_cons inside, List.take_append_drop]

/-! ## Functions without a part in a decode -/

end Record

namespace Field

/-- The field without its functions: only its label is shown, and its value is not checked. -/
def bare (field : Field) : Field :=
  { field with render := .label, validator := none, argument := none }

/-- A field that is decoded at a place, without its functions unless it is shown there. -/
def seen (trace : Bool) (field : Field) (place : Option Capture) : Field :=
  if trace ∧ field.name.isSome ∧ place.isSome then field else field.bare

variable {trace : Bool} {field : Field} {place : Option Capture}

@[simp] theorem width_seen : (field.seen trace place).width = field.width := by
  unfold seen
  split
  · rfl
  · rfl

@[simp] theorem captured_seen : (field.seen trace place).captured = field.captured := by
  unfold seen
  split
  · rfl
  · rfl

end Field

namespace Record

/-- Without its functions, a field that is not shown is visited as with them. -/
theorem visitPlaced_seen (trace : Bool) (title : Option String) (field : Field)
    (place : Option Capture) :
    visitPlaced trace title (field.seen trace place, place) =
      visitPlaced trace title (field, place) := by
  unfold Field.seen
  split
  · rfl
  · next unseen =>
      cases place with
      | none => rfl
      | some place =>
          cases trace with
          | false => rfl
          | true =>
              have hidden : field.name = none := by simpa using unseen
              have hiddenBare : field.bare.name = none := hidden
              simp only [visitPlaced, visitField, hidden, hiddenBare]
              rfl

theorem zip_zipWith_seen (trace : Bool) (fields : List Field) (placed : List (Option Capture)) :
    (List.zipWith (Field.seen trace) fields placed).zip placed =
      (fields.zip placed).map fun pair => (pair.1.seen trace pair.2, pair.2) := by
  induction fields generalizing placed with
  | nil => rfl
  | cons field fields ih =>
      cases placed with
      | nil => rfl
      | cons place placed => exact congrArg (_ :: ·) (ih placed)

theorem map_zipWith_seen {α : Type} {property : Field → α} (trace : Bool)
    (blind : ∀ field place, property (Field.seen trace field place) = property field)
    {fields : List Field} {placed : List (Option Capture)}
    (same : placed.length = fields.length) :
    (List.zipWith (Field.seen trace) fields placed).map property = fields.map property := by
  induction fields generalizing placed with
  | nil => rfl
  | cons field fields ih =>
      cases placed with
      | nil => cases same
      | cons place placed =>
          rw [List.zipWith_cons_cons, List.map_cons, List.map_cons, blind,
            ih (Nat.succ.inj same)]

/-- **The functions of fields that are not shown have no part in a decode**: the functions of
skipped and of hidden fields, and of all fields if the decode is not traced. -/
theorem decode_seen (trace : Bool) (indent : UInt64) (title : Option String) (data : Bytes)
    (fields : List Field) :
    decode trace indent title data
        (List.zipWith (Field.seen trace) fields (places 0 data fields)) =
      decode trace indent title data fields := by
  have same : (places 0 data fields).length = fields.length := length_places
  have widths := map_zipWith_seen trace (fun _ _ => Field.width_seen) same
  have kept := map_zipWith_seen trace (fun _ _ => Field.captured_seen) same
  simp only [decode, decodeFrom_eq_visits, readingFrom_congr widths kept, places_congr widths,
    zip_zipWith_seen, List.forM_eq_forM, List.forM_map, visitPlaced_seen]

/-! ## What a decode reports -/

section Reports

variable {scope : Scope} {title : Option String} {said : Call → Report}

/-- What a step reports, if calls report what is said. -/
def Step.report (scope : Scope) (title : Option String) (said : Call → Report) : Step → Report
  | .compare field offset =>
      driftReports scope title (if offset = field.offset then [] else [(field, offset)])
  | .label text =>
      .ofEmit ⟨columnLabel (addSaturating64 scope.indent 2).toNat text ++ " : ", none⟩
  | .number format bytes => .ofEmit ⟨format.numeral bytes.littleEndian, none⟩
  | .call made => said made
  | .endLine => .ofEmit ⟨"\n", none⟩
  | .refuse width => .ofError scope (Fault.message (.unreadableWidth (title.getD "") width))

/-- What the title of a decode reports. -/
def titleReport (scope : Scope) (trace : Bool) (title : Option String) : Report :=
  match trace, title with
  | true, some title =>
      .ofEmit ⟨columnLabel scope.indent.toNat title ++ " :\n", scope.styled .heading⟩
  | _, _ => .empty

theorem reports_showTitle (trace : Bool) (title : Option String) :
    Reports (showTitle trace title) scope () (titleReport scope trace title) := by
  cases trace with
  | false => exact Reports.pure ()
  | true =>
      cases title with
      | none => exact Reports.pure ()
      | some title => exact Reports.heading title

theorem reports_compare (title : Option String) (field : Field) (offset : Nat) :
    Reports (whenChecking (checkOffset title field offset)) scope ()
      (driftReports scope title (if offset = field.offset then [] else [(field, offset)])) := by
  have same : visitField false title offset field [] =
      whenChecking (checkOffset title field offset) := by
    cases field.name <;> rfl
  rw [← same]
  exact reports_visitField_untraced title offset field []

theorem reports_perform {step : Step}
    (reports : ∀ call ∈ step.call?, Reports call.perform scope () (said call)) :
    Reports (step.perform title) scope () (step.report scope title said) := by
  cases step with
  | compare field offset => exact reports_compare title field offset
  | label text => exact Reports.fieldLabel 2 text
  | number format bytes => exact Reports.print _
  | call made => exact reports made rfl
  | endLine => exact Reports.print _
  | refuse width => exact Reports.error _

theorem reports_forM_perform {list : List Step}
    (reports : ∀ call ∈ list.filterMap Step.call?, Reports call.perform scope () (said call)) :
    Reports (list.forM (Step.perform title)) scope ()
      (.join (list.map (Step.report scope title said))) := by
  rw [List.forM_eq_forM]
  induction list with
  | nil => exact Reports.pure ()
  | cons step list ih =>
      rw [List.forM_cons, List.map_cons, Report.join_cons]
      refine (reports_perform fun call made => ?_).bind (ih fun call there => ?_)
      · exact reports call (List.mem_filterMap.mpr ⟨step, List.mem_cons_self, made⟩)
      · obtain ⟨other, member, made⟩ := List.mem_filterMap.mp there
        exact reports call
          (List.mem_filterMap.mpr ⟨other, List.mem_cons_of_mem step member, made⟩)

/-- **A decode reports what its title and its steps report**, if the functions that it calls
report. -/
theorem reports_decode {trace : Bool} {indent : UInt64} {title : Option String} {data : Bytes}
    {fields : List Field}
    (reports : ∀ call ∈ (steps trace data fields).filterMap Step.call?,
      Reports call.perform (scope.nested indent) () (said call)) :
    Reports (decode trace indent title data fields) scope (reading data fields)
      (titleReport (scope.nested indent) trace title ++
        .join ((steps trace data fields).map (Step.report (scope.nested indent) title said))) := by
  rw [decode_eq_steps]
  refine Reports.indented ((reports_showTitle trace title).bind ?_)
  exact Reports.bind_pure (fun _ => reading data fields) (reports_forM_perform reports)

end Reports

/-! ## What a decode counts -/

namespace Step

/-- Whether a step finds its field away from the declared offset. -/
def isDrift : Step → Bool
  | .compare field offset => offset != field.offset
  | _ => false

def isRefusal : Step → Bool
  | .refuse _ => true
  | _ => false

variable {scope : Scope} {title : Option String} {said : Call → Report}

theorem errors_report (step : Step) :
    (step.report scope title said).errors =
      (if scope.config.consistency ∧ step.isDrift then 1 else 0) +
        (if step.isRefusal then 1 else 0) +
        (step.call?.toList.map fun call => (said call).errors).sum := by
  cases step with
  | compare field offset =>
      cases checking : scope.config.consistency with
      | false => simp [report, driftReports, checking, isDrift, isRefusal, call?]
      | true =>
          rw [report, errors_driftReports checking]
          by_cases same : offset = field.offset <;> simp [same, isDrift, isRefusal, call?]
  | call made => simp [report, isDrift, isRefusal, call?]
  | label | number | endLine => simp [report, Report.ofEmit, isDrift, isRefusal, call?]
  | refuse width => simp [report, Report.ofError, Report.oneError, Report.ofEmit, isDrift,
      isRefusal, call?]

theorem warnings_report (step : Step) :
    (step.report scope title said).warnings =
      (step.call?.toList.map fun call => (said call).warnings).sum := by
  cases step with
  | compare field offset => exact warnings_driftReports scope title _
  | call made => simp [report, call?]
  | label | number | endLine | refuse => rfl

theorem errors_join_report (list : List Step) :
    (Report.join (list.map (report scope title said))).errors =
      (if scope.config.consistency then list.countP isDrift else 0) +
        list.countP isRefusal +
        ((list.filterMap call?).map fun call => (said call).errors).sum := by
  induction list with
  | nil => simp
  | cons step list ih =>
      rw [List.map_cons, Report.join_cons, Report.errors_append, ih, errors_report,
        List.filterMap_cons, List.countP_cons, List.countP_cons]
      cases scope.config.consistency <;> cases step.call? <;> simp <;> omega

theorem warnings_join_report (list : List Step) :
    (Report.join (list.map (report scope title said))).warnings =
      ((list.filterMap call?).map fun call => (said call).warnings).sum := by
  induction list with
  | nil => rfl
  | cons step list ih =>
      rw [List.map_cons, Report.join_cons, Report.warnings_append, ih, warnings_report,
        List.filterMap_cons]
      cases step.call? with
      | none => simp
      | some call => simp

end Step

/-- Where each field has one step of a kind or none, the steps of the kind are counted by field. -/
theorem countP_flatMap_stepsAt {trace : Bool} {kind : Step → Bool}
    {has : Field × Option Capture → Bool} {pairs : List (Field × Option Capture)}
    (each : ∀ pair, (stepsAt trace pair).countP kind = if has pair then 1 else 0) :
    (pairs.flatMap (stepsAt trace)).countP kind = pairs.countP has := by
  induction pairs with
  | nil => rfl
  | cons pair pairs ih =>
      rw [List.flatMap_cons, List.countP_append, each, ih, List.countP_cons, Nat.add_comm]

theorem countP_isDrift_traceSteps (field : Field) (label : String) (bytes : Bytes) :
    (field.traceSteps label bytes).countP Step.isDrift = 0 := by
  unfold Field.traceSteps Field.valueSteps Field.refusalSteps
  cases field.render <;> cases field.isUnreadable <;> simp [Step.isDrift, List.countP_map]

theorem countP_isRefusal_traceSteps (field : Field) (label : String) (bytes : Bytes) :
    (field.traceSteps label bytes).countP Step.isRefusal =
      if field.isUnreadable then 1 else 0 := by
  have calls : ((field.checkCalls bytes).map Step.call).countP Step.isRefusal = 0 := by
    rw [List.countP_map, List.countP_eq_zero]
    exact fun _ _ => Bool.false_ne_true
  unfold Field.traceSteps Field.valueSteps Field.refusalSteps
  cases field.render <;> cases field.isUnreadable <;>
    simp [Step.isRefusal, List.countP_cons, calls]

/-- The comparisons that find a field away from its declared offset are those of the drifts. -/
theorem countP_isDrift_steps (data : Bytes) (fields : List Field) :
    (steps true data fields).countP Step.isDrift = (drifts 0 data fields).length := by
  rw [drifts, List.length_filterMap_eq_countP]
  refine countP_flatMap_stepsAt fun pair => ?_
  obtain ⟨field, place⟩ := pair
  cases place with
  | none => rfl
  | some place =>
      have compared : (stepsAt true (field, some place)).countP Step.isDrift =
          if (Step.compare field place.offset).isDrift then 1 else 0 := by
        cases named : field.name with
        | none => rw [stepsAt_of_hidden named, List.countP_singleton]
        | some label =>
            rw [stepsAt_of_label named, List.countP_cons, countP_isDrift_traceSteps, Nat.zero_add]
      rw [compared]
      by_cases same : place.offset = field.offset <;> simp [Step.isDrift, drift?, same]

theorem countP_isRefusal_steps (data : Bytes) (fields : List Field) :
    (steps true data fields).countP Step.isRefusal =
      (fields.zip (places 0 data fields)).countP isRefused := by
  refine countP_flatMap_stepsAt fun pair => ?_
  obtain ⟨field, place⟩ := pair
  cases place with
  | none => rfl
  | some place =>
      cases named : field.name with
      | none => simp [stepsAt_of_hidden named, isRefused, named, Step.isRefusal]
      | some label =>
          rw [stepsAt_of_label named, List.countP_cons, countP_isRefusal_traceSteps]
          simp [isRefused, named, Step.isRefusal]

/-- **The counts of a traced decode** whose functions report: with consistency checking one error
for each drifting field, in any case one for each refused width, and what the calls count. -/
theorem counters_decode_traced {indent : UInt64} {title : Option String} {data : Bytes}
    {fields : List Field} {session : Session} {said : Call → Report}
    (reports : ∀ call ∈ (fields.zip (places 0 data fields)).flatMap callsAt,
      Reports call.perform (session.scope.nested indent) () (said call)) :
    (decode true indent title data fields session).2.counters = session.counters.plus
      ((if session.config.consistency then (drifts 0 data fields).length else 0) +
        (fields.zip (places 0 data fields)).countP isRefused +
        (((fields.zip (places 0 data fields)).flatMap callsAt).map
          fun call => (said call).errors).sum)
      (((fields.zip (places 0 data fields)).flatMap callsAt).map
        fun call => (said call).warnings).sum := by
  rw [← filterMap_call?_steps] at reports ⊢
  have untold : (titleReport (session.scope.nested indent) true title).errors = 0 ∧
      (titleReport (session.scope.nested indent) true title).warnings = 0 := by
    cases title with
    | none => exact ⟨rfl, rfl⟩
    | some title => exact ⟨rfl, rfl⟩
  rw [reports_decode reports session rfl, Session.counters_record, Report.errors_append,
    Report.warnings_append, untold.1, untold.2, Nat.zero_add, Nat.zero_add,
    Step.errors_join_report, Step.warnings_join_report, countP_isDrift_steps,
    countP_isRefusal_steps]
  rfl

/-! ## What is shown and checked -/

/-- **Shown fields are rendered and checked once.**  A decode performs its steps in order.  The
calls of a traced decode are, for each labelled field that has a place, one of its renderer and then
one of its check, with its own bytes, format and argument; an untraced decode makes none.  An
integer whose width is none of 1, 2, 4 and 8 is refused with one error, consistency checked or not.
-/
theorem shown_fields_are_rendered_and_checked_once (indent : UInt64) (title : Option String)
    (data : Bytes) (fields : List Field) :
    let placed := places 0 data fields
    let pairs := fields.zip placed
    Placement data fields placed ∧
    (∀ trace, decode trace indent title data fields = indented indent (do
      showTitle trace title
      (steps trace data fields).forM (Step.perform title)
      return reading data fields)) ∧
    (steps true data fields).filterMap Step.call? = pairs.flatMap callsAt ∧
    (steps false data fields).filterMap Step.call? = [] ∧
    (∀ index field place label, fields[index]? = some field →
      placed[index]? = some (some place) → field.name = some label →
        steps true data fields = (pairs.take index).flatMap (stepsAt true) ++
          (.compare field place.offset :: .label label :: field.valueSteps place.bytes ++
            .endLine :: field.refusalSteps ++ (field.checkCalls place.bytes).map .call) ++
          (pairs.drop (index + 1)).flatMap (stepsAt true)) ∧
    (∀ trace, decode trace indent title data (List.zipWith (Field.seen trace) fields placed) =
      decode trace indent title data fields) ∧
    (∀ field : Field, field.refusalSteps = [.refuse field.width] ↔
      ∃ format, field.render = .integer format ∧ field.width ∉ [1, 2, 4, 8]) ∧
    (∀ width session, (Step.refuse width).perform title session = ((), session.record
      (.ofError session.scope (Fault.message (.unreadableWidth (title.getD "") width))))) ∧
    ∀ (session : Session) (said : Call → Report),
      (∀ call ∈ pairs.flatMap callsAt,
        Reports call.perform (session.scope.nested indent) () (said call)) →
      (decode true indent title data fields session).2.counters = session.counters.plus
        ((if session.config.consistency then (drifts 0 data fields).length else 0) +
          pairs.countP isRefused +
          ((pairs.flatMap callsAt).map fun call => (said call).errors).sum)
        ((pairs.flatMap callsAt).map fun call => (said call).warnings).sum := by
  intro placed pairs
  refine ⟨placement_places data fields, fun trace => decode_eq_steps trace indent title data fields,
    filterMap_call?_steps data fields, filterMap_call?_steps_untraced data fields, ?_,
    fun trace => decode_seen trace indent title data fields, fun field => ?_,
    fun width session => Reports.error _ session rfl,
    fun session said reports => counters_decode_traced reports⟩
  · intro index field place label here found named
    rw [steps_eq_append here found, stepsAt_of_label named]
    rfl
  · rw [← Field.isUnreadable_iff, Field.refusalSteps]
    cases field.isUnreadable <;> simp

/-- A field of three bytes that is refused by its check as well, a wide field that is skipped, and a
field behind it that is decoded. -/
theorem shown_fields_are_rendered_and_checked_once_of_odd_width :
    let fields := [(Field.hex "Reserved" 3 0).checkedBy fun _ _ => error "not zero",
      Field.decimal "Wide" 8 3, Field.decimal "Id" 1 3]
    let decoded (consistency : Bool) :=
      decode true 0 (some "GICD") [1, 0, 0, 7] fields (.start ⟨consistency, false, .all⟩)
    (decoded true).2.counters = ⟨2, 0⟩ ∧ (decoded false).2.counters = ⟨1, 0⟩ := by
  intro fields decoded
  have counted := (shown_fields_are_rendered_and_checked_once 0 (some "GICD") [1, 0, 0, 7]
    fields).2.2.2.2.2.2.2.2
  have made : (fields.zip (places 0 [1, 0, 0, 7] fields)).flatMap callsAt =
      [.check (fun _ _ => error "not zero") [1, 0, 0] none] := rfl
  have checks (session : Session) : ∀ call ∈ (fields.zip (places 0 [1, 0, 0, 7] fields)).flatMap
      callsAt, Reports call.perform (session.scope.nested 0) () (if session.config.consistency then
        .ofError (session.scope.nested 0) "not zero" else .empty) := by
    intro call there
    rw [made, List.mem_singleton] at there
    subst there
    exact Reports.whenChecking fun _ => Reports.error _
  exact ⟨(counted (.start ⟨true, false, .all⟩) _ (checks _)).trans (by decide),
    (counted (.start ⟨false, false, .all⟩) _ (checks _)).trans (by decide)⟩

end Record

end AcpiTables
