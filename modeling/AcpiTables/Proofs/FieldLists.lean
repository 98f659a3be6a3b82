import AcpiTables.Proofs.Composition
import AcpiTables.Proofs.Steps
import AcpiTables.Proofs.WholeTables

/-!
# Field lists one behind the other

Fields take some of the bytes that are left, and how many depends on their widths and on the number
of bytes only (`Record.spent`).  So the fields of a second list behind a first one lie where they
lie in the data behind the bytes that the first list takes, at offsets raised by those bytes
(`places_append`, `places_raised`), and a decode of both lists is a decode of the first one and then
of the second one (`decodeFrom_append`).

The running offset has a part in what a decode reports only through the declared offsets, which are
not compared unless consistency is checked.  So without consistency checking a decode of both lists
without a title does what two decodes do, one behind the other, if the renderers leave configuration
and indent as they find them (`decode_append_of_unchecked`).

The fields of a table are those of the header with a tail behind them.  `Header.copied?` makes them
as a program does that fills slots one after another, and a wrong number of slots is the only way to
go wrong (`Header.copied?_eq_append`).  All of this is `field_lists_compose`.
-/

namespace AcpiTables

set_option autoImplicit false

open Decoder

/-! ## Readings one behind the other -/

/-- The capture in data that starts earlier by an amount. -/
def Capture.raised (amount : Nat) (capture : Capture) : Capture :=
  { capture with offset := amount + capture.offset }

namespace Reading

/-- The reading together with that of the data behind the bytes it consumed. -/
def followedBy (first second : Reading) : Reading where
  consumed := first.consumed + second.consumed
  captures := first.captures ++ second.captures.map (Option.map (Capture.raised first.consumed))

variable {first second : Reading}

theorem capture?_followedBy_of_lt {index : Nat} (inside : index < first.captures.length) :
    (first.followedBy second).capture? index = first.capture? index := by
  rw [capture?, followedBy, List.getElem?_append_left inside, capture?]

theorem capture?_followedBy_add (index : Nat) :
    (first.followedBy second).capture? (first.captures.length + index) =
      (second.capture? index).map (Capture.raised first.consumed) := by
  rw [capture?, followedBy, List.getElem?_append_right (Nat.le_add_right _ _),
    Nat.add_sub_cancel_left, List.getElem?_map, capture?]
  cases second.captures[index]? with
  | none => rfl
  | some entry => rfl

end Reading

namespace Record

/-! ## The bytes that fields take -/

/-- How many of the bytes that are left the fields take. -/
def spent (room : Nat) : List Field → Nat
  | [] => 0
  | field :: fields =>
      if field.width ≤ room then field.width + spent (room - field.width) fields
      else spent room fields

section Spent

variable {room : Nat} {field : Field} {fields : List Field}

theorem spent_cons_of_fits (fits : field.width ≤ room) :
    spent room (field :: fields) = field.width + spent (room - field.width) fields := by
  rw [spent, if_pos fits]

theorem spent_cons_of_not_fits (passes : ¬ field.width ≤ room) :
    spent room (field :: fields) = spent room fields := by
  rw [spent, if_neg passes]

theorem spent_le : spent room fields ≤ room := by
  fun_induction spent room fields with
  | case1 => exact Nat.zero_le _
  | case2 room field fields fits ih => omega
  | case3 room field fields passes ih => exact ih

theorem spent_append {more : List Field} :
    spent room (fields ++ more) = spent room fields + spent (room - spent room fields) more := by
  fun_induction spent room fields with
  | case1 => simp
  | case2 room field fields fits ih =>
      rw [List.cons_append, spent_cons_of_fits fits, ih, Nat.sub_sub, Nat.add_assoc]
  | case3 room field fields passes ih => rw [List.cons_append, spent_cons_of_not_fits passes, ih]

/-- The bytes at the places are those that the fields take. -/
theorem sum_placeWidth_places {offset : Nat} {rest : Bytes} :
    ((places offset rest fields).map placeWidth).sum = spent rest.length fields := by
  induction fields generalizing offset rest with
  | nil => rfl
  | cons field fields ih =>
      by_cases fits : field.width ≤ rest.length
      · rw [places_cons_of_fits fits, spent_cons_of_fits fits, List.map_cons, List.sum_cons, ih,
          placeWidth, List.length_take_of_le fits, List.length_drop]
      · rw [places_cons_of_not_fits fits, spent_cons_of_not_fits fits, List.map_cons,
          List.sum_cons, ih, placeWidth, Nat.zero_add]

theorem consumed_readingFrom {offset : Nat} {rest : Bytes} :
    (readingFrom offset rest fields).consumed = offset + spent rest.length fields := by
  rw [readingFrom, sum_placeWidth_places]

theorem consumed_reading_eq_spent {data : Bytes} :
    (reading data fields).consumed = spent data.length fields := by
  rw [reading, consumed_readingFrom, Nat.zero_add]

end Spent

/-! ## Places of two lists -/

variable {first second : List Field}

theorem places_append {offset : Nat} {rest : Bytes} :
    places offset rest (first ++ second) = places offset rest first ++
      places (offset + spent rest.length first) (rest.drop (spent rest.length first)) second := by
  induction first generalizing offset rest with
  | nil => rfl
  | cons field first ih =>
      by_cases fits : field.width ≤ rest.length
      · rw [List.cons_append, places_cons_of_fits fits, places_cons_of_fits fits,
          spent_cons_of_fits fits, ih, List.length_drop, List.drop_drop, Nat.add_assoc,
          List.cons_append]
      · rw [List.cons_append, places_cons_of_not_fits fits, places_cons_of_not_fits fits,
          spent_cons_of_not_fits fits, ih, List.cons_append]

/-- Fields lie in data that starts earlier as they lie in the data, at raised offsets. -/
theorem places_raised {amount offset : Nat} {rest : Bytes} {fields : List Field} :
    places (amount + offset) rest fields =
      (places offset rest fields).map (Option.map (Capture.raised amount)) := by
  fun_induction places offset rest fields with
  | case1 => rfl
  | case2 offset rest field fields fits ih =>
      rw [places_cons_of_fits fits, Nat.add_assoc, ih]
      rfl
  | case3 offset rest field fields passes ih =>
      rw [places_cons_of_not_fits passes, ih]
      rfl

@[simp] theorem length_captures_readingFrom {offset : Nat} {rest : Bytes} {fields : List Field} :
    (readingFrom offset rest fields).captures.length = fields.length := by
  rw [readingFrom, List.length_zipWith, length_places, Nat.min_self]

/-- The second list goes on where the first one stopped. -/
theorem readingFrom_append {offset : Nat} {rest : Bytes} :
    let back := readingFrom (offset + spent rest.length first)
      (rest.drop (spent rest.length first)) second
    readingFrom offset rest (first ++ second) =
      ⟨back.consumed, (readingFrom offset rest first).captures ++ back.captures⟩ := by
  intro back
  refine congrArg₂ Reading.mk ?_ ?_
  · rw [sum_placeWidth_places, spent_append, ← Nat.add_assoc, ← List.length_drop]
    exact consumed_readingFrom.symm
  · rw [places_append, List.zipWith_append length_places.symm]
    rfl

theorem readingFrom_raised (amount offset : Nat) (rest : Bytes) (fields : List Field) :
    readingFrom (amount + offset) rest fields =
      ⟨amount + (readingFrom offset rest fields).consumed,
        (readingFrom offset rest fields).captures.map (Option.map (Capture.raised amount))⟩ := by
  refine congrArg₂ Reading.mk ?_ ?_
  · rw [sum_placeWidth_places, consumed_readingFrom, Nat.add_assoc]
  · have raise (field : Field) (place : Option Capture) :
        keep field (place.map (Capture.raised amount)) =
          (keep field place).map (Capture.raised amount) := by
      unfold keep
      split
      · rfl
      · rfl
    rw [places_raised, List.zipWith_map_right, readingFrom, List.map_zipWith]
    simp only [raise]

/-- **The reading of two lists** is that of the first one, followed by that of the second one in the
data behind. -/
theorem reading_append (data : Bytes) (first second : List Field) :
    reading data (first ++ second) = (reading data first).followedBy
      (reading (data.drop (reading data first).consumed) second) := by
  rw [reading, readingFrom_append, Nat.zero_add, ← consumed_reading_eq_spent]
  exact congrArg (fun back : Reading => Reading.mk back.consumed (_ ++ back.captures))
    (readingFrom_raised _ 0 _ second)

/-! ## A decode of two lists -/

/-- **A decode of two lists is a decode of the first and then of the second**, at the offset and in
the bytes behind the first one. -/
theorem decodeFrom_append (trace : Bool) (title : Option String) (offset : Nat) (rest : Bytes)
    (first second : List Field) :
    decodeFrom trace title offset rest (first ++ second) = (do
      let front ← decodeFrom trace title offset rest first
      let back ← decodeFrom trace title (offset + spent rest.length first)
        (rest.drop (spent rest.length first)) second
      return ⟨back.consumed, front.captures ++ back.captures⟩) := by
  simp only [decodeFrom_eq_visits, List.forM_eq_forM, bind_assoc, pure_bind]
  rw [places_append, List.zip_append length_places.symm, List.forM_append, readingFrom_append,
    bind_assoc]

theorem decode_append (trace : Bool) (indent : UInt64) (title : Option String) (data : Bytes)
    (first second : List Field) :
    decode trace indent title data (first ++ second) = indented indent (do
      showTitle trace title
      let front ← decodeFrom trace title 0 data first
      let back ← decodeFrom trace title front.consumed (data.drop front.consumed) second
      return ⟨back.consumed, front.captures ++ back.captures⟩) := by
  rw [decode, decodeFrom_append]
  refine congrArg (fun body => indented indent (showTitle trace title >>= fun _ => body)) ?_
  funext session
  simp only [bind_apply, decodeFrom_value, consumed_readingFrom, Nat.zero_add]

/-- The step about a field that lies further back by an amount. -/
def Step.raised (amount : Nat) : Step → Step
  | .compare field offset => .compare field (amount + offset)
  | step => step

/-- Behind the comparison, the steps about a field do not depend on its offset. -/
theorem map_raised_traceSteps (amount : Nat) (field : Field) (label : String) (bytes : Bytes) :
    (field.traceSteps label bytes).map (Step.raised amount) = field.traceSteps label bytes := by
  have checks : ((field.checkCalls bytes).map Step.call).map (Step.raised amount) =
      (field.checkCalls bytes).map Step.call := by
    rw [List.map_map]
    rfl
  unfold Field.traceSteps Field.valueSteps Field.refusalSteps
  rw [List.map_append, checks]
  cases field.render <;> cases field.isUnreadable <;> rfl

theorem stepsAt_raised (trace : Bool) (field : Field) (amount : Nat) (place : Option Capture) :
    stepsAt trace (field, place.map (Capture.raised amount)) =
      (stepsAt trace (field, place)).map (Step.raised amount) := by
  cases place with
  | none => rfl
  | some place =>
      rw [Option.map_some]
      cases trace with
      | false => rfl
      | true =>
          cases named : field.name with
          | none =>
              rw [stepsAt_of_hidden named, stepsAt_of_hidden named]
              rfl
          | some label =>
              rw [stepsAt_of_label named, stepsAt_of_label named, List.map_cons,
                map_raised_traceSteps]
              rfl

/-- The steps of a decode of two lists are those of the first one, and then those of the second one
in the data behind, further back. -/
theorem steps_append (trace : Bool) (data : Bytes) (first second : List Field) :
    let start := (reading data first).consumed
    steps trace data (first ++ second) = steps trace data first ++
      (steps trace (data.drop start) second).map (Step.raised start) := by
  intro start
  have behind : 0 + spent data.length first = start + 0 := by
    rw [Nat.add_comm, ← consumed_reading_eq_spent]
  rw [steps, places_append, List.zip_append length_places.symm, List.flatMap_append, behind,
    ← consumed_reading_eq_spent, places_raised, List.zip_map_right, List.flatMap_map, steps, steps,
    List.map_flatMap]
  exact congrArg (fun each => _ ++ List.flatMap each _)
    (funext fun pair => stepsAt_raised trace pair.1 start pair.2)

/-! ## Decodes one behind the other -/

end Record

/-- The session inside a block whose indent is larger by an amount. -/
def Session.nested (session : Session) (extra : UInt64) : Session :=
  { session with indent := addSaturating64 session.indent extra }

namespace Decoder

variable {α β : Type}

/-- A decoder that leaves configuration and indent as it finds them.  The configuration of a session
is fixed when it starts, and a block puts the indent back, so what is made of the operations of a
session is such a decoder. -/
def KeepsScope (decoder : Decoder α) : Prop :=
  ∀ session : Session, (decoder session).2.scope = session.scope

theorem KeepsScope.of_confined {decoder : Decoder α} (confined : Confined decoder) :
    KeepsScope decoder := by
  intro session
  rw [confined.session_eq, Session.scope_absorb]

theorem whenChecking_of_unchecked {check : Decoder Unit} {session : Session}
    (unchecked : session.config.consistency = false) :
    whenChecking check session = ((), session) := by
  rw [whenChecking, unchecked]
  rfl

/-- A block does what its body does inside. -/
theorem indented_congr {extra : UInt64} {body other : Decoder α} {session : Session}
    (same : body (session.nested extra) = other (session.nested extra)) :
    indented extra body session = indented extra other session :=
  congrArg (fun inner : α × Session => (inner.1, { inner.2 with indent := session.indent })) same

/-- A block of two parts is two blocks, if the first part leaves the indent as it finds it. -/
theorem indented_bind {extra : UInt64} {first : Decoder α} {next : α → Decoder β}
    {session : Session}
    (kept : (first (session.nested extra)).2.scope = (session.nested extra).scope) :
    indented extra (first >>= next) session =
      (indented extra first >>= fun value => indented extra (next value)) session := by
  have same : (first (session.nested extra)).2.indent = addSaturating64 session.indent extra :=
    congrArg Scope.indent kept
  have reopened : { (first (session.nested extra)).2 with
      indent := addSaturating64 session.indent extra } = (first (session.nested extra)).2 := by
    rw [← same]
  simp only [bind_apply, indented, Session.nested] at reopened ⊢
  rw [reopened]

end Decoder

/-- A field whose renderer, if it has one, leaves configuration and indent as it finds them. -/
def Field.RendersInScope (field : Field) : Prop :=
  ∀ renderer format, field.render = .custom renderer format →
    ∀ bytes, KeepsScope (renderer format bytes)

theorem Field.Confined.rendersInScope {field : Field} (confined : field.Confined) :
    field.RendersInScope := fun renderer format shown bytes =>
  .of_confined (confined.renderer renderer format shown bytes)

namespace Record

/-- A step that is no call of a renderer, or one of a renderer that leaves configuration and indent
as it finds them. -/
def Step.InScope : Step → Prop
  | .call (.render renderer format bytes) => KeepsScope (renderer format bytes)
  | _ => True

/-- The renderer that is called about a field is its own. -/
theorem render_of_mem_callsAt {field : Field} {place : Option Capture} {renderer : Renderer}
    {format : Option NumberFormat} {bytes : Bytes}
    (about : .render renderer format bytes ∈ callsAt (field, place)) :
    field.render = .custom renderer format := by
  cases place with
  | none => cases about
  | some place =>
      cases named : field.name with
      | none =>
          rw [callsAt_of_hidden named] at about
          cases about
      | some label =>
          rw [callsAt_of_label named, List.mem_append, Field.renderCalls, Field.checkCalls] at about
          rcases about with shown | checked
          · split at shown
            · next custom =>
                obtain ⟨rfl, rfl, -⟩ := Call.render.inj (List.mem_singleton.mp shown)
                exact custom
            · cases shown
          · split at checked
            · cases List.mem_singleton.mp checked
            · cases checked

theorem inScope_of_mem_steps {trace : Bool} {data : Bytes} {fields : List Field}
    (renders : trace = true → ∀ field ∈ fields, field.RendersInScope) {step : Step}
    (there : step ∈ steps trace data fields) : step.InScope := by
  cases trace with
  | false =>
      obtain ⟨field, offset, rfl⟩ := mem_steps_untraced there
      exact trivial
  | true =>
      cases step with
      | compare | label | number | endLine | refuse => exact trivial
      | call made =>
          have called : made ∈ (steps true data fields).filterMap Step.call? :=
            List.mem_filterMap.mpr ⟨.call made, there, rfl⟩
          rw [filterMap_call?_steps, List.mem_flatMap] at called
          obtain ⟨⟨field, place⟩, member, about⟩ := called
          cases made with
          | check validator bytes argument => exact trivial
          | render renderer format bytes =>
              have mine := renders rfl field (List.of_mem_zip member).1
              exact mine renderer format (render_of_mem_callsAt about) bytes

section Unchecked

variable (title : Option String) {session : Session}
  (unchecked : session.config.consistency = false)

include unchecked

/-- Without consistency checking, the offset of a field does not matter. -/
theorem Step.perform_raised (amount : Nat) (step : Step) :
    (step.raised amount).perform title session = step.perform title session := by
  cases step with
  | compare field offset =>
      exact (whenChecking_of_unchecked unchecked).trans (whenChecking_of_unchecked unchecked).symm
  | label | number | call | endLine | refuse => rfl

theorem Step.scope_perform {step : Step} (inScope : step.InScope) :
    (step.perform title session).2.scope = session.scope := by
  cases step with
  | compare field offset => rw [perform, whenChecking_of_unchecked unchecked]
  | label text => exact KeepsScope.of_confined (Confined.inherited.fieldLabel 2 text) session
  | number format bytes => exact KeepsScope.of_confined (.print _) session
  | call made =>
      cases made with
      | render renderer format bytes => exact inScope session
      | check validator bytes argument =>
          rw [perform, Call.perform, whenChecking_of_unchecked unchecked]
  | endLine => exact KeepsScope.of_confined (.print _) session
  | refuse width => exact KeepsScope.of_confined (Confined.inherited.error _) session

theorem Step.unchecked_perform {step : Step} (inScope : step.InScope) :
    (step.perform title session).2.config.consistency = false := by
  rw [← unchecked]
  exact congrArg (·.config.consistency) (scope_perform title unchecked inScope)

theorem scope_forM_perform {list : List Step} (inScope : ∀ step ∈ list, step.InScope) :
    (list.forM (Step.perform title) session).2.scope = session.scope := by
  rw [List.forM_eq_forM]
  induction list generalizing session with
  | nil => rfl
  | cons step list ih =>
      obtain ⟨here, later⟩ := List.forall_mem_cons.mp inScope
      rw [List.forM_cons, bind_apply]
      exact (ih (Step.unchecked_perform title unchecked here) later).trans
        (Step.scope_perform title unchecked here)

theorem forM_perform_raised (amount : Nat) {list : List Step}
    (inScope : ∀ step ∈ list, step.InScope) :
    (list.map (Step.raised amount)).forM (Step.perform title) session =
      list.forM (Step.perform title) session := by
  simp only [List.forM_eq_forM, List.forM_map]
  induction list generalizing session with
  | nil => rfl
  | cons step list ih =>
      obtain ⟨here, later⟩ := List.forall_mem_cons.mp inScope
      rw [List.forM_cons, List.forM_cons, bind_apply, bind_apply,
        Step.perform_raised title unchecked, ih (Step.unchecked_perform title unchecked here) later]

end Unchecked

/-- Without a title, the session behind a decode is the one behind its steps in the block. -/
theorem decode_untitled (trace : Bool) (indent : UInt64) (data : Bytes) (fields : List Field) :
    decode trace indent none data fields = indented indent (do
      (steps trace data fields).forM (Step.perform none)
      return reading data fields) := by
  rw [decode_eq_steps]
  cases trace <;> rfl

/-- **Decodes one behind the other.**  Without consistency checking and without a title, a decode of
two lists does what a decode of the first one and then a decode of the second one in the data behind
do, if no renderer changes configuration and indent. -/
theorem decode_append_of_unchecked {trace : Bool} {indent : UInt64} {data : Bytes}
    {first second : List Field} {session : Session}
    (unchecked : session.config.consistency = false)
    (renders : trace = true → ∀ field ∈ first ++ second, field.RendersInScope) :
    decode trace indent none data (first ++ second) session = (do
      let front ← decode trace indent none data first
      let back ← decode trace indent none (data.drop front.consumed) second
      return front.followedBy back : Decoder Reading) session := by
  let start := (reading data first).consumed
  have off : (session.nested indent).config.consistency = false := unchecked
  have inScopeFirst : ∀ step ∈ steps trace data first, step.InScope :=
    fun step there => inScope_of_mem_steps
      (fun traced field listed => renders traced field (List.mem_append_left _ listed)) there
  have inScopeSecond : ∀ step ∈ steps trace (data.drop start) second, step.InScope :=
    fun step there => inScope_of_mem_steps
      (fun traced field listed => renders traced field (List.mem_append_right _ listed)) there
  have kept := scope_forM_perform none off inScopeFirst
  have still := (congrArg (·.config.consistency) kept).trans off
  have together : decode trace indent none data (first ++ second) session = indented indent
      ((steps trace data first).forM (Step.perform none) >>= fun _ =>
        (steps trace (data.drop start) second).forM (Step.perform none) >>= fun _ =>
        return reading data (first ++ second)) session := by
    rw [decode_untitled, steps_append, List.forM_eq_forM, List.forM_append, bind_assoc]
    exact indented_congr (congrArg
      (fun back : Unit × Session => (reading data (first ++ second), back.2))
      (forM_perform_raised none still start inScopeSecond))
  rw [together, indented_bind kept, reading_append]
  simp only [decode_untitled]
  rfl

/-- Fields behind a list are declared where the list ends. -/
theorem consistentFrom_append {offset : Nat} {first second : List Field} :
    ConsistentFrom offset (first ++ second) ↔ ConsistentFrom offset first ∧
      ConsistentFrom (offset + (first.map Field.width).sum) second := by
  induction first generalizing offset with
  | nil => simp [ConsistentFrom]
  | cons field first ih =>
      rw [List.cons_append, ConsistentFrom, ConsistentFrom, ih, List.map_cons, List.sum_cons,
        Nat.add_assoc, and_assoc]

end Record

/-! ## Header and tail -/

namespace Header

/-- Puts fields into slots, one after another from a position on, unless a slot is missing. -/
def copyInto (slots : List Field) (position : Nat) : List Field → Option (List Field)
  | [] => some slots
  | field :: fields =>
      if position < slots.length then copyInto (slots.set position field) (position + 1) fields
      else none

/-- Header fields and tail, put one behind the other into slots; before that, all slots hold the
first header field. -/
def copied? (total : Nat) (tail : List Field) : Option (List Field) := do
  let slots ← copyInto (List.replicate total (fields.head (by decide))) 0 fields
  copyInto slots fields.length tail

/-- Copied fields take the places of as many slots, and leave the slots around them. -/
theorem copyInto_append (before : List Field) {old items : List Field} (after : List Field)
    (room : old.length = items.length) :
    copyInto (before ++ old ++ after) before.length items = some (before ++ items ++ after) := by
  induction items generalizing before old with
  | nil => rw [copyInto, List.length_eq_zero_iff.mp room]
  | cons item items ih =>
      cases old with
      | nil => cases room
      | cons slot old =>
          have inside : before.length < (before ++ slot :: old ++ after).length := by
            simp
          have filled : (before ++ slot :: old ++ after).set before.length item =
              (before ++ [item]) ++ old ++ after := by
            simp
          have next : before.length + 1 = (before ++ [item]).length := by simp
          rw [copyInto, if_pos inside, filled, next, ih _ (Nat.succ.inj room)]
          simp

/-- **Copying a header and a tail never misses a slot**, if there are as many slots as fields. -/
theorem copied?_eq_append (tail : List Field) :
    copied? (fields.length + tail.length) tail = some (fields ++ tail) := by
  let slot := fields.head (by decide)
  have header : copyInto (List.replicate (fields.length + tail.length) slot) 0 fields =
      some (fields ++ List.replicate tail.length slot) := by
    have room : (List.replicate fields.length slot).length = fields.length :=
      List.length_replicate
    rw [← List.replicate_append_replicate]
    exact copyInto_append [] _ room
  have both : copyInto (fields ++ List.replicate tail.length slot) fields.length tail =
      some (fields ++ tail) := by
    simpa using copyInto_append fields [] List.length_replicate
  rw [copied?, header]
  exact both

theorem consumed_fields {data : Bytes} (whole : size ≤ data.length) :
    (Record.reading data fields).consumed = size := wellLaid_fields.consumed whole

/-- **A header and a tail are decoded one behind the other**, the tail from the end of the
header. -/
theorem decode_withTail {data : Bytes} (whole : size ≤ data.length) (trace : Bool)
    (indent : UInt64) (title : Option String) (tail : List Field) :
    Record.decode trace indent title data (fields ++ tail) = indented indent (do
      Record.showTitle trace title
      let front ← Record.decodeFrom trace title 0 data fields
      let back ← Record.decodeFrom trace title size (data.drop size) tail
      return ⟨back.consumed, front.captures ++ back.captures⟩) := by
  have spent : Record.spent data.length fields = size :=
    Record.consumed_reading_eq_spent.symm.trans (consumed_fields whole)
  rw [Record.decode, Record.decodeFrom_append, spent, Nat.zero_add]

theorem consistent_withTail {tail : List Field} :
    Record.Consistent (fields ++ tail) ↔ Record.ConsistentFrom size tail := by
  rw [Record.consistent_iff, Record.consistentFrom_append]
  exact and_iff_right wellLaid_fields.consistent

end Header

namespace Record

/-- **Field lists compose.**  A decode of two lists is a decode of the first one and then of the
second one behind the bytes that the first one takes, and reads what the two read.  Without
consistency checking and without a title it also leaves the session that the two leave, if renderers
put the scope back.  A header with a tail is the two lists if their number is announced, and is
refused otherwise; its tail is decoded from byte 36. -/
theorem field_lists_compose :
    (∀ (first second : List Field) (data : Bytes),
      (∀ trace indent title,
        decode trace indent title data (first ++ second) = indented indent (do
          showTitle trace title
          let front ← decodeFrom trace title 0 data first
          let back ← decodeFrom trace title front.consumed (data.drop front.consumed) second
          return ⟨back.consumed, front.captures ++ back.captures⟩)) ∧
      (∀ trace indent title session traceFirst indentFirst titleFirst sessionFirst
          traceSecond indentSecond titleSecond sessionSecond,
        let both := (decode trace indent title data (first ++ second) session).1
        let front := (decode traceFirst indentFirst titleFirst data first sessionFirst).1
        let back := (decode traceSecond indentSecond titleSecond (data.drop front.consumed) second
          sessionSecond).1
        both.consumed = front.consumed + back.consumed ∧
        (∀ index < first.length, both.capture? index = front.capture? index) ∧
        ∀ index, both.capture? (first.length + index) =
          (back.capture? index).map (Capture.raised front.consumed)) ∧
      ∀ trace indent (session : Session), session.config.consistency = false →
        (trace = true → ∀ field ∈ first ++ second, field.RendersInScope) →
        decode trace indent none data (first ++ second) session = (do
          let front ← decode trace indent none data first
          let back ← decode trace indent none (data.drop front.consumed) second
          return front.followedBy back : Decoder Reading) session) ∧
    (∀ total tail, Header.withTail? total tail =
      if total = 9 + tail.length then .ok (Header.fields ++ tail) else .error .wrongCount) ∧
    (∀ tail, Header.copied? (9 + tail.length) tail = some (Header.fields ++ tail)) ∧
    (∀ data tail, 36 ≤ data.length →
      (reading data Header.fields).consumed = 36 ∧
      ∀ trace indent title,
        decode trace indent title data (Header.fields ++ tail) = indented indent (do
          showTitle trace title
          let front ← decodeFrom trace title 0 data Header.fields
          let back ← decodeFrom trace title 36 (data.drop 36) tail
          return ⟨back.consumed, front.captures ++ back.captures⟩)) ∧
    ∀ tail, (∀ before field after, tail = before ++ field :: after →
        field.offset = 36 + (before.map Field.width).sum) →
      Consistent (Header.fields ++ tail) := by
  refine ⟨fun first second data => ⟨fun trace indent title => ?_, ?_, ?_⟩, fun total tail => rfl,
    Header.copied?_eq_append, fun data tail whole => ⟨Header.consumed_fields whole, ?_⟩, ?_⟩
  · exact decode_append trace indent title data first second
  · intro trace indent title session traceFirst indentFirst titleFirst sessionFirst traceSecond
      indentSecond titleSecond sessionSecond both front back
    have whole : both = front.followedBy back := by
      simp only [both, front, back, decode_value, reading_append]
    have entries : front.captures.length = first.length := by
      rw [show front = _ from decode_value .., reading, length_captures_readingFrom]
    rw [whole]
    refine ⟨rfl, fun index inside => ?_, fun index => ?_⟩
    · exact Reading.capture?_followedBy_of_lt (entries ▸ inside)
    · rw [← entries]
      exact Reading.capture?_followedBy_add index
  · intro trace indent session unchecked renders
    exact decode_append_of_unchecked unchecked renders
  · intro trace indent title
    exact Header.decode_withTail whole trace indent title tail
  · intro tail declared
    exact Header.consistent_withTail.mpr (consistentFrom_iff.mpr declared)

/-- The fields of an interrupt controller table are a header and two more.  Forty bytes are consumed
by the header and one of these two, and without consistency checking both parts are shown as two
records are. -/
theorem field_lists_compose_of_interrupt_controllers :
    let tail := InterruptController.fields.drop 9
    let table : Bytes := List.replicate 40 7
    let quiet : Session := .start ⟨false, true, .all⟩
    Header.withTail? 11 tail = .ok InterruptController.fields ∧
    Consistent InterruptController.fields ∧
    (decode true 2 none table InterruptController.fields quiet).1.consumed = 40 ∧
    decode true 2 none table InterruptController.fields quiet = (do
      let front ← decode true 2 none table Header.fields
      let back ← decode true 2 none (table.drop front.consumed) tail
      return front.followedBy back : Decoder Reading) quiet := by
  intro tail table quiet
  obtain ⟨compose, withTail, _, header, consistent⟩ := field_lists_compose
  obtain ⟨_, readings, sequence⟩ := compose Header.fields tail table
  have declared : ConsistentFrom 36 tail := by decide
  have sum := (readings true 2 none quiet false 0 none quiet false 0 none quiet).1
  have front : (decode false 0 none table Header.fields quiet).1.consumed = 36 := by
    rw [decode_value]
    exact (header table tail (by decide)).1
  have back : (decode false 0 none (table.drop 36) tail quiet).1.consumed = 4 := by
    decide
  rw [front, back] at sum
  refine ⟨withTail 11 tail, consistent tail (consistentFrom_iff.mp declared), sum,
    sequence true 2 quiet rfl fun _ field listed => ?_⟩
  exact (Field.Confined.of_speaks (InterruptController.speaks_fields field listed)).rendersInScope

end Record

end AcpiTables
