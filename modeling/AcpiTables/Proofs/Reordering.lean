import AcpiTables.Proofs.Breakdown
import AcpiTables.Proofs.InterruptVerdict
import AcpiTables.Proofs.Steps
import AcpiTables.Proofs.TopologyVerdict

/-!
# Structures in another order

The order of the structures of a table is part of what is shown: a structure is shown with its
offset, and a record with an index in its title.  It has no part in the verdict.

Renderers and checks may show what they like, even what was counted before.  Only the numbers of
errors and warnings that they add have to follow from the bytes and the configuration
(`Decoder.Adds`, `Field.Steady`).  Then a structure adds the same numbers at every offset, behind
every census (`adds_dispatch`), and structures add a sum, which does not depend on their order
(`Tally.sum_perm`).  The census depends on the codes, as often as each occurs (`ofCodes_perm`), and
so does the breakdown at the end.
-/

namespace AcpiTables

set_option autoImplicit false

open Decoder

/-- The sum of tallies does not depend on their order. -/
theorem Tally.sum_perm {tallies others : List Tally} (perm : tallies.Perm others) :
    tallies.sum = others.sum := by
  induction perm with
  | nil => rfl
  | cons tally _ ih => rw [List.sum_cons, List.sum_cons, ih]
  | swap first second rest =>
      simp only [List.sum_cons]
      exact Tally.ext (Nat.add_left_comm ..) (Nat.add_left_comm ..)
  | trans _ _ ihFirst ihSecond => exact ihFirst.trans ihSecond

/-! ## Adding to the counts -/

/-- In every session with the configuration, the decoder keeps the configuration and adds the tally
to the counts.  Its value and its texts may depend on the session. -/
def Decoder.Adds {α : Type} (decoder : Decoder α) (config : Config) (tally : Tally) : Prop :=
  ∀ session : Session, session.config = config →
    (decoder session).2.config = config ∧
      (decoder session).2.counters = session.counters.plus tally.errors tally.warnings

namespace Decoder.Adds

variable {α β : Type} {config : Config}

theorem of_counts {decoder : Decoder α} {value : α} {tally : Tally}
    (counts : Counts decoder config value tally) : Adds decoder config tally := by
  intro session within
  subst within
  refine ⟨?_, counts.counters⟩
  obtain ⟨report, reports, _⟩ := counts session.scope rfl
  rw [reports session rfl]
  rfl

/-- Tallies of a sequence are added, if that of the second decoder does not depend on the value. -/
theorem bind {first : Decoder α} {next : α → Decoder β} {before after : Tally}
    (start : Adds first config before)
    (rest : ∀ session, Adds (next (first session).1) config after) :
    Adds (first >>= next) config (before + after) := by
  intro session within
  obtain ⟨kept, counted⟩ := start session within
  obtain ⟨keptToo, countedToo⟩ := rest session _ kept
  refine ⟨keptToo, ?_⟩
  rw [bind_apply, countedToo, counted, Counters.plus_plus]
  rfl

theorem bind_pure {first : Decoder α} (form : α → β) {tally : Tally}
    (start : Adds first config tally) :
    Adds (first >>= fun value => pure (form value)) config tally := by
  rw [← Tally.add_zero tally]
  exact start.bind fun _ => of_counts (Counts.pure _)

/-- A first step that counts nothing may be left out. -/
theorem quiet_bind {first : Decoder α} {value : α} {next : α → Decoder β} {tally : Tally}
    (start : Counts first config value 0)
    (rest : ∀ session, Adds (next (first session).1) config tally) :
    Adds (first >>= next) config tally := by
  rw [← Tally.zero_add tally]
  exact (of_counts start).bind rest

theorem indented {body : Decoder α} {tally : Tally} (extra : UInt64)
    (inner : Adds body config tally) : Adds (indented extra body) config tally :=
  fun session within => inner { session with indent := _ } within

theorem whenChecking {check : Decoder Unit} {tally : Tally} (inner : Adds check config tally) :
    Adds (whenChecking check) config (if config.consistency then tally else 0) := by
  intro session within
  rw [Decoder.whenChecking, within]
  split
  · exact inner session within
  · exact ⟨within, (Counters.plus_zero _).symm⟩

end Decoder.Adds

/-! ## Steady fields -/

/-- A check that adds numbers which follow from the bytes, the argument and the configuration. -/
def Validator.Steady (validator : Validator) : Prop :=
  ∀ config bytes argument, ∃ tally, (validator bytes argument).Adds config tally

theorem Validator.Steady.of_counts {validator : Validator}
    {weight : Config → Bytes → Option Argument → Tally}
    (counts : ∀ config bytes argument,
      Counts (validator bytes argument) config () (weight config bytes argument)) :
    validator.Steady :=
  fun config bytes argument => ⟨_, .of_counts (counts config bytes argument)⟩

namespace Field

/-- A field whose renderer and check add numbers of errors and warnings that follow from the bytes
and the configuration. -/
structure Steady (field : Field) : Prop where
  render : ∀ renderer format, field.render = .custom renderer format →
    ∀ config bytes, ∃ tally, (renderer format bytes).Adds config tally
  check : ∀ validator, field.validator = some validator →
    ∀ config bytes, ∃ tally, (validator bytes field.argument).Adds config tally

section Builders

variable (name : String) (width offset : Nat)

@[simp] theorem steady_integer (format : NumberFormat) :
    (integer format name width offset).Steady where
  render := nofun
  check := nofun

@[simp] theorem steady_characters (limit : Nat) (format : Option NumberFormat) :
    { labelled name width offset with render := .custom (characters limit) format }.Steady where
  render _ _ custom := by
    cases custom
    exact fun config bytes => ⟨0, .of_counts (counts_showBytes format (bytes.take limit))⟩
  check := nofun

@[simp] theorem steady_text : (text name width offset).Steady :=
  steady_characters name width offset width none

end Builders

@[simp] theorem steady_checkedBy {field : Field} {validator : Validator} (steady : field.Steady)
    (checks : validator.Steady) : (field.checkedBy validator).Steady where
  render := steady.render
  check _ same := by
    cases same
    exact fun config bytes => checks config bytes field.argument

/-- A call about a steady field adds numbers that follow from the bytes. -/
theorem Steady.adds_call {field : Field} (steady : field.Steady) (config : Config) {bytes : Bytes}
    {call : Record.Call} (made : call ∈ field.renderCalls bytes ++ field.checkCalls bytes) :
    ∃ tally, call.perform.Adds config tally := by
  rw [List.mem_append, renderCalls, checkCalls] at made
  rcases made with shown | checked
  · split at shown
    · next renderer format custom =>
        obtain rfl := List.mem_singleton.mp shown
        exact steady.render renderer format custom config bytes
    · cases shown
  · split at checked
    · next validator validates =>
        obtain rfl := List.mem_singleton.mp checked
        obtain ⟨tally, adds⟩ := steady.check validator validates config bytes
        exact ⟨_, adds.whenChecking⟩
    · cases checked

end Field

namespace Record

variable {config : Config}

theorem counts_checkOffset (title : Option String) (field : Field) (offset : Nat) :
    Counts (checkOffset title field offset) config ()
      (if offset = field.offset then 0 else .oneError) := by
  unfold checkOffset
  split
  · exact Counts.pure ()
  · exact (Counts.print _).quiet_bind (Counts.error _)

/-- A step adds the same numbers under every title, if a call that it makes adds some. -/
theorem Step.adds {step : Step}
    (calls : ∀ call ∈ step.call?, ∃ tally, call.perform.Adds config tally) :
    ∃ tally, ∀ title, (step.perform title).Adds config tally := by
  cases step with
  | compare field offset =>
      exact ⟨_, fun title => (Adds.of_counts (counts_checkOffset title field offset)).whenChecking⟩
  | label text => exact ⟨0, fun _ => .of_counts (Counts.fieldLabel 2 text)⟩
  | number format bytes => exact ⟨0, fun _ => .of_counts (Counts.print _)⟩
  | call made =>
      obtain ⟨tally, adds⟩ := calls made rfl
      exact ⟨tally, fun _ => adds⟩
  | endLine => exact ⟨0, fun _ => .of_counts (Counts.print _)⟩
  | refuse width => exact ⟨.oneError, fun _ => .of_counts (Counts.error _)⟩

theorem adds_forM_perform {list : List Step}
    (calls : ∀ call ∈ list.filterMap Step.call?, ∃ tally, call.perform.Adds config tally) :
    ∃ tally, ∀ title, (list.forM (Step.perform title)).Adds config tally := by
  simp only [List.forM_eq_forM]
  induction list with
  | nil => exact ⟨0, fun _ => .of_counts (Counts.pure ())⟩
  | cons step list ih =>
      obtain ⟨here, adds⟩ := Step.adds fun call made =>
        calls call (List.mem_filterMap.mpr ⟨step, List.mem_cons_self, made⟩)
      obtain ⟨later, addsLater⟩ := ih fun call there => by
        obtain ⟨other, member, made⟩ := List.mem_filterMap.mp there
        exact calls call (List.mem_filterMap.mpr ⟨other, List.mem_cons_of_mem step member, made⟩)
      refine ⟨here + later, fun title => ?_⟩
      rw [List.forM_cons]
      exact (adds title).bind fun _ => addsLater title

theorem adds_call_of_mem_callsAt {field : Field} (steady : field.Steady) (config : Config)
    {place : Option Capture} {call : Call} (about : call ∈ callsAt (field, place)) :
    ∃ tally, call.perform.Adds config tally := by
  cases place with
  | none => cases about
  | some place =>
      cases named : field.name with
      | none =>
          rw [callsAt_of_hidden named] at about
          cases about
      | some label =>
          rw [callsAt_of_label named] at about
          exact steady.adds_call config about

/-- **A record of steady fields adds the same numbers under every title.** -/
theorem adds_decode {fields : List Field} (steady : ∀ field ∈ fields, field.Steady)
    (config : Config) (data : Bytes) :
    ∃ tally, ∀ indent title, (decode true indent title data fields).Adds config tally := by
  have calls : ∀ call ∈ (steps true data fields).filterMap Step.call?,
      ∃ tally, call.perform.Adds config tally := by
    intro call made
    rw [filterMap_call?_steps] at made
    obtain ⟨⟨field, place⟩, member, about⟩ := List.mem_flatMap.mp made
    exact adds_call_of_mem_callsAt (steady field (List.of_mem_zip member).1) config about
  obtain ⟨tally, adds⟩ := adds_forM_perform calls
  refine ⟨tally, fun indent title => ?_⟩
  rw [decode_eq_steps]
  refine Adds.indented indent (Adds.quiet_bind (counts_showTitle title) fun _ => ?_)
  exact (adds title).bind_pure _

end Record

/-! ## Steady schemas -/

namespace Structure

/-- A method of decoding that adds numbers of errors and warnings which follow from the bytes of
the structure and the configuration: a field list of steady fields, or a decoder of its own that
adds the same numbers whatever else it is told. -/
def Method.Steady : Method → Prop
  | .record fields => ∀ field ∈ fields, field.Steady
  | .custom decoder => ∀ config bytes, ∃ tally, ∀ call, (decoder call bytes).Adds config tally
  | .unsupported => True

def Schema.Steady (schema : Schema) : Prop := ∀ kind ∈ schema.kinds, kind.method.Steady

theorem adds_decodeKind {kind : Kind} (steady : kind.method.Steady) (config : Config)
    (bytes : Bytes) :
    ∃ tally, ∀ index indent arguments,
      (Census.decodeKind kind index indent arguments bytes).Adds config tally := by
  simp only [Census.decodeKind]
  cases method : kind.method with
  | record fields =>
      rw [method] at steady
      obtain ⟨tally, adds⟩ := Record.adds_decode steady config bytes
      exact ⟨tally, fun index indent _ => (adds indent _).bind_pure fun _ => true⟩
  | custom decoder =>
      rw [method] at steady
      obtain ⟨tally, adds⟩ := steady config bytes
      exact ⟨tally, fun index indent arguments => (adds _).bind_pure fun _ => true⟩
  | unsupported => exact ⟨.oneError, fun _ _ _ => .of_counts ((Counts.error _).bind_pure _)⟩

variable {schema : Schema} {config : Config}

/-- **A structure adds the same numbers wherever it lies** and whatever was counted before. -/
theorem adds_dispatch (steady : schema.Steady) (config : Config) (bytes : Bytes) :
    ∃ tally, ∀ (census : Census schema) (offset : Nat),
      (census.dispatch structureIndent bytes offset (leadingCode bytes) (none, none)).Adds config
        tally := by
  cases found : schema.kinds[(leadingCode bytes).toNat]? with
  | none => exact ⟨.oneError, fun _ _ => .of_counts (counts_dispatch_of_unknown found)⟩
  | some kind =>
      obtain ⟨inside, _⟩ := List.getElem?_eq_some_iff.mp found
      have steadyKind := steady kind (List.mem_of_getElem? found)
      obtain ⟨tally, adds⟩ := adds_decodeKind steadyKind config bytes
      refine ⟨tally, fun census offset => ?_⟩
      rw [Census.dispatch_of_known found (Vector.getElem?_eq_getElem inside)]
      refine Adds.quiet_bind (Counts.fieldLabel _ _) fun _ => ?_
      refine Adds.quiet_bind (Counts.print _) fun _ => ?_
      exact (adds _ _ _).bind_pure _

theorem adds_handOut {weight : Bytes → Tally}
    (each : ∀ (bytes : Bytes) (census : Census schema) (offset : Nat),
      (census.dispatch structureIndent bytes offset (leadingCode bytes) (none, none)).Adds config
        (weight bytes))
    (structures : List Bytes) (offset : Nat) (census : Census schema) :
    (handOut (place offset structures) census).Adds config (structures.map weight).sum := by
  induction structures generalizing offset census with
  | nil => exact .of_counts (Counts.pure census)
  | cons bytes structures ih =>
      rw [List.map_cons, List.sum_cons]
      exact (each bytes census offset).bind fun _ => ih (offset + bytes.length) _

/-- A census depends on how often each code occurs, and not on the order of the codes. -/
theorem ofCodes_perm {codes others : List UInt32} (perm : codes.Perm others) :
    Census.ofCodes schema codes = Census.ofCodes schema others := by
  have counts : (Census.ofCodes schema codes).counts = (Census.ofCodes schema others).counts := by
    refine Vector.ext fun index inside => ?_
    have position : schema.kinds[index].code.toNat = index :=
      schema.code_eq (List.getElem?_eq_getElem inside)
    have known : schema.kinds[index].code.toNat < schema.kinds.length := position.symm ▸ inside
    have same : (Census.ofCodes schema codes).count? schema.kinds[index].code =
        (Census.ofCodes schema others).count? schema.kinds[index].code := by
      rw [count?_ofCodes _ known, count?_ofCodes _ known, perm.count_eq]
    rw [Census.count?, Census.count?, position, Vector.getElem?_eq_getElem inside,
      Vector.getElem?_eq_getElem inside] at same
    exact Option.some.inj same
  exact congrArg Census.mk counts

theorem map_typeCode_place (offset : Nat) (structures : List Bytes) :
    (place offset structures).map Slice.typeCode = structures.map leadingCode := by
  induction structures generalizing offset with
  | nil => rfl
  | cons bytes structures ih =>
      rw [place, List.map_cons, List.map_cons, ih]
      rfl

theorem outline_flatten (leading : Bytes) {structures : List Bytes}
    (sized : ∀ bytes ∈ structures, SelfSized bytes) :
    outline (leading ++ structures.flatten) leading.length =
      ⟨place leading.length structures, leading.length + structures.flatten.length, .complete⟩ := by
  rw [outline, List.drop_left, outlineFrom_flatten sized]

end Structure

/-! ## The two families of tables -/

namespace InterruptController

open Structure

@[simp] theorem steady_checkVectorBase : Validator.Steady checkVectorBase :=
  .of_counts fun _ => counts_checkVectorBase

@[simp] theorem steady_checkOverflowInterrupt : Validator.Steady checkOverflowInterrupt :=
  .of_counts fun _ => counts_checkOverflowInterrupt

theorem steady_kinds : ∀ kind ∈ kinds, kind.method.Steady := by
  intro kind member
  rcases kinds_cases kind member with ⟨_, method⟩ | ⟨_, method⟩ | ⟨_, method⟩ | ⟨_, method⟩ |
    ⟨_, method⟩ | ⟨_, method⟩
  all_goals rw [method]
  · exact trivial
  · simp [Method.Steady, processorInterfaceFields, Field.decimal, Field.hex]
  · simp [Method.Steady, distributorFields, Field.decimal, Field.hex]
  · simp [Method.Steady, messageFrameFields, Field.decimal, Field.hex]
  · simp [Method.Steady, redistributorFields, Field.decimal, Field.hex]
  · simp [Method.Steady, translationServiceFields, Field.decimal, Field.hex]

end InterruptController

namespace ProcessorTopology

open Structure

@[simp] theorem steady_checkSets : Validator.Steady checkSets :=
  .of_counts fun _ => counts_checkSets

@[simp] theorem steady_checkAssociativity : Validator.Steady checkAssociativity :=
  .of_counts fun _ => counts_checkAssociativity

@[simp] theorem steady_checkAttributes : Validator.Steady checkAttributes :=
  .of_counts fun _ => counts_checkAttributes

@[simp] theorem steady_checkLineSize : Validator.Steady checkLineSize :=
  .of_counts fun _ => counts_checkLineSize

theorem steady_kinds : ∀ kind ∈ kinds, kind.method.Steady := by
  have processor : Method.Steady (.custom decodeProcessor) := fun config bytes =>
    ⟨_, fun call => .of_counts (counts_decodeProcessor call bytes)⟩
  have cache : Method.Steady (.record cacheFields) := by
    simp [Method.Steady, cacheFields, Field.decimal, Field.hex]
  have identity : Method.Steady (.record identityFields) := by
    simp [Method.Steady, identityFields, Field.decimal, Field.hex]
  simp [kinds, processor, cache, identity]

end ProcessorTopology

/-! ## The verdict -/

namespace Structure

/-- **The order of structures does not change the verdict.**  The schemas of both families of tables
are steady, and so is every schema whose kinds are unsupported or records of steady fields.  For a
steady schema, bytes to start with and structures that carry their own lengths, every configuration
has one census and one tally, and in every order of the structures a walk from the end of the bytes
is complete, ends with this census and adds this tally to the counts; where consistency is checked,
it ends with the breakdown of the census. -/
theorem verdict_ignores_order_of_structures :
    InterruptController.schema.Steady ∧ ProcessorTopology.schema.Steady ∧
    ∀ schema : Schema, schema.Steady →
      ∀ (leading : Bytes) (structures : List Bytes), (∀ bytes ∈ structures, SelfSized bytes) →
        ∀ config : Config, ∃ (census : Census schema) (tally : Tally),
          ∀ others : List Bytes, structures.Perm others →
            ∀ session : Session, session.config = config →
              let outcome := walk schema (leading ++ others.flatten) leading.length session
              let handed := (handOut (place leading.length others) (.zero schema) session).2
              outcome.1 = (.complete, census) ∧
              outcome.2.counters = session.counters.plus tally.errors tally.warnings ∧
              outcome.2 = handed.record
                (if config.consistency then census.breakdown config else .empty) := by
  refine ⟨InterruptController.steady_kinds, ProcessorTopology.steady_kinds, ?_⟩
  intro schema steady leading structures sized config
  choose weight each using adds_dispatch steady config
  let census := Census.ofCodes schema (structures.map leadingCode)
  let breakdown : Report := if config.consistency then census.breakdown config else .empty
  refine ⟨census, (structures.map weight).sum + breakdown.tally, ?_⟩
  intro others perm session within outcome handed
  have sizedOthers : ∀ bytes ∈ others, SelfSized bytes :=
    fun bytes there => sized bytes (perm.mem_iff.mpr there)
  have outlined := outline_flatten leading sizedOthers
  have last : lastCensus schema (leading ++ others.flatten) leading.length = census := by
    rw [lastCensus, outlined, map_typeCode_place]
    exact (ofCodes_perm (perm.map leadingCode)).symm
  obtain ⟨kept, counted⟩ := adds_handOut each others leading.length (.zero schema) session within
  have shown : outcome.2 = handed.record breakdown := by
    have ended : outcome.2 = _ := walk_of_complete (congrArg Outline.status outlined)
    rw [outlined, last] at ended
    rw [ended, kept]
  refine ⟨?_, ?_, shown⟩
  · rw [← last]
    exact (walk_value _ _ _).trans (by rw [outlined])
  · rw [shown, Session.counters_record, counted, Counters.plus_plus,
      Tally.sum_perm (perm.map weight)]
    rfl

/-- An identity and a structure of an unknown kind, behind two other bytes, in both orders. -/
theorem verdict_ignores_order_of_two_structures :
    let walked (structures : List Bytes) :=
      walk ProcessorTopology.schema ([7, 7] ++ structures.flatten) 2 (.start .default)
    let first := walked [[2, 4, 0, 0], [9, 2]]
    let second := walked [[9, 2], [2, 4, 0, 0]]
    first.1.1 = .complete ∧ first.1 = second.1 ∧ first.2.counters = second.2.counters := by
  intro walked first second
  obtain ⟨_, steady, verdict⟩ := verdict_ignores_order_of_structures
  obtain ⟨census, tally, each⟩ := verdict ProcessorTopology.schema steady [7, 7]
    [[2, 4, 0, 0], [9, 2]] (by decide) .default
  obtain ⟨ended, counted, _⟩ := each _ (.refl _) (.start .default) rfl
  obtain ⟨endedToo, countedToo, _⟩ := each _ (.swap ..) (.start .default) rfl
  refine ⟨congrArg Prod.fst ended, ended.trans endedToo.symm, counted.trans countedToo.symm⟩

end Structure

end AcpiTables
