import AcpiTables.Proofs.Additivity
import AcpiTables.Proofs.Inherited

/-!
# Scripts

A script says what is done in a session, as a syntax: actions one after another, each of which may
depend on what the earlier ones gave, and blocks around further scripts.  Only a block has to do
with the indent, and only the action `reset` lowers a count.

While a script is performed, its parts are performed, each in some blocks and in some session
(`Script.Reaches`).  What holds of every part is shown along the way to it: the indent is the sum of
the indents of the blocks around it, held once at the largest indent (`Reaches.toNat_indent`), and
the configuration is still the one that the whole was started with (`Reaches.config`).  What holds
behind a part is shown by induction on the script: configuration and indent are as they were before
it (`Script.scope_perform`), and no count is lower unless the part resets
(`Script.counters_perform`).

A decoder that performs a script is `Scripted`.  Decoders inherit this from their parts
(`Scripted.inherited`), so records, structures and walks perform scripts if the functions that they
are given do, and the library's own functions do.
-/

namespace AcpiTables

set_option autoImplicit false

open Decoder

/-- Counts none of which is above that of another tally. -/
structure Counters.AtMost (counters other : Counters) : Prop where
  errors : counters.errors ≤ other.errors
  warnings : counters.warnings ≤ other.warnings

namespace Counters.AtMost

variable {counters other more : Counters}

theorem refl (counters : Counters) : counters.AtMost counters :=
  ⟨UInt32.le_refl _, UInt32.le_refl _⟩

theorem trans (first : counters.AtMost other) (second : other.AtMost more) :
    counters.AtMost more :=
  ⟨UInt32.le_trans first.errors second.errors, UInt32.le_trans first.warnings second.warnings⟩

theorem plus (counters : Counters) (errors warnings : Nat) :
    counters.AtMost (counters.plus errors warnings) := by
  have boundErrors := counters.errors.toNat_lt
  have boundWarnings := counters.warnings.toNat_lt
  constructor
  · rw [UInt32.le_iff_toNat_le, toNat_errors_plus]
    omega
  · rw [UInt32.le_iff_toNat_le, toNat_warnings_plus]
    omega

end Counters.AtMost

/-! ## What a script is and does -/

/-- One thing done in a session, besides opening a block. -/
inductive Script.Action : Type → Type
  /-- Read configuration and indent. -/
  | scope : Action Scope
  /-- Read the counts. -/
  | counters : Action Counters
  | print (text : String) : Action Unit
  | printStyled (style : Style) (text : String) : Action Unit
  | countError : Action Unit
  | countWarning : Action Unit
  /-- Add the counts of a tally. -/
  | accumulate (tally : Counters) : Action Unit
  /-- Set the counts to zero. -/
  | reset : Action Unit

/-- What is done in a session. -/
inductive Script : Type → Type 1
  | pure {α : Type} (value : α) : Script α
  | bind {α β : Type} (first : Script α) (next : α → Script β) : Script β
  | act {α : Type} (action : Script.Action α) : Script α
  /-- Do the body in a block whose indent is larger. -/
  | block {α : Type} (extra : UInt64) (body : Script α) : Script α

namespace Script

namespace Action

def perform : {α : Type} → Action α → Decoder α
  | _, .scope => Decoder.scope
  | _, .counters => fun session => (session.counters, session)
  | _, .print text => Decoder.print text
  | _, .printStyled style text => Decoder.printStyled style text
  | _, .countError => Decoder.countError
  | _, .countWarning => Decoder.countWarning
  | _, .accumulate tally => fun session =>
      ((), { session with counters := session.counters.add tally })
  | _, .reset => fun session => ((), session.resetCounters)

def resets : {α : Type} → Action α → Bool
  | _, .reset => true
  | _, _ => false

end Action

/-- Performs a script by the decoders of its actions and blocks. -/
def perform : {α : Type} → Script α → Decoder α
  | _, .pure value => Pure.pure value
  | _, .bind first next => first.perform >>= fun value => (next value).perform
  | _, .act action => action.perform
  | _, .block extra body => indented extra body.perform

/-- Whether the counts are set to zero while a script is performed in a session. -/
def Resets : {α : Type} → Script α → Session → Prop
  | _, .pure _, _ => False
  | _, .bind first next, session =>
      first.Resets session ∨ (next (first.perform session).1).Resets (first.perform session).2
  | _, .act action, _ => action.resets = true
  | _, .block extra body, session =>
      body.Resets { session with indent := addSaturating64 session.indent extra }

/-- `script.Reaches session extras part now` says that while `script` is performed in `session`, its
`part` is performed in the session `now`, inside blocks of the given extra indents, outermost
first. -/
inductive Reaches {α : Type} (script : Script α) (session : Session) :
    List UInt64 → {β : Type} → Script β → Session → Prop
  | whole : Reaches script session [] script session
  | first {extras : List UInt64} {β γ : Type} {first : Script β} {next : β → Script γ}
      {now : Session} (both : Reaches script session extras (.bind first next) now) :
      Reaches script session extras first now
  | next {extras : List UInt64} {β γ : Type} {first : Script β} {next : β → Script γ}
      {now : Session} (both : Reaches script session extras (.bind first next) now) :
      Reaches script session extras (next (first.perform now).1) (first.perform now).2
  | body {extras : List UInt64} {β : Type} {extra : UInt64} {body : Script β} {now : Session}
      (block : Reaches script session extras (.block extra body) now) :
      Reaches script session (extras ++ [extra]) body
        { now with indent := addSaturating64 now.indent extra }

/-! ## What holds behind a script -/

theorem Action.scope_perform {α : Type} (action : Action α) (session : Session) :
    (action.perform session).2.scope = session.scope := by
  cases action <;> rfl

theorem Action.counters_perform {α : Type} (action : Action α) (session : Session)
    (keeps : ¬ action.resets = true) :
    session.counters.AtMost (action.perform session).2.counters := by
  cases action with
  | scope | counters | print | printStyled => exact .refl _
  | countError =>
      change session.counters.AtMost session.counters.addError
      rw [Counters.addError_eq_plus]
      exact .plus _ 1 0
  | countWarning =>
      change session.counters.AtMost session.counters.addWarning
      rw [Counters.addWarning_eq_plus]
      exact .plus _ 0 1
  | accumulate tally => exact .plus _ tally.errors.toNat tally.warnings.toNat
  | reset => exact absurd rfl keeps

/-- **A script leaves configuration and indent as it finds them.** -/
theorem scope_perform {α : Type} (script : Script α) (session : Session) :
    (script.perform session).2.scope = session.scope := by
  induction script generalizing session with
  | pure value => rfl
  | bind first next ihFirst ihNext => exact (ihNext _ _).trans (ihFirst session)
  | act action => exact action.scope_perform session
  | block extra body ih =>
      exact congrArg (fun scope : Scope => { scope with indent := session.indent }) (ih _)

/-- **A script that does not reset lowers no count.** -/
theorem counters_perform {α : Type} (script : Script α) (session : Session)
    (keeps : ¬ script.Resets session) :
    session.counters.AtMost (script.perform session).2.counters := by
  induction script generalizing session with
  | pure value => exact .refl _
  | bind first next ihFirst ihNext =>
      obtain ⟨before, behind⟩ := not_or.mp keeps
      exact (ihFirst session before).trans (ihNext _ _ behind)
  | act action => exact action.counters_perform session keeps
  | block extra body ih => exact ih _ keeps

/-! ## What holds where a part is performed -/

namespace Reaches

variable {α β : Type} {script : Script α} {part : Script β} {session now : Session}
  {extras : List UInt64}

theorem config (reached : script.Reaches session extras part now) :
    now.config = session.config := by
  induction reached with
  | whole => rfl
  | first _ ih => exact ih
  | next both ih => exact (congrArg Scope.config (scope_perform _ _)).trans ih
  | body _ ih => exact ih

/-- **Indents compose.**  Inside blocks the indent is the sum of all extra indents, held at the
largest indent, even if a part of the sum was held there before. -/
theorem toNat_indent (reached : script.Reaches session extras part now) :
    now.indent.toNat =
      min (0xFFFFFFFFFFFFFFFF) (session.indent.toNat + (extras.map UInt64.toNat).sum) := by
  induction reached with
  | whole =>
      have bound := session.indent.toNat_lt
      simp only [List.map_nil, List.sum_nil]
      omega
  | first _ ih => exact ih
  | next both ih => exact (congrArg (·.indent.toNat) (scope_perform _ _)).trans ih
  | body block ih =>
      rw [toNat_addSaturating64, ih, List.map_append, List.sum_append, List.map_singleton,
        List.sum_singleton]
      omega

end Reaches

end Script

/-! ## Decoders that perform scripts -/

namespace Decoder

/-- A decoder that performs a script, which resets the counts only if that is allowed. -/
def Scripted {α : Type} (mayReset : Prop) (decoder : Decoder α) : Prop :=
  ∃ script : Script α, script.perform = decoder ∧ ∀ session, script.Resets session → mayReset

namespace Scripted

variable {α β : Type} {mayReset : Prop}

theorem act (action : Script.Action α) (allowed : action.resets = true → mayReset) :
    Scripted mayReset action.perform :=
  ⟨.act action, rfl, fun _ => allowed⟩

theorem pure (value : α) : Scripted mayReset (Pure.pure value : Decoder α) :=
  ⟨.pure value, rfl, fun _ => False.elim⟩

theorem bind {first : Decoder α} {next : α → Decoder β} (start : Scripted mayReset first)
    (rest : ∀ value, Scripted mayReset (next value)) : Scripted mayReset (first >>= next) := by
  obtain ⟨before, rfl, allowedBefore⟩ := start
  obtain ⟨after, performed⟩ := Classical.axiomOfChoice rest
  obtain rfl : (fun value => (after value).perform) = next :=
    funext fun value => (performed value).1
  exact ⟨.bind before after, rfl, fun session resets =>
    resets.elim (allowedBefore session) ((performed _).2 _)⟩

theorem indented (extra : UInt64) {body : Decoder α} (inner : Scripted mayReset body) :
    Scripted mayReset (Decoder.indented extra body) := by
  obtain ⟨script, rfl, allowed⟩ := inner
  exact ⟨.block extra script, rfl, fun _ => allowed _⟩

/-- To perform a script is inherited. -/
theorem inherited : Inherited (Scripted mayReset) where
  pure := pure
  bind := bind
  scope := act .scope nofun
  print text := act (.print text) nofun
  printStyled style text := act (.printStyled style text) nofun
  countError := act .countError nofun
  countWarning := act .countWarning nofun
  indented := indented

/-! ## The library's own functions -/

/-- Whatever may be said, every message may be told. -/
theorem tellable_of_any (message : String) : Tellable (fun _ => True) message :=
  ⟨trivial, trivial⟩

theorem check {validator : Validator}
    (there : validator ∈ [InterruptController.checkVectorBase,
      InterruptController.checkOverflowInterrupt, ProcessorTopology.checkSets,
      ProcessorTopology.checkAssociativity, ProcessorTopology.checkAttributes,
      ProcessorTopology.checkLineSize])
    (data : Bytes) (argument : Option Argument) : Scripted mayReset (validator data argument) := by
  have interrupt (fault : InterruptController.Fault) := tellable_of_any fault.message
  have topology (fault : ProcessorTopology.Fault)
      (_ : ∀ name length, fault ≠ .shortNode name length) := tellable_of_any fault.message
  simp only [List.mem_cons, List.not_mem_nil, or_false] at there
  rcases there with rfl | rfl | rfl | rfl | rfl | rfl
  · exact inherited.of_orderly (InterruptController.orderly_checkVectorBase interrupt data argument)
  · exact inherited.of_orderly
      (InterruptController.orderly_checkOverflowInterrupt interrupt data argument)
  · exact inherited.of_orderly (ProcessorTopology.orderly_checkSets topology data argument)
  · exact inherited.of_orderly (ProcessorTopology.orderly_checkAssociativity topology data argument)
  · exact inherited.of_orderly (ProcessorTopology.orderly_checkAttributes topology data argument)
  · exact inherited.of_orderly (ProcessorTopology.orderly_checkLineSize topology data argument)

end Scripted

end Decoder

open Structure

/-- **Indents compose and are restored.**  Wherever a part of a script is performed, the
configuration is that of the start, and the indent is the one at the start with those of the blocks
around it. Behind the part both are as before it, and no count is lower unless the part resets.
Everything that the library does in a session performs a script, if the functions of fields and
kinds do. -/
theorem indents_compose_and_are_restored :
    (∀ {α β : Type} (script : Script α) (part : Script β) (session now : Session)
        (extras : List UInt64), script.Reaches session extras part now →
      now.config = session.config ∧
      now.indent.toNat =
        min (0xFFFFFFFFFFFFFFFF) (session.indent.toNat + (extras.map UInt64.toNat).sum) ∧
      (part.perform now).2.config = now.config ∧
      (part.perform now).2.indent = now.indent ∧
      (¬ part.Resets now → now.counters.AtMost (part.perform now).2.counters)) ∧
    (∀ {α : Type} (decoder : Decoder α) (mayReset : Prop), Scripted mayReset decoder →
      ∀ session : Session,
        (decoder session).2.config = session.config ∧
        (decoder session).2.indent = session.indent ∧
        (¬ mayReset → session.counters.AtMost (decoder session).2.counters)) ∧
    ∀ mayReset : Prop,
      Inherited (Scripted mayReset) ∧
      (∀ {α : Type} (action : Script.Action α), (action.resets = true → mayReset) →
        Scripted mayReset action.perform) ∧
      (∀ fields : List Field, (∀ field ∈ fields, field.Calls (Scripted mayReset)) →
        ∀ trace indent title data, ∃ body, Scripted mayReset body ∧
          Record.decode trace indent title data fields = indented indent body) ∧
      (∀ schema : Schema, (∀ kind ∈ schema.kinds, kind.Calls (Scripted mayReset)) →
        (∀ (census : Census schema) indent data offset code arguments,
          Scripted mayReset (census.dispatch indent data offset code arguments)) ∧
        (∀ census : Census schema, Scripted mayReset census.validate) ∧
        ∀ table offset, Scripted mayReset (walk schema table offset)) ∧
      (∀ kind ∈ InterruptController.schema.kinds ++ ProcessorTopology.schema.kinds,
        kind.Calls (Scripted mayReset)) ∧
      (∀ limit format data, Scripted mayReset (characters limit format data)) ∧
      (∀ format data, Scripted mayReset (GenericAddress.renderer format data)) ∧
      (∀ indent data, Scripted mayReset (GenericAddress.showBelow indent data)) ∧
      (∀ validator ∈ [InterruptController.checkVectorBase,
          InterruptController.checkOverflowInterrupt, ProcessorTopology.checkSets,
          ProcessorTopology.checkAssociativity, ProcessorTopology.checkAttributes,
          ProcessorTopology.checkLineSize],
        ∀ data argument, Scripted mayReset (validator data argument)) ∧
      (∀ log data, Scripted mayReset (Checksum.verify log data)) ∧
      ∀ data, Scripted mayReset (HexDump.showAll data) ∧ Scripted mayReset (Header.trace data) ∧
        Scripted mayReset (Header.read data) ∧ Scripted mayReset (Table.decode data) := by
  refine ⟨?_, ?_, fun mayReset => ⟨Scripted.inherited, Scripted.act, ?_, ?_, ?_,
    Scripted.inherited.characters, Scripted.inherited.genericAddress, Scripted.inherited.showBelow,
    fun _ => Scripted.check, ?_, ?_⟩⟩
  · intro α β script part session now extras reached
    have kept := part.scope_perform now
    exact ⟨reached.config, reached.toNat_indent, congrArg Scope.config kept,
      congrArg Scope.indent kept, part.counters_perform now⟩
  · rintro α _ mayReset ⟨script, rfl, allowed⟩ session
    have kept := script.scope_perform session
    exact ⟨congrArg Scope.config kept, congrArg Scope.indent kept, fun never =>
      script.counters_perform session fun resets => never (allowed session resets)⟩
  · intro fields calls trace indent title data
    exact ⟨_, (Scripted.inherited.showTitle trace title).bind fun _ =>
      Scripted.inherited.decodeFrom calls trace 0 data, rfl⟩
  · intro schema calls
    exact ⟨Scripted.inherited.dispatch calls, Scripted.inherited.validateCensus,
      Scripted.inherited.walk calls⟩
  · intro kind there
    rcases List.mem_append.mp there with interrupt | topology
    · exact InterruptController.calls_kinds Scripted.inherited kind interrupt
    · exact ProcessorTopology.calls_kinds Scripted.inherited kind topology
  · intro log data
    have verified : Orderly (Sayable True) false (Checksum.verify log data) :=
      Checksum.orderly_verify Checksum.tells_clean log data
    exact Scripted.inherited.of_orderly verified
  · intro data
    have traced : Orderly (Sayable True) false (Header.trace data) := Header.orderly_trace data
    have read : Orderly (Sayable True) false (Header.read data) := Header.orderly_read data
    have decoded : Orderly (Sayable True) false (Table.decode data) := Table.orderly_decode data
    exact ⟨Scripted.inherited.dump data, Scripted.inherited.of_orderly traced, Scripted.inherited.of_orderly read,
      Scripted.inherited.of_orderly decoded⟩

/-- Two blocks whose indents pass the largest one, with a reset and an error in the inner one.
Inside, the indent is the largest one, and behind the blocks it is as before.  A walk over
structures each of which opens a block, shows a generic address in a record and starts a walk of its
own leaves the indent as it found it and lowers no count. -/
theorem indents_compose_and_are_restored_around_the_largest :
    let inner : Script Unit := .bind (.act .reset) fun _ => .act .countError
    let script : Script Unit := .block 0xFFFFFFFFFFFFFFFE (.block 5 inner)
    let session : Session := { Session.start .default with indent := 7 }
    let now : Session := { session with indent := 0xFFFFFFFFFFFFFFFF }
    let register : Field :=
      { Field.labelled "Register" 12 4 with render := .custom GenericAddress.renderer none }
    let nested (call : Call) (data : Bytes) : Decoder Unit := indented call.indent do
      let _ ← Record.decode true 4 (some call.name) data [.hidden 4 0, register]
      let _ ← walk ProcessorTopology.schema data 4
    let schema : Schema := ⟨"Family", [⟨"Nested", 0, .all, .custom nested⟩], rfl⟩
    let table : Bytes := 0 :: 16 :: List.replicate 14 3
    script.Reaches session [0xFFFFFFFFFFFFFFFE, 5] inner now ∧
    now.indent.toNat = min (0xFFFFFFFFFFFFFFFF) (7 + 0x10000000000000003) ∧
    (script.perform session).2.indent = 7 ∧
    (walk schema table 0 session).2.indent = 7 ∧
    session.counters.AtMost (walk schema table 0 session).2.counters := by
  intro inner script session now register nested schema table
  obtain ⟨parts, decoders, operations⟩ := indents_compose_and_are_restored
  obtain ⟨inherited, _, records, structures, own, _, address, _⟩ := operations False
  have held : addSaturating64 (addSaturating64 7 0xFFFFFFFFFFFFFFFE) 5 = 0xFFFFFFFFFFFFFFFF := by
    decide
  have reached : script.Reaches session [0xFFFFFFFFFFFFFFFE, 5] inner
      { session with indent := addSaturating64 (addSaturating64 7 0xFFFFFFFFFFFFFFFE) 5 } :=
    .body (.body .whole)
  rw [held] at reached
  obtain ⟨_, inside, _⟩ := parts script inner session now _ reached
  obtain ⟨_, _, _, behind, _⟩ := parts script script session session _ .whole
  have fields : ∀ field ∈ [.hidden 4 0, register], field.Calls (Scripted False) := by
    refine List.forall_mem_cons.mpr ⟨Field.calls_of_plain rfl nofun, ?_⟩
    refine List.forall_mem_singleton.mpr ⟨?_, nofun⟩
    rintro _ format ⟨⟩ data
    exact address none data
  have topology : ∀ kind ∈ ProcessorTopology.schema.kinds, kind.Calls (Scripted False) :=
    fun kind there => own kind (List.mem_append_right _ there)
  have kinds : ∀ kind ∈ schema.kinds, kind.Calls (Scripted False) := by
    refine List.forall_mem_singleton.mpr fun index indent arguments data => ?_
    obtain ⟨body, scripted, block⟩ := records _ fields true 4 (some "Nested") data
    have record := inherited.indented 4 scripted
    rw [← block] at record
    refine inherited.indented indent (inherited.bind record fun _ => ?_)
    exact inherited.bind ((structures _ topology).2.2 data 4) fun _ => inherited.pure ()
  obtain ⟨_, _, walks⟩ := structures schema kinds
  obtain ⟨_, kept, counted⟩ := decoders _ False (walks table 0) session
  exact ⟨reached, inside, behind, kept, counted id⟩

end AcpiTables
