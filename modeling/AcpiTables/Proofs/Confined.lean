import AcpiTables.Proofs.Inherited
import AcpiTables.Proofs.Orderly

/-!
# Confined decoders

A decoder may read the whole session and do anything to it.  A confined decoder reads nothing but
the scope, and takes back nothing that was emitted or counted.  It then does the same in every
session of a scope, so it is enough to run it alone, in a session where nothing was counted or
emitted yet: in any other session it gives the same value, emits the same texts behind those that
are there, and adds the same numbers to the counts (`Decoder.Confined`).

Being confined and reporting are the same (`Confined.reports`, `Confined.of_reports`), so the rules
for reports give the rules for confined decoders: they are closed under sequences, blocks and
checks, and every orderly decoder is confined.  So being confined is inherited
(`Confined.inherited`): records and structures are confined when the functions that their fields and
kinds bring along are.
-/

namespace AcpiTables

set_option autoImplicit false

/-! ## Adding what was done elsewhere -/

namespace Counters

theorem add_plus (counters other : Counters) (errors warnings : Nat) :
    counters.add (other.plus errors warnings) = (counters.add other).plus errors warnings := by
  refine Counters.ext ?_ ?_
  · rw [← UInt32.toNat_inj]
    simp only [add, plus, toNat_addSaturating32, toNat_saturate32]
    omega
  · rw [← UInt32.toNat_inj]
    simp only [add, plus, toNat_addSaturating32, toNat_saturate32]
    omega

theorem add_eq_plus (counters other : Counters) :
    counters.add other = counters.plus other.errors.toNat other.warnings.toNat := rfl

@[simp] theorem add_zero (counters : Counters) : counters.add zero = counters :=
  plus_zero counters

@[simp] theorem zero_add (counters : Counters) : zero.add counters = counters := by
  refine Counters.ext ?_ ?_
  · simp [add, zero, addSaturating32_eq]
  · simp [add, zero, addSaturating32_eq]

end Counters

namespace Session

/-- The session of a scope in which nothing was counted or emitted yet. -/
def bare (scope : Scope) : Session := ⟨scope.config, .zero, scope.indent, #[]⟩

/-- The session with what was emitted and counted in another one added behind its own. -/
def absorb (session part : Session) : Session :=
  { session with
    counters := session.counters.add part.counters
    output := session.output ++ part.output }

/-- The session with what was emitted and counted in others added, one after another. -/
def absorbAll (session : Session) (parts : List Session) : Session :=
  parts.foldl absorb session

@[simp] theorem scope_absorb (session part : Session) :
    (session.absorb part).scope = session.scope := rfl

@[simp] theorem counters_absorb (session part : Session) :
    (session.absorb part).counters = session.counters.add part.counters := rfl

@[simp] theorem emits_absorb (session part : Session) :
    (session.absorb part).emits = session.emits ++ part.emits := by
  simp [absorb, emits]

@[simp] theorem absorb_bare (session : Session) (scope : Scope) :
    session.absorb (bare scope) = session := by
  cases session
  simp [absorb, bare]

theorem absorb_record (session part : Session) (report : Report) :
    session.absorb (part.record report) = (session.absorb part).record report := by
  have output : session.output ++ (part.output ++ report.emits) =
      session.output ++ part.output ++ report.emits := Array.ext' (by simp)
  simp only [absorb, record, Counters.add_plus, output]

@[simp] theorem absorbAll_nil (session : Session) : session.absorbAll [] = session := rfl

@[simp] theorem absorbAll_cons (session part : Session) (parts : List Session) :
    session.absorbAll (part :: parts) = (session.absorb part).absorbAll parts := rfl

theorem absorbAll_concat (session part : Session) (parts : List Session) :
    session.absorbAll (parts ++ [part]) = (session.absorbAll parts).absorb part := by
  rw [absorbAll, List.foldl_append]
  rfl

@[simp] theorem scope_absorbAll (session : Session) (parts : List Session) :
    (session.absorbAll parts).scope = session.scope := by
  induction parts generalizing session with
  | nil => rfl
  | cons part parts ih => exact ih (session.absorb part)

theorem emits_absorbAll (session : Session) (parts : List Session) :
    (session.absorbAll parts).emits = session.emits ++ parts.flatMap emits := by
  induction parts generalizing session with
  | nil => rw [absorbAll_nil, List.flatMap_nil, List.append_nil]
  | cons part parts ih =>
      rw [absorbAll_cons, ih, emits_absorb, List.flatMap_cons, List.append_assoc]

/-- The counts of the parts are added up. -/
theorem counters_absorbAll (session : Session) (parts : List Session) :
    (session.absorbAll parts).counters = session.counters.plus
      (parts.map fun part => part.counters.errors.toNat).sum
      (parts.map fun part => part.counters.warnings.toNat).sum := by
  induction parts generalizing session with
  | nil => exact (Counters.plus_zero _).symm
  | cons part parts ih =>
      rw [absorbAll_cons, ih, counters_absorb, Counters.add_eq_plus, Counters.plus_plus]
      simp only [List.map_cons, List.sum_cons]

end Session

/-! ## Confined decoders -/

namespace Decoder

variable {α β : Type}

/-- A decoder that reads nothing of its session but the scope, and only adds to the rest: in every
session it gives the value that it gives alone, in the bare session of the scope, and emits and
counts what it does there. -/
def Confined (decoder : Decoder α) : Prop :=
  ∀ session : Session, decoder session =
    ((decoder (.bare session.scope)).1, session.absorb (decoder (.bare session.scope)).2)

namespace Confined

theorem of_reports {decoder : Decoder α}
    (reports : ∀ scope, ∃ value report, Reports decoder scope value report) :
    Confined decoder := by
  intro session
  obtain ⟨value, report, runs⟩ := reports session.scope
  rw [runs session rfl, runs (.bare session.scope) rfl, Session.absorb_record, Session.absorb_bare]

theorem reports {decoder : Decoder α} (confined : Confined decoder) (scope : Scope) :
    ∃ value report, Reports decoder scope value report := by
  let alone := decoder (.bare scope)
  refine ⟨alone.1, ⟨alone.2.emits, alone.2.counters.errors.toNat,
    alone.2.counters.warnings.toNat⟩, fun session within => ?_⟩
  have output : session.output ++ alone.2.output = session.output ++ alone.2.emits :=
    Array.ext' (by simp [Session.emits])
  rw [confined session, within, Session.absorb, Session.record, Counters.add_eq_plus, output]

theorem pure (value : α) : Confined (pure value) :=
  of_reports fun _ => ⟨_, _, Reports.pure value⟩

theorem bind {first : Decoder α} {next : α → Decoder β} (start : Confined first)
    (rest : ∀ value, Confined (next value)) : Confined (first >>= next) := by
  refine of_reports fun scope => ?_
  obtain ⟨one, before, startRuns⟩ := start.reports scope
  obtain ⟨two, after, restRuns⟩ := (rest one).reports scope
  exact ⟨two, before ++ after, startRuns.bind restRuns⟩

theorem readScope : Confined Decoder.scope :=
  of_reports fun _ => ⟨_, _, Reports.readScope⟩

theorem print (text : String) : Confined (print text) :=
  of_reports fun _ => ⟨_, _, Reports.print text⟩

theorem printStyled (style : Style) (text : String) : Confined (printStyled style text) :=
  of_reports fun _ => ⟨_, _, Reports.printStyled style text⟩

theorem indented {extra : UInt64} {body : Decoder α} (inner : Confined body) :
    Confined (indented extra body) := by
  refine of_reports fun scope => ?_
  obtain ⟨value, report, runs⟩ := inner.reports (scope.nested extra)
  exact ⟨value, report, runs.indented⟩

theorem inherited : Inherited Confined where
  pure := pure
  bind := bind
  scope := readScope
  print := print
  printStyled := printStyled
  countError := of_reports fun _ => ⟨_, _, Reports.countError⟩
  countWarning := of_reports fun _ => ⟨_, _, Reports.countWarning⟩
  indented _ _ inner := inner.indented

theorem of_orderly {speech : String → Prop} {checking : Bool} {decoder : Decoder α}
    (orderly : Orderly speech checking decoder) : Confined decoder :=
  inherited.of_orderly orderly

/-! ## Running a confined decoder -/

variable {decoder : Decoder α}

theorem session_eq (confined : Confined decoder) (session : Session) :
    (decoder session).2 = session.absorb (decoder (.bare session.scope)).2 := by
  rw [confined session]

end Confined

end Decoder

open Decoder

/-! ## Fields and records -/

namespace Field

/-- A field whose renderer and whose check, if it has them, are confined. -/
structure Confined (field : Field) : Prop where
  renderer : ∀ renderer format, field.render = .custom renderer format →
    ∀ bytes, Decoder.Confined (renderer format bytes)
  check : ∀ validator, field.validator = some validator →
    ∀ bytes, Decoder.Confined (validator bytes field.argument)

theorem Confined.calls {field : Field} (confined : field.Confined) :
    field.Calls Decoder.Confined :=
  ⟨confined.renderer, confined.check⟩

end Field

namespace Record

variable {title : Option String}

theorem confined_decodeFrom {fields : List Field} (confined : ∀ field ∈ fields, field.Confined)
    (trace : Bool) (offset : Nat) (rest : Bytes) :
    Confined (decodeFrom trace title offset rest fields) :=
  Confined.inherited.decodeFrom (fun field there => (confined field there).calls) trace offset rest

end Record

end AcpiTables
