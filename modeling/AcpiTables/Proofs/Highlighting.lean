import AcpiTables.Proofs.Additivity

/-!
# Highlighting changes styles only

A text that asks for a style gets it where the session highlights, and no style elsewhere.  So the
run of an orderly decoder that does not highlight is the run that does, with all styles taken off:
both give the same value, and the one report is the other one without styles
(`Decoder.Orderly.unstyled_of_highlighted`).

Decoders of tables are orderly.  Hence a buffer is decoded to the same signature, counts and texts
whether findings are highlighted or not, and an output that ignores styles cannot tell the two runs
apart (`Table.highlighting_changes_styles_only`).
-/

namespace AcpiTables

set_option autoImplicit false

open Decoder

/-! ## Reports without their styles -/

/-- The text of an emit, without a style. -/
def Emit.unstyled (emit : Emit) : Emit := { emit with style := none }

namespace Report

/-- The report with the style of every text taken off. -/
def unstyled (report : Report) : Report :=
  { report with emits := report.emits.map Emit.unstyled }

@[simp] theorem unstyled_append (first second : Report) :
    (first ++ second).unstyled = first.unstyled ++ second.unstyled := by
  apply ext
  · exact List.map_append
  · rfl
  · rfl

theorem texts_unstyled (report : Report) :
    report.unstyled.emits.map Emit.text = report.emits.map Emit.text := by
  rw [unstyled, List.map_map]
  rfl

theorem style_of_mem_unstyled {report : Report} :
    ∀ emit ∈ report.unstyled.emits, emit.style = none := by
  intro emit there
  obtain ⟨styled, _, rfl⟩ := List.mem_map.mp there
  rfl

end Report

/-! ## Orderly decoders -/

namespace Decoder.Orderly

variable {α : Type} {speech : String → Prop} {checking : Bool}

/-- **Without highlighting, an orderly decoder gives the same value and reports the same but for the
styles.** -/
theorem unstyled_of_highlighted {decoder : Decoder α} (orderly : Orderly speech checking decoder)
    (scope : Scope) :
    ∃ value report, Reports decoder (scope.withHighlight true) value report ∧
      Reports decoder (scope.withHighlight false) value report.unstyled := by
  induction orderly generalizing scope with
  | pure value => exact ⟨value, .empty, Reports.pure value, Reports.pure value⟩
  | bind _ _ ihStart ihRest =>
      obtain ⟨one, before, start, startPlain⟩ := ihStart scope
      obtain ⟨two, after, rest, restPlain⟩ := ihRest one scope
      refine ⟨two, before ++ after, start.bind rest, ?_⟩
      rw [Report.unstyled_append]
      exact startPlain.bind restPlain
  | print text _ => exact ⟨(), _, Reports.print text, Reports.print text⟩
  | announce style text _ _ =>
      exact ⟨(), _, Reports.printStyled style text, Reports.printStyled style text⟩
  | fieldLabel extra label _ =>
      exact ⟨(), _, Reports.fieldLabel extra label, Reports.fieldLabel extra label⟩
  | heading title _ => exact ⟨(), _, Reports.heading title, Reports.heading title⟩
  | blame text _ =>
      refine ⟨(), _, Reports.countError.bind (Reports.printStyled .error text), ?_⟩
      rw [Report.unstyled_append]
      exact Reports.countError.bind (Reports.printStyled .error text)
  | caution text _ =>
      refine ⟨(), _, Reports.countWarning.bind (Reports.printStyled .warning text), ?_⟩
      rw [Report.unstyled_append]
      exact Reports.countWarning.bind (Reports.printStyled .warning text)
  | indented extra _ ih =>
      obtain ⟨value, report, inner, innerPlain⟩ := ih (scope.nested extra)
      exact ⟨value, report, Reports.indented inner, Reports.indented innerPlain⟩
  | whenChecking _ ih =>
      obtain ⟨⟨⟩, report, check, checkPlain⟩ := ih scope
      refine ⟨(), _, Reports.whenChecking fun _ => check, ?_⟩
      rw [apply_ite Report.unstyled]
      exact Reports.whenChecking fun _ => checkPlain
  | byScope _ _ plain ih =>
      obtain ⟨value, report, rest, restPlain⟩ := ih scope scope
      rw [← plain scope true] at rest
      rw [← plain scope false] at restPlain
      refine ⟨value, .empty ++ report, Reports.readScope.bind rest, ?_⟩
      rw [Report.unstyled_append]
      exact Reports.readScope.bind restPlain

end Decoder.Orderly

/-! ## Tables -/

/-- The session with highlighting switched on or off. -/
def Session.withHighlight (session : Session) (highlight : Bool) : Session :=
  { session with config := { session.config with highlight := highlight } }

@[simp] theorem Session.scope_withHighlight (session : Session) (highlight : Bool) :
    (session.withHighlight highlight).scope = session.scope.withHighlight highlight := rfl

/-- **Highlighting changes styles only.**  For every buffer and session, whatever is checked and for
whichever target, the runs with and without highlighting give the same signature and the same counts
and emit the same texts in the same order.  Without highlighting no emitted text has a style.  So an
output that ignores styles holds the same text after both runs. -/
theorem Table.highlighting_changes_styles_only (data : Bytes) (session : Session) :
    let styled := decode data (session.withHighlight true)
    let plain := decode data (session.withHighlight false)
    styled.1 = plain.1 ∧
    styled.2.counters = plain.2.counters ∧
    (∃ said bare, styled.2.emits = session.emits ++ said ∧ plain.2.emits = session.emits ++ bare ∧
      said.map Emit.text = bare.map Emit.text ∧ ∀ emit ∈ bare, emit.style = none) ∧
    plainText styled.2.emits = plainText plain.2.emits := by
  intro styled plain
  have orderly : Orderly (Sayable True) false (decode data) := orderly_decode data
  obtain ⟨found, report, runStyled, runPlain⟩ := orderly.unstyled_of_highlighted session.scope
  have styledRun : styled = (found, (session.withHighlight true).record report) :=
    runStyled _ (session.scope_withHighlight true)
  have plainRun : plain = (found, (session.withHighlight false).record report.unstyled) :=
    runPlain _ (session.scope_withHighlight false)
  have said : styled.2.emits = session.emits ++ report.emits := by
    rw [styledRun]
    exact Session.emits_record _ _
  have bare : plain.2.emits = session.emits ++ report.unstyled.emits := by
    rw [plainRun]
    exact Session.emits_record _ _
  refine ⟨?_, ?_, ⟨report.emits, report.unstyled.emits, said, bare, report.texts_unstyled.symm,
    Report.style_of_mem_unstyled⟩, ?_⟩
  · rw [styledRun, plainRun]
  · rw [styledRun, plainRun]
    rfl
  · rw [plainText, plainText, said, bare, List.map_append, List.map_append, report.texts_unstyled]

end AcpiTables
