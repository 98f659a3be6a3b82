import AcpiTables.Proofs.Additivity

/-!
# Every message is counted

An error is counted in one place and its text emitted in another, and the same holds of warnings.
Where a session highlights, the texts that tell errors and warnings can be told by their styles,
so counts and texts can be compared: a truthful report counts as many errors and warnings as it
announces.

Orderly decoders report truthfully (`Decoder.Orderly.truthful`), whatever path they take: a step
that announces something counts it, no other step does, and reports one behind the other stay
truthful.  So the counts after a table is decoded are those before, and the texts announced in
between (`Table.messages_are_counted`).
-/

namespace AcpiTables

set_option autoImplicit false

open Decoder

/-- How many texts announce something in a style. -/
def announced (style : Style) (emits : List Emit) : Nat :=
  emits.countP fun emit => emit.style = some style

theorem announced_append (style : Style) (first second : List Emit) :
    announced style (first ++ second) = announced style first + announced style second :=
  List.countP_append

/-! ## Truthful reports -/

/-- A report that counts what it announces, no more and no less. -/
structure Report.Truthful (report : Report) : Prop where
  errors : report.errors = announced .error report.emits
  warnings : report.warnings = announced .warning report.emits

namespace Report.Truthful

variable {scope : Scope}

theorem empty : Truthful .empty := ⟨rfl, rfl⟩

theorem append {first second : Report} (one : first.Truthful) (two : second.Truthful) :
    (first ++ second).Truthful where
  errors := by
    rw [errors_append, emits_append, announced_append, one.errors, two.errors]
  warnings := by
    rw [warnings_append, emits_append, announced_append, one.warnings, two.warnings]

theorem plain (text : String) : Truthful (.ofEmit ⟨text, none⟩) := ⟨rfl, rfl⟩

theorem styled (text : String) {style : Style} (neutral : style ≠ .error ∧ style ≠ .warning)
    (highlight : scope.config.highlight = true) :
    Truthful (.ofEmit ⟨text, scope.styled style⟩) := by
  obtain ⟨notError, notWarning⟩ := neutral
  rw [Scope.styled, if_pos highlight]
  cases style with
  | error => exact absurd rfl notError
  | warning => exact absurd rfl notWarning
  | heading => exact ⟨rfl, rfl⟩
  | success => exact ⟨rfl, rfl⟩

/-- An error that is counted once and announced once. -/
theorem blame (text : String) (highlight : scope.config.highlight = true) :
    Truthful (.oneError ++ .ofEmit ⟨text, scope.styled .error⟩) := by
  rw [Scope.styled, if_pos highlight]
  exact ⟨rfl, rfl⟩

/-- A warning that is counted once and announced once. -/
theorem caution (text : String) (highlight : scope.config.highlight = true) :
    Truthful (.oneWarning ++ .ofEmit ⟨text, scope.styled .warning⟩) := by
  rw [Scope.styled, if_pos highlight]
  exact ⟨rfl, rfl⟩

end Report.Truthful

/-! ## Orderly decoders are truthful -/

namespace Decoder.Orderly

variable {α : Type} {speech : String → Prop} {checking : Bool}

theorem lawful_truthful :
    Lawful speech fun scope report => scope.config.highlight = true → report.Truthful where
  empty _ _ := .empty
  append one two highlight := (one highlight).append (two highlight)
  plain _ text _ _ := .plain text
  announce _ _ text neutral _ highlight := .styled text neutral highlight
  blame _ text _ highlight := .blame text highlight
  caution _ text _ highlight := .caution text highlight
  nested truthful highlight := truthful highlight

/-- **An orderly decoder reports truthfully** in every scope that highlights. -/
theorem truthful {decoder : Decoder α} (orderly : Orderly speech checking decoder) {scope : Scope}
    (highlight : scope.config.highlight = true) :
    ∃ value report, Reports decoder scope value report ∧ report.Truthful := by
  obtain ⟨value, report, runs, truthful⟩ := orderly.reports_of_lawful lawful_truthful scope
  exact ⟨value, report, runs, truthful highlight⟩

end Decoder.Orderly

/-! ## Tables -/

/-- **Every message is counted, and nothing else is.**  Where a session highlights, decoding a
buffer leaves as many errors as were counted before and as many as it announced, and so for
warnings.  Both counts stay at the largest word. -/
theorem Table.messages_are_counted (data : Bytes) (session : Session)
    (highlight : session.config.highlight = true) :
    ∃ said, (decode data session).2.emits = session.emits ++ said ∧
      (decode data session).2.counters.errors.toNat =
        min (0xFFFFFFFF) (session.counters.errors.toNat + announced .error said) ∧
      (decode data session).2.counters.warnings.toNat =
        min (0xFFFFFFFF) (session.counters.warnings.toNat + announced .warning said) := by
  have orderly : Orderly (Sayable True) false (decode data) := orderly_decode data
  have highlights : session.scope.config.highlight = true := highlight
  obtain ⟨found, report, runs, truthful⟩ := orderly.truthful highlights
  have run : decode data session = (found, session.record report) := runs session rfl
  rw [run]
  refine ⟨report.emits, Session.emits_record _ _, ?_, ?_⟩
  · rw [← truthful.errors]
    exact Counters.toNat_errors_plus _ _ _
  · rw [← truthful.warnings]
    exact Counters.toNat_warnings_plus _ _ _

/-- A table without a decoder whose checksum is wrong, in a session that can count one more
error. -/
theorem Table.messages_are_counted_of_checksum :
    let table : Bytes := List.replicate 4 65 ++ [36, 0, 0, 0] ++ List.replicate 28 65
    let session : Session := ⟨⟨true, true, .all⟩, ⟨0xFFFFFFFE, 7⟩, 0, #[]⟩
    (decode table session).2.counters = ⟨0xFFFFFFFF, 7⟩ ∧
    ∃ said, (decode table session).2.emits = session.emits ++ said ∧
      (decode table session).2.counters.errors.toNat =
        min (0xFFFFFFFF) (0xFFFFFFFE + announced .error said) ∧
      (decode table session).2.counters.warnings.toNat =
        min (0xFFFFFFFF) (7 + announced .warning said) := by
  intro table session
  exact ⟨by decide +kernel, messages_are_counted table session rfl⟩

end AcpiTables
