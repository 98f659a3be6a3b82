import AcpiTables.Proofs.Reports

/-!
# Orderly decoders

A decoder may be any function of its session.  An orderly decoder is one that is put together
from the library's own steps: it emits texts, counts an error exactly where it emits its line,
opens blocks, and runs checks.  Warnings are given in checks only.  `Orderly` says so by one
constructor for each way of building a decoder, so what holds of all orderly decoders is shown
once, by induction on how they are built.

An orderly decoder reports: in every scope it gives a value and a report, and what holds of the
reports of its steps holds of the whole (`Orderly.reports_of_lawful`).  So it reports texts that it
may speak, without a style where nothing is highlighted (`Orderly.reports`).  Two runs of it, one
with its checks and one without, go in lockstep (`Orderly.lockstep`): they give the same value, and
the checks only add to the report.
-/

namespace AcpiTables

set_option autoImplicit false

/-- The scope with consistency checking switched on or off. -/
def Scope.withChecks (scope : Scope) (checks : Bool) : Scope :=
  { scope with config := { scope.config with consistency := checks } }

/-- The scope with highlighting switched on or off. -/
def Scope.withHighlight (scope : Scope) (highlight : Bool) : Scope :=
  { scope with config := { scope.config with highlight := highlight } }

namespace Decoder

/-- Decoders built from the library's steps.  Every text is one that `speech` allows, and
`checking` tells whether the decoder is part of a check. -/
inductive Orderly (speech : String → Prop) : (checking : Bool) → {α : Type} → Decoder α → Prop
  | pure {checking : Bool} {α : Type} (value : α) : Orderly speech checking (Pure.pure value)
  | bind {checking : Bool} {α β : Type} {first : Decoder α} {next : α → Decoder β}
      (start : Orderly speech checking first)
      (rest : ∀ value, Orderly speech checking (next value)) :
      Orderly speech checking (first >>= next)
  | print {checking : Bool} (text : String) (said : speech text) :
      Orderly speech checking (Decoder.print text)
  /-- A text with a style that announces neither an error nor a warning. -/
  | announce {checking : Bool} (style : Style) (text : String)
      (neutral : style ≠ .error ∧ style ≠ .warning) (said : speech text) :
      Orderly speech checking (printStyled style text)
  | fieldLabel {checking : Bool} (extra : UInt64) (label : String)
      (said : ∀ indent, speech (columnLabel indent label ++ " : ")) :
      Orderly speech checking (Decoder.fieldLabel extra label)
  | heading {checking : Bool} (title : String)
      (said : ∀ indent, speech (columnLabel indent title ++ " :\n")) :
      Orderly speech checking (Decoder.heading title)
  /-- An error is counted together with the text that tells it. -/
  | blame {checking : Bool} (text : String) (said : speech text) :
      Orderly speech checking (countError >>= fun _ => printStyled .error text)
  /-- A warning is counted together with the text that tells it, and only in a check. -/
  | caution (text : String) (said : speech text) :
      Orderly speech true (countWarning >>= fun _ => printStyled .warning text)
  | indented {checking : Bool} {α : Type} (extra : UInt64) {body : Decoder α}
      (inner : Orderly speech checking body) : Orderly speech checking (Decoder.indented extra body)
  | whenChecking {checking : Bool} {check : Decoder Unit} (inner : Orderly speech true check) :
      Orderly speech checking (Decoder.whenChecking check)
  /-- What comes next may depend on the scope, but neither on whether consistency is checked nor on
  whether findings are highlighted. -/
  | byScope {checking : Bool} {α : Type} {next : Scope → Decoder α}
      (every : ∀ scope, Orderly speech checking (next scope))
      (blind : ∀ (scope : Scope) (checks : Bool), next (scope.withChecks checks) = next scope)
      (plain : ∀ (scope : Scope) (highlight : Bool),
        next (scope.withHighlight highlight) = next scope) :
      Orderly speech checking (Decoder.scope >>= next)

namespace Orderly

variable {α β : Type} {speech : String → Prop} {checking : Bool}

theorem error (message : String) (said : speech ("ERROR: " ++ message ++ "\n")) :
    Orderly speech checking (Decoder.error message) :=
  blame _ said

theorem warning (message : String) (said : speech ("WARNING: " ++ message ++ "\n")) :
    Orderly speech true (Decoder.warning message) :=
  caution _ said

theorem bind_pure {first : Decoder α} (form : α → β) (start : Orderly speech checking first) :
    Orderly speech checking (first >>= fun value => Pure.pure (form value)) :=
  start.bind fun value => pure (form value)

/-! ## What orderly decoders report -/

/-- A property of reports in a scope that every step of an orderly decoder has, and that is kept
where reports are joined and where blocks end. -/
structure Lawful (speech : String → Prop) (law : Scope → Report → Prop) : Prop where
  empty : ∀ scope, law scope .empty
  append : ∀ {scope first second}, law scope first → law scope second →
    law scope (first ++ second)
  plain : ∀ scope text, speech text → law scope (.ofEmit ⟨text, none⟩)
  announce : ∀ (scope : Scope) (style : Style) (text : String),
    style ≠ .error ∧ style ≠ .warning → speech text →
      law scope (.ofEmit ⟨text, scope.styled style⟩)
  blame : ∀ (scope : Scope) (text : String), speech text →
    law scope (.oneError ++ .ofEmit ⟨text, scope.styled .error⟩)
  caution : ∀ (scope : Scope) (text : String), speech text →
    law scope (.oneWarning ++ .ofEmit ⟨text, scope.styled .warning⟩)
  nested : ∀ {scope extra report}, law (Scope.nested scope extra) report → law scope report

/-- **An orderly decoder reports lawfully**: in every scope it gives a value and a report that has
any property of its steps. -/
theorem reports_of_lawful {decoder : Decoder α} (orderly : Orderly speech checking decoder)
    {law : Scope → Report → Prop} (lawful : Lawful speech law) (scope : Scope) :
    ∃ value report, Reports decoder scope value report ∧ law scope report := by
  induction orderly generalizing scope with
  | pure value => exact ⟨value, .empty, Reports.pure value, lawful.empty scope⟩
  | bind _ _ ihStart ihRest =>
      obtain ⟨one, before, start, lawBefore⟩ := ihStart scope
      obtain ⟨two, after, rest, lawAfter⟩ := ihRest one scope
      exact ⟨two, before ++ after, start.bind rest, lawful.append lawBefore lawAfter⟩
  | print text said => exact ⟨(), _, Reports.print text, lawful.plain scope _ said⟩
  | announce style text neutral said =>
      exact ⟨(), _, Reports.printStyled style text, lawful.announce scope _ _ neutral said⟩
  | fieldLabel extra label said =>
      exact ⟨(), _, Reports.fieldLabel extra label, lawful.plain scope _ (said _)⟩
  | heading title said =>
      have neutral : Style.heading ≠ .error ∧ Style.heading ≠ .warning := by decide
      exact ⟨(), _, Reports.heading title, lawful.announce scope _ _ neutral (said _)⟩
  | blame text said =>
      exact ⟨(), _, Reports.countError.bind (Reports.printStyled .error text),
        lawful.blame scope _ said⟩
  | caution text said =>
      exact ⟨(), _, Reports.countWarning.bind (Reports.printStyled .warning text),
        lawful.caution scope _ said⟩
  | indented extra _ ih =>
      obtain ⟨value, report, inner, law⟩ := ih (scope.nested extra)
      exact ⟨value, report, inner.indented, lawful.nested law⟩
  | whenChecking _ ih =>
      obtain ⟨⟨⟩, report, check, law⟩ := ih scope
      refine ⟨(), _, Reports.whenChecking fun _ => check, ?_⟩
      split
      · exact law
      · exact lawful.empty scope
  | byScope _ _ _ ih =>
      obtain ⟨value, report, rest, law⟩ := ih scope scope
      exact ⟨value, .empty ++ report, Reports.readScope.bind rest,
        lawful.append (lawful.empty scope) law⟩

/-- A report of allowed texts, with styles only where the scope highlights. -/
structure Spoken (speech : String → Prop) (scope : Scope) (report : Report) : Prop where
  texts : ∀ emit ∈ report.emits, speech emit.text
  styles : scope.config.highlight = false → ∀ emit ∈ report.emits, emit.style = none

namespace Spoken

variable {scope : Scope}

theorem of_emits_eq_nil {report : Report} (silent : report.emits = []) :
    Spoken speech scope report where
  texts := by simp [silent]
  styles := by simp [silent]

theorem plain {text : String} (said : speech text) :
    Spoken speech scope (.ofEmit ⟨text, none⟩) where
  texts := by simpa [Report.ofEmit] using said
  styles := by simp [Report.ofEmit]

theorem styled {text : String} (style : Style) (said : speech text) :
    Spoken speech scope (.ofEmit ⟨text, scope.styled style⟩) where
  texts := by simpa [Report.ofEmit] using said
  styles := by
    intro off
    simp [Report.ofEmit, Scope.styled, off]

theorem append {first second : Report} (one : Spoken speech scope first)
    (two : Spoken speech scope second) : Spoken speech scope (first ++ second) where
  texts := by
    intro emit there
    rcases List.mem_append.mp there with early | late
    · exact one.texts emit early
    · exact two.texts emit late
  styles := by
    intro off emit there
    rcases List.mem_append.mp there with early | late
    · exact one.styles off emit early
    · exact two.styles off emit late

end Spoken

theorem lawful_spoken : Lawful speech (Spoken speech) where
  empty _ := .of_emits_eq_nil rfl
  append one two := one.append two
  plain _ _ said := .plain said
  announce _ style _ _ said := .styled style said
  blame _ _ said := (Spoken.of_emits_eq_nil rfl).append (.styled .error said)
  caution _ _ said := (Spoken.of_emits_eq_nil rfl).append (.styled .warning said)
  nested spoken := ⟨spoken.texts, spoken.styles⟩

/-- **An orderly decoder reports texts that it may speak**, in every scope. -/
theorem reports {decoder : Decoder α} (orderly : Orderly speech checking decoder)
    (scope : Scope) :
    ∃ value report, Reports decoder scope value report ∧ Spoken speech scope report :=
  orderly.reports_of_lawful lawful_spoken scope

end Orderly

end Decoder

/-! ## Runs with and without checks -/

/-- What a run without checks reports, beside what one with checks reports: fewer texts in the
same order, no more errors, and, outside of checks, no warnings. -/
structure Report.Spares (checking : Bool) (off on : Report) : Prop where
  emits : off.emits.Sublist on.emits
  errors : off.errors ≤ on.errors
  warnings : checking = false → off.warnings = 0

namespace Report.Spares

variable {checking : Bool}

theorem refl {report : Report} (calm : checking = false → report.warnings = 0) :
    Spares checking report report :=
  ⟨List.Sublist.refl _, Nat.le_refl _, calm⟩

theorem append {off on moreOff moreOn : Report} (first : Spares checking off on)
    (second : Spares checking moreOff moreOn) :
    Spares checking (off ++ moreOff) (on ++ moreOn) where
  emits := first.emits.append second.emits
  errors := Nat.add_le_add first.errors second.errors
  warnings := by
    intro outside
    rw [warnings_append, first.warnings outside, second.warnings outside]

end Report.Spares

namespace Decoder.Orderly

variable {α : Type} {speech : String → Prop} {checking : Bool}

/-- **Two runs of an orderly decoder, with and without its checks, go in lockstep**: they give
the same value, and the run without checks spares reports. -/
theorem lockstep {decoder : Decoder α} (orderly : Orderly speech checking decoder)
    (scope : Scope) :
    ∃ value on off, Reports decoder (scope.withChecks true) value on ∧
      Reports decoder (scope.withChecks false) value off ∧ Report.Spares checking off on := by
  induction orderly generalizing scope with
  | pure value =>
      exact ⟨value, .empty, .empty, Reports.pure value, Reports.pure value, .refl fun _ => rfl⟩
  | bind _ _ ihStart ihRest =>
      obtain ⟨one, onBefore, offBefore, startOn, startOff, spares⟩ := ihStart scope
      obtain ⟨two, onAfter, offAfter, restOn, restOff, sparesRest⟩ := ihRest one scope
      exact ⟨two, onBefore ++ onAfter, offBefore ++ offAfter, startOn.bind restOn,
        startOff.bind restOff, spares.append sparesRest⟩
  | print text said =>
      exact ⟨(), _, _, Reports.print text, Reports.print text, .refl fun _ => rfl⟩
  | announce style text _ _ =>
      exact ⟨(), _, _, Reports.printStyled style text, Reports.printStyled style text,
        .refl fun _ => rfl⟩
  | fieldLabel extra label _ =>
      exact ⟨(), _, _, Reports.fieldLabel extra label, Reports.fieldLabel extra label,
        .refl fun _ => rfl⟩
  | heading title _ =>
      exact ⟨(), _, _, Reports.heading title, Reports.heading title, .refl fun _ => rfl⟩
  | blame text _ =>
      exact ⟨(), _, _, Reports.countError.bind (Reports.printStyled .error text),
        Reports.countError.bind (Reports.printStyled .error text), .refl fun _ => rfl⟩
  | caution text _ =>
      exact ⟨(), _, _, Reports.countWarning.bind (Reports.printStyled .warning text),
        Reports.countWarning.bind (Reports.printStyled .warning text), .refl nofun⟩
  | indented extra _ ih =>
      obtain ⟨value, on, off, innerOn, innerOff, spares⟩ := ih (scope.nested extra)
      exact ⟨value, on, off, Reports.indented innerOn, Reports.indented innerOff, spares⟩
  | whenChecking _ ih =>
      obtain ⟨⟨⟩, on, off, checked, unchecked, _⟩ := ih scope
      have without : Reports (Decoder.whenChecking _) (scope.withChecks false) () .empty :=
        Reports.whenChecking fun _ => unchecked
      exact ⟨(), on, .empty, Reports.whenChecking fun _ => checked, without,
        ⟨List.nil_sublist _, Nat.zero_le _, fun _ => rfl⟩⟩
  | byScope _ blind _ ih =>
      obtain ⟨value, on, off, restOn, restOff, spares⟩ := ih scope scope
      rw [← blind scope true] at restOn
      rw [← blind scope false] at restOff
      exact ⟨value, .empty ++ on, .empty ++ off, Reports.readScope.bind restOn,
        Reports.readScope.bind restOff, .append (.refl fun _ => rfl) spares⟩

end Decoder.Orderly

end AcpiTables
