import AcpiTables.Decoder
import Mathlib.Algebra.GroupWithZero.Nat

/-!
# What decoders report

A decoder may do anything to its session.  The decoders of this library do less: in a
given scope they give one value and take one report into the session, whatever was
counted and emitted before.  `Reports` states this for one scope, value and report.

Reports compose: the report of a sequence is the two reports joined (`Reports.bind`), a
block reports what its body reports under the larger indent (`Reports.indented`), and a
check that is switched off reports nothing (`Reports.whenChecking`).
-/

namespace AcpiTables

set_option autoImplicit false

namespace Scope

/-- The scope inside a block whose indent is larger by `extra`. -/
def nested (scope : Scope) (extra : UInt64) : Scope :=
  { scope with indent := addSaturating64 scope.indent extra }

end Scope

namespace Report

/-- The line of an error in a scope, counted once. -/
def ofError (scope : Scope) (message : String) : Report :=
  .oneError ++ .ofEmit ⟨"ERROR: " ++ message ++ "\n", scope.styled .error⟩

/-- The line of a warning in a scope, counted once. -/
def ofWarning (scope : Scope) (message : String) : Report :=
  .oneWarning ++ .ofEmit ⟨"WARNING: " ++ message ++ "\n", scope.styled .warning⟩

@[simp] theorem emits_ofError (scope : Scope) (message : String) :
    (ofError scope message).emits = [⟨"ERROR: " ++ message ++ "\n", scope.styled .error⟩] := rfl

theorem errors_join (reports : List Report) :
    (join reports).errors = (reports.map errors).sum := by
  induction reports with
  | nil => rfl
  | cons report reports ih => rw [join_cons, errors_append, ih, List.map_cons, List.sum_cons]

theorem warnings_join (reports : List Report) :
    (join reports).warnings = (reports.map warnings).sum := by
  induction reports with
  | nil => rfl
  | cons report reports ih => rw [join_cons, warnings_append, ih, List.map_cons, List.sum_cons]

end Report

namespace Decoder

variable {α β : Type}

/-- In every session with the scope, the decoder gives the value and takes the report in. -/
def Reports (decoder : Decoder α) (scope : Scope) (value : α) (report : Report) : Prop :=
  ∀ session : Session, session.scope = scope → decoder session = (value, session.record report)

variable {scope : Scope}

namespace Reports

theorem pure (value : α) : Reports (pure value) scope value .empty := by
  intro session _
  rw [pure_apply, Session.record_empty]

theorem bind {first : Decoder α} {next : α → Decoder β} {one : α} {two : β}
    {before after : Report} (start : Reports first scope one before)
    (rest : Reports (next one) scope two after) :
    Reports (first >>= next) scope two (before ++ after) := by
  intro session within
  rw [bind_apply, start session within, rest _ (by simpa using within), Session.record_append]

/-- A last step that only forms the value reports nothing more. -/
theorem bind_pure {first : Decoder α} {one : α} {report : Report} (form : α → β)
    (start : Reports first scope one report) :
    Reports (first >>= fun value => Pure.pure (form value)) scope (form one) report := by
  rw [← Report.append_empty report]
  exact start.bind (Reports.pure (form one))

theorem readScope : Reports Decoder.scope scope scope .empty := by
  intro session within
  rw [Session.record_empty, Decoder.scope, within]

theorem print (text : String) : Reports (print text) scope () (.ofEmit ⟨text, none⟩) := by
  intro session _
  rw [Decoder.print, Session.emit_eq_record]

theorem printStyled (style : Style) (text : String) :
    Reports (printStyled style text) scope () (.ofEmit ⟨text, scope.styled style⟩) := by
  intro session within
  rw [Decoder.printStyled, Session.emit_eq_record, within]

theorem fieldLabel (extra : UInt64) (label : String) :
    Reports (fieldLabel extra label) scope () (.ofEmit
      ⟨columnLabel (addSaturating64 scope.indent extra).toNat label ++ " : ", none⟩) := by
  intro session within
  subst within
  exact print _ session rfl

theorem heading (title : String) :
    Reports (heading title) scope () (.ofEmit
      ⟨columnLabel scope.indent.toNat title ++ " :\n", scope.styled .heading⟩) := by
  intro session within
  subst within
  exact printStyled _ _ session rfl

theorem countError : Reports countError scope () .oneError := by
  intro session _
  simp [Decoder.countError, Session.record, Report.oneError, Counters.addError_eq_plus]

theorem countWarning : Reports countWarning scope () .oneWarning := by
  intro session _
  simp [Decoder.countWarning, Session.record, Report.oneWarning, Counters.addWarning_eq_plus]

theorem error (message : String) : Reports (error message) scope () (.ofError scope message) := by
  unfold Decoder.error
  exact countError.bind (printStyled _ _)

theorem warning (message : String) :
    Reports (warning message) scope () (.ofWarning scope message) := by
  unfold Decoder.warning
  exact countWarning.bind (printStyled _ _)

theorem indented {extra : UInt64} {body : Decoder α} {value : α} {report : Report}
    (inner : Reports body (scope.nested extra) value report) :
    Reports (indented extra body) scope value report := by
  intro session within
  subst within
  simp only [Decoder.indented, inner { session with
    indent := addSaturating64 session.indent extra } rfl]
  rfl

theorem whenChecking {check : Decoder Unit} {report : Report}
    (checked : scope.config.consistency = true → Reports check scope () report) :
    Reports (whenChecking check) scope ()
      (if scope.config.consistency then report else .empty) := by
  intro session within
  subst within
  unfold Decoder.whenChecking
  cases on : session.config.consistency with
  | true => simpa [Session.scope, on] using checked on session rfl
  | false => simp [Session.scope, on]

end Reports

/-- A check is run or not by what is read of the scope. -/
theorem whenChecking_eq_scope (check : Decoder Unit) :
    whenChecking check = (do
      let within ← Decoder.scope
      if within.config.consistency then check else return ()) := by
  funext session
  cases on : session.config.consistency <;>
    simp [Decoder.whenChecking, Decoder.scope, Session.scope, on]

end Decoder

end AcpiTables
