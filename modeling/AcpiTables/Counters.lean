import AcpiTables.Saturating
import AcpiTables.Report

/-!
# Error and warning counts

A session counts the errors and warnings reported to it.  Both counts are 32-bit
and stay at their largest value instead of wrapping around, so counting a number of
findings one by one is the same as adding their number once (`plus_plus`).
-/

namespace AcpiTables

set_option autoImplicit false

/-- The errors and warnings counted so far. -/
@[ext]
structure Counters where
  errors : UInt32
  warnings : UInt32
  deriving DecidableEq, Repr

namespace Counters

def zero : Counters := ⟨0, 0⟩

def addError (counters : Counters) : Counters :=
  { counters with errors := addSaturating32 counters.errors 1 }

def addWarning (counters : Counters) : Counters :=
  { counters with warnings := addSaturating32 counters.warnings 1 }

/-- Adds the counts of another tally. -/
def add (counters other : Counters) : Counters :=
  ⟨addSaturating32 counters.errors other.errors, addSaturating32 counters.warnings other.warnings⟩

/-- Adds numbers of errors and warnings. -/
def plus (counters : Counters) (errors warnings : Nat) : Counters :=
  ⟨saturate32 (counters.errors.toNat + errors), saturate32 (counters.warnings.toNat + warnings)⟩

/-- Whether nothing was counted. -/
def isClean (counters : Counters) : Bool := counters.errors == 0 && counters.warnings == 0

/-! ## Adding findings -/

@[simp] theorem toNat_errors_plus (counters : Counters) (errors warnings : Nat) :
    (counters.plus errors warnings).errors.toNat =
      min (0xFFFFFFFF) (counters.errors.toNat + errors) :=
  toNat_saturate32 _

@[simp] theorem toNat_warnings_plus (counters : Counters) (errors warnings : Nat) :
    (counters.plus errors warnings).warnings.toNat =
      min (0xFFFFFFFF) (counters.warnings.toNat + warnings) :=
  toNat_saturate32 _

@[simp] theorem plus_zero (counters : Counters) : counters.plus 0 0 = counters := by
  simp [plus]

@[simp] theorem plus_plus (counters : Counters) (errors warnings moreErrors moreWarnings : Nat) :
    (counters.plus errors warnings).plus moreErrors moreWarnings =
      counters.plus (errors + moreErrors) (warnings + moreWarnings) := by
  simp only [plus, toNat_saturate32, saturate32_min_add, Nat.add_assoc]

theorem addError_eq_plus (counters : Counters) : counters.addError = counters.plus 1 0 := by
  simp [addError, plus, addSaturating32_eq]

theorem addWarning_eq_plus (counters : Counters) : counters.addWarning = counters.plus 0 1 := by
  simp [addWarning, plus, addSaturating32_eq]

end Counters

end AcpiTables
