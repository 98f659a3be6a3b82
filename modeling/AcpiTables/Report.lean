/-!
# Reports

What a decoder has to say is a report: the texts it emits, in order, and the
numbers of errors and warnings it counts.  Reports are joined end to end; joining
concatenates the texts and adds the numbers, so they form a monoid.

A style on a text asks for highlighting and never changes the text.
-/

namespace AcpiTables

set_option autoImplicit false

/-- A reason to highlight a text. -/
inductive Style where
  | error
  | warning
  | heading
  | success
  deriving DecidableEq, Repr

/-- A text as it leaves a decoder, perhaps styled. -/
structure Emit where
  text : String
  /-- The style it is highlighted with, if any. -/
  style : Option Style
  deriving DecidableEq, Repr

/-- The text of a run of emits, with every style ignored. -/
def plainText (emits : List Emit) : String :=
  String.join (emits.map Emit.text)

/-- The texts a decoder emits and the errors and warnings it counts. -/
structure Report where
  /-- The emitted texts, in order. -/
  emits : List Emit
  errors : Nat
  warnings : Nat
  deriving DecidableEq, Repr

namespace Report

/-- The report of a decoder that says nothing. -/
def empty : Report := ⟨[], 0, 0⟩

/-- One report followed by another. -/
def append (first second : Report) : Report :=
  ⟨first.emits ++ second.emits, first.errors + second.errors, first.warnings + second.warnings⟩

instance : Append Report := ⟨append⟩

/-- A report of one text that counts nothing. -/
def ofEmit (emit : Emit) : Report := ⟨[emit], 0, 0⟩

/-- A report that counts one error and emits nothing. -/
def oneError : Report := ⟨[], 1, 0⟩

/-- A report that counts one warning and emits nothing. -/
def oneWarning : Report := ⟨[], 0, 1⟩

/-- Reports one behind the other. -/
def join (reports : List Report) : Report :=
  reports.foldr (· ++ ·) empty

/-! ## Reports form a monoid -/

@[simp] theorem emits_append (first second : Report) :
    (first ++ second).emits = first.emits ++ second.emits := rfl

@[simp] theorem errors_append (first second : Report) :
    (first ++ second).errors = first.errors + second.errors := rfl

@[simp] theorem warnings_append (first second : Report) :
    (first ++ second).warnings = first.warnings + second.warnings := rfl

@[simp] theorem emits_empty : empty.emits = [] := rfl

@[simp] theorem errors_empty : empty.errors = 0 := rfl

@[simp] theorem warnings_empty : empty.warnings = 0 := rfl

theorem ext {first second : Report} (emits : first.emits = second.emits)
    (errors : first.errors = second.errors) (warnings : first.warnings = second.warnings) :
    first = second := by
  cases first
  cases second
  cases emits
  cases errors
  cases warnings
  rfl

@[simp] theorem empty_append (report : Report) : empty ++ report = report := by
  apply ext <;> simp

@[simp] theorem append_empty (report : Report) : report ++ empty = report := by
  apply ext <;> simp

theorem append_assoc (first second third : Report) :
    first ++ second ++ third = first ++ (second ++ third) := by
  apply ext <;> simp [Nat.add_assoc]

@[simp] theorem join_nil : join [] = empty := rfl

@[simp] theorem join_cons (report : Report) (reports : List Report) :
    join (report :: reports) = report ++ join reports := rfl

theorem join_append (first second : List Report) :
    join (first ++ second) = join first ++ join second := by
  induction first with
  | nil => rw [List.nil_append, join_nil, empty_append]
  | cons report reports ih => rw [List.cons_append, join_cons, join_cons, ih, append_assoc]

theorem emits_join (reports : List Report) :
    (join reports).emits = reports.flatMap emits := by
  induction reports with
  | nil => rfl
  | cons report reports ih => rw [join_cons, emits_append, ih, List.flatMap_cons]

end Report

end AcpiTables
