import AcpiTables.Proofs.Drift

/-!
# What decoders count

A tally is the numbers of errors and warnings of a report.  `Counts` states that a decoder
gives one value and one tally in every scope with a given configuration, whatever it shows
there: it forgets the texts of `Reports` and keeps the numbers.

Tallies of a sequence are added (`Counts.bind`).  A whole record that is declared where it
lies counts what the checks of its fields count, and nothing when consistency is not
checked (`Record.counts_decode`).
-/

namespace AcpiTables

set_option autoImplicit false

open Decoder

@[ext]
structure Tally where
  errors : Nat
  warnings : Nat
  deriving DecidableEq, Repr

namespace Tally

def oneError : Tally := ⟨1, 0⟩

def oneWarning : Tally := ⟨0, 1⟩

instance : Zero Tally := ⟨⟨0, 0⟩⟩

instance : Add Tally :=
  ⟨fun first second => ⟨first.errors + second.errors, first.warnings + second.warnings⟩⟩

@[simp] theorem errors_zero : (0 : Tally).errors = 0 := rfl

@[simp] theorem errors_add (first second : Tally) :
    (first + second).errors = first.errors + second.errors := rfl

@[simp] theorem warnings_add (first second : Tally) :
    (first + second).warnings = first.warnings + second.warnings := rfl

@[simp] theorem zero_add (tally : Tally) : 0 + tally = tally :=
  Tally.ext (Nat.zero_add _) (Nat.zero_add _)

@[simp] theorem add_zero (tally : Tally) : tally + 0 = tally := rfl

theorem ite_oneError (condition : Prop) [Decidable condition] :
    (if condition then oneError else 0) = ⟨if condition then 1 else 0, 0⟩ := by
  split <;> rfl

/-- One error for each member with a property. -/
theorem sum_map_oneError {α : Type} (property : α → Bool) (list : List α) :
    (list.map fun member => if property member then oneError else 0).sum =
      ⟨list.countP property, 0⟩ := by
  induction list with
  | nil => rfl
  | cons member list ih =>
      rw [List.map_cons, List.sum_cons, ih, List.countP_cons]
      split
      · exact Tally.ext (Nat.add_comm ..) rfl
      · exact zero_add _

end Tally

/-- The numbers of a report. -/
def Report.tally (report : Report) : Tally := ⟨report.errors, report.warnings⟩

/-- In every scope with the configuration, the decoder gives the value and a report with the
tally. -/
def Decoder.Counts {α : Type} (decoder : Decoder α) (config : Config) (value : α)
    (tally : Tally) : Prop :=
  ∀ scope : Scope, scope.config = config →
    ∃ report, Reports decoder scope value report ∧ report.tally = tally

namespace Decoder.Counts

variable {α β : Type} {config : Config}

/-- The counts of a session after a decoder that counts a tally. -/
theorem counters {decoder : Decoder α} {value : α} {tally : Tally} {session : Session}
    (counts : Counts decoder session.config value tally) :
    (decoder session).2.counters = session.counters.plus tally.errors tally.warnings := by
  obtain ⟨report, reports, rfl⟩ := counts session.scope rfl
  rw [reports session rfl, Session.counters_record]
  rfl

theorem pure (value : α) : Counts (pure value) config value 0 :=
  fun _ _ => ⟨_, Reports.pure value, rfl⟩

theorem bind {first : Decoder α} {next : α → Decoder β} {one : α} {two : β}
    {before after : Tally} (start : Counts first config one before)
    (rest : Counts (next one) config two after) :
    Counts (first >>= next) config two (before + after) := by
  intro scope within
  obtain ⟨early, startReports, rfl⟩ := start scope within
  obtain ⟨late, restReports, rfl⟩ := rest scope within
  exact ⟨early ++ late, startReports.bind restReports, rfl⟩

/-- A last step that only forms the value counts nothing more. -/
theorem bind_pure {first : Decoder α} {one : α} {tally : Tally} (form : α → β)
    (start : Counts first config one tally) :
    Counts (first >>= fun value => Pure.pure (form value)) config (form one) tally := by
  rw [← Tally.add_zero tally]
  exact start.bind (Counts.pure (form one))

/-- A first step that counts nothing may be left out. -/
theorem quiet_bind {first : Decoder α} {next : α → Decoder β} {one : α} {two : β} {tally : Tally}
    (start : Counts first config one 0) (rest : Counts (next one) config two tally) :
    Counts (first >>= next) config two tally := by
  rw [← Tally.zero_add tally]
  exact start.bind rest

/-- What reads the scope may rely on the configuration only. -/
theorem scope_bind {next : Scope → Decoder β} {two : β} {tally : Tally}
    (rest : ∀ scope : Scope, scope.config = config → Counts (next scope) config two tally) :
    Counts (Decoder.scope >>= next) config two tally := by
  intro scope within
  obtain ⟨report, reports, same⟩ := rest scope within scope within
  exact ⟨.empty ++ report, Reports.readScope.bind reports, by rw [Report.empty_append, same]⟩

theorem print (text : String) : Counts (print text) config () 0 :=
  fun _ _ => ⟨_, Reports.print text, rfl⟩

theorem fieldLabel (extra : UInt64) (label : String) :
    Counts (fieldLabel extra label) config () 0 :=
  fun _ _ => ⟨_, Reports.fieldLabel extra label, rfl⟩

theorem heading (title : String) : Counts (heading title) config () 0 :=
  fun _ _ => ⟨_, Reports.heading title, rfl⟩

theorem error (message : String) : Counts (error message) config () .oneError :=
  fun _ _ => ⟨_, Reports.error message, rfl⟩

theorem warning (message : String) : Counts (warning message) config () .oneWarning :=
  fun _ _ => ⟨_, Reports.warning message, rfl⟩

theorem indented {extra : UInt64} {body : Decoder α} {value : α} {tally : Tally}
    (inner : Counts body config value tally) :
    Counts (indented extra body) config value tally := by
  intro scope within
  obtain ⟨report, reports, same⟩ := inner (scope.nested extra) within
  exact ⟨report, reports.indented, same⟩

theorem whenChecking {check : Decoder Unit} {tally : Tally}
    (checked : Counts check config () tally) :
    Counts (whenChecking check) config () (if config.consistency then tally else 0) := by
  intro scope within
  obtain ⟨report, reports, rfl⟩ := checked scope within
  refine ⟨_, Reports.whenChecking fun _ => reports, ?_⟩
  rw [within]
  split <;> rfl

end Decoder.Counts

/-! ## Records declared where they lie -/

namespace Field

/-- Whether the value of a field is checked. -/
def isChecked (field : Field) : Bool := field.validator.isSome

/-- A field that is labelled and whose value can always be shown, with nothing counted. -/
structure IsShown (field : Field) : Prop where
  labelled : field.name.isSome = true
  shown : ∀ (config : Config) (bytes : Bytes), bytes.length = field.width →
    Counts (field.showValue bytes) config true 0

theorem counts_showInteger {config : Config} {format : NumberFormat} {bytes : Bytes}
    (readable : isIntegerWidth bytes.length = true) :
    Counts (showInteger format bytes) config true 0 := by
  rw [showInteger, if_pos readable]
  exact (Counts.print _).quiet_bind (Counts.pure true)

theorem counts_showBytes {config : Config} (format : Option NumberFormat) (bytes : Bytes) :
    Counts (showBytes format bytes) config () 0 := by
  fun_induction showBytes format bytes with
  | case1 => exact Counts.pure ()
  | case2 byte => exact Counts.print _
  | case3 byte rest more ih =>
      refine (Counts.print _).quiet_bind ?_
      split
      · exact (Counts.print " ").quiet_bind ih
      · exact ih

section Shown

variable (name : String) {width : Nat} (offset : Nat)

@[simp] theorem isShown_integer (format : NumberFormat)
    (readable : isIntegerWidth width = true) :
    (integer format name width offset).IsShown where
  labelled := rfl
  shown _ _ whole := counts_showInteger (whole ▸ readable)

@[simp] theorem isShown_characters (limit : Nat) (format : Option NumberFormat) :
    { labelled name width offset with render := .custom (characters limit) format }.IsShown where
  labelled := rfl
  shown _ bytes _ := (counts_showBytes format (bytes.take limit)).quiet_bind (Counts.pure true)

@[simp] theorem isShown_text : (text name width offset).IsShown :=
  isShown_characters name offset width none

end Shown

/-- Keeping the place of a field changes nothing about showing it. -/
@[simp] theorem isShown_kept {field : Field} (shown : field.IsShown) : field.kept.IsShown where
  labelled := shown.labelled
  shown := shown.shown

@[simp] theorem isShown_checkedBy {field : Field} {validator : Validator} (shown : field.IsShown) :
    (field.checkedBy validator).IsShown where
  labelled := shown.labelled
  shown := shown.shown

end Field

namespace Record

/-- Fields that are declared where they lie, fill a width, and can always be shown. -/
structure WellLaid (fields : List Field) (width : Nat) : Prop where
  consistent : ConsistentFrom 0 fields
  width : (fields.map Field.width).sum = width
  shown : ∀ field ∈ fields, field.IsShown

/-- The bytes of a field in data that has the whole record. -/
def bytesOf (data : Bytes) (field : Field) : Bytes := (data.drop field.offset).take field.width

section Counts

variable {config : Config} {title : Option String} {weight : Field → Bytes → Tally}

/-- What the checks of checked fields count, each on the bytes of its field. -/
def checkTally (config : Config) (weight : Field → Bytes → Tally) (data : Bytes)
    (fields : List Field) : Tally :=
  if config.consistency then
    ((fields.filter Field.isChecked).map fun field => weight field (bytesOf data field)).sum
  else 0

theorem checkTally_cons_of_checked {field : Field} (checked : field.isChecked = true)
    (data : Bytes) (fields : List Field) :
    checkTally config weight data (field :: fields) =
      (if config.consistency then weight field (bytesOf data field) else 0) +
        checkTally config weight data fields := by
  unfold checkTally
  split
  · rw [List.filter_cons_of_pos checked, List.map_cons, List.sum_cons]
  · rw [Tally.zero_add]

theorem checkTally_cons_of_unchecked {field : Field} (unchecked : field.isChecked = false)
    (data : Bytes) (fields : List Field) :
    checkTally config weight data (field :: fields) = checkTally config weight data fields := by
  rw [checkTally, List.filter_cons_of_neg (Bool.eq_false_iff.mp unchecked)]
  rfl

theorem counts_validate_of_unchecked {field : Field} {bytes : Bytes}
    (unchecked : field.isChecked = false) : Counts (field.validate bytes) config () 0 := by
  rw [Field.validate, Option.not_isSome_iff_eq_none.mp (Bool.eq_false_iff.mp unchecked)]
  exact Counts.pure ()

theorem counts_showTitle (title : Option String) :
    Counts (showTitle true title) config () 0 := by
  cases title with
  | none => exact Counts.pure ()
  | some text => exact Counts.heading text

/-- A field at its declared offset counts what its check counts. -/
theorem counts_visitField {field : Field} (shown : field.IsShown) {bytes : Bytes}
    (whole : bytes.length = field.width) {tally : Tally}
    (checked : Counts (field.validate bytes) config () tally) :
    Counts (visitField true title field.offset field bytes) config ()
      (if config.consistency then tally else 0) := by
  obtain ⟨label, named⟩ := Option.isSome_iff_exists.mp shown.labelled
  have inPlace : Counts (whenChecking (checkOffset title field field.offset)) config () 0 := by
    have quiet : Counts (checkOffset title field field.offset) config () 0 := by
      rw [checkOffset, if_pos rfl]
      exact Counts.pure ()
    simpa only [ite_self] using Counts.whenChecking quiet
  unfold visitField
  refine inPlace.quiet_bind ?_
  rw [named]
  refine (Counts.fieldLabel 2 label).quiet_bind ?_
  refine (shown.shown config bytes whole).quiet_bind ?_
  exact (Counts.print "\n").quiet_bind (Counts.whenChecking checked)

theorem counts_decodeFrom {offset : Nat} {data : Bytes} {fields : List Field}
    (consistent : ConsistentFrom offset fields)
    (whole : offset + (fields.map Field.width).sum ≤ data.length)
    (shown : ∀ field ∈ fields, field.IsShown)
    (checked : ∀ field ∈ fields.filter Field.isChecked, ∀ bytes,
      Counts (field.validate bytes) config () (weight field bytes)) :
    Counts (decodeFrom true title offset (data.drop offset) fields) config
      (readingFrom offset (data.drop offset) fields) (checkTally config weight data fields) := by
  induction fields generalizing offset with
  | nil =>
      have none : checkTally config weight data [] = 0 := ite_self 0
      rw [none]
      exact Counts.pure _
  | cons field fields ih =>
      obtain ⟨rfl, later⟩ := consistent
      rw [List.map_cons, List.sum_cons] at whole
      have fits : field.width ≤ (data.drop field.offset).length := by
        rw [List.length_drop]
        omega
      have taken : (bytesOf data field).length = field.width := List.length_take_of_le fits
      have shownRest : ∀ other ∈ fields, other.IsShown := fun other there =>
        shown other (List.mem_cons_of_mem field there)
      rw [decodeFrom, if_pos fits, readingFrom_cons_of_fits fits, List.drop_drop]
      cases kind : field.isChecked with
      | true =>
          rw [List.filter_cons_of_pos kind] at checked
          obtain ⟨checkedHere, checkedRest⟩ := List.forall_mem_cons.mp checked
          rw [checkTally_cons_of_checked kind]
          exact (counts_visitField (shown field List.mem_cons_self) taken (checkedHere _)).bind
            (Counts.bind_pure _ (ih later (by omega) shownRest checkedRest))
      | false =>
          rw [List.filter_cons_of_neg (Bool.eq_false_iff.mp kind)] at checked
          have silent : Counts (field.validate (bytesOf data field)) config () 0 :=
            counts_validate_of_unchecked kind
          have quiet : Counts (visitField true title field.offset field (bytesOf data field))
              config () (if config.consistency then 0 else 0) :=
            counts_visitField (shown field List.mem_cons_self) taken silent
          rw [ite_self] at quiet
          rw [checkTally_cons_of_unchecked kind]
          exact quiet.quiet_bind (Counts.bind_pure _ (ih later (by omega) shownRest checked))

/-- **A whole record declared where it lies counts what the checks of its fields count.** -/
theorem counts_decode {indent : UInt64} {data : Bytes} {fields : List Field} {width : Nat}
    (laid : WellLaid fields width) (whole : width ≤ data.length)
    (checked : ∀ field ∈ fields.filter Field.isChecked, ∀ bytes,
      Counts (field.validate bytes) config () (weight field bytes)) :
    Counts (decode true indent title data fields) config (reading data fields)
      (checkTally config weight data fields) := by
  have wholeFrom : 0 + (fields.map Field.width).sum ≤ data.length := by
    rw [laid.width]
    omega
  exact ((counts_showTitle title).quiet_bind
    (counts_decodeFrom laid.consistent wholeFrom laid.shown checked)).indented

/-- A whole record without checked fields counts nothing. -/
theorem counts_decode_of_unchecked {indent : UInt64} {data : Bytes} {fields : List Field}
    {width : Nat} (laid : WellLaid fields width) (whole : width ≤ data.length)
    (unchecked : fields.filter Field.isChecked = []) :
    Counts (decode true indent title data fields) config (reading data fields) 0 := by
  have nothing : checkTally config (fun _ _ => 0) data fields = 0 := by
    rw [checkTally, unchecked]
    exact ite_self 0
  rw [← nothing]
  exact counts_decode laid whole (unchecked ▸ List.forall_mem_nil _)

/-- A whole record with one checked field counts what that check counts. -/
theorem counts_decode_of_checked {indent : UInt64} {data : Bytes} {fields : List Field}
    {width : Nat} {field : Field} {tally : Bytes → Tally} (laid : WellLaid fields width)
    (whole : width ≤ data.length) (one : fields.filter Field.isChecked = [field])
    (checked : ∀ bytes, Counts (field.validate bytes) config () (tally bytes)) :
    Counts (decode true indent title data fields) config (reading data fields)
      (if config.consistency then tally (bytesOf data field) else 0) := by
  have single : checkTally config (fun _ => tally) data fields =
      if config.consistency then tally (bytesOf data field) else 0 := by
    rw [checkTally, one, List.map_cons, List.map_nil, List.sum_cons, List.sum_nil, Tally.add_zero]
  rw [← single]
  refine counts_decode laid whole ?_
  rw [one, List.forall_mem_singleton]
  exact checked

end Counts

end Record

end AcpiTables
