import AcpiTables.Field.Build
import Mathlib.Data.List.Basic

/-!
# Fields built by a chain of modifiers

A modifier chooses how the value is shown, keeps the place of the field, or attaches a check, with
an argument or without one.  A chain builds a field exactly if it chooses at most once, and the
field is then what every modifier in turn leaves of the first one (`build_eq`).

Checks may be attached repeatedly.  The check that stays is the last one, but what stays as its
argument is the last argument that was attached, and these need not belong together: a check that is
attached without an argument leaves the argument of an earlier check in place.  The chains whose
last check runs with the argument that was attached together with it are therefore those that do not
end their checks with one without an argument behind one with an argument
(`getLast?_filterMap_snd_iff`).
-/

namespace AcpiTables

set_option autoImplicit false

namespace Field

namespace Modifier

/-- The way of showing the value that a modifier chooses. -/
def render? : Modifier → Option Render
  | .format shown => some (.integer shown)
  | .renderer shows => some (.custom shows none)
  | .renderWith shows shown => some (.custom shows shown)
  | _ => none

/-- Whether a modifier keeps the place of the field. -/
def keeps : Modifier → Bool
  | .capture => true
  | _ => false

/-- The check that a modifier attaches, and the argument that it attaches together with it. -/
def check? : Modifier → Option (Validator × Option Argument)
  | .validate validator => some (validator, none)
  | .validateWith validator argument => some (validator, some argument)
  | _ => none

theorem keeps_iff {modifier : Modifier} : modifier.keeps = true ↔ modifier = .capture := by
  cases modifier <;> simp [keeps]

theorem check?_eq_some_iff {modifier : Modifier} {validator : Validator} {argument : Argument} :
    modifier.check? = some (validator, some argument) ↔
      modifier = .validateWith validator argument := by
  cases modifier <;> simp [check?]

end Modifier

/-- The field of which nothing is said but its place, and its label if it has one. -/
def blank (name : Option String) (width offset : Nat) : Field :=
  match name with
  | some name => labelled name width offset
  | none => hidden width offset

/-- How often the way of showing the value was chosen. -/
def choices (field : Field) : Nat :=
  match field.render with
  | .label => 0
  | _ => 1

/-- What a modifier leaves of a field, if it may be applied. -/
def after (field : Field) (modifier : Modifier) : Field where
  name := field.name
  width := field.width
  offset := field.offset
  render := modifier.render?.getD field.render
  captured := field.captured || modifier.keeps
  validator := (modifier.check?.map Prod.fst).or field.validator
  argument := (modifier.check?.bind Prod.snd).or field.argument

variable {field : Field} {modifier : Modifier}

/-! ## One modifier -/

theorem choices_le_one (field : Field) : field.choices ≤ 1 := by
  unfold choices
  split <;> decide

theorem showBy_of_free (free : field.choices = 0) (render : Render) :
    field.showBy render = .ok { field with render := render } := by
  rw [choices] at free
  cases shown : field.render with
  | label => rw [showBy, shown]
  | integer => simp [shown] at free
  | custom => simp [shown] at free

theorem showBy_of_chosen (chosen : field.choices = 1) (render : Render) :
    field.showBy render = .error .renderedTwice := by
  rw [choices] at chosen
  cases shown : field.render with
  | label => simp [shown] at chosen
  | integer => rw [showBy, shown]
  | custom => rw [showBy, shown]

/-- A modifier that chooses nothing can always be applied. -/
theorem modify_of_plain (plain : modifier.render? = none) :
    field.modify modifier = .ok (field.after modifier) := by
  cases modifier with
  | format => cases plain
  | renderer => cases plain
  | renderWith => cases plain
  | capture => simp [modify, after, kept, Modifier.render?, Modifier.keeps, Modifier.check?]
  | validate => simp [modify, after, Modifier.render?, Modifier.keeps, Modifier.check?]
  | validateWith => simp [modify, after, Modifier.render?, Modifier.keeps, Modifier.check?]

/-- A modifier that chooses is a choice by its way of showing the value, and nothing more. -/
theorem modify_of_choice {render : Render} (choice : modifier.render? = some render) :
    field.modify modifier = field.showBy render ∧
      field.after modifier = { field with render := render } := by
  cases modifier <;> cases choice <;>
    simp [modify, after, Modifier.render?, Modifier.keeps, Modifier.check?]

theorem choices_after_of_plain (plain : modifier.render? = none) :
    (field.after modifier).choices = field.choices := by
  rw [choices, after, plain]
  rfl

theorem choices_after_of_choice {render : Render} (choice : modifier.render? = some render) :
    (field.after modifier).choices = 1 := by
  cases modifier <;> cases choice <;> rfl

/-! ## Chains -/

/-- **A chain builds what its modifiers leave**, unless it chooses twice. -/
theorem build_eq (field : Field) (modifiers : List Modifier) :
    field.build modifiers =
      if field.choices + (modifiers.filterMap Modifier.render?).length ≤ 1 then
        .ok (modifiers.foldl after field)
      else .error .renderedTwice := by
  induction modifiers generalizing field with
  | nil => exact (if_pos (choices_le_one field)).symm
  | cons modifier modifiers ih =>
      rw [build]
      cases choice : modifier.render? with
      | none =>
          rw [modify_of_plain choice, List.filterMap_cons_none choice, List.foldl_cons]
          dsimp only
          rw [ih, choices_after_of_plain choice]
      | some render =>
          rw [List.filterMap_cons_some choice, List.length_cons, (modify_of_choice choice).1]
          rcases Nat.le_one_iff_eq_zero_or_eq_one.mp (choices_le_one field) with free | chosen
          · rw [showBy_of_free free, ← (modify_of_choice choice).2, List.foldl_cons]
            dsimp only
            rw [ih, choices_after_of_choice choice, free, Nat.zero_add, Nat.add_comm 1]
          · rw [showBy_of_chosen chosen, chosen, if_neg (by omega)]

section Components

variable {α β : Type}

/-- Of what is written one after another, the last remains. -/
theorem foldl_or (write : α → Option β) (items : List α) (start : Option β) :
    items.foldl (fun value item => (write item).or value) start =
      (items.filterMap write).getLast?.or start := by
  induction items generalizing start with
  | nil => rfl
  | cons item items ih =>
      rw [List.foldl_cons, ih]
      cases written : write item with
      | none => rw [List.filterMap_cons_none written, Option.none_or]
      | some value =>
          rw [List.filterMap_cons_some written, List.getLast?_cons, Option.some_or]
          cases (items.filterMap write).getLast? <;> rfl

theorem foldl_getD (write : α → Option β) (items : List α) (start : β) :
    items.foldl (fun value item => (write item).getD value) start =
      (items.filterMap write).getLast?.getD start := by
  have inside : items.foldl (fun value item => (write item).or value) (some start) =
      some (items.foldl (fun value item => (write item).getD value) start) :=
    List.foldl_hom some fun value item => by cases write item <;> rfl
  rw [foldl_or, Option.or_some, Option.some_inj] at inside
  exact inside.symm

/-- What was attached last on its own is not what was attached together with the last member exactly
if the last member came alone, behind one that did not. -/
theorem getLast?_filterMap_snd_iff (attached : List (α × Option β)) :
    (attached.filterMap Prod.snd).getLast? = attached.getLast?.bind Prod.snd ↔
      ¬ ∃ last, attached.getLast? = some (last, none) ∧
        ∃ other value, (other, some value) ∈ attached := by
  rcases List.eq_nil_or_concat attached with rfl | ⟨earlier, ⟨last, value⟩, rfl⟩
  · simp
  · cases value with
    | some value => simp
    | none =>
        have alone : (earlier.filterMap Prod.snd).getLast? = none ↔
            ¬ ∃ other value, (other, some value) ∈ earlier := by
          rw [List.getLast?_eq_none_iff, List.filterMap_eq_nil_iff]
          constructor
          · rintro none ⟨other, value, there⟩
            cases none _ there
          · rintro never ⟨other, _ | value⟩ there
            · rfl
            · exact absurd ⟨other, value, there⟩ never
        simpa using alone

end Components

section Folds

variable (field : Field) (modifiers : List Modifier)

theorem render_foldl :
    (modifiers.foldl after field).render =
      (modifiers.filterMap Modifier.render?).getLast?.getD field.render :=
  (List.foldl_hom Field.render fun _ _ => rfl).symm.trans (foldl_getD _ _ _)

theorem captured_foldl :
    (modifiers.foldl after field).captured = (field.captured || modifiers.any Modifier.keeps) := by
  induction modifiers generalizing field with
  | nil => exact (Bool.or_false _).symm
  | cons modifier modifiers ih => rw [List.foldl_cons, ih, List.any_cons, after, Bool.or_assoc]

/-- The last check remains. -/
theorem validator_foldl :
    (modifiers.foldl after field).validator =
      ((modifiers.filterMap Modifier.check?).getLast?.map Prod.fst).or field.validator := by
  rw [← List.getLast?_map, List.map_filterMap]
  exact (List.foldl_hom Field.validator fun _ _ => rfl).symm.trans (foldl_or _ _ _)

/-- The last argument remains, whichever check it was attached with. -/
theorem argument_foldl :
    (modifiers.foldl after field).argument =
      ((modifiers.filterMap Modifier.check?).filterMap Prod.snd).getLast?.or field.argument := by
  rw [List.filterMap_filterMap]
  exact (List.foldl_hom Field.argument fun _ _ => rfl).symm.trans (foldl_or _ _ _)

/-- No modifier changes what the field is called or where it lies. -/
theorem place_foldl :
    (modifiers.foldl after field).name = field.name ∧
      (modifiers.foldl after field).width = field.width ∧
      (modifiers.foldl after field).offset = field.offset := by
  induction modifiers generalizing field with
  | nil => exact ⟨rfl, rfl, rfl⟩
  | cons modifier modifiers ih => exact ih (field.after modifier)

end Folds

theorem blank_eq (name : Option String) (width offset : Nat) :
    blank name width offset = ⟨name, width, offset, .label, false, none, none⟩ := by
  cases name <;> rfl

/-- **What a chain of modifiers builds.**  It fails exactly if it chooses the way of showing the
value more than once.  Otherwise the field has that choice or a bare label, is kept exactly if the
chain says so, and has the check and the argument that were attached last.  These belong together
unless the last check came without an argument behind a check that had one. -/
theorem chained_field (name : Option String) (width offset : Nat) (modifiers : List Modifier) :
    let choices := modifiers.filterMap Modifier.render?
    let checks := modifiers.filterMap Modifier.check?
    ((blank name width offset).build modifiers = .error .renderedTwice ↔ 1 < choices.length) ∧
    ((∃ field, (blank name width offset).build modifiers = .ok field ∧
        field.name = name ∧ field.width = width ∧ field.offset = offset ∧
        field.render = choices.head?.getD .label ∧
        (field.captured = true ↔ .capture ∈ modifiers) ∧
        field.validator = checks.getLast?.map Prod.fst ∧
        field.argument = (checks.filterMap Prod.snd).getLast? ∧
        (field.argument = checks.getLast?.bind Prod.snd ↔
          ¬ ∃ last, checks.getLast? = some (last, none) ∧
            ∃ other argument, .validateWith other argument ∈ modifiers)) ↔
      choices.length ≤ 1) := by
  intro choices checks
  have built := build_eq (blank name width offset) modifiers
  rw [show (blank name width offset).choices = 0 by rw [blank_eq]; rfl, Nat.zero_add] at built
  rcases Nat.lt_or_ge 1 choices.length with twice | once
  · rw [if_neg (Nat.not_le.mpr twice)] at built
    rw [built]
    refine ⟨iff_of_true rfl twice, iff_of_false ?_ (Nat.not_le.mpr twice)⟩
    rintro ⟨_, ⟨⟩, _⟩
  · rw [if_pos once] at built
    rw [built]
    refine ⟨iff_of_false nofun (Nat.not_lt.mpr once), iff_of_true ⟨_, rfl, ?_⟩ once⟩
    have one : choices.getLast? = choices.head? := by
      match choices, once with
      | [], _ => rfl
      | [_], _ => rfl
    have kept : modifiers.any Modifier.keeps = true ↔ .capture ∈ modifiers := by
      simp [List.any_eq_true, Modifier.keeps_iff]
    have stays := getLast?_filterMap_snd_iff checks
    have behind : (∃ other argument, (other, some argument) ∈ checks) ↔
        ∃ other argument, Modifier.validateWith other argument ∈ modifiers := by
      simp only [checks, List.mem_filterMap, Modifier.check?_eq_some_iff, exists_eq_right]
    obtain ⟨sameName, sameWidth, sameOffset⟩ := place_foldl (blank name width offset) modifiers
    rw [sameName, sameWidth, sameOffset, render_foldl, captured_foldl, validator_foldl,
      argument_foldl, blank_eq]
    rw [Option.or_none, Option.or_none, Bool.false_or, ← behind]
    exact ⟨rfl, rfl, rfl, congrArg (Option.getD · _) one, kept, rfl, rfl, stays⟩

/-- A check attached without an argument is handed the argument of the check that it replaces. -/
theorem replaced_check_leaves_its_argument :
    let limit : Validator := fun _ _ => Decoder.warning "limit"
    let plain : Validator := fun _ argument =>
      match argument with
      | none => Decoder.warning "plain"
      | some _ => Decoder.error "an argument for the plain check"
    let modifiers : List Modifier := [.validateWith limit (.byte 5), .validate plain]
    ∃ field, (blank (some "Flags") 4 8).build modifiers = .ok field ∧
      (modifiers.filterMap Modifier.check?).getLast? = some (plain, none) ∧
      field.argument = some (.byte 5) ∧
      ∀ bytes, field.validate bytes = plain bytes (some (.byte 5)) :=
  ⟨_, rfl, rfl, rfl, fun _ => rfl⟩

end Field

end AcpiTables
