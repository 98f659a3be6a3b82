import AcpiTables.Structure.Schema
import Mathlib.Algebra.GroupWithZero.Nat

/-!
# Which lists of kinds are schemas

A kind fits at a position if it declares the position as its code and, where it is decoded by a
field list, that list has fields.  A kind that does not fit fails with one fault, and a wrong code
hides an empty list (`Kind.fault?_eq_some_iff`).

A list has no fault exactly if every kind fits at its position, and its first fault is that of the
first kind that does not (`firstFault?_eq_none_iff`, `firstFault?_eq_some_iff`).  So `ofKinds?`
gives a schema of exactly the lists whose kinds all fit, and names the first fault of every other
list.
-/

namespace AcpiTables

set_option autoImplicit false

namespace Structure

theorem Method.hasNoFields_iff {method : Method} :
    method.hasNoFields = true ↔ method = .record [] := by
  cases method with
  | record fields => simp [hasNoFields]
  | custom decoder => simp [hasNoFields]
  | unsupported => simp [hasNoFields]

namespace Kind

/-- A kind that may stand at a position. -/
structure FitsAt (position : Nat) (kind : Kind) : Prop where
  code : kind.code.toNat = position
  /-- A kind that is decoded by a field list has fields. -/
  fields : kind.method ≠ .record []

/-- What keeps a kind from standing at a position. -/
inductive FailsAt (position : Nat) (kind : Kind) : SchemaFault → Prop
  | code (wrong : kind.code.toNat ≠ position) :
      FailsAt position kind (.codeMismatch position kind.code)
  /-- An empty field list is named only where the code is right. -/
  | fields (right : kind.code.toNat = position) (empty : kind.method = .record []) :
      FailsAt position kind (.emptyFieldList kind.code)

variable {position : Nat} {kind : Kind} {fault : SchemaFault}

theorem FitsAt.not_failsAt (fits : kind.FitsAt position) : ¬ kind.FailsAt position fault := by
  rintro (⟨wrong⟩ | ⟨_, empty⟩)
  · exact wrong fits.code
  · exact fits.fields empty

theorem fault?_eq_some_iff : kind.fault? position = some fault ↔ kind.FailsAt position fault := by
  unfold fault?
  by_cases right : kind.code.toNat = position
  · rw [if_neg (not_not_intro right)]
    cases empty : kind.method.hasNoFields with
    | true =>
        rw [if_pos rfl, Option.some_inj]
        constructor
        · rintro rfl
          exact .fields right (Method.hasNoFields_iff.mp empty)
        · rintro (⟨wrong⟩ | _)
          · exact absurd right wrong
          · rfl
    | false =>
        rw [if_neg Bool.false_ne_true]
        refine iff_of_false nofun ?_
        rintro (⟨wrong⟩ | ⟨_, none⟩)
        · exact wrong right
        · exact absurd (Method.hasNoFields_iff.mpr none) (Bool.eq_false_iff.mp empty)
  · rw [if_pos right, Option.some_inj]
    constructor
    · rintro rfl
      exact .code right
    · rintro (_ | ⟨here, _⟩)
      · rfl
      · exact absurd here right

theorem fault?_eq_none_iff : kind.fault? position = none ↔ kind.FitsAt position := by
  constructor
  · intro faultless
    have never (fault : SchemaFault) : ¬ kind.FailsAt position fault := by
      rw [← fault?_eq_some_iff, faultless]
      exact nofun
    have right : kind.code.toNat = position :=
      Decidable.byContradiction fun wrong => never _ (.code wrong)
    exact ⟨right, fun empty => never _ (.fields right empty)⟩
  · intro fits
    rw [Option.eq_none_iff_forall_ne_some]
    intro fault found
    exact fits.not_failsAt (fault?_eq_some_iff.mp found)

end Kind

/-! ## The first fault of a list -/

variable {position : Nat} {kinds : List Kind}

theorem firstFault?_eq_none_iff :
    firstFault? position kinds = none ↔
      ∀ (index : Nat) (kind : Kind), kinds[index]? = some kind →
        kind.FitsAt (position + index) := by
  induction kinds generalizing position with
  | nil => simp [firstFault?]
  | cons first kinds ih =>
      rw [firstFault?, Option.or_eq_none_iff, Kind.fault?_eq_none_iff, ih]
      constructor
      · rintro ⟨here, later⟩ (_ | index) kind found
        · cases found
          exact here
        · rw [Nat.add_comm index, ← Nat.add_assoc]
          exact later index kind found
      · intro fits
        refine ⟨fits 0 first rfl, fun index kind found => ?_⟩
        rw [Nat.add_assoc, Nat.add_comm 1]
        exact fits (index + 1) kind found

/-- **The first fault** is that of the first kind that does not fit. -/
theorem firstFault?_eq_some_iff {fault : SchemaFault} :
    firstFault? position kinds = some fault ↔
      ∃ (index : Nat) (kind : Kind), kinds[index]? = some kind ∧
        kind.FailsAt (position + index) fault ∧
        ∀ earlier < index, ∀ other, kinds[earlier]? = some other →
          other.FitsAt (position + earlier) := by
  induction kinds generalizing position with
  | nil => simp [firstFault?]
  | cons first kinds ih =>
      rw [firstFault?, Option.or_eq_some_iff, Kind.fault?_eq_some_iff, Kind.fault?_eq_none_iff, ih]
      constructor
      · rintro (here | ⟨fits, index, kind, found, fails, before⟩)
        · exact ⟨0, first, rfl, here, fun earlier early => absurd early (Nat.not_lt_zero _)⟩
        · refine ⟨index + 1, kind, found, ?_, ?_⟩
          · rwa [Nat.add_comm index, ← Nat.add_assoc]
          · rintro (_ | earlier) early other there
            · cases there
              exact fits
            · rw [Nat.add_comm earlier, ← Nat.add_assoc]
              exact before earlier (Nat.lt_of_succ_lt_succ early) other there
      · rintro ⟨_ | index, kind, found, fails, before⟩
        · cases found
          exact .inl fails
        · refine .inr ⟨before 0 (Nat.succ_pos index) first rfl, index, kind, found, ?_, ?_⟩
          · rwa [Nat.add_assoc, Nat.add_comm 1]
          · intro earlier early other there
            rw [Nat.add_assoc, Nat.add_comm 1]
            exact before (earlier + 1) (Nat.succ_lt_succ early) other there

/-! ## Schemas of lists -/

namespace Schema

variable {name : String} {fault : SchemaFault}

/-- A list makes a schema of its kinds, and no other schema. -/
theorem ofKinds?_eq_ok_iff {schema : Schema} :
    ofKinds? name kinds = .ok schema ↔ schema.name = name ∧ schema.kinds = kinds := by
  unfold ofKinds?
  split
  · next faultless =>
      rw [Except.ok.injEq]
      constructor
      · rintro rfl
        exact ⟨rfl, rfl⟩
      · rintro ⟨rfl, rfl⟩
        rfl
  · next faulty =>
      refine iff_of_false nofun ?_
      rintro ⟨_, rfl⟩
      rw [schema.faultless] at faulty
      cases faulty

theorem ofKinds?_eq_error_iff :
    ofKinds? name kinds = .error fault ↔ firstFault? 0 kinds = some fault := by
  unfold ofKinds?
  split
  · next faultless =>
      refine iff_of_false nofun fun faulty => ?_
      rw [faultless] at faulty
      cases faulty
  · next faulty => rw [faulty, Except.error.injEq, Option.some_inj]

theorem exists_ofKinds?_eq_ok_iff :
    (∃ schema, ofKinds? name kinds = .ok schema) ↔
      ∀ (position : Nat) (kind : Kind), kinds[position]? = some kind → kind.FitsAt position := by
  have all : firstFault? 0 kinds = none ↔ _ := firstFault?_eq_none_iff
  simp only [Nat.zero_add] at all
  rw [← all]
  constructor
  · rintro ⟨schema, made⟩
    obtain ⟨_, rfl⟩ := ofKinds?_eq_ok_iff.mp made
    exact schema.faultless
  · intro faultless
    exact ⟨⟨name, kinds, faultless⟩, ofKinds?_eq_ok_iff.mpr ⟨rfl, rfl⟩⟩

end Schema

end Structure

end AcpiTables
