import AcpiTables.Proofs.Counting
import AcpiTables.Proofs.Tallies

/-!
# What hand-outs and validations count

Handing out structures one after another counts the sum of what each of them counts,
whatever was counted before (`counts_handOut`).  Validating a census counts one error for
each kind that was found although the target does not allow it; in the census after some
codes, these are the disallowed kinds whose codes are among them (`countP_kindCounts`).

So a walk over structures that carry their own lengths counts a sum over the structures
and one error for each disallowed kind among them (`counts_walk`).
-/

namespace AcpiTables

set_option autoImplicit false

namespace Structure

open Decoder

variable {schema : Schema} {config : Config}

/-! ## Kinds and their codes -/

theorem code_of_firstFault? {position : Nat} {kinds : List Kind}
    (faultless : firstFault? position kinds = none) {index : Nat} {kind : Kind}
    (here : kinds[index]? = some kind) : kind.code.toNat = position + index := by
  induction kinds generalizing position index with
  | nil => cases here
  | cons first kinds ih =>
      obtain ⟨firstFaultless, later⟩ := Option.or_eq_none_iff.mp faultless
      cases index with
      | zero =>
          cases here
          by_cases same : kind.code.toNat = position
          · exact same
          · rw [Kind.fault?, if_pos same] at firstFaultless
            cases firstFaultless
      | succ index =>
          rw [ih later here]
          omega

/-- Every kind of a schema stands at the position of its code. -/
theorem Schema.code_eq {index : Nat} {kind : Kind} (here : schema.kinds[index]? = some kind) :
    kind.code.toNat = index := by
  rw [code_of_firstFault? schema.faultless here, Nat.zero_add]

/-! ## Hand-outs -/

theorem counts_dispatch_of_known {census : Census schema} {code : UInt32} {kind : Kind}
    {indent : UInt64} {data : Bytes} {offset : Nat} {arguments : Option Argument × Option Argument}
    {answer : Bool} {tally : Tally} (known : schema.kinds[code.toNat]? = some kind)
    (decoded : ∀ index, Counts (Census.decodeKind kind index indent arguments data) config answer
      tally) :
    Counts (census.dispatch indent data offset code arguments) config
      (answer, census.counted code) tally := by
  obtain ⟨inside, _⟩ := List.getElem?_eq_some_iff.mp known
  rw [Census.dispatch_of_known known (Vector.getElem?_eq_getElem inside)]
  refine (Counts.fieldLabel _ _).quiet_bind ((Counts.print _).quiet_bind ?_)
  exact Counts.bind_pure _ (decoded _)

theorem counts_dispatch_of_unknown {census : Census schema} {code : UInt32} {indent : UInt64}
    {data : Bytes} {offset : Nat} {arguments : Option Argument × Option Argument}
    (unknown : schema.kinds[code.toNat]? = none) :
    Counts (census.dispatch indent data offset code arguments) config
      (false, census.counted code) .oneError := by
  have outside : ¬ code.toNat < schema.kinds.length :=
    Nat.not_lt.mpr (List.getElem?_eq_none_iff.mp unknown)
  have unchanged : census.counted code = census := by
    rw [Census.counted, dif_neg outside]
  rw [Census.dispatch_of_unknown unknown, unchanged]
  refine (Counts.fieldLabel _ _).quiet_bind ((Counts.print _).quiet_bind ?_)
  exact Counts.bind_pure _ (Counts.error _)

/-- The code at the start of a structure. -/
def leadingCode (bytes : Bytes) : UInt32 := UInt32.ofNat (bytes.headD 0).toNat

/-- Handing out a structure counts a tally, wherever it lies and whatever was counted before. -/
def HandsOut (schema : Schema) (config : Config) (bytes : Bytes) (tally : Tally) : Prop :=
  ∀ (offset : Nat) (census : Census schema), ∃ answer,
    Counts (census.dispatch structureIndent bytes offset (leadingCode bytes) (none, none)) config
      (answer, census.counted (leadingCode bytes)) tally

theorem counts_decodeKind_of_record {kind : Kind} {fields : List Field} {index : UInt32}
    {indent : UInt64} {arguments : Option Argument × Option Argument} {bytes : Bytes}
    {tally : Tally} (method : kind.method = .record fields)
    (decoded : ∀ title, Counts (Record.decode true indent title bytes fields) config
      (Record.reading bytes fields) tally) :
    Counts (Census.decodeKind kind index indent arguments bytes) config true tally := by
  rw [Census.decodeKind, method]
  exact (decoded _).bind_pure fun _ => true

theorem counts_decodeKind_of_unsupported {kind : Kind} {index : UInt32} {indent : UInt64}
    {arguments : Option Argument × Option Argument} {bytes : Bytes}
    (method : kind.method = .unsupported) :
    Counts (Census.decodeKind kind index indent arguments bytes) config false .oneError := by
  rw [Census.decodeKind, method]
  exact (Counts.error _).bind_pure fun _ => false

/-- A structure counts what decoding by its kind counts, and one error if its code is unknown. -/
theorem handsOut_of_decodeKind {bytes : Bytes} {tally : Tally}
    (unknown : schema.kinds[(leadingCode bytes).toNat]? = none → tally = .oneError)
    (known : ∀ kind ∈ schema.kinds, leadingCode bytes = kind.code → ∃ answer, ∀ index,
      Counts (Census.decodeKind kind index structureIndent (none, none) bytes) config answer
        tally) :
    HandsOut schema config bytes tally := by
  intro offset census
  cases found : schema.kinds[(leadingCode bytes).toNat]? with
  | none =>
      rw [unknown found]
      exact ⟨false, counts_dispatch_of_unknown found⟩
  | some kind =>
      have code : leadingCode bytes = kind.code := UInt32.toNat_inj.mp (schema.code_eq found).symm
      obtain ⟨answer, decoded⟩ := known kind (List.mem_of_getElem? found) code
      exact ⟨answer, counts_dispatch_of_known found decoded⟩

/-- **Structures handed out one after another count the sum of what each counts.** -/
theorem counts_handOut {weight : Bytes → Tally} {structures : List Bytes}
    (each : ∀ bytes ∈ structures, HandsOut schema config bytes (weight bytes)) (offset : Nat)
    (census : Census schema) :
    Counts (handOut (place offset structures) census) config
      ((structures.map leadingCode).foldl Census.counted census) (structures.map weight).sum := by
  induction structures generalizing offset census with
  | nil => exact Counts.pure census
  | cons bytes structures ih =>
      obtain ⟨answer, first⟩ := each bytes List.mem_cons_self offset census
      have rest := ih (fun other there => each other (List.mem_cons_of_mem bytes there))
        (offset + bytes.length) (census.counted (leadingCode bytes))
      exact first.bind rest

/-! ## Validation -/

/-- Whether a kind was found that the target does not allow. -/
def isDisallowed (target : ArchitectureSet) (kind : Kind) (count : UInt32) : Bool :=
  !kind.allowed.intersects target && count != 0

theorem counts_validateKind (kind : Kind) (count : UInt32) :
    Counts (Census.validateKind kind count) config (!isDisallowed config.target kind count)
      (if isDisallowed config.target kind count then .oneError else 0) := by
  refine Counts.scope_bind fun scope within => ?_
  subst within
  dsimp only
  by_cases allowed : kind.allowed.intersects scope.config.target = true
  · have fine : isDisallowed scope.config.target kind count = false := by
      simp [isDisallowed, allowed]
    rw [if_pos allowed, fine]
    exact (Counts.print _).bind_pure fun _ => true
  · rw [if_neg allowed]
    by_cases none : count = 0
    · have fine : isDisallowed scope.config.target kind count = false := by
        simp [isDisallowed, none]
      rw [if_pos none, fine]
      exact Counts.pure true
    · have found : isDisallowed scope.config.target kind count = true := by
        simp [isDisallowed, allowed, none]
      rw [if_neg none, found]
      exact (Counts.error _).bind_pure fun _ => false

theorem counts_validateKinds (pairs : List (Kind × UInt32)) :
    Counts (Census.validateKinds pairs) config
      (pairs.all fun pair => !isDisallowed config.target pair.1 pair.2)
      (pairs.map fun pair =>
        if isDisallowed config.target pair.1 pair.2 then Tally.oneError else 0).sum := by
  induction pairs with
  | nil => exact Counts.pure true
  | cons pair pairs ih =>
      rw [List.all_cons, List.map_cons, List.sum_cons]
      exact (counts_validateKind pair.1 pair.2).bind (Counts.bind_pure _ ih)

def Census.kindCounts (census : Census schema) : List (Kind × UInt32) :=
  schema.kinds.zip census.counts.toList

theorem counts_validate (census : Census schema) :
    Counts census.validate config
      (census.kindCounts.all fun pair => !isDisallowed config.target pair.1 pair.2)
      ⟨census.kindCounts.countP fun pair => isDisallowed config.target pair.1 pair.2, 0⟩ := by
  rw [← Tally.sum_map_oneError]
  exact (Counts.print _).quiet_bind (counts_validateKinds _)

/-- A complete walk counts one error for each disallowed kind when it checks consistency. -/
theorem counts_finish (census : Census schema) :
    Counts (finish census) config (.complete, census) (if config.consistency then
      ⟨census.kindCounts.countP fun pair => isDisallowed config.target pair.1 pair.2, 0⟩
      else 0) := by
  unfold finish
  exact Counts.bind_pure _ (Counts.whenChecking
    (Counts.bind_pure (fun _ => ()) (counts_validate census)))

/-- The census after structures with the given codes. -/
def Census.ofCodes (schema : Schema) (codes : List UInt32) : Census schema :=
  codes.foldl Census.counted (.zero schema)

theorem count?_ofCodes (codes : List UInt32) {code : UInt32}
    (known : code.toNat < schema.kinds.length) :
    (Census.ofCodes schema codes).count? code = some (saturate32 (codes.count code)) := by
  have sound : (codes.foldl Tracked.note (.fresh schema)).Sound :=
    Tracked.Sound.fresh.foldl_note codes
  have counted := sound.counts code
  rw [Tracked.census_foldl_note, if_pos known, Tracked.occurrences_foldl_note] at counted
  rw [← Nat.zero_add (codes.count code)]
  exact counted

theorem kindCounts_ofCodes (codes : List UInt32) :
    (Census.ofCodes schema codes).kindCounts =
      schema.kinds.map fun kind => (kind, saturate32 (codes.count kind.code)) := by
  refine List.ext_getElem ?_ fun index inside _ => ?_
  · simp [Census.kindCounts]
  · have known : index < schema.kinds.length := by
      simpa [Census.kindCounts] using inside
    have position : schema.kinds[index].code.toNat = index :=
      schema.code_eq (List.getElem?_eq_getElem known)
    have counted : (Census.ofCodes schema codes).count? schema.kinds[index].code = _ :=
      count?_ofCodes codes (position.symm ▸ known)
    rw [Census.count?, position] at counted
    obtain ⟨_, here⟩ := Vector.getElem?_eq_some_iff.mp counted
    simp only [Census.kindCounts, List.getElem_zip, List.getElem_map, Vector.getElem_toList, here]

/-- The number of kinds that the target does not allow among the given codes. -/
def disallowedKinds (schema : Schema) (target : ArchitectureSet) (codes : List UInt32) : Nat :=
  schema.kinds.countP fun kind => !kind.allowed.intersects target && codes.contains kind.code

theorem countP_kindCounts (target : ArchitectureSet) (codes : List UInt32) :
    ((Census.ofCodes schema codes).kindCounts.countP fun pair =>
      isDisallowed target pair.1 pair.2) = disallowedKinds schema target codes := by
  have found (code : UInt32) : (saturate32 (codes.count code) != 0) = codes.contains code := by
    rw [Bool.eq_iff_iff, bne_iff_ne, ne_eq, saturate32_eq_zero_iff, List.count_eq_zero,
      Decidable.not_not, List.contains_iff_mem]
  rw [kindCounts_ofCodes, List.countP_map, disallowedKinds]
  refine List.countP_congr fun kind _ => ?_
  simp only [Function.comp, isDisallowed, found]

/-- **A walk over structures that carry their own lengths** counts the sum of what they count
and, when consistency is checked, one error for each disallowed kind among them. -/
theorem counts_walk {weight : Bytes → Tally} {structures : List Bytes}
    (sized : ∀ bytes ∈ structures, SelfSized bytes)
    (each : ∀ bytes ∈ structures, HandsOut schema config bytes (weight bytes)) (leading : Bytes) :
    Counts (walk schema (leading ++ structures.flatten) leading.length) config
      (.complete, Census.ofCodes schema (structures.map leadingCode))
      ((structures.map weight).sum + if config.consistency then
        ⟨disallowedKinds schema config.target (structures.map leadingCode), 0⟩ else 0) := by
  rw [walk_eq_handOut, outline, List.drop_left, outlineFrom_flatten sized,
    ← countP_kindCounts]
  exact (counts_handOut each _ _).bind (counts_finish _)

end Structure

end AcpiTables
