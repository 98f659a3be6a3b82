import AcpiTables.Proofs.Composition
import Mathlib.Algebra.BigOperators.Group.List.Basic
import Mathlib.Data.List.Nodup

/-!
# The breakdown of a census

Validating a census says something about every kind that the target allows, zero counts included,
and about every kind that was found although the target does not allow it.  Each of these kinds has
one line with its count, in the order of the codes: a plain one, or an error.  The other kinds were
neither allowed nor found, and have no line.

`Census.breakdown` states all that a validation says, from the counts and the configuration alone,
and `reports_validate` that it says exactly this.  A larger target rejects fewer kinds
(`rejected_sublist_of_contains`).  Every structure of a known kind is counted once by a walk, so the
counts shown at the end of a complete walk add up to the number of these structures
(`sum_listed_lastCensus`).
-/

namespace AcpiTables

set_option autoImplicit false

open Decoder

namespace Structure

variable {schema : Schema}

/-! ## Kinds with their counts -/

/-- The codes of a schema's kinds are 0, 1, 2 and so on. -/
theorem map_code_kinds (schema : Schema) :
    (schema.kinds.map fun kind => kind.code.toNat) = List.range schema.kinds.length := by
  refine List.ext_getElem (by simp) fun index inside _ => ?_
  rw [List.length_map] at inside
  rw [List.getElem_map, List.getElem_range]
  exact schema.code_eq (List.getElem?_eq_getElem inside)

theorem map_fst_kindCounts (census : Census schema) :
    census.kindCounts.map Prod.fst = schema.kinds :=
  List.map_fst_zip (by simp)

/-- Every kind stands once among the counts, with the count of its code. -/
theorem mem_kindCounts {census : Census schema} {kind : Kind} {count : UInt32} :
    (kind, count) ∈ census.kindCounts ↔
      kind ∈ schema.kinds ∧ census.count? kind.code = some count := by
  constructor
  · intro there
    obtain ⟨index, found⟩ := List.getElem?_of_mem there
    obtain ⟨here, counted⟩ := List.getElem?_zip_eq_some.mp found
    refine ⟨List.mem_of_getElem? here, ?_⟩
    rw [Census.count?, schema.code_eq here, ← Vector.getElem?_toList]
    exact counted
  · rintro ⟨member, counted⟩
    obtain ⟨index, here⟩ := List.getElem?_of_mem member
    rw [Census.count?, schema.code_eq here, ← Vector.getElem?_toList] at counted
    exact List.mem_of_getElem? (List.getElem?_zip_eq_some.mpr ⟨here, counted⟩)

/-! ## The lines of a breakdown -/

/-- Whether a kind with a count has a line: the target allows the kind, or it was found. -/
def isListed (target : ArchitectureSet) (entry : Kind × UInt32) : Bool :=
  entry.1.allowed.intersects target || entry.2 != 0

/-- Whether a kind with a count is rejected: it was found, and the target does not allow it. -/
def isRejected (target : ArchitectureSet) (entry : Kind × UInt32) : Bool :=
  isDisallowed target entry.1 entry.2

/-- The line of a kind with a count: a plain one if the target allows the kind, and else an
error. -/
def kindLine (config : Config) (entry : Kind × UInt32) : Emit :=
  if entry.1.allowed.intersects config.target then
    ⟨columnLabel 2 entry.1.name ++ " : " ++ toString entry.2 ++ "\n", none⟩
  else
    ⟨"ERROR: " ++ (entry.1.name ++ " Structure is not valid for the target architecture (found " ++
      toString entry.2 ++ ")") ++ "\n", if config.highlight then some .error else none⟩

namespace Census

/-- The kinds that have a line, with their counts, in the order of their codes. -/
def listed (census : Census schema) (target : ArchitectureSet) : List (Kind × UInt32) :=
  census.kindCounts.filter (isListed target)

/-- The kinds that were found although the target does not allow them, with their counts. -/
def rejected (census : Census schema) (target : ArchitectureSet) : List (Kind × UInt32) :=
  census.kindCounts.filter (isRejected target)

/-- All that a validation says in a configuration. -/
def breakdown (census : Census schema) (config : Config) : Report where
  emits := ⟨"\nTable Breakdown:\n", none⟩ :: (census.listed config.target).map (kindLine config)
  errors := (census.rejected config.target).length
  warnings := 0

end Census

section Lines

variable {scope : Scope}

/-- What the validation of one kind says. -/
def entryReport (config : Config) (entry : Kind × UInt32) : Report where
  emits := if isListed config.target entry then [kindLine config entry] else []
  errors := if isRejected config.target entry then 1 else 0
  warnings := 0

theorem reports_validateKind (entry : Kind × UInt32) :
    Reports (Census.validateKind entry.1 entry.2) scope (!isRejected scope.config.target entry)
      (entryReport scope.config entry) := by
  rw [← Report.empty_append (entryReport _ _)]
  refine Reports.readScope.bind ?_
  dsimp only
  cases allowed : entry.1.allowed.intersects scope.config.target with
  | true =>
      simp only [entryReport, isRejected, isDisallowed, isListed, kindLine, allowed]
      exact Reports.bind_pure (fun _ => true) (Reports.print _)
  | false =>
      by_cases none : entry.2 = 0
      · simp only [entryReport, isRejected, isDisallowed, isListed, allowed, none]
        exact Reports.pure true
      · have found : (entry.2 != 0) = true := bne_iff_ne.mpr none
        simp only [entryReport, isRejected, isDisallowed, isListed, kindLine, allowed, found,
          if_neg none]
        exact Reports.bind_pure (fun _ => false) (Reports.error _)

theorem reports_validateKinds (entries : List (Kind × UInt32)) :
    Reports (Census.validateKinds entries) scope
      (entries.filter (isRejected scope.config.target)).isEmpty
      ⟨(entries.filter (isListed scope.config.target)).map (kindLine scope.config),
        (entries.filter (isRejected scope.config.target)).length, 0⟩ := by
  induction entries with
  | nil => exact Reports.pure true
  | cons entry entries ih =>
      have both : Reports (Census.validateKinds (entry :: entries)) scope _ _ :=
        (reports_validateKind entry).bind (Reports.bind_pure _ ih)
      convert both using 1
      · rw [List.filter_cons]
        cases isRejected scope.config.target entry <;> rfl
      · refine Report.ext ?_ ?_ rfl
        · dsimp only [Report.emits_append, entryReport]
          rw [List.filter_cons]
          cases isListed scope.config.target entry <;> rfl
        · dsimp only [Report.errors_append, entryReport]
          rw [List.filter_cons]
          cases isRejected scope.config.target entry with
          | true => exact Nat.add_comm _ 1
          | false => exact (Nat.zero_add _).symm

/-- **All that a validation says is the breakdown.**  It approves the census if it rejects no
kind. -/
theorem reports_validate (census : Census schema) :
    Reports census.validate scope (census.rejected scope.config.target).isEmpty
      (census.breakdown scope.config) := by
  have same : census.breakdown scope.config = .ofEmit ⟨"\nTable Breakdown:\n", none⟩ ++
      ⟨(census.listed scope.config.target).map (kindLine scope.config),
        (census.rejected scope.config.target).length, 0⟩ :=
    Report.ext rfl (Nat.zero_add _).symm rfl
  rw [same]
  exact (Reports.print _).bind (reports_validateKinds census.kindCounts)

end Lines

/-! ## What is listed and what is rejected -/

section Entries

variable {census : Census schema} {target : ArchitectureSet}

theorem mem_listed {kind : Kind} {count : UInt32} :
    (kind, count) ∈ census.listed target ↔
      (kind ∈ schema.kinds ∧ census.count? kind.code = some count) ∧
        (kind.allowed.intersects target = true ∨ count ≠ 0) := by
  rw [Census.listed, List.mem_filter, mem_kindCounts, isListed, Bool.or_eq_true, bne_iff_ne]

theorem mem_rejected {kind : Kind} {count : UInt32} :
    (kind, count) ∈ census.rejected target ↔
      (kind ∈ schema.kinds ∧ census.count? kind.code = some count) ∧
        kind.allowed.intersects target = false ∧ count ≠ 0 := by
  rw [Census.rejected, List.mem_filter, mem_kindCounts, isRejected, isDisallowed,
    Bool.and_eq_true, Bool.not_eq_true', bne_iff_ne]

/-- The lines are in the order of the codes, and no kind has two. -/
theorem pairwise_code_listed (census : Census schema) (target : ArchitectureSet) :
    (census.listed target).Pairwise fun earlier later =>
      earlier.1.code.toNat < later.1.code.toNat := by
  have codes : (census.kindCounts.map fun entry => entry.1.code.toNat) =
      List.range schema.kinds.length := by
    rw [← map_code_kinds, ← map_fst_kindCounts census, List.map_map]
    rfl
  have increasing : census.kindCounts.Pairwise fun earlier later =>
      earlier.1.code.toNat < later.1.code.toNat := by
    rw [← List.pairwise_map, codes]
    exact List.pairwise_lt_range
  exact increasing.filter _

/-- The rejected kinds are the listed kinds that the target does not allow. -/
theorem rejected_eq_filter_listed (census : Census schema) (target : ArchitectureSet) :
    census.rejected target =
      (census.listed target).filter fun entry => !entry.1.allowed.intersects target := by
  rw [Census.rejected, Census.listed, List.filter_filter]
  refine List.filter_congr fun entry _ => ?_
  unfold isRejected isDisallowed isListed
  cases entry.1.allowed.intersects target <;> simp

end Entries

/-! ## Larger targets -/

theorem intersects_of_contains {allowed target larger : ArchitectureSet}
    (contains : larger.contains target = true) (meets : allowed.intersects target = true) :
    allowed.intersects larger = true := by
  have inside : larger.bits &&& target.bits = target.bits :=
    congrArg ArchitectureSet.bits (beq_iff_eq.mp contains)
  rw [ArchitectureSet.intersects, Bool.not_eq_true', ArchitectureSet.isEmpty,
    beq_eq_false_iff_ne] at meets ⊢
  intro none
  apply meets
  have apart : allowed.bits &&& larger.bits = 0 := none
  calc allowed.bits &&& target.bits
      = allowed.bits &&& larger.bits &&& target.bits := by rw [BitVec.and_assoc, inside]
    _ = 0 &&& target.bits := by rw [apart]
    _ = 0 := BitVec.zero_and

/-- **A larger target rejects no other kinds.** -/
theorem rejected_sublist_of_contains {target larger : ArchitectureSet}
    (contains : larger.contains target = true) (census : Census schema) :
    (census.rejected larger).Sublist (census.rejected target) := by
  refine List.monotone_filter_right _ fun entry found => ?_
  unfold isRejected isDisallowed at found ⊢
  rw [Bool.and_eq_true, Bool.not_eq_true'] at found ⊢
  refine ⟨?_, found.2⟩
  cases meets : entry.1.allowed.intersects target with
  | false => rfl
  | true => exact absurd (intersects_of_contains contains meets) (Bool.eq_false_iff.mp found.1)

/-- A kind that a larger target rejects has the same error as before. -/
theorem kindLine_of_isRejected {config : Config} {larger : ArchitectureSet}
    (contains : larger.contains config.target = true) {entry : Kind × UInt32}
    (found : isRejected larger entry = true) :
    kindLine { config with target := larger } entry = kindLine config entry := by
  have outside : ¬ entry.1.allowed.intersects larger = true := by
    intro meets
    simp [isRejected, isDisallowed, meets] at found
  have before : ¬ entry.1.allowed.intersects config.target = true :=
    fun meets => outside (intersects_of_contains contains meets)
  rw [kindLine, kindLine, if_neg outside, if_neg before]

/-! ## Sums of counts -/

theorem sum_map_filter_of_zero {α : Type} {keep : α → Bool} {weight : α → Nat} {list : List α}
    (zero : ∀ member ∈ list, keep member = false → weight member = 0) :
    ((list.filter keep).map weight).sum = (list.map weight).sum := by
  induction list with
  | nil => rfl
  | cons member list ih =>
      have later := ih fun other there => zero other (List.mem_cons_of_mem member there)
      rw [List.filter_cons, List.map_cons, List.sum_cons]
      cases kept : keep member with
      | true => rw [if_pos rfl, List.map_cons, List.sum_cons, later]
      | false => rw [if_neg Bool.false_ne_true, zero member List.mem_cons_self kept, Nat.zero_add,
          later]

/-- Kinds without a line were not found, so they do not matter for the sum of the counts. -/
theorem sum_listed (census : Census schema) (target : ArchitectureSet) :
    ((census.listed target).map fun entry => entry.2.toNat).sum =
      (census.kindCounts.map fun entry => entry.2.toNat).sum := by
  refine sum_map_filter_of_zero fun entry _ unlisted => ?_
  have none : entry.2 = 0 := by
    simpa using (Bool.or_eq_false_iff.mp unlisted).2
  rw [none]
  rfl

/-- The numbers of occurrences of distinct values add up to the number of members among them. -/
theorem sum_map_count {values members : List UInt32} (distinct : values.Nodup) :
    (values.map fun value => members.count value).sum = members.countP values.contains := by
  have single (member : UInt32) : (values.map fun value => if member == value then 1 else 0).sum =
      values.count member := by
    clear distinct
    induction values with
    | nil => rfl
    | cons value values ih => rw [List.map_cons, List.sum_cons, ih, List.count_cons, Nat.add_comm,
        BEq.comm]
  induction members with
  | nil => simp
  | cons member members ih =>
      simp only [List.count_cons, List.sum_map_add, ih, single, distinct.count, List.countP_cons,
        List.contains_iff_mem]

theorem mem_codes {code : UInt32} :
    code ∈ schema.kinds.map Kind.code ↔ code.toNat < schema.kinds.length := by
  have codes : (schema.kinds.map Kind.code).map UInt32.toNat = List.range schema.kinds.length := by
    rw [← map_code_kinds, List.map_map]
    rfl
  have injective : Function.Injective UInt32.toNat := fun _ _ => UInt32.toNat_inj.mp
  rw [← List.mem_range, ← codes, List.mem_map_of_injective injective]

/-- Every structure with a known code is counted for one kind, and no other structure is. -/
theorem sum_count_kinds (schema : Schema) (codes : List UInt32) :
    (schema.kinds.map fun kind => codes.count kind.code).sum =
      codes.countP fun code => code.toNat < schema.kinds.length := by
  have distinct : (schema.kinds.map Kind.code).Nodup := by
    refine List.Nodup.of_map UInt32.toNat ?_
    rw [List.map_map]
    exact (map_code_kinds schema) ▸ List.nodup_range
  have values : (schema.kinds.map fun kind => codes.count kind.code) =
      (schema.kinds.map Kind.code).map fun code => codes.count code := by
    rw [List.map_map]
    rfl
  rw [values, sum_map_count distinct]
  refine List.countP_congr fun code _ => ?_
  rw [List.contains_iff_mem, mem_codes, decide_eq_true_iff]

/-- Below the largest count, the counts that are shown add up to the number of structures with a
known code. -/
theorem sum_listed_ofCodes {codes : List UInt32}
    (below : ∀ kind ∈ schema.kinds, codes.count kind.code ≤ 0xFFFFFFFF)
    (target : ArchitectureSet) :
    (((Census.ofCodes schema codes).listed target).map fun entry => entry.2.toNat).sum =
      codes.countP fun code => code.toNat < schema.kinds.length := by
  rw [sum_listed, kindCounts_ofCodes, List.map_map, ← sum_count_kinds]
  refine congrArg List.sum (List.map_congr_left fun kind there => ?_)
  exact (toNat_saturate32 _).trans (Nat.min_eq_right (below kind there))

/-! ## The breakdown of a complete walk -/

/-- Where consistency is checked, a complete walk ends with the breakdown of its census. -/
theorem walk_of_complete {table : Bytes} {start : Nat} {session : Session}
    (complete : (outline table start).status = .complete) :
    let handed := (handOut (outline table start).slices (.zero schema) session).2
    (walk schema table start session).2 = handed.record
      (if handed.config.consistency then (lastCensus schema table start).breakdown handed.config
        else .empty) := by
  intro handed
  have census : (handOut (outline table start).slices (.zero schema) session).1 =
      lastCensus schema table start := handOut_census _ _ session
  rw [walk_eq_handOut, bind_apply, census, conclude, complete]
  change ((whenChecking _ >>= _) handed).2 = _
  have validated : Reports (lastCensus schema table start).validate handed.scope _ _ :=
    reports_validate _
  have checked := Reports.whenChecking fun _ => validated.bind_pure fun _ => ()
  rw [bind_apply, checked handed rfl]
  rfl

theorem sum_listed_walk {table : Bytes} {start : Nat}
    (below : ∀ kind ∈ schema.kinds,
      ((outline table start).slices.map Slice.typeCode).count kind.code ≤ 0xFFFFFFFF)
    (target : ArchitectureSet) (session : Session) :
    (((walk schema table start session).1.2.listed target).map fun entry => entry.2.toNat).sum =
      (outline table start).slices.countP
        fun slice => slice.typeCode.toNat < schema.kinds.length := by
  rw [walk_value, lastCensus, sum_listed_ofCodes below, List.countP_map]
  rfl

/-! ## What a validation accounts for -/

theorem isEmpty_rejected_iff {census : Census schema} {target : ArchitectureSet} :
    (census.rejected target).isEmpty = true ↔
      ∀ kind ∈ schema.kinds, ∀ count, census.count? kind.code = some count → count ≠ 0 →
        kind.allowed.intersects target = true := by
  rw [List.isEmpty_iff, List.eq_nil_iff_forall_not_mem]
  constructor
  · intro none kind member count counted found
    by_contra outside
    exact none (kind, count)
      (mem_rejected.mpr ⟨⟨member, counted⟩, Bool.eq_false_iff.mpr outside, found⟩)
  · rintro allowed ⟨kind, count⟩ there
    obtain ⟨⟨member, counted⟩, outside, found⟩ := mem_rejected.mp there
    exact Bool.eq_false_iff.mp outside (allowed kind member count counted found)

theorem validate_eq (census : Census schema) (session : Session) :
    census.validate session = ((census.rejected session.config.target).isEmpty,
      session.record (census.breakdown session.config)) := by
  have reports : Reports census.validate session.scope _ _ := reports_validate census
  exact reports session rfl

/-- **The breakdown accounts for every structure.**  A validation shows a line for each listed kind,
in the order of the codes, counts one error for each rejected kind, and approves exactly if there is
none.  At the end of a complete walk the counts shown add up to the number of structures with a
known code.  With a larger target no kind is rejected that was not rejected before. -/
theorem breakdown_accounts_for_every_structure (schema : Schema) :
    (∀ (census : Census schema) (session : Session),
      let target := session.config.target
      let validated := census.validate session
      validated.2.counters = session.counters.plus (census.rejected target).length 0 ∧
      validated.2.emits = session.emits ++ ⟨"\nTable Breakdown:\n", none⟩ ::
        (census.listed target).map (kindLine session.config) ∧
      (validated.1 = true ↔ (census.rejected target).length = 0) ∧
      (validated.1 = true ↔ ∀ kind ∈ schema.kinds, ∀ count,
        census.count? kind.code = some count → count ≠ 0 →
          kind.allowed.intersects target = true)) ∧
    (∀ (census : Census schema) (target : ArchitectureSet),
      ((census.listed target).Pairwise fun earlier later =>
        earlier.1.code.toNat < later.1.code.toNat) ∧
      (∀ kind count, (kind, count) ∈ census.listed target ↔
        (kind ∈ schema.kinds ∧ census.count? kind.code = some count) ∧
          (kind.allowed.intersects target = true ∨ count ≠ 0)) ∧
      census.rejected target =
        (census.listed target).filter fun entry => !entry.1.allowed.intersects target) ∧
    (∀ (table : Bytes) (start : Nat) (session : Session),
      let slices := (outline table start).slices
      let handed := (handOut slices (.zero schema) session).2
      let outcome := walk schema table start session
      outcome.1.1 = .complete → handed.config.consistency = true →
        outcome.2 = handed.record (outcome.1.2.breakdown handed.config) ∧
        ((∀ kind ∈ schema.kinds, (slices.map Slice.typeCode).count kind.code ≤ 0xFFFFFFFF) →
          ((outcome.1.2.listed handed.config.target).map fun entry => entry.2.toNat).sum =
            slices.countP fun slice => slice.typeCode.toNat < schema.kinds.length)) ∧
    ∀ (census : Census schema) (session : Session) (larger : ArchitectureSet),
      larger.contains session.config.target = true →
        let config := { session.config with target := larger }
        (census.rejected larger).Sublist (census.rejected session.config.target) ∧
        (∀ entry ∈ census.rejected larger, kindLine config entry = kindLine session.config entry) ∧
        ((census.validate session).1 = true →
          (census.validate { session with config := config }).1 = true) := by
  refine ⟨fun census session => ?_,
    fun census target => ⟨pairwise_code_listed census target, fun _ _ => mem_listed,
      rejected_eq_filter_listed census target⟩,
    fun table start session => ?_, fun census session larger contains => ?_⟩
  · intro target validated
    have said : validated = _ := validate_eq census session
    rw [said]
    refine ⟨Session.counters_record session _, Session.emits_record session _, ?_,
      isEmpty_rejected_iff⟩
    rw [List.isEmpty_iff, List.length_eq_zero_iff]
  · intro slices handed outcome complete checking
    have value : outcome.1 = ((outline table start).status, lastCensus schema table start) :=
      walk_value table start session
    have ends : (outline table start).status = .complete := by
      rw [← complete, value]
    have shown : outcome.2 = handed.record _ := walk_of_complete ends
    refine ⟨?_, fun below => sum_listed_walk below handed.config.target session⟩
    rw [value]
    exact shown.trans (by rw [if_pos checking])
  · intro config
    have fewer := rejected_sublist_of_contains contains census
    refine ⟨fewer, fun entry there => kindLine_of_isRejected contains (List.mem_filter.mp there).2,
      fun approved => ?_⟩
    have none : (census.rejected session.config.target).isEmpty = true := by
      rw [← approved, validate_eq]
    rw [validate_eq]
    rw [List.isEmpty_iff] at none ⊢
    exact List.sublist_nil.mp (none ▸ fewer)

/-- Two identities with an unknown structure between them: two of three structures are shown. -/
theorem breakdown_accounts_for_every_structure_of_two :
    let table : Bytes := [2, 2, 9, 2, 2, 2]
    let session := Session.start .default
    let outcome := walk ProcessorTopology.schema table 0 session
    outcome.1.1 = .complete ∧ outcome.2.config.consistency = true ∧
      ((outcome.1.2.listed .all).map fun entry => entry.2.toNat).sum = 2 := by
  intro table session outcome
  have sized : ∀ bytes ∈ [[2, 2], [9, 2], [2, 2]], SelfSized bytes := by decide
  have outlined : outline table 0 = ⟨place 0 [[2, 2], [9, 2], [2, 2]], 6, .complete⟩ :=
    outlineFrom_flatten sized 0
  have complete : outcome.1.1 = .complete := by
    rw [walk_value, outlined]
  have handed :
      (handOut (outline table 0).slices (.zero ProcessorTopology.schema) session).2.config =
        session.config := by
    rw [outlined]
    rfl
  have accounted := (breakdown_accounts_for_every_structure ProcessorTopology.schema).2.2.1 table 0
    session complete (congrArg Config.consistency handed)
  refine ⟨complete, ?_, ?_⟩
  · rw [accounted.1]
    exact congrArg Config.consistency handed
  · rw [handed] at accounted
    refine (accounted.2 ?_).trans ?_
    · rw [outlined]
      decide
    · rw [outlined]
      decide

end Structure

end AcpiTables
