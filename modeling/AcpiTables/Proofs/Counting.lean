import AcpiTables.ProcessorTopology
import AcpiTables.Proofs.Framing

/-!
# Counts over whole runs

A run works on copies of a census of one schema.  Each step hands out a structure, walks over
a table, sets the counts of a copy to zero, validates a copy, or clones one.  Beside every
copy the run keeps a log: the code and the index of each structure handed out since the
last reset, where a walk is a reset followed by its hand-outs.

A copy agrees with its log when every known code has the saturated number of its entries as
its count, and the indices of its entries are 0, 1, 2 and so on (`Tracked.Sound`).  One
hand-out keeps this whatever the method of the kind (`Tracked.Sound.note`), so every step
keeps it (`sound_apply`), and it holds of all copies after every run (`sound_run`).
-/

namespace AcpiTables

set_option autoImplicit false

namespace Structure

open Decoder

variable {schema : Schema}

namespace Census

/-! ## What a hand-out gives and counts -/

/-- The census with one more structure of a code, if the code is known. -/
def counted (census : Census schema) (code : UInt32) : Census schema :=
  if known : code.toNat < schema.kinds.length then census.increment code.toNat known else census

theorem count?_eq_none {census : Census schema} {code : UInt32}
    (unknown : ¬ code.toNat < schema.kinds.length) : census.count? code = none :=
  Vector.getElem?_eq_none (Nat.not_lt.mp unknown)

theorem count?_zero {code : UInt32} (known : code.toNat < schema.kinds.length) :
    (zero schema).count? code = some 0 := by
  simp [count?, zero, known]

theorem count?_counted_self {census : Census schema} {code count : UInt32}
    (before : census.count? code = some count) :
    (census.counted code).count? code = some (addSaturating32 count 1) := by
  obtain ⟨known, here⟩ := Vector.getElem?_eq_some_iff.mp before
  rw [counted, dif_pos known, count?, increment, Vector.getElem?_set_self known, here]

theorem count?_counted_of_ne {census : Census schema} {code other : UInt32}
    (ne : code ≠ other) : (census.counted code).count? other = census.count? other := by
  have apart : code.toNat ≠ other.toNat := fun same => ne (UInt32.toNat_inj.mp same)
  by_cases known : code.toNat < schema.kinds.length
  · rw [counted, dif_pos known]
    exact Vector.getElem?_set_ne known apart
  · rw [counted, dif_neg known]

theorem decodeKind_value (kind : Kind) (index : UInt32) (indent : UInt64)
    (arguments : Option Argument × Option Argument) (data : Bytes) (session : Session) :
    (decodeKind kind index indent arguments data session).1 = true ↔
      kind.method ≠ .unsupported := by
  unfold decodeKind
  cases kind.method with
  | record fields => exact iff_of_true rfl nofun
  | custom decoder => exact iff_of_true rfl nofun
  | unsupported => exact iff_of_false nofun fun ne => ne rfl

theorem dispatch_census (census : Census schema) (indent : UInt64) (data : Bytes) (offset : Nat)
    (code : UInt32) (arguments : Option Argument × Option Argument) (session : Session) :
    (census.dispatch indent data offset code arguments session).1.2 = census.counted code := by
  simp only [dispatch, counted, bind_apply]
  split <;> rfl

end Census

/-! ## Censuses with their logs -/

/-- A census with the code and the index of each structure handed out since the last reset. -/
structure Tracked (schema : Schema) where
  census : Census schema
  log : List (UInt32 × Option UInt32)

namespace Tracked

/-- A census that was just set to zero. -/
def fresh (schema : Schema) : Tracked schema := ⟨.zero schema, []⟩

/-- What a hand-out of a code does to a census and its log. -/
def note (tracked : Tracked schema) (code : UInt32) : Tracked schema :=
  ⟨tracked.census.counted code, tracked.log ++ [(code, tracked.census.count? code)]⟩

/-- How many structures of a code the log has. -/
def occurrences (tracked : Tracked schema) (code : UInt32) : Nat :=
  tracked.log.countP fun entry => entry.1 == code

/-- The indices of the structures of a code, in order. -/
def indices (tracked : Tracked schema) (code : UInt32) : List (Option UInt32) :=
  (tracked.log.filter fun entry => entry.1 == code).map Prod.snd

/-- Every known code is counted once for each of its entries, and their indices run from zero
on without a gap; unknown codes have no count. -/
structure Sound (tracked : Tracked schema) : Prop where
  counts : ∀ code, tracked.census.count? code =
    if code.toNat < schema.kinds.length then some (saturate32 (tracked.occurrences code))
    else none
  indices : ∀ code, code.toNat < schema.kinds.length → tracked.indices code =
    (List.range (tracked.occurrences code)).map fun index => some (saturate32 index)

theorem occurrences_note (tracked : Tracked schema) (code other : UInt32) :
    (tracked.note code).occurrences other =
      tracked.occurrences other + if code = other then 1 else 0 := by
  simp [note, occurrences, List.countP_append, List.countP_singleton]

theorem occurrences_foldl_note (tracked : Tracked schema) (codes : List UInt32)
    (code : UInt32) :
    (codes.foldl note tracked).occurrences code = tracked.occurrences code + codes.count code := by
  induction codes generalizing tracked with
  | nil => rfl
  | cons first codes ih =>
      rw [List.foldl_cons, ih, occurrences_note, List.count_cons, Nat.add_assoc,
        Nat.add_comm (codes.count code)]
      simp only [beq_iff_eq]

theorem indices_note (tracked : Tracked schema) (code other : UInt32) :
    (tracked.note code).indices other =
      tracked.indices other ++ if code = other then [tracked.census.count? code] else [] := by
  by_cases same : code = other <;> simp [note, indices, same]

theorem Sound.fresh : (fresh schema).Sound where
  counts code := by
    split
    · next known => rw [Tracked.fresh, Census.count?_zero known]; rfl
    · next unknown => exact Census.count?_eq_none unknown
  indices _ _ := rfl

/-- **One hand-out keeps the counts and the indices.** -/
theorem Sound.note {tracked : Tracked schema} (sound : tracked.Sound) (code : UInt32) :
    (tracked.note code).Sound where
  counts other := by
    rw [occurrences_note]
    by_cases same : code = other
    · subst same
      have before := sound.counts code
      by_cases known : code.toNat < schema.kinds.length
      · rw [if_pos known] at before
        rw [if_pos known, if_pos rfl, Tracked.note, Census.count?_counted_self before,
          addSaturating32_eq, toNat_saturate32]
        exact congrArg some (saturate32_min_add _ 1)
      · rw [if_neg known]
        exact Census.count?_eq_none known
    · rw [if_neg same, Nat.add_zero, Tracked.note, Census.count?_counted_of_ne same]
      exact sound.counts other
  indices other known := by
    rw [indices_note, occurrences_note, sound.indices other known]
    by_cases same : code = other
    · subst same
      have before := sound.counts code
      rw [if_pos known] at before
      rw [if_pos rfl, if_pos rfl, before, List.range_succ, List.map_append, List.map_singleton]
    · rw [if_neg same, if_neg same, List.append_nil, Nat.add_zero]

theorem Sound.foldl_note {tracked : Tracked schema} (sound : tracked.Sound)
    (codes : List UInt32) : (codes.foldl Tracked.note tracked).Sound := by
  induction codes generalizing tracked with
  | nil => exact sound
  | cons code codes ih => exact ih (sound.note code)

theorem census_foldl_note (tracked : Tracked schema) (codes : List UInt32) :
    (codes.foldl note tracked).census = codes.foldl Census.counted tracked.census := by
  induction codes generalizing tracked with
  | nil => rfl
  | cons code codes ih => exact ih (tracked.note code)

theorem Sound.toNat_count? {tracked : Tracked schema} (sound : tracked.Sound) (code : UInt32) :
    (tracked.census.count? code).map UInt32.toNat =
      if code.toNat < schema.kinds.length then some (min (0xFFFFFFFF) (tracked.occurrences code))
      else none := by
  rw [sound.counts code]
  split
  · rw [Option.map_some, toNat_saturate32]
  · rfl

theorem Sound.toNat_indices {tracked : Tracked schema} (sound : tracked.Sound) {code : UInt32}
    (known : code.toNat < schema.kinds.length) :
    (tracked.indices code).map (Option.map UInt32.toNat) =
      (List.range (tracked.occurrences code)).map fun index => some (min (0xFFFFFFFF) index) := by
  rw [sound.indices code known, List.map_map]
  refine List.map_congr_left fun index _ => ?_
  exact congrArg some (toNat_saturate32 index)

end Tracked

theorem handOut_census (slices : List Slice) (census : Census schema) (session : Session) :
    (handOut slices census session).1 =
      (slices.map Slice.typeCode).foldl Census.counted census := by
  induction slices generalizing census session with
  | nil => rfl
  | cons slice slices ih =>
      rw [handOut, bind_apply, List.map_cons, List.foldl_cons]
      rw [ih, Census.dispatch_census]

/-! ## Runs -/

/-- What is done with one census. -/
inductive Operation where
  | dispatch (indent : UInt64) (data : Bytes) (offset : Nat) (code : UInt32)
      (arguments : Option Argument × Option Argument)
  | walk (table : Bytes) (start : Nat)
  | reset
  | validate

/-- A step of a run, which works on numbered copies of a census. -/
inductive Action where
  | on (copy : Nat) (operation : Operation)
  | clone (copy : Nat)

namespace Tracked

/-- Does something with a census and keeps its log. -/
def apply (tracked : Tracked schema) : Operation → Decoder (Tracked schema)
  | .dispatch indent data offset code arguments => do
      let (_, census) ← tracked.census.dispatch indent data offset code arguments
      return ⟨census, (tracked.note code).log⟩
  | .walk table start => do
      let (_, census) ← Structure.walk schema table start
      return ⟨census, (((outline table start).slices.map Slice.typeCode).foldl note
        (fresh schema)).log⟩
  | .reset => return fresh schema
  | .validate => do
      let _ ← tracked.census.validate
      return tracked

/-- Does things one after another. -/
def applyAll : List Operation → Tracked schema → Decoder (Tracked schema)
  | [], tracked => return tracked
  | operation :: operations, tracked => do
      let tracked ← tracked.apply operation
      applyAll operations tracked

end Tracked

/-- Carries out one step; a number without a copy is ignored. -/
def perform (copies : List (Tracked schema)) : Action → Decoder (List (Tracked schema))
  | .on copy operation =>
      match copies[copy]? with
      | none => return copies
      | some tracked => do
          let after ← tracked.apply operation
          return copies.set copy after
  | .clone copy => return copies ++ copies[copy]?.toList

/-- Carries out steps one after another. -/
def run : List Action → List (Tracked schema) → Decoder (List (Tracked schema))
  | [], copies => return copies
  | action :: actions, copies => do
      let copies ← perform copies action
      run actions copies

/-! ## Every step keeps the counts -/

theorem apply_dispatch_value (tracked : Tracked schema) (indent : UInt64) (data : Bytes)
    (offset : Nat) (code : UInt32) (arguments : Option Argument × Option Argument)
    (session : Session) :
    (tracked.apply (.dispatch indent data offset code arguments) session).1 =
      tracked.note code := by
  simp only [Tracked.apply, bind_apply, pure_apply, Census.dispatch_census]
  rfl

theorem apply_walk_value (tracked : Tracked schema) (table : Bytes) (start : Nat)
    (session : Session) :
    (tracked.apply (.walk table start) session).1 =
      ((outline table start).slices.map Slice.typeCode).foldl Tracked.note
        (Tracked.fresh schema) := by
  simp only [Tracked.apply, bind_apply, pure_apply, walk_eq_handOut, conclude_value,
    handOut_census]
  rw [← show (Tracked.fresh schema).census = Census.zero schema from rfl,
    ← Tracked.census_foldl_note]

theorem sound_apply {tracked : Tracked schema} (sound : tracked.Sound) (operation : Operation)
    (session : Session) : (tracked.apply operation session).1.Sound := by
  cases operation with
  | dispatch indent data offset code arguments =>
      rw [apply_dispatch_value]
      exact sound.note code
  | walk table start =>
      rw [apply_walk_value]
      exact Tracked.Sound.fresh.foldl_note _
  | reset => exact Tracked.Sound.fresh
  | validate => exact sound

theorem sound_perform {copies : List (Tracked schema)}
    (sound : ∀ tracked ∈ copies, tracked.Sound) (action : Action) (session : Session) :
    ∀ tracked ∈ (perform copies action session).1, tracked.Sound := by
  cases action with
  | on copy operation =>
      cases found : copies[copy]? with
      | none =>
          rw [perform, found]
          exact sound
      | some here =>
          rw [perform, found]
          intro tracked member
          rcases List.mem_or_eq_of_mem_set member with old | rfl
          · exact sound tracked old
          · exact sound_apply (sound here (List.mem_of_getElem? found)) operation session
  | clone copy =>
      intro tracked member
      rcases List.mem_append.mp member with old | new
      · exact sound tracked old
      · exact sound tracked (List.mem_of_getElem? (Option.mem_toList.mp new))

/-- All copies agree with their logs after every run. -/
theorem sound_run {copies : List (Tracked schema)} (sound : ∀ tracked ∈ copies, tracked.Sound)
    (actions : List Action) (session : Session) :
    ∀ tracked ∈ (run actions copies session).1, tracked.Sound := by
  induction actions generalizing copies session with
  | nil => exact sound
  | cons action actions ih => exact ih (sound_perform sound action session) _

/-! ## A walk is a reset and its hand-outs -/

/-- The hand-outs of a walk over a table. -/
def handOuts (table : Bytes) (start : Nat) : List Operation :=
  (outline table start).slices.map fun slice =>
    .dispatch structureIndent slice.bytes slice.offset slice.typeCode (none, none)

theorem applyAll_dispatches (slices : List Slice) (tracked : Tracked schema) :
    Tracked.applyAll (slices.map fun slice => .dispatch structureIndent slice.bytes slice.offset
        slice.typeCode (none, none)) tracked =
      handOut slices tracked.census >>= fun census =>
        return ⟨census, ((slices.map Slice.typeCode).foldl Tracked.note tracked).log⟩ := by
  induction slices generalizing tracked with
  | nil => rfl
  | cons slice slices ih =>
      funext session
      have handed := Census.dispatch_census tracked.census structureIndent slice.bytes
        slice.offset slice.typeCode (none, none) session
      simp only [List.map_cons, Tracked.applyAll, Tracked.apply, handOut, bind_apply, pure_apply,
        ih, handed, List.foldl_cons]
      rfl

theorem apply_walk (tracked : Tracked schema) (table : Bytes) (start : Nat) :
    tracked.apply (.walk table start) = (do
      let reset ← tracked.apply .reset
      let handed ← Tracked.applyAll (handOuts table start) reset
      let (_, census) ← conclude table (outline table start).stop (outline table start).status
        handed.census
      return ⟨census, handed.log⟩) := by
  simp only [Tracked.apply, handOuts, applyAll_dispatches, walk_eq_handOut, pure_bind, bind_assoc]
  rfl

/-! ## What one hand-out does -/

namespace Census

theorem dispatch_of_known {census : Census schema} {code index : UInt32} {kind : Kind}
    (known : schema.kinds[code.toNat]? = some kind) (before : census.count? code = some index)
    (indent : UInt64) (data : Bytes) (offset : Nat)
    (arguments : Option Argument × Option Argument) :
    census.dispatch indent data offset code arguments = (do
      fieldLabel indent "* Offset *"
      print (NumberFormat.hex.numeral offset ++ "\n")
      let supported ← decodeKind kind index indent arguments data
      return (supported, census.counted code)) := by
  obtain ⟨inside, rfl⟩ := List.getElem?_eq_some_iff.mp known
  obtain ⟨_, rfl⟩ := Vector.getElem?_eq_some_iff.mp before
  simp only [dispatch, counted, dif_pos inside]

theorem dispatch_of_unknown {census : Census schema} {code : UInt32}
    (unknown : schema.kinds[code.toNat]? = none) (indent : UInt64) (data : Bytes) (offset : Nat)
    (arguments : Option Argument × Option Argument) :
    census.dispatch indent data offset code arguments = (do
      fieldLabel indent "* Offset *"
      print (NumberFormat.hex.numeral offset ++ "\n")
      error (Fault.message (.unknownCode schema.name code))
      return (false, census)) := by
  have outside : ¬ code.toNat < schema.kinds.length :=
    Nat.not_lt.mpr (List.getElem?_eq_none_iff.mp unknown)
  simp only [dispatch, dif_neg outside]

theorem dispatch_answer (census : Census schema) (indent : UInt64) (data : Bytes) (offset : Nat)
    (code : UInt32) (arguments : Option Argument × Option Argument) (session : Session) :
    (census.dispatch indent data offset code arguments session).1.1 = true ↔
      ∃ kind, schema.kinds[code.toNat]? = some kind ∧ kind.method ≠ .unsupported := by
  cases found : schema.kinds[code.toNat]? with
  | none =>
      rw [dispatch_of_unknown found]
      exact iff_of_false nofun nofun
  | some kind =>
      obtain ⟨inside, _⟩ := List.getElem?_eq_some_iff.mp found
      have before : census.count? code = some census.counts[code.toNat] :=
        Vector.getElem?_eq_getElem inside
      rw [dispatch_of_known found before]
      refine (decodeKind_value kind _ indent arguments data _).trans ?_
      constructor
      · intro supported
        exact ⟨kind, rfl, supported⟩
      · rintro ⟨_, same, supported⟩
        cases same
        exact supported

end Census

/-- **Counts over whole runs.**  On every copy that a run works on, a code has a count exactly
when it is known, and the count is the saturated number of structures of the code since the last
reset; their indices are 0, 1, 2 and so on.  A hand-out counts its own code only, answers
whether the code is known and supported, and shows the count before it in the title of a record
or passes it to a decoder of its own.  A walk is a reset followed by its hand-outs, so nothing
from before it is left. -/
theorem counts_over_runs (schema : Schema) :
    (∀ (actions : List Action) (session : Session),
      ∀ tracked ∈ (run actions [Tracked.fresh schema] session).1, ∀ code,
        (tracked.census.count? code).map UInt32.toNat =
          (if code.toNat < schema.kinds.length then
            some (min (0xFFFFFFFF) (tracked.occurrences code))
          else none) ∧
        (code.toNat < schema.kinds.length →
          (tracked.indices code).map (Option.map UInt32.toNat) =
            (List.range (tracked.occurrences code)).map
              fun index => some (min (0xFFFFFFFF) index))) ∧
    (∀ (tracked : Tracked schema) indent data offset code arguments session,
      let handed := tracked.census.dispatch indent data offset code arguments session
      tracked.apply (.dispatch indent data offset code arguments) session =
        (⟨handed.1.2, tracked.log ++ [(code, tracked.census.count? code)]⟩, handed.2) ∧
      (∀ other ≠ code, handed.1.2.count? other = tracked.census.count? other) ∧
      (handed.1.1 = true ↔
        ∃ kind, schema.kinds[code.toNat]? = some kind ∧ kind.method ≠ .unsupported)) ∧
    (∀ (census : Census schema) code kind index, schema.kinds[code.toNat]? = some kind →
      census.count? code = some index → ∀ indent data offset arguments,
        (∀ fields, kind.method = .record fields →
          census.dispatch indent data offset code arguments = (do
            fieldLabel indent "* Offset *"
            print (NumberFormat.hex.numeral offset ++ "\n")
            let _ ← Record.decode true indent (some (title kind.name index)) data fields
            return (true, census.counted code))) ∧
        (∀ decoder, kind.method = .custom decoder →
          census.dispatch indent data offset code arguments = (do
            fieldLabel indent "* Offset *"
            print (NumberFormat.hex.numeral offset ++ "\n")
            decoder ⟨kind.name, index, indent, arguments⟩ data
            return (true, census.counted code)))) ∧
    ∀ (tracked : Tracked schema) table start,
      tracked.apply (.walk table start) = (do
        let reset ← tracked.apply .reset
        let handed ← Tracked.applyAll (handOuts table start) reset
        let (_, census) ← conclude table (outline table start).stop (outline table start).status
          handed.census
        return ⟨census, handed.log⟩) := by
  refine ⟨fun actions session tracked member code => ?_,
    fun tracked indent data offset code arguments session => ⟨rfl, fun other ne => ?_, ?_⟩,
    fun census code kind index known before indent data offset arguments => ⟨?_, ?_⟩, apply_walk⟩
  · have start : ∀ copy ∈ [Tracked.fresh schema], copy.Sound := by
      intro copy there
      rw [List.mem_singleton.mp there]
      exact Tracked.Sound.fresh
    have sound := sound_run start actions session tracked member
    exact ⟨sound.toNat_count? code, sound.toNat_indices⟩
  · rw [Census.dispatch_census]
    exact Census.count?_counted_of_ne ne.symm
  · exact Census.dispatch_answer ..
  · intro fields method
    rw [Census.dispatch_of_known known before, Census.decodeKind, method]
    simp only [bind_assoc, pure_bind]
  · intro decoder method
    rw [Census.dispatch_of_known known before, Census.decodeKind, method]
    simp only [bind_assoc, pure_bind]

/-- A run that hands out two caches counts both and shows them with the indices 0 and 1.  Behind it
a node would be decoded as the first of its code, and a cache shown as the third. -/
theorem counts_over_runs_of_two_caches :
    let schema := ProcessorTopology.schema
    let cache : Action := .on 0 (.dispatch structureIndent [1, 2] 36 1 (none, none))
    let tracked := ((Tracked.fresh schema).note 1).note 1
    let counted := tracked.census
    (run [cache, cache] [Tracked.fresh schema] (.start .default)).1 = [tracked] ∧
    ((counted.count? 1).map UInt32.toNat = some 2 ∧
      (tracked.indices 1).map (Option.map UInt32.toNat) = [some 0, some 1]) ∧
    ∀ indent data offset arguments,
      counted.dispatch indent data offset 0 arguments = (do
        fieldLabel indent "* Offset *"
        print (NumberFormat.hex.numeral offset ++ "\n")
        ProcessorTopology.decodeProcessor ⟨"Processor", 0, indent, arguments⟩ data
        return (true, counted.counted 0)) ∧
      counted.dispatch indent data offset 1 arguments = (do
        fieldLabel indent "* Offset *"
        print (NumberFormat.hex.numeral offset ++ "\n")
        let _ ← Record.decode true indent (some (title "Cache" 2)) data
          ProcessorTopology.cacheFields
        return (true, counted.counted 1)) := by
  intro schema cache tracked counted
  obtain ⟨counts, _, handed, _⟩ := counts_over_runs schema
  have ran : (run [cache, cache] [Tracked.fresh schema] (.start .default)).1 = [tracked] := by
    simp only [run, perform, bind_apply, pure_apply, cache, apply_dispatch_value,
      List.getElem?_cons_zero, List.set_cons_zero, tracked]
  have member : tracked ∈ (run [cache, cache] [Tracked.fresh schema] (.start .default)).1 :=
    ran ▸ List.mem_singleton_self tracked
  obtain ⟨count, indices⟩ := counts _ _ tracked member 1
  have nodes : counted.count? 0 = some 0 := rfl
  have caches : counted.count? 1 = some 2 := rfl
  refine ⟨ran, ⟨count, indices (by decide)⟩, fun indent data offset arguments => ⟨?_, ?_⟩⟩
  · exact (handed counted 0 _ 0 rfl nodes indent data offset arguments).2 _ rfl
  · exact (handed counted 1 _ 2 rfl caches indent data offset arguments).1 _ rfl

end Structure

end AcpiTables
