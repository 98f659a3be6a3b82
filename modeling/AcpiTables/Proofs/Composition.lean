import AcpiTables.Proofs.CensusTallies
import AcpiTables.Proofs.Confined
import AcpiTables.Proofs.OrderlyTables
import AcpiTables.Proofs.Patches
import Mathlib.Data.List.Induction

/-!
# A walk is composed of independent hand-outs

All structures of a walk are handed out in one session and on one census, so what one of them does
could show in what comes after it.  It does not, if the schema is confined: if the decoders,
renderers and checks in it read nothing of the session but its scope.  The schemas of the library
are confined (`InterruptController.confined_schema`, `ProcessorTopology.confined_schema`).

`Slice.part` is what handing out a structure does alone, in a bare session.  Of the census only
the count of the structure's own kind matters (`dispatch_session_congr`), and that is the number of
structures of the kind before it.  So a walk does what its structures do alone, one behind the
other, and then ends (`walk_eq_absorbAll`).  Two tables that differ only inside one structure then
differ only in what that structure does (`walk_of_differsInside`).
-/

namespace AcpiTables

set_option autoImplicit false

open Decoder

/-- A session that goes on from another one: what was emitted and counted in the parts, one behind
the other, is added to what was there.  Counts stay at the largest word. -/
structure Session.ExtendedBy (session : Session) (parts : List Session) (later : Session) :
    Prop where
  scope : later.scope = session.scope
  emits : later.emits = session.emits ++ parts.flatMap Session.emits
  errors : later.counters.errors.toNat = min (0xFFFFFFFF) (session.counters.errors.toNat +
    (parts.map fun part => part.counters.errors.toNat).sum)
  warnings : later.counters.warnings.toNat = min (0xFFFFFFFF) (session.counters.warnings.toNat +
    (parts.map fun part => part.counters.warnings.toNat).sum)

theorem Session.extendedBy_absorbAll (session : Session) (parts : List Session) :
    session.ExtendedBy parts (session.absorbAll parts) where
  scope := scope_absorbAll session parts
  emits := emits_absorbAll session parts
  errors := by rw [counters_absorbAll, Counters.toNat_errors_plus]
  warnings := by rw [counters_absorbAll, Counters.toNat_warnings_plus]

theorem Field.Confined.of_speaks {field : Field} {raw : Prop} (speaks : field.Speaks raw) :
    field.Confined := by
  obtain ⟨renderer, check⟩ := speaks.calls Confined.inherited
  exact ⟨renderer, check⟩

namespace Structure

variable {schema : Schema}

/-! ## Confined schemas -/

/-- A kind whose renderers and checks, or whose own decoder, are confined. -/
def Kind.Confined (kind : Kind) : Prop :=
  match kind.method with
  | .record fields => ∀ field ∈ fields, field.Confined
  | .custom decoder => ∀ (index : UInt32) (indent : UInt64)
      (arguments : Option Argument × Option Argument) (data : Bytes),
      Decoder.Confined (decoder ⟨kind.name, index, indent, arguments⟩ data)
  | .unsupported => True

/-- A schema of confined kinds. -/
def Schema.Confined (schema : Schema) : Prop := ∀ kind ∈ schema.kinds, kind.Confined

/-- A kind is confined if what it brings along is. -/
theorem Kind.confined_iff {kind : Kind} : kind.Confined ↔ kind.Calls Decoder.Confined := by
  unfold Kind.Confined Kind.Calls
  cases kind.method with
  | record fields =>
      exact forall₂_congr fun field _ => ⟨Field.Confined.calls, fun calls => ⟨calls.1, calls.2⟩⟩
  | custom decoder => exact Iff.rfl
  | unsupported => exact Iff.rfl

theorem confined_dispatch (confined : schema.Confined) (census : Census schema) (indent : UInt64)
    (data : Bytes) (offset : Nat) (code : UInt32)
    (arguments : Option Argument × Option Argument) :
    Confined (census.dispatch indent data offset code arguments) :=
  Confined.inherited.dispatch (fun kind there => Kind.confined_iff.mp (confined kind there)) census
    indent data offset code arguments

theorem confined_conclude (table : Bytes) (stop : Nat) (status : WalkStatus)
    (census : Census schema) : Confined (conclude table stop status census) := by
  unfold conclude
  split
  · exact Confined.inherited.finish census
  · exact Confined.inherited.bind_pure _ (Confined.inherited.error _)

/-! ## The part of one structure -/

/-- What handing out a structure does alone: the bare session of a scope behind it. -/
def Slice.part (slice : Slice) (scope : Scope) (census : Census schema) : Session :=
  (census.dispatch structureIndent slice.bytes slice.offset slice.typeCode (none, none)
    (.bare scope)).2

/-- Of the census only the count of the structure's own kind matters. -/
theorem dispatch_session_congr {census other : Census schema} {code : UInt32}
    (counted : code.toNat < schema.kinds.length → census.count? code = other.count? code)
    (indent : UInt64) (data : Bytes) (offset : Nat)
    (arguments : Option Argument × Option Argument) (session : Session) :
    (census.dispatch indent data offset code arguments session).2 =
      (other.dispatch indent data offset code arguments session).2 := by
  cases found : schema.kinds[code.toNat]? with
  | none => rw [Census.dispatch_of_unknown found, Census.dispatch_of_unknown found]; rfl
  | some kind =>
      obtain ⟨known, _⟩ := List.getElem?_eq_some_iff.mp found
      have before : census.count? code = some census.counts[code.toNat] :=
        Vector.getElem?_eq_getElem known
      rw [Census.dispatch_of_known found before,
        Census.dispatch_of_known found ((counted known).symm.trans before)]
      rfl

/-- Censuses for structures handed out in order: the one for a structure has, as the count of its
kind, the number of structures of the kind before it. -/
def CountsBefore (slices : List Slice) (stage : Nat → Census schema) : Prop :=
  ∀ index slice, slices[index]? = some slice → slice.typeCode.toNat < schema.kinds.length →
    (stage index).count? slice.typeCode =
      some (saturate32 (((slices.take index).map Slice.typeCode).count slice.typeCode))

/-- The censuses that a walk goes through are such. -/
theorem countsBefore_ofCodes (slices : List Slice) :
    CountsBefore slices fun index =>
      Census.ofCodes schema ((slices.take index).map Slice.typeCode) :=
  fun _ _ _ known => count?_ofCodes _ known

theorem CountsBefore.init {slices : List Slice} {last : Slice} {stage : Nat → Census schema}
    (counted : CountsBefore (slices ++ [last]) stage) : CountsBefore slices stage := by
  intro index slice here known
  obtain ⟨inside, _⟩ := List.getElem?_eq_some_iff.mp here
  have found : (slices ++ [last])[index]? = some slice := by
    rw [List.getElem?_append_left inside, here]
  rw [counted index slice found known, List.take_append_of_le_length (Nat.le_of_lt inside)]

/-- What handing out structures does: the parts of all of them, in order. -/
def parts (scope : Scope) (slices : List Slice) (stage : Nat → Census schema) : List Session :=
  slices.mapIdx fun index slice => slice.part scope (stage index)

theorem parts_concat (scope : Scope) (slices : List Slice) (last : Slice)
    (stage : Nat → Census schema) : parts scope (slices ++ [last]) stage =
      parts scope slices stage ++ [last.part scope (stage slices.length)] :=
  List.mapIdx_concat

theorem handOut_append (first second : List Slice) (census : Census schema) :
    handOut (first ++ second) census = handOut first census >>= handOut second := by
  induction first generalizing census with
  | nil => rfl
  | cons slice first ih =>
      rw [List.cons_append, handOut, handOut, bind_assoc]
      exact congrArg _ (funext fun handed => ih handed.2)

/-- **Structures handed out one after another do what each of them does alone.** -/
theorem handOut_eq_absorbAll (confined : schema.Confined) {slices : List Slice}
    {stage : Nat → Census schema} (counted : CountsBefore slices stage) (session : Session) :
    (handOut slices (.zero schema) session).2 =
      session.absorbAll (parts session.scope slices stage) := by
  -- The census for the last structure is made by the others, so it is taken off the end.
  induction slices using List.reverseRecOn with
  | nil => rfl
  | append_singleton slices last ih =>
      let census := (handOut slices (.zero schema) session).1
      have early := ih counted.init
      have codes : census = Census.ofCodes schema (slices.map Slice.typeCode) :=
        handOut_census slices _ session
      have same : last.typeCode.toNat < schema.kinds.length →
          census.count? last.typeCode = (stage slices.length).count? last.typeCode := by
        intro known
        have here : (slices ++ [last])[slices.length]? = some last := List.getElem?_concat_length
        rw [codes, count?_ofCodes _ known, counted slices.length last here known,
          List.take_left]
      have handed : (handOut (slices ++ [last]) (.zero schema) session).2 =
          (census.dispatch structureIndent last.bytes last.offset last.typeCode (none, none)
            (handOut slices (.zero schema) session).2).2 := by
        rw [handOut_append]
        rfl
      rw [handed, (confined_dispatch confined census _ _ _ _ _).session_eq, early,
        Session.scope_absorbAll, dispatch_session_congr same, parts_concat,
        Session.absorbAll_concat]
      rfl

/-! ## The end of a walk -/

/-- The census that a walk ends with: every structure is counted. -/
def lastCensus (schema : Schema) (table : Bytes) (start : Nat) : Census schema :=
  .ofCodes schema ((outline table start).slices.map Slice.typeCode)

/-- What the end of a walk does alone: the error of an early end, or the validation of the census
if consistency is checked. -/
def ending (schema : Schema) (scope : Scope) (table : Bytes) (start : Nat) : Session :=
  match faultAt schema table (outline table start).stop (outline table start).status with
  | some fault => (error fault.message (.bare scope)).2
  | none =>
      if scope.config.consistency then ((lastCensus schema table start).validate (.bare scope)).2
      else .bare scope

theorem conclude_bare (scope : Scope) (table : Bytes) (start : Nat) :
    (conclude table (outline table start).stop (outline table start).status
      (lastCensus schema table start) (.bare scope)).2 = ending schema scope table start := by
  cases found : faultAt schema table (outline table start).stop (outline table start).status with
  | some fault =>
      rw [conclude, ending, found]
      rfl
  | none =>
      rw [conclude, ending, found]
      dsimp only
      rw [finish, bind_apply, pure_apply, whenChecking]
      by_cases checked : scope.config.consistency = true
      · rw [if_pos checked]
        exact congrArg Prod.snd (if_pos checked)
      · rw [if_neg checked]
        exact congrArg Prod.snd (if_neg checked)

/-- The value of a walk: how it ended, and a census in which every structure is counted. -/
theorem walk_value (table : Bytes) (start : Nat) (session : Session) :
    (walk schema table start session).1 =
      ((outline table start).status, lastCensus schema table start) := by
  rw [walk_eq_handOut, bind_apply, conclude_value, handOut_census]
  rfl

/-- **A walk does what its structures do alone and then ends.** -/
theorem walk_eq_absorbAll (confined : schema.Confined) {table : Bytes} {start : Nat}
    {stage : Nat → Census schema} (counted : CountsBefore (outline table start).slices stage)
    (session : Session) :
    (walk schema table start session).2 = session.absorbAll
      (parts session.scope (outline table start).slices stage ++
        [ending schema session.scope table start]) := by
  have handed := handOut_eq_absorbAll confined counted session
  have codes : (handOut (outline table start).slices (.zero schema) session).1 =
      lastCensus schema table start := handOut_census _ _ session
  rw [walk_eq_handOut, bind_apply, codes, handed, (confined_conclude _ _ _ _).session_eq,
    Session.scope_absorbAll, conclude_bare, Session.absorbAll_concat]

/-! ## Tables that differ inside one structure -/

section Differs

variable {table other : Bytes} {start index : Nat} {slice : Slice}
  {stage : Nat → Census schema}

theorem map_typeCode_set (other : Bytes) (slices : List Slice)
    (here : slices[index]? = some slice) :
    (slices.set index (slice.within other)).map Slice.typeCode = slices.map Slice.typeCode := by
  obtain ⟨inside, rfl⟩ := List.getElem?_eq_some_iff.mp here
  rw [List.map_set]
  refine List.ext_getElem (by simp) fun position _ there => ?_
  rw [List.getElem_set]
  split
  · rename_i same
    subst same
    rw [List.getElem_map]
    rfl
  · rfl

/-- The structures before and behind are counted alike in both tables. -/
theorem CountsBefore.set {slices : List Slice} (counted : CountsBefore slices stage)
    (here : slices[index]? = some slice) :
    CountsBefore (slices.set index (slice.within other)) stage := by
  intro position found there known
  have codes := map_typeCode_set other slices here
  have code : (slices.map Slice.typeCode)[position]? = some found.typeCode := by
    rw [← codes, List.getElem?_map, there, Option.map_some]
  obtain ⟨original, foundOriginal, same⟩ := Option.map_eq_some_iff.mp
    ((List.getElem?_map ..).symm.trans code)
  rw [← same] at known ⊢
  rw [counted position original foundOriginal known, List.map_take, List.map_take, codes]

theorem lastCensus_of_differsInside (here : (outline table start).slices[index]? = some slice)
    (differs : DiffersInside slice table other) :
    lastCensus schema other start = lastCensus schema table start := by
  rw [lastCensus, outline_of_differsInside here differs]
  exact congrArg _ (map_typeCode_set other _ here)

theorem ending_of_differsInside (here : (outline table start).slices[index]? = some slice)
    (differs : DiffersInside slice table other) (scope : Scope) :
    ending schema scope other start = ending schema scope table start := by
  have framed : Framed table start (outline table start).slices (outline table start).stop :=
    framed_outlineFrom start _ rfl
  have behind := framed.le_stop_of_mem.2 slice (List.mem_of_getElem? here)
  have next : other.getD ((outline table start).stop + 1) 0 =
      table.getD ((outline table start).stop + 1) 0 := by
    rw [List.getD_eq_getElem?_getD, List.getD_eq_getElem?_getD,
      differs.outside _ (.inr (by omega))]
  have fault : faultAt schema other (outline table start).stop (outline table start).status =
      faultAt schema table (outline table start).stop (outline table start).status := by
    unfold faultAt
    split
    · rfl
    · rw [differs.length]
    · rw [next, differs.length]
  rw [ending, ending, lastCensus_of_differsInside here differs,
    outline_of_differsInside here differs, fault]

/-- **A structure that differs changes nothing but its own part.** -/
theorem walk_of_differsInside (confined : schema.Confined)
    (counted : CountsBefore (outline table start).slices stage)
    (here : (outline table start).slices[index]? = some slice)
    (differs : DiffersInside slice table other) (session : Session) :
    (walk schema other start session).2 = session.absorbAll
      ((parts session.scope (outline table start).slices stage).set index
          ((slice.within other).part session.scope (stage index)) ++
        [ending schema session.scope table start]) := by
  have outlined := outline_of_differsInside here differs
  have countedOther : CountsBefore (outline other start).slices stage := by
    rw [outlined]
    exact counted.set here
  have set : parts session.scope (outline other start).slices stage =
      (parts session.scope (outline table start).slices stage).set index
        ((slice.within other).part session.scope (stage index)) := by
    rw [outlined, parts, parts, List.mapIdx_set]
  rw [walk_eq_absorbAll confined countedOther, set, ending_of_differsInside here differs]

end Differs

end Structure

/-! ## The schemas of the library -/

theorem InterruptController.confined_schema : schema.Confined := fun kind there =>
  Structure.Kind.confined_iff.mpr (calls_kinds Confined.inherited kind there)

theorem ProcessorTopology.confined_schema : schema.Confined := fun kind there =>
  Structure.Kind.confined_iff.mpr (calls_kinds Confined.inherited kind there)

/-! ## The composition of a walk -/

namespace Structure

/-- **A walk is composed of independent hand-outs.**  With a schema that reads nothing of the
session but its scope, a walk does what handing out its structures does alone, on censuses that
count the structures before them, and then what its end does alone.  A table that differs only
inside one structure differs only in the part of that structure. -/
theorem walk_is_composed {schema : Schema} (confined : schema.Confined) (table : Bytes)
    (start : Nat) {stage : Nat → Census schema}
    (counted : CountsBefore (outline table start).slices stage) (session : Session) :
    let alone := (outline table start).slices.mapIdx fun index slice =>
      slice.part session.scope (stage index)
    let last := ending schema session.scope table start
    (walk schema table start session).1 =
      ((outline table start).status, lastCensus schema table start) ∧
    session.ExtendedBy (alone ++ [last]) (walk schema table start session).2 ∧
    ∀ (other : Bytes) (index : Nat) (slice : Slice),
      (outline table start).slices[index]? = some slice → DiffersInside slice table other →
        outline other start = { outline table start with
          slices := (outline table start).slices.set index (slice.within other) } ∧
        (walk schema other start session).1 = (walk schema table start session).1 ∧
        session.ExtendedBy
          (alone.set index ((slice.within other).part session.scope (stage index)) ++ [last])
          (walk schema other start session).2 := by
  intro alone last
  refine ⟨walk_value table start session, ?_, fun other index slice here differs => ⟨?_, ?_, ?_⟩⟩
  · rw [walk_eq_absorbAll confined counted]
    exact session.extendedBy_absorbAll _
  · exact outline_of_differsInside here differs
  · rw [walk_value, walk_value, lastCensus_of_differsInside here differs,
      outline_of_differsInside here differs]
  · rw [walk_of_differsInside confined counted here differs]
    exact session.extendedBy_absorbAll _

/-- A processor node that is too short, with other bytes inside, in front of a cache. -/
theorem walk_is_composed_of_two :
    (walk ProcessorTopology.schema [0, 4, 9, 9, 1, 3, 7] 0 (.start .default)).1 =
      (walk ProcessorTopology.schema [0, 4, 0, 0, 1, 3, 7] 0 (.start .default)).1 := by
  have sized : ∀ bytes ∈ [[0, 4, 0, 0], [1, 3, 7]], SelfSized bytes := by decide
  have here : (outline [0, 4, 0, 0, 1, 3, 7] 0).slices[0]? = some ⟨0, 0, [0, 4, 0, 0]⟩ :=
    congrArg (fun outlined => outlined.slices[0]?) (outlineFrom_flatten sized 0)
  have differs : DiffersInside ⟨0, 0, [0, 4, 0, 0]⟩ [0, 4, 0, 0, 1, 3, 7]
      [0, 4, 9, 9, 1, 3, 7] := by
    refine ⟨rfl, fun position outside => ?_⟩
    match position, outside with
    | 0, _ | 1, _ => rfl
    | 2, far | 3, far => exact absurd far (by decide)
    | _ + 4, _ => rfl
  exact ((walk_is_composed ProcessorTopology.confined_schema [0, 4, 0, 0, 1, 3, 7] 0
    (countsBefore_ofCodes _) (.start .default)).2.2 _ 0 _ here differs).2.1

end Structure

end AcpiTables
