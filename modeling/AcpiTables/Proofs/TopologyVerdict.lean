import AcpiTables.ProcessorTopology
import AcpiTables.Proofs.CensusTallies
import AcpiTables.Proofs.WholeTables

/-!
# The verdict on a table of processor topology

The errors and warnings of decoding such a table are a function of its structures: those of
unknown kinds, the processor nodes that cannot hold their private resources, the wrong values of
caches, and the kinds found when the target allows no architecture.

A processor node may end anywhere.  Its fields never get narrower, so a short node counts nothing
by itself and is refused once (`counts_decodeProcessor`).  A cache has four checked values, of
which two are bounded on Arm targets only; their tallies add up to `cacheErrors` and one warning
(`counts_cache`).  The walk adds these up (`sum_structureTally`), and its census decides the rest
(`counts_decode`).
-/

namespace AcpiTables

set_option autoImplicit false

namespace ProcessorTopology

open Decoder Structure

variable {config : Config}

/-! ## The layouts -/

theorem wellLaid_fields : Record.WellLaid fields 36 := Header.wellLaid_fields

theorem wellLaid_processorFields : Record.WellLaid processorFields 20 where
  consistent := by decide
  width := rfl
  shown := by simp [processorFields, Field.decimal, Field.hex, isIntegerWidth]

theorem wellLaid_cacheFields : Record.WellLaid cacheFields 24 where
  consistent := by decide
  width := rfl
  shown := by simp [cacheFields, Field.decimal, Field.hex, isIntegerWidth]

theorem wellLaid_identityFields : Record.WellLaid identityFields 30 where
  consistent := by decide
  width := rfl
  shown := by simp [identityFields, Field.decimal, Field.hex, isIntegerWidth]

theorem pairwise_width_processorFields :
    processorFields.Pairwise fun earlier later => earlier.width ≤ later.width := by
  decide

/-! ## Processor nodes -/

/-- Whether bytes end before the number of private resources of a processor node, or behind it
before the end of that many references. -/
def lacksResources (bytes : Bytes) : Bool :=
  bytes.length < 20 || bytes.length - 20 < (bytes.number? 16 4).getD 0 * 4

theorem counts_showReferences (index count : Nat) (bytes : Bytes) :
    Counts (showReferences index count bytes) config () 0 := by
  induction count generalizing index bytes with
  | zero => exact Counts.pure ()
  | succ count ih =>
      refine (Counts.fieldLabel _ _).quiet_bind ((Counts.print _).quiet_bind ?_)
      exact ih (index + 1) (bytes.drop referenceSize)

theorem counts_processorFields (indent : UInt64) (title : Option String) (bytes : Bytes) :
    Counts (Record.decode true indent title bytes processorFields) config
      (Record.reading bytes processorFields) 0 := by
  refine Record.counts_decode_of_widening wellLaid_processorFields.consistent
    pairwise_width_processorFields wellLaid_processorFields.shown ?_
  simp [processorFields, Field.isChecked, Field.hex, Field.decimal, Field.integer,
    Field.labelled, Field.kept]

/-- A node of fewer than twenty bytes has no number of private resources. -/
theorem resourceCount_of_short {bytes : Bytes} (short : bytes.length < 20) :
    (Record.reading bytes processorFields).number? resourceCountIndex 4 = none := by
  have split : processorFields = processorFields.dropLast ++
      [(Field.decimal "Number of private resources" 4 16).kept] := rfl
  have missing : (Record.places 0 bytes processorFields)[6]? = some none := by
    rw [split]
    refine Record.places_last_of_short (split ▸ pairwise_width_processorFields) ?_
    rw [← split, wellLaid_processorFields.width]
    exact short
  have here : processorFields[6]? =
      some (Field.decimal "Number of private resources" 4 16).kept := rfl
  simp [Reading.number?, Reading.capture?, Record.reading, Record.readingFrom, resourceCountIndex,
    List.getElem?_zipWith, missing, here, Record.keep]

theorem resourceCount_of_whole {bytes : Bytes} (whole : 20 ≤ bytes.length) :
    (Record.reading bytes processorFields).number? resourceCountIndex 4 =
      bytes.number? 16 4 := by
  have here : processorFields[resourceCountIndex]? =
      some (Field.decimal "Number of private resources" 4 16).kept := rfl
  exact wellLaid_processorFields.number? whole here rfl whole

/-- **A processor node counts one error if it lacks its private resources**, and else nothing. -/
theorem counts_decodeProcessor (call : Call) (bytes : Bytes) :
    Counts (decodeProcessor call bytes) config ()
      (if lacksResources bytes then .oneError else 0) := by
  unfold decodeProcessor
  refine (counts_processorFields _ _ bytes).quiet_bind ?_
  by_cases short : bytes.length < 20
  · have lacks : lacksResources bytes = true := by
      simp [lacksResources, short]
    rw [resourceCount_of_short short, lacks]
    exact Counts.error _
  · have whole : 20 ≤ bytes.length := Nat.not_lt.mp short
    have consumed : (Record.reading bytes processorFields).consumed = 20 :=
      wellLaid_processorFields.consumed whole
    obtain ⟨count, number⟩ : ∃ count, bytes.number? 16 4 = some count :=
      Bytes.exists_number? whole
    have lacks : lacksResources bytes = decide (bytes.length - 20 < count * 4) := by
      simp [lacksResources, number, short]
    rw [resourceCount_of_whole whole, number, consumed, lacks]
    dsimp only
    rw [List.length_drop, referenceSize, Nat.mul_comm 4]
    by_cases fits : count * 4 ≤ bytes.length - 20
    · rw [if_pos fits, decide_eq_false (Nat.not_lt.mpr fits)]
      exact counts_showReferences 0 count _
    · rw [if_neg fits, decide_eq_true (Nat.not_le.mp fits)]
      exact Counts.error _

/-! ## Caches -/

/-- Whether a cache line has a size that Arm allows. -/
def isArmLine (size : Nat) : Bool := 16 ≤ size && size ≤ 2048 && decide size.isPowerOfTwo

/-- What the check of the number of sets counts, if there is a number. -/
def setsTally (target : ArchitectureSet) : Option Nat → Tally
  | none => 0
  | some sets =>
      if sets = 0 then .oneError
      else if target.isArm then
        if 2 ^ 24 < sets then .oneError else if 2 ^ 15 < sets then .oneWarning else 0
      else 0

/-- What the check of the line size counts, if there is one. -/
def lineTally (target : ArchitectureSet) : Option Nat → Tally
  | none => 0
  | some size => if target.isArm ∧ ¬isArmLine size then .oneError else 0

theorem counts_onArm {check : Decoder Unit} {tally : Tally}
    (checked : Counts check config () tally) :
    Counts (onArm check) config () (if config.target.isArm then tally else 0) := by
  refine Counts.scope_bind fun scope within => ?_
  subst within
  split
  · exact checked
  · exact Counts.pure ()

theorem counts_checkSets (bytes : Bytes) (argument : Option Argument) :
    Counts (checkSets bytes argument) config () (setsTally config.target (bytes.number? 0 4)) := by
  unfold checkSets
  cases bytes.number? 0 4 with
  | none => exact Counts.pure ()
  | some sets =>
      dsimp only [setsTally]
      split
      · exact Counts.error _
      · refine counts_onArm ?_
        change Counts (if 2 ^ 24 < sets then _ else if 2 ^ 15 < sets then _ else _) config () _
        split
        · exact Counts.error _
        · split
          · exact Counts.warning _
          · exact Counts.pure ()

theorem counts_checkAssociativity (bytes : Bytes) (argument : Option Argument) :
    Counts (checkAssociativity bytes argument) config ()
      (if bytes.head? = some 0 then .oneError else 0) := by
  cases bytes with
  | nil => exact Counts.pure ()
  | cons ways rest =>
      simp only [checkAssociativity, List.head?_cons, Option.some.injEq]
      split
      · exact Counts.error _
      · exact Counts.pure ()

theorem counts_checkAttributes (bytes : Bytes) (argument : Option Argument) :
    Counts (checkAttributes bytes argument) config ()
      (if bytes.headD 0 &&& 0xE0 ≠ 0 then .oneError else 0) := by
  rw [ite_not]
  cases bytes with
  | nil => exact Counts.pure ()
  | cons attributes rest =>
      change Counts (if attributes &&& 0xE0 = 0 then _ else _) config ()
        (if attributes &&& 0xE0 = 0 then _ else _)
      split
      · exact Counts.pure ()
      · exact Counts.error _

/-- Up to the largest line on Arm, the powers of two below `2 ^ 16` are all powers of two. -/
theorem isPowerOfTwo_eq {size : Nat} (bound : size ≤ 2048) :
    isPowerOfTwo size = decide size.isPowerOfTwo := by
  rw [Bool.eq_iff_iff, decide_eq_true_iff, isPowerOfTwo, List.any_eq_true]
  constructor
  · rintro ⟨exponent, _, same⟩
    rw [beq_iff_eq, Nat.one_shiftLeft] at same
    exact ⟨exponent, same⟩
  · rintro ⟨exponent, same⟩
    have small : exponent < 16 := by
      have least : 2 ^ exponent < 2 ^ 16 := by omega
      exact (Nat.pow_lt_pow_iff_right (by decide)).mp least
    refine ⟨exponent, List.mem_range.mpr small, ?_⟩
    rw [beq_iff_eq, Nat.one_shiftLeft, same]

theorem counts_checkLineSize (bytes : Bytes) (argument : Option Argument) :
    Counts (checkLineSize bytes argument) config ()
      (lineTally config.target (bytes.number? 0 2)) := by
  unfold checkLineSize
  cases bytes.number? 0 2 with
  | none =>
      rw [lineTally, ← ite_self (c := config.target.isArm = true) (0 : Tally)]
      exact counts_onArm (Counts.pure ())
  | some size =>
      rw [lineTally, ite_and]
      refine counts_onArm ?_
      dsimp only
      by_cases outside : size < lineSizeMin ∨ lineSizeMax < size
      · have wrong : isArmLine size = false := by
          simp only [lineSizeMin, lineSizeMax] at outside
          simp only [isArmLine, Bool.and_eq_false_iff, decide_eq_false_iff_not]
          omega
        rw [if_pos outside, wrong]
        exact Counts.error _
      · have inside : 16 ≤ size ∧ size ≤ 2048 := by
          simp only [lineSizeMin, lineSizeMax] at outside
          omega
        have line : isArmLine size = isPowerOfTwo size := by
          simp [isArmLine, inside, isPowerOfTwo_eq inside.2]
        rw [if_neg outside, line]
        cases isPowerOfTwo size with
        | false => exact Counts.error _
        | true => exact Counts.pure ()

/-- What the check of a cache's field counts; the field is known by its declared offset. -/
def checkedTally (target : ArchitectureSet) (field : Field) (bytes : Bytes) : Tally :=
  match field.offset with
  | 16 => setsTally target (bytes.number? 0 4)
  | 20 => if bytes.head? = some 0 then .oneError else 0
  | 21 => if bytes.headD 0 &&& 0xE0 ≠ 0 then .oneError else 0
  | 22 => lineTally target (bytes.number? 0 2)
  | _ => 0

theorem checked_cacheFields : cacheFields.filter Field.isChecked =
    [ (Field.decimal "Number of sets" 4 16).checkedBy checkSets,
      (Field.decimal "Associativity" 1 20).checkedBy checkAssociativity,
      (Field.hex "Attributes" 1 21).checkedBy checkAttributes,
      (Field.decimal "Line size" 2 22).checkedBy checkLineSize ] := rfl

theorem counts_validate_cacheFields (field : Field)
    (there : field ∈ cacheFields.filter Field.isChecked) (bytes : Bytes) :
    Counts (field.validate bytes) config () (checkedTally config.target field bytes) := by
  rw [checked_cacheFields] at there
  simp only [List.mem_cons, List.not_mem_nil, or_false] at there
  rcases there with rfl | rfl | rfl | rfl
  · exact counts_checkSets bytes none
  · exact counts_checkAssociativity bytes none
  · exact counts_checkAttributes bytes none
  · exact counts_checkLineSize bytes none

/-- The number of wrong values of a cache: no sets, on Arm more than `2 ^ 24` sets, no ways, a
reserved attribute, and on Arm a line size that is not allowed. -/
def cacheErrors (target : ArchitectureSet) (bytes : Bytes) : Nat :=
  let sets := (bytes.number? 16 4).getD 0
  (if sets = 0 then 1 else 0) +
    (if target.isArm ∧ 2 ^ 24 < sets then 1 else 0) +
    (if bytes.getD 20 0 = 0 then 1 else 0) +
    (if bytes.getD 21 0 &&& 0xE0 ≠ 0 then 1 else 0) +
    if target.isArm ∧ ¬isArmLine ((bytes.number? 22 2).getD 0) then 1 else 0

/-- Whether a cache on Arm has more sets than plain indices reach, but not more than extended
indices reach. -/
def hasExtendedSets (target : ArchitectureSet) (bytes : Bytes) : Bool :=
  let sets := (bytes.number? 16 4).getD 0
  target.isArm && 2 ^ 15 < sets && sets ≤ 2 ^ 24

theorem setsTally_eq (target : ArchitectureSet) (sets : Nat) :
    setsTally target (some sets) =
      ⟨(if sets = 0 then 1 else 0) + (if target.isArm ∧ 2 ^ 24 < sets then 1 else 0),
        if target.isArm && 2 ^ 15 < sets && sets ≤ 2 ^ 24 then 1 else 0⟩ := by
  rw [setsTally]
  generalize 2 ^ 24 = extended
  generalize 2 ^ 15 = plain
  by_cases none : sets = 0
  · subst none
    simp
    rfl
  · rw [if_neg none, if_neg none]
    cases target.isArm with
    | false => rfl
    | true =>
        by_cases tooMany : extended < sets
        · have beyond : ¬ sets ≤ extended := Nat.not_le.mpr tooMany
          simp [tooMany, beyond, Tally.oneError]
        · have within : sets ≤ extended := Nat.not_lt.mp tooMany
          by_cases many : plain < sets
          · simp [tooMany, within, many, Tally.oneWarning]
          · simp [tooMany, many]
            rfl

/-- What the values of a cache count. -/
def cacheTally (target : ArchitectureSet) (bytes : Bytes) : Tally :=
  ⟨cacheErrors target bytes, if hasExtendedSets target bytes then 1 else 0⟩

theorem checkTally_cacheFields {bytes : Bytes} (whole : 24 ≤ bytes.length) :
    Record.checkTally config (checkedTally config.target) bytes cacheFields =
      if config.consistency then cacheTally config.target bytes else 0 := by
  obtain ⟨sets, setsRead⟩ : ∃ sets, bytes.number? 16 4 = some sets :=
    Bytes.exists_number? (by omega)
  obtain ⟨size, sizeRead⟩ : ∃ size, bytes.number? 22 2 = some size :=
    Bytes.exists_number? (by omega)
  have setsField : Bytes.number? ((bytes.drop 16).take 4) 0 4 = some sets := by
    rw [Bytes.number?_take_drop (by omega), setsRead]
  have sizeField : Bytes.number? ((bytes.drop 22).take 2) 0 2 = some size := by
    rw [Bytes.number?_take_drop (by omega), sizeRead]
  have byteField {place : Nat} (inside : place < bytes.length) :
      (bytes.drop place).take 1 = [bytes.getD place 0] := by
    rw [List.drop_eq_getElem_cons inside, List.take_succ_cons, List.take_zero,
      List.getD_eq_getElem?_getD, List.getElem?_eq_getElem inside, Option.getD_some]
  have ways : (bytes.drop 20).take 1 = [bytes.getD 20 0] := byteField (by omega)
  have attributes : (bytes.drop 21).take 1 = [bytes.getD 21 0] := byteField (by omega)
  have sum : ((cacheFields.filter Field.isChecked).map fun field =>
      checkedTally config.target field (Record.bytesOf bytes field)).sum =
      setsTally config.target (some sets) +
        ((if bytes.getD 20 0 = 0 then .oneError else 0) +
          ((if bytes.getD 21 0 &&& 0xE0 ≠ 0 then .oneError else 0) +
            lineTally config.target (some size))) := by
    rw [checked_cacheFields, ← setsField, ← sizeField]
    simp [checkedTally, Record.bytesOf, Field.checkedBy, ways, attributes,
      Field.decimal, Field.hex, Field.integer, Field.labelled]
  rw [Record.checkTally, sum, setsTally_eq, lineTally, cacheTally, cacheErrors, hasExtendedSets,
    setsRead, sizeRead]
  split
  · refine Tally.ext ?_ ?_
    · simp only [Tally.ite_oneError, Tally.errors_add, Option.getD_some, Nat.add_assoc]
    · simp only [Tally.ite_oneError, Tally.warnings_add, Option.getD_some, Nat.add_zero]
  · rfl

theorem counts_cache {indent : UInt64} {title : Option String} {bytes : Bytes}
    (whole : 24 ≤ bytes.length) :
    Counts (Record.decode true indent title bytes cacheFields) config
      (Record.reading bytes cacheFields)
      (if config.consistency then cacheTally config.target bytes else 0) := by
  rw [← checkTally_cacheFields whole]
  exact Record.counts_decode wellLaid_cacheFields whole counts_validate_cacheFields

/-! ## Hand-outs -/

/-- The least length of a structure that holds the whole record of its kind, where the record
is not allowed to be cut. -/
def leastLength (code : UInt32) : Nat :=
  match code.toNat with
  | 1 => 24
  | 2 => 30
  | _ => 2

def isCache (bytes : Bytes) : Bool := leadingCode bytes == 1

/-- Whether the structure is a processor node that lacks its private resources. -/
def isRefusedNode (bytes : Bytes) : Bool := leadingCode bytes == 0 && lacksResources bytes

/-- What handing out a structure counts. -/
def structureTally (checking : Bool) (target : ArchitectureSet) (bytes : Bytes) : Tally where
  errors := (if 3 ≤ leadingCode bytes then 1 else 0) + (if isRefusedNode bytes then 1 else 0) +
    if checking ∧ isCache bytes then cacheErrors target bytes else 0
  warnings := if checking ∧ isCache bytes ∧ hasExtendedSets target bytes then 1 else 0

section Structures

variable {checking : Bool} {target : ArchitectureSet} {bytes : Bytes}

theorem structureTally_of_large (large : 3 ≤ leadingCode bytes) :
    structureTally checking target bytes = .oneError := by
  have node : isRefusedNode bytes = false := by
    have other : leadingCode bytes ≠ 0 := fun same => absurd (same ▸ large) (by decide)
    simp [isRefusedNode, other]
  have cache : isCache bytes = false := by
    have other : leadingCode bytes ≠ 1 := fun same => absurd (same ▸ large) (by decide)
    simp [isCache, other]
  simp [structureTally, large, node, cache, Tally.oneError]

theorem structureTally_of_processor (code : leadingCode bytes = 0) :
    structureTally checking target bytes = if lacksResources bytes then .oneError else 0 := by
  have node : isRefusedNode bytes = lacksResources bytes := by
    simp [isRefusedNode, code]
  have cache : isCache bytes = false := by
    simp [isCache, code]
  rw [Tally.ite_oneError]
  simp [structureTally, code, node, cache]

theorem structureTally_of_cache (code : leadingCode bytes = 1) :
    structureTally checking target bytes = if checking then cacheTally target bytes else 0 := by
  have node : isRefusedNode bytes = false := by
    simp [isRefusedNode, code]
  have cache : isCache bytes = true := by
    simp [isCache, code]
  cases checking with
  | false =>
      simp [structureTally, code, node]
      rfl
  | true => simp [structureTally, code, node, cache, cacheTally]

theorem structureTally_of_identity (code : leadingCode bytes = 2) :
    structureTally checking target bytes = 0 := by
  have node : isRefusedNode bytes = false := by
    simp [isRefusedNode, code]
  have cache : isCache bytes = false := by
    simp [isCache, code]
  simp [structureTally, code, node, cache]
  rfl

/-- A structure that is long enough counts its tally when handed out. -/
theorem handsOut (longEnough : leastLength (leadingCode bytes) ≤ bytes.length) :
    HandsOut schema config bytes (structureTally config.consistency config.target bytes) := by
  refine handsOut_of_decodeKind (fun unknown => ?_) (fun kind member code => ?_)
  · exact structureTally_of_large (List.getElem?_eq_none_iff.mp unknown)
  · simp only [schema, kinds, List.mem_cons, List.not_mem_nil, or_false] at member
    rw [code] at longEnough
    rcases member with rfl | rfl | rfl
    · rw [structureTally_of_processor code]
      exact ⟨true, fun index => (counts_decodeProcessor _ bytes).bind_pure fun _ => true⟩
    · rw [structureTally_of_cache code]
      exact ⟨true, fun index => counts_decodeKind_of_record rfl fun title =>
        counts_cache longEnough⟩
    · rw [structureTally_of_identity code]
      exact ⟨true, fun index => counts_decodeKind_of_record rfl fun title =>
        Record.counts_decode_of_unchecked wellLaid_identityFields longEnough rfl⟩

end Structures

theorem sum_structureTally (checking : Bool) (target : ArchitectureSet)
    (structures : List Bytes) :
    (structures.map (structureTally checking target)).sum =
      ⟨structures.countP (fun bytes => 3 ≤ leadingCode bytes) + structures.countP isRefusedNode +
          if checking then ((structures.filter isCache).map (cacheErrors target)).sum else 0,
        if checking then (structures.filter isCache).countP (hasExtendedSets target) else 0⟩ := by
  induction structures with
  | nil => cases checking <;> rfl
  | cons bytes structures ih =>
      rw [List.map_cons, List.sum_cons, ih, List.filter_cons]
      simp only [List.countP_cons, decide_eq_true_eq]
      refine Tally.ext ?_ ?_
      · rw [Tally.errors_add, structureTally]
        cases checking with
        | false => simp only [Bool.false_eq_true, false_and, reduceIte]; omega
        | true =>
            cases isCache bytes with
            | false => simp only [Bool.false_eq_true, and_false, reduceIte]; omega
            | true => simp only [and_self, reduceIte, List.map_cons, List.sum_cons]; omega
      · rw [Tally.warnings_add, structureTally]
        cases checking with
        | false => rfl
        | true =>
            cases isCache bytes with
            | false => simp only [Bool.false_eq_true, false_and, and_false, reduceIte]; omega
            | true => simp only [true_and, reduceIte, List.countP_cons]; omega

/-! ## The whole table -/

theorem all_intersects (target : ArchitectureSet) :
    ArchitectureSet.all.intersects target = !target.isEmpty := by
  obtain ⟨bits⟩ := target
  revert bits
  decide

/-- Every kind may appear on every architecture, so only a target without one refuses any. -/
theorem disallowedKinds_eq (target : ArchitectureSet) (codes : List UInt32) :
    disallowedKinds schema target codes =
      if target.isEmpty then [(0 : UInt32), 1, 2].countP codes.contains else 0 := by
  have everywhere : ∀ kind ∈ schema.kinds, kind.allowed = .all := by
    simp [schema, kinds]
  have kindCodes : [(0 : UInt32), 1, 2] = schema.kinds.map Structure.Kind.code := rfl
  rw [disallowedKinds, kindCodes, List.countP_map]
  cases none : target.isEmpty with
  | true =>
      refine List.countP_congr fun kind member => ?_
      simp [everywhere kind member, all_intersects, none]
  | false =>
      refine List.countP_eq_zero.mpr fun kind member => ?_
      simp [everywhere kind member, all_intersects, none]

/-- Decoding a whole table counts the tallies of its structures and the disallowed kinds. -/
theorem counts_decode {header : Bytes} {structures : List Bytes} (whole : header.length = 36)
    (sized : ∀ bytes ∈ structures, SelfSized bytes ∧
      leastLength (leadingCode bytes) ≤ bytes.length) :
    Counts (decode (header ++ structures.flatten)) config ()
      ((structures.map (structureTally config.consistency config.target)).sum +
        if config.consistency then
          ⟨disallowedKinds schema config.target (structures.map leadingCode), 0⟩ else 0) := by
  have fits : 36 ≤ (header ++ structures.flatten).length := by
    rw [List.length_append]
    omega
  have start : (Record.reading (header ++ structures.flatten) fields).consumed =
      header.length := (wellLaid_fields.consumed fits).trans whole.symm
  unfold decode
  refine (Record.counts_decode_of_unchecked wellLaid_fields fits rfl).quiet_bind ?_
  rw [start]
  exact (counts_walk (fun bytes there => (sized bytes there).1)
    (fun bytes there => handsOut (sized bytes there).2) header).bind_pure fun _ => ()

end ProcessorTopology

end AcpiTables
