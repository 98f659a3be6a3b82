import AcpiTables.InterruptController
import AcpiTables.Proofs.CensusTallies
import AcpiTables.Proofs.WholeRecords

/-!
# The verdict on a table of interrupt controllers

The errors and warnings of decoding such a table are a function of its structures: those
of unknown and of unsupported kinds, the distributors with a vector base, the processor
interfaces with a wrong overflow interrupt, the kinds that the target does not allow, and
a second distributor.

All field lists of the table are declared where they lie, and the fixed part counts
nothing.  A structure that holds the whole record of its kind counts `structureTally`,
wherever it lies and whatever was counted before (`handsOut`); the walk adds these up
(`sum_structureTally`), and its census decides the rest (`counts_decode`).
-/

namespace AcpiTables

set_option autoImplicit false

namespace InterruptController

open Decoder Structure

variable {config : Config}

/-! ## The layouts -/

theorem wellLaid_fields : Record.WellLaid fields 44 where
  consistent := by decide
  width := rfl
  shown := by
    simp [fields, Header.fields, Field.decimal, Field.hex, Field.hexUpper, isIntegerWidth]

theorem wellLaid_processorInterfaceFields :
    Record.WellLaid processorInterfaceFields 80 where
  consistent := by decide
  width := rfl
  shown := by simp [processorInterfaceFields, Field.decimal, Field.hex, isIntegerWidth]

theorem wellLaid_distributorFields : Record.WellLaid distributorFields 24 where
  consistent := by decide
  width := rfl
  shown := by simp [distributorFields, Field.decimal, Field.hex, isIntegerWidth]

theorem wellLaid_messageFrameFields : Record.WellLaid messageFrameFields 24 where
  consistent := by decide
  width := rfl
  shown := by simp [messageFrameFields, Field.decimal, Field.hex, isIntegerWidth]

theorem wellLaid_redistributorFields : Record.WellLaid redistributorFields 16 where
  consistent := by decide
  width := rfl
  shown := by simp [redistributorFields, Field.decimal, Field.hex, isIntegerWidth]

theorem wellLaid_translationServiceFields : Record.WellLaid translationServiceFields 20 where
  consistent := by decide
  width := rfl
  shown := by simp [translationServiceFields, Field.decimal, Field.hex, isIntegerWidth]

/-! ## The checks of values -/

/-- What the check of an overflow interrupt counts. -/
def overflowTally (interrupt : Nat) : Tally :=
  if interrupt = 0 then 0
  else if !isPrivate interrupt then .oneError
  else if interrupt ≠ profilingBufferInterrupt then .oneWarning
  else 0

theorem counts_checkOverflowInterrupt (bytes : Bytes) (argument : Option Argument) :
    Counts (checkOverflowInterrupt bytes argument) config ()
      (overflowTally ((bytes.number? 0 2).getD 0)) := by
  unfold checkOverflowInterrupt
  cases bytes.number? 0 2 with
  | none => exact Counts.pure ()
  | some interrupt =>
      rw [Option.getD_some, overflowTally]
      dsimp only
      split
      · exact Counts.pure ()
      · split
        · exact Counts.error _
        · split
          · exact Counts.warning _
          · exact Counts.pure ()

theorem counts_checkVectorBase (bytes : Bytes) (argument : Option Argument) :
    Counts (checkVectorBase bytes argument) config ()
      (if (bytes.number? 0 4).getD 0 = 0 then 0 else .oneError) := by
  unfold checkVectorBase
  cases bytes.number? 0 4 with
  | none => exact Counts.pure ()
  | some base =>
      rw [Option.getD_some]
      dsimp only
      split
      · exact Counts.pure ()
      · exact Counts.error _

/-! ## The tally of one structure -/

/-- The least length of a structure that holds the whole record of its kind. -/
def leastLength (code : UInt32) : Nat :=
  match code.toNat with
  | 11 => 80
  | 12 => 24
  | 13 => 24
  | 14 => 16
  | 15 => 20
  | _ => 2

/-- Whether the structure is a distributor whose vector base is not zero. -/
def hasVectorBase (bytes : Bytes) : Bool :=
  leadingCode bytes == 12 && (bytes.number? 16 4).getD 0 != 0

/-- Whether a number is in one of the two ranges of private peripheral interrupts. -/
def inPrivateRanges (interrupt : Nat) : Bool :=
  (16 ≤ interrupt && interrupt ≤ 31) || (1056 ≤ interrupt && interrupt ≤ 1119)

/-- Whether the structure is a processor interface whose overflow interrupt is not private. -/
def hasForeignOverflow (bytes : Bytes) : Bool :=
  leadingCode bytes == 11 && (bytes.number? 78 2).getD 0 != 0 &&
    !inPrivateRanges ((bytes.number? 78 2).getD 0)

/-- Whether the structure is a processor interface with a private overflow interrupt other than
the assigned one. -/
def hasUnassignedOverflow (bytes : Bytes) : Bool :=
  leadingCode bytes == 11 && inPrivateRanges ((bytes.number? 78 2).getD 0) &&
    (bytes.number? 78 2).getD 0 != 21

/-- What handing out a structure counts. -/
def structureTally (checking : Bool) (bytes : Bytes) : Tally where
  errors := (if 16 ≤ leadingCode bytes then 1 else 0) + (if leadingCode bytes ≤ 10 then 1 else 0) +
    if checking then
      (if hasVectorBase bytes then 1 else 0) + (if hasForeignOverflow bytes then 1 else 0)
    else 0
  warnings := if checking then if hasUnassignedOverflow bytes then 1 else 0 else 0

/-- Structures that are neither processor interfaces nor distributors have no checked value. -/
theorem structureTally_of_ne {checking : Bool} {bytes : Bytes} (interface : leadingCode bytes ≠ 11)
    (distributor : leadingCode bytes ≠ 12) : structureTally checking bytes =
      ⟨(if 16 ≤ leadingCode bytes then 1 else 0) + (if leadingCode bytes ≤ 10 then 1 else 0), 0⟩ := by
  have base : hasVectorBase bytes = false := by
    simp [hasVectorBase, distributor]
  have foreign : hasForeignOverflow bytes = false := by
    simp [hasForeignOverflow, interface]
  have unassigned : hasUnassignedOverflow bytes = false := by
    simp [hasUnassignedOverflow, interface]
  simp [structureTally, base, foreign, unassigned]

theorem structureTally_of_small {checking : Bool} {bytes : Bytes}
    (small : leadingCode bytes ≤ 10) : structureTally checking bytes = .oneError := by
  have large : ¬ 16 ≤ leadingCode bytes := fun large =>
    absurd (UInt32.le_trans large small) (by decide)
  rw [structureTally_of_ne (fun same => absurd (same ▸ small) (by decide))
    (fun same => absurd (same ▸ small) (by decide)), if_pos small, if_neg large]
  rfl

theorem structureTally_of_large {checking : Bool} {bytes : Bytes}
    (large : 16 ≤ leadingCode bytes) : structureTally checking bytes = .oneError := by
  have small : ¬ leadingCode bytes ≤ 10 := fun small =>
    absurd (UInt32.le_trans large small) (by decide)
  rw [structureTally_of_ne (fun same => absurd (same ▸ large) (by decide))
    (fun same => absurd (same ▸ large) (by decide)), if_pos large, if_neg small]
  rfl

/-- The verdict on an overflow interrupt by its two ranges and the assigned number. -/
theorem overflowTally_eq (interrupt : Nat) : overflowTally interrupt =
    ⟨if interrupt != 0 && !inPrivateRanges interrupt then 1 else 0,
      if inPrivateRanges interrupt && interrupt != 21 then 1 else 0⟩ := by
  have same : isPrivate interrupt = inPrivateRanges interrupt := rfl
  rw [overflowTally, same]
  by_cases none : interrupt = 0
  · rw [if_pos none, none]
    rfl
  · rw [if_neg none]
    cases inPrivateRanges interrupt with
    | false => simp [none, Tally.oneError]
    | true =>
        by_cases assigned : interrupt = 21
        · simp [assigned, profilingBufferInterrupt]
          rfl
        · simp [assigned, profilingBufferInterrupt, Tally.oneWarning]

theorem structureTally_of_processorInterface {checking : Bool} {bytes : Bytes}
    (code : leadingCode bytes = 11) : structureTally checking bytes =
      if checking then overflowTally ((bytes.number? 78 2).getD 0) else 0 := by
  have base : hasVectorBase bytes = false := by
    simp [hasVectorBase, code]
  cases checking with
  | false => simp [structureTally, code]; rfl
  | true =>
      rw [if_pos rfl, overflowTally_eq]
      simp [structureTally, hasForeignOverflow, hasUnassignedOverflow, code, base]

theorem structureTally_of_distributor {checking : Bool} {bytes : Bytes}
    (code : leadingCode bytes = 12) : structureTally checking bytes =
      if checking then if (bytes.number? 16 4).getD 0 = 0 then 0 else .oneError else 0 := by
  cases checking with
  | false => simp [structureTally, code]; rfl
  | true =>
      by_cases none : (bytes.number? 16 4).getD 0 = 0
      · simp [structureTally, hasVectorBase, hasForeignOverflow, hasUnassignedOverflow, code, none]
        rfl
      · simp [structureTally, hasVectorBase, hasForeignOverflow, hasUnassignedOverflow, code, none]
        rfl

theorem structureTally_of_unchecked {checking : Bool} {bytes : Bytes}
    (code : leadingCode bytes ∈ [(13 : UInt32), 14, 15]) : structureTally checking bytes = 0 := by
  simp only [List.mem_cons, List.not_mem_nil, or_false] at code
  rcases code with is | is | is <;>
    rw [structureTally_of_ne (is ▸ by decide) (is ▸ by decide), is] <;> rfl

section Structures

variable {indent : UInt64} {title : Option String} {bytes : Bytes}

theorem counts_processorInterface (whole : 80 ≤ bytes.length) :
    Counts (Record.decode true indent title bytes processorInterfaceFields) config
      (Record.reading bytes processorInterfaceFields)
      (if config.consistency then overflowTally ((bytes.number? 78 2).getD 0) else 0) := by
  rw [← Bytes.number?_take_drop whole]
  exact Record.counts_decode_of_checked wellLaid_processorInterfaceFields whole rfl
    fun data => counts_checkOverflowInterrupt data none

theorem counts_distributor (whole : 24 ≤ bytes.length) :
    Counts (Record.decode true indent title bytes distributorFields) config
      (Record.reading bytes distributorFields)
      (if config.consistency then if (bytes.number? 16 4).getD 0 = 0 then 0 else .oneError
      else 0) := by
  have inside : 16 + 4 ≤ bytes.length := by omega
  rw [← Bytes.number?_take_drop inside]
  exact Record.counts_decode_of_checked wellLaid_distributorFields whole rfl
    fun data => counts_checkVectorBase data none

end Structures

/-! ## Hand-outs -/

theorem kinds_cases : ∀ kind ∈ kinds,
    (kind.code ≤ 10 ∧ kind.method = .unsupported) ∨
    (kind.code = 11 ∧ kind.method = .record processorInterfaceFields) ∨
    (kind.code = 12 ∧ kind.method = .record distributorFields) ∨
    (kind.code = 13 ∧ kind.method = .record messageFrameFields) ∨
    (kind.code = 14 ∧ kind.method = .record redistributorFields) ∨
    (kind.code = 15 ∧ kind.method = .record translationServiceFields) := by
  simp [kinds, distributorCode]

theorem counts_decodeKind {kind : Kind} (member : kind ∈ kinds) {bytes : Bytes}
    (code : leadingCode bytes = kind.code) (longEnough : leastLength kind.code ≤ bytes.length) :
    ∃ answer, ∀ index,
      Counts (Census.decodeKind kind index structureIndent (none, none) bytes) config answer
        (structureTally config.consistency bytes) := by
  rcases kinds_cases kind member with ⟨small, method⟩ | ⟨is, method⟩ | ⟨is, method⟩ |
    ⟨is, method⟩ | ⟨is, method⟩ | ⟨is, method⟩
  · rw [structureTally_of_small (code ▸ small)]
    exact ⟨false, fun _ => counts_decodeKind_of_unsupported method⟩
  all_goals
    rw [is] at code longEnough
    refine ⟨true, fun _ => counts_decodeKind_of_record method fun title => ?_⟩
  · rw [structureTally_of_processorInterface code]
    exact counts_processorInterface longEnough
  · rw [structureTally_of_distributor code]
    exact counts_distributor longEnough
  all_goals rw [structureTally_of_unchecked (by simp [code])]
  · exact Record.counts_decode_of_unchecked wellLaid_messageFrameFields longEnough rfl
  · exact Record.counts_decode_of_unchecked wellLaid_redistributorFields longEnough rfl
  · exact Record.counts_decode_of_unchecked wellLaid_translationServiceFields longEnough rfl

/-- A structure that is long enough for its record counts its tally when handed out. -/
theorem handsOut {bytes : Bytes} (longEnough : leastLength (leadingCode bytes) ≤ bytes.length) :
    HandsOut schema config bytes (structureTally config.consistency bytes) := by
  refine handsOut_of_decodeKind (fun unknown => ?_) (fun kind member code => ?_)
  · exact structureTally_of_large (List.getElem?_eq_none_iff.mp unknown)
  · exact counts_decodeKind member code (code ▸ longEnough)

theorem sum_structureTally (checking : Bool) (structures : List Bytes) :
    (structures.map (structureTally checking)).sum =
      ⟨structures.countP (fun bytes => 16 ≤ leadingCode bytes) +
          structures.countP (fun bytes => leadingCode bytes ≤ 10) +
          if checking then structures.countP hasVectorBase + structures.countP hasForeignOverflow
          else 0,
        if checking then structures.countP hasUnassignedOverflow else 0⟩ := by
  induction structures with
  | nil => cases checking <;> rfl
  | cons bytes structures ih =>
      rw [List.map_cons, List.sum_cons, ih]
      simp only [List.countP_cons, decide_eq_true_eq]
      refine Tally.ext ?_ ?_
      · rw [Tally.errors_add, structureTally]
        cases checking with
        | false => simp only [Bool.false_eq_true, reduceIte]; omega
        | true => simp only [reduceIte]; omega
      · rw [Tally.warnings_add, structureTally]
        cases checking with
        | false => rfl
        | true => simp only [reduceIte]; omega

/-! ## The whole table -/

theorem counts_checkDistributors (codes : List UInt32) :
    Counts (checkDistributors .complete (Census.ofCodes schema codes)) config ()
      (if config.consistency then if 2 ≤ codes.count distributorCode then .oneError else 0
      else 0) := by
  have known : distributorCode.toNat < schema.kinds.length := by decide
  unfold checkDistributors
  rw [count?_ofCodes codes known]
  refine Counts.whenChecking ?_
  by_cases several : 2 ≤ codes.count distributorCode
  · rw [if_pos several, if_pos (one_lt_saturate32_iff.mpr several)]
    exact Counts.error _
  · rw [if_neg several, if_neg (fun more => several (one_lt_saturate32_iff.mp more))]
    exact Counts.pure ()

/-- Decoding a whole table counts the tallies of its structures, the disallowed kinds and a
second distributor. -/
theorem counts_decode {fixed : Bytes} {structures : List Bytes} (whole : fixed.length = 44)
    (sized : ∀ bytes ∈ structures, SelfSized bytes ∧
      leastLength (leadingCode bytes) ≤ bytes.length) :
    Counts (decode (fixed ++ structures.flatten)) config ()
      ((structures.map (structureTally config.consistency)).sum +
        (if config.consistency then
          ⟨disallowedKinds schema config.target (structures.map leadingCode), 0⟩ else 0) +
        if config.consistency then
          if 2 ≤ (structures.map leadingCode).count distributorCode then .oneError else 0
        else 0) := by
  have fits : 44 ≤ (fixed ++ structures.flatten).length := by
    rw [List.length_append]
    omega
  have start : (Record.reading (fixed ++ structures.flatten) fields).consumed = fixed.length := by
    have width := wellLaid_fields.width
    rw [Record.reading, Record.consumed_readingFrom_of_whole (by omega), width, whole]
  unfold decode
  refine (Record.counts_decode_of_unchecked wellLaid_fields fits rfl).quiet_bind ?_
  rw [start]
  refine Counts.bind (counts_walk (fun bytes there => (sized bytes there).1)
    (fun bytes there => handsOut (sized bytes there).2) fixed) ?_
  exact counts_checkDistributors _

/-- **The verdict on a table of interrupt controllers.**  A fixed part of 44 bytes, followed by
structures that carry their own lengths and hold the whole records of their kinds, counts one
error for each structure of an unknown or unsupported kind.  With consistency checking it counts
one more for each distributor with a vector base, each overflow interrupt outside the private
ranges, each kind found that the target does not allow, and for a second distributor; and one
warning for each private overflow interrupt other than the assigned one. -/
theorem decode_verdict (fixed : Bytes) (structures : List Bytes) (session : Session)
    (whole : fixed.length = 44)
    (sized : ∀ bytes ∈ structures, SelfSized bytes ∧
      leastLength (leadingCode bytes) ≤ bytes.length) :
    let checking := session.config.consistency
    let target := session.config.target
    let codes := structures.map leadingCode
    (decode (fixed ++ structures.flatten) session).2.counters = session.counters.plus
      (structures.countP (fun bytes => 16 ≤ leadingCode bytes) +
        structures.countP (fun bytes => leadingCode bytes ≤ 10) +
        if checking then
          structures.countP hasVectorBase + structures.countP hasForeignOverflow +
            kinds.countP (fun kind =>
              !kind.allowed.intersects target && codes.contains kind.code) +
            if 2 ≤ codes.count distributorCode then 1 else 0
        else 0)
      (if checking then structures.countP hasUnassignedOverflow else 0) := by
  intro checking target codes
  rw [(counts_decode whole sized).counters, sum_structureTally]
  have disallowed : disallowedKinds schema session.config.target (structures.map leadingCode) =
    kinds.countP fun kind => !kind.allowed.intersects target && codes.contains kind.code := rfl
  cases on : session.config.consistency with
  | false => simp only [checking, on, Bool.false_eq_true, reduceIte, Tally.add_zero]
  | true =>
      simp only [checking, on, reduceIte]
      by_cases several : 2 ≤ codes.count distributorCode
      · rw [if_pos several, if_pos several]
        congr 1
        simp only [Tally.errors_add, Tally.oneError, disallowed]
        omega
      · rw [if_neg several, if_neg several]
        congr 1
        simp only [Tally.errors_add, Tally.errors_zero, disallowed]
        omega

/-- On x86, a structure of an unknown kind, one of an unsupported kind, two distributors of which
one has a vector base, and a processor interface with the overflow interrupt 22. -/
theorem decode_verdict_on_x86 :
    let distributor (base : UInt8) : Bytes :=
      [12, 24] ++ List.replicate 14 0 ++ [base] ++ List.replicate 7 0
    let structures : List Bytes :=
      [[16, 2], [0, 2], distributor 1, distributor 0, [11, 80] ++ List.replicate 76 0 ++ [22, 0]]
    (decode (List.replicate 44 0 ++ structures.flatten) (.start ⟨true, false, .x86⟩)).2.counters =
      ⟨6, 1⟩ := by
  intro distributor structures
  have sized : ∀ bytes ∈ structures, SelfSized bytes ∧
      leastLength (leadingCode bytes) ≤ bytes.length := by decide
  exact (decode_verdict (List.replicate 44 0) structures (.start ⟨true, false, .x86⟩) rfl
    sized).trans (by decide)

end InterruptController

end AcpiTables
