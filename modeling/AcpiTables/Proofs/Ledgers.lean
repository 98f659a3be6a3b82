import AcpiTables.Proofs.Breakdown
import AcpiTables.Proofs.SchemaFaults

/-!
# Kinds and counts looked up by number

A census cannot be asked for a count that it does not have: it has one for each kind of its schema,
by its type.  A ledger holds the same names, kinds and counts without that evidence, as lists, and
its operations look entries up by number.  An entry that is not there ends what is being done, and
nothing comes of it.

The ledger of a census never ends early.  Each operation on it does what the operation does on the
census and leaves the ledger of the census that comes out (`Ledger.dispatch_ledger`,
`Ledger.validate_ledger`, `Ledger.apply_ledger`), so this holds of every run (`applyAll_ledger`).
The reason is what a schema carries: every kind stands at the number that it declares, so the code
that a hand-out is asked for, and the code that a kind has, are numbers of entries in both lists.
-/

namespace AcpiTables

set_option autoImplicit false

open Decoder

namespace Structure

/-- The kinds of a family and a list of counts, with nothing said about how they belong together. -/
structure Ledger where
  name : String
  kinds : List Kind
  counts : List UInt32

/-- What keeps a walk of a family that ends at an offset from going on. -/
def stopFault (family : String) (table : Bytes) (stop : Nat) : WalkStatus → Option WalkFault
  | .complete => none
  | .truncated => some (.truncatedHead family (table.length - stop))
  | .invalidLength =>
      some (.invalidLength family (table.getD (stop + 1) 0).toNat stop table.length)

namespace Ledger

/-- The entry of a number.  Where there is none, nothing more is done. -/
def lookUp {α : Type} (entries : List α) (number : Nat) : OptionT Decoder α :=
  OptionT.mk (pure entries[number]?)

/-- Whether the kind at the number of a code may appear on one of the target architectures. -/
def allows (ledger : Ledger) (code : UInt32) (target : ArchitectureSet) : Bool :=
  match ledger.kinds[code.toNat]? with
  | some kind => kind.allowed.intersects target
  | none => false

/-- The ledger with one more structure of a code, of which `count` were counted before. -/
def counted (ledger : Ledger) (code count : UInt32) : Ledger :=
  { ledger with counts := ledger.counts.set code.toNat (addSaturating32 count 1) }

/-- Hands out one structure: what is known of the code is looked up in both lists. -/
def dispatch (ledger : Ledger) (indent : UInt64) (data : Bytes) (offset : Nat) (code : UInt32)
    (arguments : Option Argument × Option Argument) : OptionT Decoder (Bool × Ledger) := do
  fieldLabel indent "* Offset *"
  print (NumberFormat.hex.numeral offset ++ "\n")
  if code.toNat < ledger.kinds.length then
    let kind ← lookUp ledger.kinds code.toNat
    let count ← lookUp ledger.counts code.toNat
    let supported ← Census.decodeKind kind count indent arguments data
    return (supported, ledger.counted code count)
  else
    error (Fault.message (.unknownCode ledger.name code))
    return (false, ledger)

/-- Shows or reports the count of the kind at a number; the kind is found again by its own code. -/
def validateKind (ledger : Ledger) (number : Nat) (kind : Kind) : OptionT Decoder Bool := do
  let count ← lookUp ledger.counts number
  let target := (← scope).config.target
  if ledger.allows kind.code target then
    print (Census.breakdownLine kind.name count)
    return true
  else if count = 0 then
    return true
  else
    error (Fault.message (.disallowed kind.name count))
    return false

/-- Validates kinds, of which the first one has the given number. -/
def validateFrom (ledger : Ledger) : (number : Nat) → List Kind → OptionT Decoder Bool
  | _, [] => return true
  | number, kind :: kinds => do
      let here ← ledger.validateKind number kind
      let there ← ledger.validateFrom (number + 1) kinds
      return here && there

def validate (ledger : Ledger) : OptionT Decoder Bool := do
  print "\nTable Breakdown:\n"
  ledger.validateFrom 0 ledger.kinds

def reset (ledger : Ledger) : Ledger := { ledger with counts := ledger.counts.map fun _ => 0 }

/-- Hands out structures one after another. -/
def handOut : List Slice → Ledger → OptionT Decoder Ledger
  | [], ledger => return ledger
  | slice :: rest, ledger => do
      let (_, ledger) ← ledger.dispatch structureIndent slice.bytes slice.offset slice.typeCode
        (none, none)
      handOut rest ledger

/-- Validates the counts if consistency is checked. -/
def check (ledger : Ledger) : OptionT Decoder Unit := do
  let scope ← scope
  if scope.config.consistency then
    let _ ← ledger.validate
    return ()
  else return ()

/-- The end of a walk: an error, or a validation if consistency is checked. -/
def conclude (table : Bytes) (stop : Nat) (status : WalkStatus) (ledger : Ledger) :
    OptionT Decoder Ledger :=
  match stopFault ledger.name table stop status with
  | none => do
      ledger.check
      return ledger
  | some fault => do
      error fault.message
      return ledger

/-- Does something with a ledger. -/
def apply (ledger : Ledger) : Operation → OptionT Decoder Ledger
  | .dispatch indent data offset code arguments => do
      let (_, ledger) ← ledger.dispatch indent data offset code arguments
      return ledger
  | .walk table start => do
      let found := outline table start
      let ledger ← handOut found.slices ledger.reset
      conclude table found.stop found.status ledger
  | .reset => return ledger.reset
  | .validate => do
      let _ ← ledger.validate
      return ledger

/-- Does things one after another. -/
def applyAll : List Operation → Ledger → OptionT Decoder Ledger
  | [], ledger => return ledger
  | operation :: operations, ledger => do
      let ledger ← ledger.apply operation
      applyAll operations ledger

end Ledger

variable {schema : Schema}

/-- What a census holds, without the evidence that it belongs together. -/
def Census.ledger (census : Census schema) : Ledger :=
  ⟨schema.name, schema.kinds, census.counts.toList⟩

namespace Ledger

/-! ## Entries that are there -/

section Lifted

variable {α β : Type} {first : Decoder α}

/-- Where everything is found behind a decoder, everything is found. -/
theorem lift_bind_congr {next : α → OptionT Decoder β} {rest : α → Decoder β}
    (found : ∀ value, next value = OptionT.lift (rest value)) :
    OptionT.lift first >>= next = OptionT.lift (first >>= rest) := by
  rw [funext found]
  rfl

end Lifted

theorem lookUp_of_some {α : Type} {entries : List α} {number : Nat} {entry : α}
    (found : entries[number]? = some entry) : lookUp entries number = pure entry := by
  rw [lookUp, found]
  rfl

/-- The counts of a census are found at the codes. -/
theorem counts_ledger {census : Census schema} {code count : UInt32}
    (counted : census.count? code = some count) :
    census.ledger.counts[code.toNat]? = some count := by
  rw [Census.ledger, Vector.getElem?_toList]
  exact counted

theorem ledger_counted {census : Census schema} {code count : UInt32}
    (counted : census.count? code = some count) :
    (census.counted code).ledger = census.ledger.counted code count := by
  obtain ⟨known, rfl⟩ := Vector.getElem?_eq_some_iff.mp counted
  rw [Census.counted, dif_pos known, Census.increment, Census.ledger, Vector.toList_set]
  rfl

theorem ledger_zero (schema : Schema) :
    (Census.zero schema).ledger =
      ⟨schema.name, schema.kinds, List.replicate schema.kinds.length 0⟩ := by
  rw [Census.ledger, Census.zero, Vector.toList_replicate]

theorem reset_ledger (census : Census schema) :
    census.ledger.reset = (Census.zero schema).ledger := by
  rw [ledger_zero, reset, Census.ledger, List.map_const', Vector.length_toList]

/-- A kind allows what is allowed for its own code. -/
theorem allows_ledger (census : Census schema) {number : Nat} {kind : Kind}
    (here : schema.kinds[number]? = some kind) (target : ArchitectureSet) :
    census.ledger.allows kind.code target = kind.allowed.intersects target := by
  have own : census.ledger.kinds[kind.code.toNat]? = some kind := by
    rw [schema.code_eq here]
    exact here
  rw [allows, own]

/-! ## Operations on the ledger of a census -/

theorem dispatch_ledger (census : Census schema) (indent : UInt64) (data : Bytes) (offset : Nat)
    (code : UInt32) (arguments : Option Argument × Option Argument) :
    census.ledger.dispatch indent data offset code arguments = OptionT.lift (do
      let handed ← census.dispatch indent data offset code arguments
      return (handed.1, handed.2.ledger)) := by
  cases found : schema.kinds[code.toNat]? with
  | some kind =>
      obtain ⟨known, _⟩ := List.getElem?_eq_some_iff.mp found
      have counted : census.count? code = some census.counts[code.toNat] :=
        Vector.getElem?_eq_getElem known
      have inside : code.toNat < census.ledger.kinds.length := known
      have here : census.ledger.kinds[code.toNat]? = some kind := found
      rw [Census.dispatch_of_known found counted, dispatch, if_pos inside, lookUp_of_some here,
        lookUp_of_some (counts_ledger counted)]
      simp only [pure_bind, ← ledger_counted counted]
      rfl
  | none =>
      have outside : ¬ code.toNat < census.ledger.kinds.length :=
        Nat.not_lt.mpr (List.getElem?_eq_none_iff.mp found)
      rw [Census.dispatch_of_unknown found, dispatch, if_neg outside]
      rfl

theorem validateKind_ledger (census : Census schema) {number : Nat} {kind : Kind} {count : UInt32}
    (here : schema.kinds[number]? = some kind)
    (counted : census.ledger.counts[number]? = some count) :
    census.ledger.validateKind number kind = OptionT.lift (Census.validateKind kind count) := by
  rw [validateKind, lookUp_of_some counted, pure_bind, Census.validateKind]
  refine lift_bind_congr fun scope => ?_
  dsimp only
  rw [allows_ledger census here]
  split
  · rfl
  · split
    · rfl
    · rfl

theorem validateFrom_ledger (census : Census schema) {before after : List (Kind × UInt32)}
    (all : census.kindCounts = before ++ after) :
    census.ledger.validateFrom before.length (after.map Prod.fst) =
      OptionT.lift (Census.validateKinds after) := by
  induction after generalizing before with
  | nil => rfl
  | cons pair after ih =>
      have there : census.kindCounts[before.length]? = some pair := by
        rw [all, List.getElem?_append_right (Nat.le_refl _), Nat.sub_self]
        rfl
      obtain ⟨here, counted⟩ := List.getElem?_zip_eq_some.mp there
      have later := ih (all.trans (List.append_cons before pair after))
      rw [List.length_append] at later
      rw [List.map_cons, validateFrom, validateKind_ledger census here counted]
      refine lift_bind_congr fun answer => ?_
      exact congrArg (· >>= fun there => pure (answer && there)) later

theorem validate_ledger (census : Census schema) :
    census.ledger.validate = OptionT.lift census.validate := by
  have kinds : census.ledger.kinds = census.kindCounts.map Prod.fst :=
    (map_fst_kindCounts census).symm
  have all : census.kindCounts = [] ++ census.kindCounts := rfl
  rw [validate, kinds]
  exact lift_bind_congr fun _ => validateFrom_ledger census all

theorem handOut_ledger (slices : List Slice) (census : Census schema) :
    handOut slices census.ledger = OptionT.lift (do
      let handed ← Structure.handOut slices census
      return handed.ledger) := by
  induction slices generalizing census with
  | nil => rfl
  | cons slice slices ih =>
      rw [handOut, dispatch_ledger, Structure.handOut, bind_assoc]
      exact lift_bind_congr fun (handed : Bool × Census schema) => ih handed.2

theorem check_ledger (census : Census schema) :
    census.ledger.check = OptionT.lift (whenChecking do
      let _ ← census.validate) := by
  rw [check, validate_ledger, whenChecking_eq_scope]
  refine lift_bind_congr fun scope => ?_
  split
  · rfl
  · rfl

theorem faultAt_eq_stopFault (schema : Schema) (table : Bytes) (stop : Nat) (status : WalkStatus) :
    faultAt schema table stop status = stopFault schema.name table stop status := by
  cases status <;> rfl

theorem conclude_ledger (table : Bytes) (stop : Nat) (status : WalkStatus)
    (census : Census schema) :
    conclude table stop status census.ledger = OptionT.lift (do
      let ended ← Structure.conclude table stop status census
      return ended.2.ledger) := by
  unfold conclude Structure.conclude
  rw [faultAt_eq_stopFault, show census.ledger.name = schema.name from rfl]
  cases stopFault schema.name table stop status with
  | none =>
      dsimp only
      rw [check_ledger, finish]
      rfl
  | some fault => rfl

theorem apply_ledger (tracked : Tracked schema) (operation : Operation) :
    tracked.census.ledger.apply operation = OptionT.lift (do
      let after ← tracked.apply operation
      return after.census.ledger) := by
  cases operation with
  | dispatch indent data offset code arguments =>
      rw [apply, dispatch_ledger]
      rfl
  | walk table start =>
      rw [apply, reset_ledger, handOut_ledger, Tracked.apply, walk_eq_handOut, bind_assoc,
        bind_assoc]
      exact lift_bind_congr fun handed => conclude_ledger table _ _ handed
  | reset =>
      rw [apply, reset_ledger]
      rfl
  | validate =>
      rw [apply, validate_ledger]
      rfl

theorem applyAll_ledger (operations : List Operation) (tracked : Tracked schema) :
    applyAll operations tracked.census.ledger = OptionT.lift (do
      let after ← tracked.applyAll operations
      return after.census.ledger) := by
  induction operations generalizing tracked with
  | nil => rfl
  | cons operation operations ih =>
      rw [applyAll, apply_ledger, Tracked.applyAll, bind_assoc]
      exact lift_bind_congr fun after => ih after

end Ledger

/-! ## What a schema gives for a code -/

/-- A kind declares a code exactly if it stands at the number of the code. -/
theorem Schema.code_eq_iff (schema : Schema) {position : Nat} {kind : Kind}
    (here : schema.kinds[position]? = some kind) (code : UInt32) :
    kind.code = code ↔ position = code.toNat := by
  rw [← UInt32.toNat_inj, schema.code_eq here]

theorem Schema.allows_of_known {schema : Schema} {code : UInt32} {kind : Kind}
    (known : schema.kinds[code.toNat]? = some kind) (target : ArchitectureSet) :
    schema.allows code target = kind.allowed.intersects target := by
  rw [Schema.allows, known]

theorem Schema.allows_of_unknown {schema : Schema} {code : UInt32}
    (unknown : schema.kinds[code.toNat]? = none) (target : ArchitectureSet) :
    schema.allows code target = false := by
  rw [Schema.allows, unknown]

/-- **A list of kinds is a schema or has a first fault.**  It is a schema exactly if every kind fits
at its position, and otherwise the fault of the first kind that does not is named.  Operations on
the counts never miss an entry: on plain lists, every run of them ends as it does on the census.  A
code behind the last kind is allowed on no target, and handed out as unknown; any other code is
decoded, allowed and counted by the kind at its number. -/
theorem schema_or_first_fault :
    (∀ name kinds, (∃ schema, Schema.ofKinds? name kinds = .ok schema) ↔
      ∀ (position : Nat) (kind : Kind), kinds[position]? = some kind → kind.FitsAt position) ∧
    (∀ name kinds fault, Schema.ofKinds? name kinds = .error fault ↔
      ∃ (position : Nat) (kind : Kind), kinds[position]? = some kind ∧
        kind.FailsAt position fault ∧
        ∀ earlier < position, ∀ other, kinds[earlier]? = some other → other.FitsAt earlier) ∧
    ∀ name kinds schema, Schema.ofKinds? name kinds = .ok schema →
      (Census.zero schema).ledger = ⟨name, kinds, List.replicate kinds.length 0⟩ ∧
      (∀ operations session,
        let done := Tracked.applyAll operations (.fresh schema) session
        Ledger.applyAll operations ⟨name, kinds, List.replicate kinds.length 0⟩ session =
          (some done.1.census.ledger, done.2)) ∧
      ∀ (census : Census schema) (code : UInt32),
        (kinds.length ≤ code.toNat →
          census.count? code = none ∧
          (∀ target, schema.allows code target = false) ∧
          ∀ indent data offset arguments,
            census.dispatch indent data offset code arguments = (do
              fieldLabel indent "* Offset *"
              print (NumberFormat.hex.numeral offset ++ "\n")
              error (Fault.message (.unknownCode name code))
              return (false, census))) ∧
        (code.toNat < kinds.length → ∃ kind count,
          kinds[code.toNat]? = some kind ∧
          (∀ (position : Nat) (other : Kind), kinds[position]? = some other →
            (other.code = code ↔ position = code.toNat)) ∧
          census.count? code = some count ∧
          (∀ target, schema.allows code target = kind.allowed.intersects target) ∧
          census.kindCounts[code.toNat]? = some (kind, count) ∧
          (∀ indent data offset arguments,
            census.dispatch indent data offset code arguments = (do
              fieldLabel indent "* Offset *"
              print (NumberFormat.hex.numeral offset ++ "\n")
              let supported ← Census.decodeKind kind count indent arguments data
              return (supported, census.counted code))) ∧
          (census.counted code).count? code = some (addSaturating32 count 1) ∧
          ∀ other ≠ code, (census.counted code).count? other = census.count? other) := by
  refine ⟨fun name kinds => Schema.exists_ofKinds?_eq_ok_iff, fun name kinds fault => ?_,
    fun name kinds schema made => ?_⟩
  · rw [Schema.ofKinds?_eq_error_iff, firstFault?_eq_some_iff]
    simp only [Nat.zero_add]
  · obtain ⟨rfl, rfl⟩ := Schema.ofKinds?_eq_ok_iff.mp made
    have new := Ledger.ledger_zero schema
    refine ⟨new, fun operations session => ?_, fun census code =>
      ⟨fun behind => ?_, fun known => ?_⟩⟩
    · have run := Ledger.applyAll_ledger operations (.fresh schema)
      rw [show (Tracked.fresh schema).census = Census.zero schema from rfl, new] at run
      exact congrFun run session
    · have unknown : schema.kinds[code.toNat]? = none := List.getElem?_eq_none behind
      exact ⟨Census.count?_eq_none (Nat.not_lt.mpr behind), Schema.allows_of_unknown unknown,
        Census.dispatch_of_unknown unknown⟩
    · have here := List.getElem?_eq_getElem known
      have counted : census.count? code = some census.counts[code.toNat] :=
        Vector.getElem?_eq_getElem known
      refine ⟨_, _, here, fun position other there => schema.code_eq_iff there code, counted,
        Schema.allows_of_known here, ?_, Census.dispatch_of_known here counted,
        Census.count?_counted_self counted, fun other ne => Census.count?_counted_of_ne ne.symm⟩
      exact List.getElem?_zip_eq_some.mpr ⟨here, Ledger.counts_ledger counted⟩

/-- Of three kinds with two faults the first one is named.  Two kinds make a schema; a structure of
the second one and one of no kind are handed out, and the counts are looked up where they are. -/
theorem schema_or_first_fault_of_two :
    let kinds : List Kind :=
      [⟨"A", 0, .x86, .unsupported⟩, ⟨"B", 1, .armAny, .record [.hidden 1 0]⟩]
    let faulty : List Kind := [⟨"A", 0, .x86, .unsupported⟩, ⟨"B", 1, .armAny, .record []⟩,
      ⟨"C", 7, .x86, .unsupported⟩]
    let operations : List Operation := [.dispatch 2 [1, 2] 0 1 (none, none),
      .dispatch 2 [5, 2] 2 5 (none, none), .validate]
    let session : Session := .start .default
    Schema.ofKinds? "Family" faulty = .error (.emptyFieldList 1) ∧
    ∃ schema, Schema.ofKinds? "Family" kinds = .ok schema ∧
      schema.allows 5 .all = false ∧ schema.allows 1 .all = true ∧
      (Ledger.applyAll operations ⟨"Family", kinds, [0, 0]⟩ session).1 =
        some ⟨"Family", kinds, [0, 1]⟩ := by
  intro kinds faulty operations session
  obtain ⟨_, refuses, uses⟩ := schema_or_first_fault
  have made : Schema.ofKinds? "Family" kinds = .ok ⟨"Family", kinds, rfl⟩ :=
    Schema.ofKinds?_eq_ok_iff.mpr ⟨rfl, rfl⟩
  obtain ⟨_, runs, codes⟩ := uses _ _ _ made
  refine ⟨(refuses _ _ _).mpr ⟨1, _, rfl, .fields rfl rfl, ?_⟩, _, made, ?_, ?_, ?_⟩
  · rintro earlier early other there
    obtain rfl : earlier = 0 := Nat.lt_one_iff.mp early
    cases there
    exact ⟨rfl, nofun⟩
  · obtain ⟨_, never, _⟩ := (codes (.zero _) 5).1 (by decide)
    exact never .all
  · obtain ⟨kind, _, here, _, _, allows, _⟩ := (codes (.zero _) 1).2 (by decide)
    cases here
    rw [allows]
    rfl
  · have ends := congrArg Prod.fst (runs operations session)
    exact ends.trans rfl

end Structure

end AcpiTables
