import AcpiTables.Proofs.OrderlyTables

/-!
# Checking consistency only adds

Whether consistency is checked does not change what a table is taken for.  A run without checks
gives the same signature as one with checks, hands out the same structures under the same
indices, and says the same except for what the checks add.

What a walk hands out is not part of its value, so `Table.decodeNoting` decodes a table and notes
each structure together with its index.  Without the notes it is `Table.decode`
(`Table.decode_eq_noting`).  It is orderly, so the two runs go in lockstep, notes included.
-/

namespace AcpiTables

set_option autoImplicit false

open Decoder

/-! ## Noting what is handed out -/

namespace Structure

variable {schema : Schema}

/-- A structure that was handed out, and the count of its kind before it, which is its index; the
kind of an unknown code has no count. -/
structure Visit where
  slice : Slice
  index : Option UInt32
  deriving DecidableEq, Repr

/-- Hands out structures one after another and notes each of them. -/
def handOutNoting : List Slice → Census schema → Decoder (List Visit × Census schema)
  | [], census => return ([], census)
  | slice :: rest, census => do
      let (_, counted) ← census.dispatch structureIndent slice.bytes slice.offset slice.typeCode
        (none, none)
      let (visits, last) ← handOutNoting rest counted
      return (⟨slice, census.count? slice.typeCode⟩ :: visits, last)

/-- Walks over the structures of a table behind an offset and notes them. -/
def walkNoting (schema : Schema) (table : Bytes) (start : Nat) :
    Decoder (List Visit × WalkStatus × Census schema) := do
  let (visits, census) ← handOutNoting (outline table start).slices (.zero schema)
  let ending ← conclude table (outline table start).stop (outline table start).status census
  return (visits, ending)

theorem handOut_eq_noting (slices : List Slice) (census : Census schema) :
    handOut slices census = Prod.snd <$> handOutNoting slices census := by
  induction slices generalizing census with
  | nil => rfl
  | cons slice slices ih =>
      simp only [handOut, handOutNoting, map_bind, map_pure]
      refine congrArg _ (funext fun handed => ?_)
      rw [ih, map_eq_pure_bind]

theorem walk_eq_noting (schema : Schema) (table : Bytes) (start : Nat) :
    walk schema table start = Prod.snd <$> walkNoting schema table start := by
  simp only [walk_eq_handOut, handOut_eq_noting, walkNoting, map_bind, map_pure, bind_map_left,
    bind_pure]

/-- What is noted are the structures that are handed out. -/
theorem map_slice_handOutNoting (slices : List Slice) (census : Census schema)
    (session : Session) :
    (handOutNoting slices census session).1.1.map Visit.slice = slices := by
  induction slices generalizing census session with
  | nil => rfl
  | cons slice slices ih => exact congrArg (slice :: ·) (ih _ _)

theorem orderly_walkNoting {raw : Prop} {checking : Bool} (named : schema.Named)
    (speaks : ∀ kind ∈ schema.kinds, kind.method.Speaks raw) (table : Bytes) (start : Nat) :
    Orderly (Sayable raw) checking (walkNoting schema table start) := by
  have handsOut (slices : List Slice) (census : Census schema) :
      Orderly (Sayable raw) checking (handOutNoting slices census) := by
    induction slices generalizing census with
    | nil => exact .pure _
    | cons slice slices ih =>
        exact (orderly_dispatch named census _ _ _ _ fun kind known =>
          speaks kind (List.mem_of_getElem? known)).bind fun handed => (ih handed.2).bind_pure _
  exact (handsOut _ _).bind fun handed => (orderly_conclude named.tells table _ _ _).bind_pure _

theorem orderly_walk {raw : Prop} {checking : Bool} (named : schema.Named)
    (speaks : ∀ kind ∈ schema.kinds, kind.method.Speaks raw) (table : Bytes) (start : Nat) :
    Orderly (Sayable raw) checking (walk schema table start) := by
  rw [walk_eq_noting, map_eq_pure_bind]
  exact (orderly_walkNoting named speaks table start).bind_pure _

end Structure

namespace InterruptController

open Structure

/-- Decodes a table of interrupt controllers and notes its structures. -/
def decodeNoting (table : Bytes) : Decoder (List Visit) := do
  let reading ← Record.decode true 0 (some "MADT") table fields
  let (visits, status, census) ← walkNoting schema table reading.consumed
  checkDistributors status census
  return visits

theorem decode_eq_noting (table : Bytes) :
    decode table = (fun _ => ()) <$> decodeNoting table := by
  simp only [decode, decodeNoting, walk_eq_noting, map_bind, map_pure, bind_map_left,
    bind_pure_unit]

theorem orderly_decodeNoting {checking : Bool} (table : Bytes) :
    Orderly (Sayable True) checking (decodeNoting table) := by
  have titled : Clean ((some "MADT").getD "") := .ofList (by decide)
  refine (Record.orderly_decode titled speaks_fields true 0 table).bind fun reading => ?_
  refine (orderly_walkNoting named_schema speaks_kinds table _).bind fun walked => ?_
  exact (orderly_checkDistributors tellable_message _ _).bind_pure _

end InterruptController

namespace ProcessorTopology

open Structure

/-- Decodes a table of processor topology and notes its structures. -/
def decodeNoting (table : Bytes) : Decoder (List Visit) := do
  let reading ← Record.decode true 0 (some "PPTT") table fields
  let (visits, _) ← walkNoting schema table reading.consumed
  return visits

theorem decode_eq_noting (table : Bytes) :
    decode table = (fun _ => ()) <$> decodeNoting table := by
  simp only [decode, decodeNoting, walk_eq_noting, map_bind, map_pure, bind_map_left]

theorem orderly_decodeNoting {checking : Bool} (table : Bytes) :
    Orderly (Sayable True) checking (decodeNoting table) := by
  have titled : Clean ((some "PPTT").getD "") := .ofList (by decide)
  have speaks : ∀ kind ∈ schema.kinds, kind.method.Speaks True := fun kind there =>
    speaks_kinds there fun _ => trivial
  refine (Record.orderly_decode titled Header.speaks_fields true 0 table).bind fun reading => ?_
  exact (orderly_walkNoting named_schema speaks table _).bind_pure _

end ProcessorTopology

namespace Table

open Structure

/-- Decodes a table by its signature and notes its structures. -/
def contentNoting (signature table : Bytes) : Decoder (List Visit) :=
  if signature = InterruptController.signature then InterruptController.decodeNoting table
  else if signature = ProcessorTopology.signature then ProcessorTopology.decodeNoting table
  else do
    decodeContent signature table
    return []

/-- Decodes the table in a buffer and notes its structures. -/
def decodeNoting (data : Bytes) : Decoder (Option Bytes × List Visit) :=
  if data.length < Header.size then do
    error (Fault.message (.shortBuffer data.length))
    return (none, [])
  else do
    let (_, header) ← Header.read data
    match header.signature, header.length, header.revision with
    | some signature, some declared, some _ =>
        if declared < Header.size then do
          error (Fault.message (.shortTable declared))
          return (some signature, [])
        else do
          let table ← clamp data declared
          let _ ← Checksum.verify true table
          let visits ← contentNoting signature table
          return (some signature, visits)
    | _, _, _ => return (none, [])

theorem decodeContent_eq_noting (signature table : Bytes) :
    decodeContent signature table = (fun _ => ()) <$> contentNoting signature table := by
  unfold contentNoting
  split
  · rename_i interrupt
    rw [interrupt]
    exact InterruptController.decode_eq_noting table
  · split
    · rename_i topology
      rw [topology]
      exact ProcessorTopology.decode_eq_noting table
    · simp only [map_bind, map_pure, bind_pure_unit]

/-- Noting the structures of a table does not change how it is decoded. -/
theorem decode_eq_noting (data : Bytes) : decode data = Prod.fst <$> decodeNoting data := by
  unfold decode decodeNoting
  split
  · rfl
  · rw [map_bind]
    refine congrArg _ (funext fun found => ?_)
    match found with
    | (_, ⟨some signature, some declared, some revision⟩) =>
        dsimp only
        split
        · rfl
        · simp only [decodeContent_eq_noting, map_bind, map_pure, bind_map_left]
    | (_, ⟨none, _, _⟩) | (_, ⟨some _, none, _⟩) | (_, ⟨some _, some _, none⟩) => rfl

theorem orderly_contentNoting {checking : Bool} (signature table : Bytes) :
    Orderly (Sayable True) checking (contentNoting signature table) := by
  unfold contentNoting
  split
  · exact InterruptController.orderly_decodeNoting table
  · split
    · exact ProcessorTopology.orderly_decodeNoting table
    · rename_i notInterrupt notTopology
      rw [decodeContent_of_unknown notInterrupt notTopology]
      refine Orderly.bind_pure _ ((Header.orderly_trace table).bind fun traced => ?_)
      exact .print _ (.inl trivial)

theorem orderly_decodeNoting {checking : Bool} (data : Bytes) :
    Orderly (Sayable True) checking (decodeNoting data) := by
  unfold decodeNoting
  split
  · exact (Orderly.error_of_clean (clean_message _)).bind_pure _
  · refine (Header.orderly_read data).bind fun found => ?_
    match found with
    | (_, ⟨some signature, some declared, some revision⟩) =>
        dsimp only
        split
        · exact (Orderly.error_of_clean (clean_message _)).bind_pure _
        · refine (orderly_clamp tellable_message data declared).bind fun table => ?_
          refine (Checksum.orderly_verify Checksum.tells_clean true table).bind fun _ => ?_
          exact (orderly_contentNoting signature table).bind_pure _
    | (_, ⟨none, _, _⟩) | (_, ⟨some _, none, _⟩) | (_, ⟨some _, some _, none⟩) => exact .pure _

theorem orderly_decode {checking : Bool} (data : Bytes) :
    Orderly (Sayable True) checking (decode data) := by
  rw [decode_eq_noting, map_eq_pure_bind]
  exact (orderly_decodeNoting data).bind_pure _

end Table

/-! ## The two runs -/

/-- The session with consistency checking switched on or off. -/
def Session.withChecks (session : Session) (checks : Bool) : Session :=
  { session with config := { session.config with consistency := checks } }

@[simp] theorem Session.scope_withChecks (session : Session) (checks : Bool) :
    (session.withChecks checks).scope = session.scope.withChecks checks := rfl

/-- **Checking consistency only adds.**  Noting the structures does not change how a buffer is
decoded.  For every buffer, configuration and session, a run without checks and one with checks
give the same signature and hand out the same structures, with the same types and indices.  What
the run without checks emits is a sublist of what the other one emits, styles included; it counts
at most as many errors, and no warning at all. -/
theorem Table.checks_only_add :
    (∀ data, decode data = Prod.fst <$> decodeNoting data) ∧
    ∀ (data : Bytes) (session : Session),
      let quiet := decodeNoting data (session.withChecks false)
      let checked := decodeNoting data (session.withChecks true)
      quiet.1 = checked.1 ∧
      (∃ said more, quiet.2.emits = session.emits ++ said ∧
        checked.2.emits = session.emits ++ more ∧ said.Sublist more) ∧
      quiet.2.counters.errors ≤ checked.2.counters.errors ∧
      quiet.2.counters.warnings = session.counters.warnings := by
  refine ⟨decode_eq_noting, fun data session => ?_⟩
  intro quiet checked
  have orderly : Orderly (Sayable True) false (decodeNoting data) := orderly_decodeNoting data
  obtain ⟨found, on, off, runOn, runOff, spares⟩ := orderly.lockstep session.scope
  have quietRun : quiet = (found, (session.withChecks false).record off) :=
    runOff _ (session.scope_withChecks false)
  have checkedRun : checked = (found, (session.withChecks true).record on) :=
    runOn _ (session.scope_withChecks true)
  have errors : (session.counters.plus off.errors off.warnings).errors ≤
      (session.counters.plus on.errors on.warnings).errors := by
    have fewer := spares.errors
    rw [UInt32.le_iff_toNat_le, Counters.toNat_errors_plus, Counters.toNat_errors_plus]
    omega
  have warnings : (session.counters.plus off.errors off.warnings).warnings =
      session.counters.warnings := by
    rw [Counters.plus, spares.warnings rfl, Nat.add_zero, saturate32_toNat]
  rw [quietRun, checkedRun]
  exact ⟨rfl, ⟨off.emits, on.emits, Session.emits_record _ _, Session.emits_record _ _,
    spares.emits⟩, errors, warnings⟩

end AcpiTables
