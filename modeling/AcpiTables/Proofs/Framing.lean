import AcpiTables.Proofs.Drift
import AcpiTables.Structure.Walk

/-!
# Framing of the structure walk

A walk over untrusted bytes takes its steps from the data: the byte behind the type code
of a structure says how far the next one is away.  `outlineFrom` states which structures
that gives and how the walk ends, from the bytes alone: no schema and no session enters.

A walk is the sequence of the hand-outs of these structures followed by its end
(`walkFrom_eq_handOut`), because looking ahead leaves the session as it is
(`decode_headFields`).  The structures are consecutive slices of the table
(`framed_outlineFrom`), the end is decided by what remains behind the last one
(`outlineFrom_endsAs`), and structures that carry their own lengths are found again behind
any leading bytes (`outlineFrom_flatten`).
-/

namespace AcpiTables

set_option autoImplicit false

namespace Structure

open Decoder

variable {schema : Schema}

/-! ## Slices of a table -/

/-- A structure as it lies in a table. -/
structure Slice where
  /-- The offset of its first byte. -/
  offset : Nat
  code : UInt8
  bytes : Bytes
  deriving DecidableEq, Repr

def Slice.stop (slice : Slice) : Nat := slice.offset + slice.bytes.length

/-- The type code as schemas count it. -/
def Slice.typeCode (slice : Slice) : UInt32 := UInt32.ofNat slice.code.toNat

/-- Structures lie one behind the other in a table, from one offset to another.  Each has at
least one byte, its type code in the byte at its start and its length in the byte after it. -/
inductive Framed (table : Bytes) : Nat → List Slice → Nat → Prop where
  | nil (offset : Nat) : Framed table offset [] offset
  | cons (slice : Slice) {rest : List Slice} {stop : Nat}
      (code : table[slice.offset]? = some slice.code)
      (length : table[slice.offset + 1]?.map UInt8.toNat = some slice.bytes.length)
      (nonempty : 0 < slice.bytes.length)
      (bytes : table.slice? slice.offset slice.bytes.length = some slice.bytes)
      (later : Framed table slice.stop rest stop) :
      Framed table slice.offset (slice :: rest) stop

/-- How the structures of a table lie and end. -/
structure Outline where
  /-- The structures, in order. -/
  slices : List Slice
  /-- The offset behind the last one. -/
  stop : Nat
  status : WalkStatus

/-- The outline of the bytes that remain at an offset. -/
def outlineFrom (offset : Nat) (remaining : Bytes) : Outline :=
  match remaining with
  | [] => ⟨[], offset, .complete⟩
  | [_] => ⟨[], offset, .truncated⟩
  | code :: length :: body =>
      if _possible : 0 < length.toNat ∧ length.toNat ≤ (code :: length :: body).length then
        let later := outlineFrom (offset + length.toNat)
          ((code :: length :: body).drop length.toNat)
        { later with
          slices := ⟨offset, code, (code :: length :: body).take length.toNat⟩ :: later.slices }
      else ⟨[], offset, .invalidLength⟩
termination_by remaining.length
decreasing_by exact length_drop_lt _possible

theorem outlineFrom_cons_of_possible {offset : Nat} {code length : UInt8} {body : Bytes}
    (possible : 0 < length.toNat ∧ length.toNat ≤ (code :: length :: body).length) :
    outlineFrom offset (code :: length :: body) =
      { outlineFrom (offset + length.toNat) ((code :: length :: body).drop length.toNat) with
        slices := ⟨offset, code, (code :: length :: body).take length.toNat⟩ ::
          (outlineFrom (offset + length.toNat)
            ((code :: length :: body).drop length.toNat)).slices } := by
  rw [outlineFrom, dif_pos possible]

/-- The outline of a table behind an offset. -/
def outline (table : Bytes) (start : Nat) : Outline := outlineFrom start (table.drop start)

/-- Hands out structures one after another. -/
def handOut : List Slice → Census schema → Decoder (Census schema)
  | [], census => return census
  | slice :: rest, census => do
      let (_, census) ← census.dispatch structureIndent slice.bytes slice.offset slice.typeCode
        (none, none)
      handOut rest census

/-- What keeps a walk that ends at an offset from going on. -/
def faultAt (schema : Schema) (table : Bytes) (stop : Nat) : WalkStatus → Option WalkFault
  | .complete => none
  | .truncated => some (.truncatedHead schema.name (table.length - stop))
  | .invalidLength =>
      some (.invalidLength schema.name (table.getD (stop + 1) 0).toNat stop table.length)

/-- The end of a walk: an error, or the validation of a complete census. -/
def conclude (table : Bytes) (stop : Nat) (status : WalkStatus) (census : Census schema) :
    Decoder (WalkStatus × Census schema) :=
  match faultAt schema table stop status with
  | none => finish census
  | some fault => do
      error fault.message
      return (status, census)

/-! ## Looking ahead -/

/-- Looking ahead gives the code and the length and leaves the session as it is. -/
theorem decode_headFields (remaining : Bytes) :
    Record.decode false 0 none remaining headFields =
      pure (Record.reading remaining headFields) := by
  funext session
  have known : headFields ∈ Record.widening := List.mem_cons_self
  obtain ⟨consistent, widths⟩ := Record.consistent_of_mem_widening known
  exact Record.decode_untraced_of_no_drift fun _ =>
    (Record.length_drifts_of_consistentFrom (Record.consistent_iff.mp consistent)).trans
      (Record.strays_of_pairwise_width widths)

theorem code_of_cons (code : UInt8) (body : Bytes) :
    (Record.reading (code :: body) headFields).number? 0 1 = some code.toNat := by
  simp [Record.reading, Record.readingFrom, Record.places, headFields, Field.hidden, Field.kept,
    Reading.number?, Reading.capture?, Record.keep, Capture.number?, Bytes.number?,
    Bytes.slice?, Bytes.littleEndian]

theorem length_of_cons_cons (code length : UInt8) (body : Bytes) :
    (Record.reading (code :: length :: body) headFields).number? 1 1 = some length.toNat := by
  simp [Record.reading, Record.readingFrom, Record.places, headFields, Field.hidden,
    Field.labelled, Field.kept, Reading.number?, Reading.capture?, Record.keep,
    Capture.number?, Bytes.number?, Bytes.slice?, Bytes.littleEndian]

theorem length_of_singleton (code : UInt8) :
    (Record.reading [code] headFields).number? 1 1 = none := by
  simp [Record.reading, Record.readingFrom, Record.places, headFields, Field.hidden,
    Field.labelled, Field.kept, Reading.number?, Reading.capture?, Record.keep]

/-! ## One step of a walk -/

section Step

variable (tableLength offset : Nat) (census : Census schema)

theorem walkFrom_nil : walkFrom tableLength offset census [] = finish census := by
  rw [walkFrom]
  rfl

theorem walkFrom_singleton (code : UInt8) :
    walkFrom tableLength offset census [code] = (do
      error (WalkFault.message (.truncatedHead schema.name 1))
      return (.truncated, census)) := by
  rw [walkFrom, decode_headFields, pure_bind, code_of_cons, length_of_singleton]
  rfl

variable {code length : UInt8} {body : Bytes}

theorem walkFrom_cons_of_possible
    (possible : 0 < length.toNat ∧ length.toNat ≤ (code :: length :: body).length) :
    walkFrom tableLength offset census (code :: length :: body) = (do
      let (_, census) ← census.dispatch structureIndent
        ((code :: length :: body).take length.toNat) offset (UInt32.ofNat code.toNat) (none, none)
      walkFrom tableLength (offset + length.toNat) census
        ((code :: length :: body).drop length.toNat)) := by
  rw [walkFrom, decode_headFields, pure_bind, code_of_cons, length_of_cons_cons]
  simp only [dif_pos possible]
  rfl

theorem walkFrom_cons_of_impossible
    (impossible : ¬ (0 < length.toNat ∧ length.toNat ≤ (code :: length :: body).length)) :
    walkFrom tableLength offset census (code :: length :: body) = (do
      error (WalkFault.message (.invalidLength schema.name length.toNat offset tableLength))
      return (.invalidLength, census)) := by
  rw [walkFrom, decode_headFields, pure_bind, code_of_cons, length_of_cons_cons]
  simp only [dif_neg impossible]
  rfl

end Step

/-! ## A walk is the sequence of its hand-outs -/

theorem getElem?_of_drop_eq {table : Bytes} {offset : Nat} {first second : UInt8} {body : Bytes}
    (here : first :: second :: body = table.drop offset) :
    table[offset]? = some first ∧ table[offset + 1]? = some second := by
  constructor
  · rw [← Nat.add_zero offset, ← List.getElem?_drop, ← here]
    rfl
  · rw [← List.getElem?_drop, ← here]
    rfl

theorem walkFrom_eq_handOut {table : Bytes} (offset : Nat) (remaining : Bytes)
    (census : Census schema) (here : remaining = table.drop offset) :
    walkFrom table.length offset census remaining =
      handOut (outlineFrom offset remaining).slices census >>= conclude table
        (outlineFrom offset remaining).stop (outlineFrom offset remaining).status := by
  fun_induction outlineFrom offset remaining generalizing census with
  | case1 offset =>
      rw [walkFrom_nil]
      rfl
  | case2 offset code =>
      have remaining : table.length - offset = 1 := by
        rw [← List.length_drop, ← here, List.length_singleton]
      rw [walkFrom_singleton, handOut, pure_bind, conclude, faultAt, remaining]
  | case3 offset code length body possible later ih =>
      rw [walkFrom_cons_of_possible _ _ _ possible, handOut, bind_assoc]
      refine congrArg _ (funext fun handed => ?_)
      exact ih handed.2 (by rw [here, List.drop_drop])
  | case4 offset code length body impossible =>
      have declared : table.getD (offset + 1) 0 = length := by
        rw [List.getD_eq_getElem?_getD, (getElem?_of_drop_eq here).2, Option.getD_some]
      rw [walkFrom_cons_of_impossible _ _ _ impossible, handOut, pure_bind, conclude, faultAt,
        declared]

/-- **A walk hands out the structures of its outline and then ends**, in every session and
for every schema. -/
theorem walk_eq_handOut (schema : Schema) (table : Bytes) (start : Nat) :
    walk schema table start = handOut (outline table start).slices (.zero schema) >>=
      conclude table (outline table start).stop (outline table start).status :=
  walkFrom_eq_handOut start _ _ rfl

/-! ## Where the structures lie -/

theorem framed_outlineFrom {table : Bytes} (offset : Nat) (remaining : Bytes)
    (here : remaining = table.drop offset) :
    Framed table offset (outlineFrom offset remaining).slices
      (outlineFrom offset remaining).stop := by
  fun_induction outlineFrom offset remaining with
  | case1 offset => exact .nil offset
  | case2 offset code => exact .nil offset
  | case3 offset code length body possible later ih =>
      obtain ⟨codeByte, lengthByte⟩ := getElem?_of_drop_eq here
      have width : ((code :: length :: body).take length.toNat).length = length.toNat := by
        rw [List.length_take, Nat.min_eq_left possible.2]
      have inside : offset + length.toNat ≤ table.length := by
        have remains := congrArg List.length here
        rw [List.length_drop] at remains
        omega
      refine .cons ⟨offset, code, _⟩ codeByte ?_ ?_ ?_ ?_
      · rw [lengthByte, width, Option.map_some]
      · rw [width]
        exact possible.1
      · rw [width, Bytes.slice?, if_pos inside, ← here]
      · rw [Slice.stop, width]
        exact ih (by rw [here, List.drop_drop])
  | case4 offset code length body impossible => exact .nil offset

/-- What remains of a table where a walk ends. -/
def EndsAs (table : Bytes) (stop : Nat) : WalkStatus → Prop
  | .complete => table.length ≤ stop
  | .truncated => stop + 1 = table.length
  | .invalidLength => stop + 2 ≤ table.length ∧
      ∃ length, table[stop + 1]? = some length ∧
        (length.toNat = 0 ∨ table.length - stop < length.toNat)

theorem EndsAs.cases {table : Bytes} {stop : Nat} {status : WalkStatus}
    (ends : EndsAs table stop status) :
    (status = .complete ∧ table.length ≤ stop) ∨
    (status = .truncated ∧ stop + 1 = table.length) ∨
    (status = .invalidLength ∧ stop + 2 ≤ table.length) := by
  cases status with
  | complete => exact .inl ⟨rfl, ends⟩
  | truncated => exact .inr (.inl ⟨rfl, ends⟩)
  | invalidLength => exact .inr (.inr ⟨rfl, ends.1⟩)

/-- The conditions exclude each other. -/
theorem EndsAs.eq_iff {table : Bytes} {stop : Nat} {status other : WalkStatus}
    (ends : EndsAs table stop status) : status = other ↔ EndsAs table stop other := by
  constructor
  · rintro rfl
    exact ends
  · intro also
    rcases ends.cases with ⟨rfl, here⟩ | ⟨rfl, here⟩ | ⟨rfl, here⟩ <;>
      rcases also.cases with ⟨rfl, there⟩ | ⟨rfl, there⟩ | ⟨rfl, there⟩ <;>
      first | rfl | omega

/-- The end of a walk is decided by the bytes that remain. -/
theorem outlineFrom_endsAs {table : Bytes} (offset : Nat) (remaining : Bytes)
    (here : remaining = table.drop offset) :
    EndsAs table (outlineFrom offset remaining).stop (outlineFrom offset remaining).status := by
  have remains := congrArg List.length here
  rw [List.length_drop] at remains
  fun_induction outlineFrom offset remaining with
  | case1 offset => exact List.drop_eq_nil_iff.mp here.symm
  | case2 offset code =>
      change offset + 1 = table.length
      rw [List.length_singleton] at remains
      omega
  | case3 offset code length body possible later ih =>
      have behind : (code :: length :: body).drop length.toNat =
          table.drop (offset + length.toNat) := by
        rw [here, List.drop_drop]
      exact ih behind (by rw [behind, List.length_drop])
  | case4 offset code length body impossible =>
      rw [remains] at impossible
      rw [List.length_cons, List.length_cons] at remains
      refine ⟨?_, length, (getElem?_of_drop_eq here).2, ?_⟩
      · change offset + 2 ≤ table.length
        omega
      · change length.toNat = 0 ∨ table.length - offset < length.toNat
        omega

/-! ## Structures that carry their own lengths -/

/-- The bytes, at least two and at most 255, have their own number in the second byte. -/
def SelfSized (bytes : Bytes) : Prop := bytes[1]?.map UInt8.toNat = some bytes.length

instance (bytes : Bytes) : Decidable (SelfSized bytes) :=
  inferInstanceAs (Decidable (_ = _))

/-- Structures as slices, one behind the other from an offset on. -/
def place (offset : Nat) : List Bytes → List Slice
  | [] => []
  | bytes :: rest => ⟨offset, bytes.headD 0, bytes⟩ :: place (offset + bytes.length) rest

theorem SelfSized.eq_cons_cons {bytes : Bytes} (sized : SelfSized bytes) :
    ∃ code length body, bytes = code :: length :: body ∧ length.toNat = bytes.length := by
  match bytes, sized with
  | code :: length :: body, sized => exact ⟨code, length, body, rfl, Option.some.inj sized⟩

theorem outlineFrom_flatten {structures : List Bytes}
    (sized : ∀ bytes ∈ structures, SelfSized bytes) (offset : Nat) :
    outlineFrom offset structures.flatten =
      ⟨place offset structures, offset + structures.flatten.length, .complete⟩ := by
  induction structures generalizing offset with
  | nil =>
      rw [List.flatten_nil, outlineFrom]
      rfl
  | cons bytes structures ih =>
      obtain ⟨code, length, body, rfl, width⟩ := (sized bytes List.mem_cons_self).eq_cons_cons
      have later := ih (fun other there => sized other (List.mem_cons_of_mem _ there))
        (offset + length.toNat)
      have possible : 0 < length.toNat ∧
          length.toNat ≤ (code :: length :: (body ++ structures.flatten)).length := by
        simp only [List.length_cons, List.length_append] at width ⊢
        omega
      have split : code :: length :: (body ++ structures.flatten) =
          (code :: length :: body) ++ structures.flatten := rfl
      rw [List.flatten_cons, ← split, outlineFrom_cons_of_possible possible, split,
        List.take_left' width.symm, List.drop_left' width.symm, later, place, ← width]
      simp only [List.headD_cons, List.length_append, ← width, Nat.add_assoc]

/-! ## The framing of a walk -/

/-- A walk that ends early counts and emits one error behind its hand-outs. -/
theorem conclude_of_fault {table : Bytes} {stop : Nat} {status : WalkStatus} {fault : WalkFault}
    (early : faultAt schema table stop status = some fault) (census : Census schema)
    (session : Session) :
    conclude table stop status census session =
      ((status, census), session.record (.ofError session.scope fault.message)) := by
  have ending : conclude table stop status census = (do
      error fault.message
      return (status, census)) := by
    rw [conclude, early]
  rw [ending, bind_apply, Reports.error _ session rfl, pure_apply]

theorem conclude_value (table : Bytes) (stop : Nat) (status : WalkStatus)
    (census : Census schema) (session : Session) :
    (conclude table stop status census session).1 = (status, census) := by
  cases status <;> rfl

theorem faultAt_of_ne_complete (schema : Schema) (table : Bytes) (stop : Nat) {status : WalkStatus}
    (early : status ≠ .complete) : ∃ fault, faultAt schema table stop status = some fault := by
  cases status with
  | complete => exact absurd rfl early
  | truncated => exact ⟨_, rfl⟩
  | invalidLength => exact ⟨_, rfl⟩

/-- **Framing of the structure walk.**  A walk hands out consecutive slices of the table, each with
the code and the length at its start, and its status says what remains behind the last one; ending
early adds one error.  Looking ahead leaves every session as it is.  Structures that carry their own
lengths are handed out one by one behind any leading bytes, and then the walk is complete. -/
theorem walk_framing :
    (∀ (table : Bytes) (start : Nat), ∃ slices stop status,
      Framed table start slices stop ∧
      (status = .complete ↔ table.length ≤ stop) ∧
      (status = .truncated ↔ stop + 1 = table.length) ∧
      (status = .invalidLength ↔ stop + 2 ≤ table.length ∧
        ∃ length, table[stop + 1]? = some length ∧
          (length.toNat = 0 ∨ table.length - stop < length.toNat)) ∧
      ∀ (schema : Schema) (session : Session),
        let handed := handOut slices (.zero schema) session
        let outcome := walk schema table start session
        outcome.1 = (status, handed.1) ∧
        (status = .complete → outcome.2 = (finish handed.1 handed.2).2) ∧
        (status ≠ .complete → ∃ fault, faultAt schema table stop status = some fault ∧
          outcome.2 = handed.2.record (.ofError handed.2.scope fault.message))) ∧
    (∀ (remaining : Bytes) (session : Session),
      (Record.decode false 0 none remaining headFields session).2 = session) ∧
    ∀ (leading : Bytes) (structures : List Bytes), (∀ bytes ∈ structures, SelfSized bytes) →
      ∀ schema, walk schema (leading ++ structures.flatten) leading.length =
        handOut (place leading.length structures) (.zero schema) >>= finish := by
  refine ⟨fun table start => ?_, fun remaining session => ?_,
    fun leading structures sized schema => ?_⟩
  · have framed : Framed table start (outline table start).slices (outline table start).stop :=
      framed_outlineFrom start _ rfl
    have ends : EndsAs table (outline table start).stop (outline table start).status :=
      outlineFrom_endsAs start _ rfl
    refine ⟨_, _, _, framed, ends.eq_iff, ends.eq_iff, ends.eq_iff, fun schema session => ?_⟩
    intro handed outcome
    have run : outcome = conclude table (outline table start).stop (outline table start).status
        handed.1 handed.2 := congrFun (walk_eq_handOut schema table start) session
    refine ⟨?_, fun complete => ?_, fun early => ?_⟩
    · rw [run]
      exact conclude_value ..
    · rw [run, complete]
      rfl
    · obtain ⟨fault, found⟩ := faultAt_of_ne_complete schema table
        (outline table start).stop early
      exact ⟨fault, found, by rw [run, conclude_of_fault found]⟩
  · rw [decode_headFields, pure_apply]
  · have found := outlineFrom_flatten sized leading.length
    rw [walk_eq_handOut, outline, List.drop_left, found]
    rfl

/-- Behind three leading bytes, structures of two and of three bytes are handed out one by one. -/
theorem walk_framing_behind_three_bytes :
    let structures : List Bytes := [[0, 2], [1, 3, 7]]
    (∀ bytes ∈ structures, SelfSized bytes) ∧
    ∀ schema, walk schema ([9, 9, 9] ++ structures.flatten) 3 =
      handOut [⟨3, 0, [0, 2]⟩, ⟨5, 1, [1, 3, 7]⟩] (.zero schema) >>= finish := by
  intro structures
  have sized : ∀ bytes ∈ structures, SelfSized bytes := by decide
  obtain ⟨_, _, converse⟩ := walk_framing
  exact ⟨sized, converse [9, 9, 9] structures sized⟩

end Structure

end AcpiTables
