import AcpiTables.Proofs.OrderlyTables
import AcpiTables.Proofs.ShownBytes
import AcpiTables.Proofs.WholeRecords

/-!
# What decoders spell

The bytes of some fields are shown as characters, and a byte 27 is then an escape character.

`Spells decoder bytes` says that a decoder shows these bytes as characters and is clean otherwise:
what it says has an escape character exactly if 27 is among the bytes.  A sequence spells what its
parts spell (`Spells.bind`), and an orderly decoder of clean texts spells nothing
(`Spells.of_orderly`).  So a record spells the bytes of its character fields, as far as these are
there (`Record.spells_decode`), and a walk spells what its structures spell
(`Structure.spells_walk`).
-/

namespace AcpiTables

set_option autoImplicit false

open Decoder

/-- The byte that is shown as the escape character. -/
def escapeByteCode : UInt8 := 0x1B

/-! ## What a decoder spells -/

namespace Report

/-- Some text of the report has an escape character. -/
def Escapes (report : Report) : Prop := ∃ emit ∈ report.emits, ¬ Clean emit.text

theorem escapes_append {first second : Report} :
    (first ++ second).Escapes ↔ first.Escapes ∨ second.Escapes := by
  simp only [Escapes, emits_append, List.mem_append, or_and_right, exists_or]

theorem escapes_iff_mem_plainText {report : Report} :
    report.Escapes ↔ escapeCharacter ∈ (plainText report.emits).toList := by
  simp [Escapes, plainText, Clean, String.toList_join]

end Report

namespace Decoder

variable {α β : Type}

/-- In every scope, what the decoder says has an escape character exactly if the bytes have one. -/
def Spells (decoder : Decoder α) (bytes : Bytes) : Prop :=
  ∀ scope, ∃ value report, Reports decoder scope value report ∧
    (report.Escapes ↔ escapeByteCode ∈ bytes)

namespace Spells

theorem of_orderly {decoder : Decoder α} (orderly : Orderly (Sayable False) false decoder) :
    Spells decoder [] := by
  intro scope
  obtain ⟨value, report, reports, spoken⟩ := orderly.reports scope
  refine ⟨value, report, reports, ?_⟩
  have clean : ¬ report.Escapes := by
    rintro ⟨emit, there, escapes⟩
    rcases spoken.texts emit there with impossible | clean
    · exact impossible
    · exact escapes clean
  simp [clean]

theorem pure (value : α) : Spells (Pure.pure value) [] :=
  of_orderly (.pure value)

/-- A sequence spells what both parts spell; the second part may rely on the first one's value. -/
theorem bind_of {first : Decoder α} {next : α → Decoder β} {before after : Bytes}
    (start : Spells first before) (property : α → Prop)
    (given : ∀ session, property (first session).1)
    (rest : ∀ value, property value → Spells (next value) after) :
    Spells (first >>= next) (before ++ after) := by
  intro scope
  obtain ⟨one, early, startReports, earlyEscapes⟩ := start scope
  have value := given { Session.start scope.config with indent := scope.indent }
  rw [startReports _ rfl] at value
  obtain ⟨two, late, restReports, lateEscapes⟩ := rest one value scope
  refine ⟨two, early ++ late, startReports.bind restReports, ?_⟩
  rw [Report.escapes_append, earlyEscapes, lateEscapes, List.mem_append]

theorem bind {first : Decoder α} {next : α → Decoder β} {before after : Bytes}
    (start : Spells first before) (rest : ∀ value, Spells (next value) after) :
    Spells (first >>= next) (before ++ after) :=
  start.bind_of (fun _ => True) (fun _ => trivial) fun value _ => rest value

section Orderly

variable {first : Decoder α} {next : α → Decoder β} {bytes : Bytes}

theorem orderly_bind (start : Orderly (Sayable False) false first)
    (rest : ∀ value, Spells (next value) bytes) : Spells (first >>= next) bytes :=
  (of_orderly start).bind rest

theorem bind_orderly (start : Spells first bytes)
    (rest : ∀ value, Orderly (Sayable False) false (next value)) :
    Spells (first >>= next) bytes := by
  rw [← List.append_nil bytes]
  exact start.bind fun value => of_orderly (rest value)

end Orderly

theorem bind_pure {first : Decoder α} {bytes : Bytes} (start : Spells first bytes)
    (form : α → β) : Spells (first >>= fun value => Pure.pure (form value)) bytes :=
  start.bind_orderly fun value => .pure (form value)

theorem print (text : String) {byte : UInt8}
    (escapes : ¬ Clean text ↔ byte = escapeByteCode) : Spells (print text) [byte] := by
  intro scope
  refine ⟨(), _, Reports.print text, ?_⟩
  simp [Report.Escapes, Report.ofEmit, escapes, eq_comm]

theorem indented {extra : UInt64} {body : Decoder α} {bytes : Bytes} (inner : Spells body bytes) :
    Spells (indented extra body) bytes := by
  intro scope
  obtain ⟨value, report, reports, escapes⟩ := inner (scope.nested extra)
  exact ⟨value, report, reports.indented, escapes⟩

end Spells

end Decoder

/-! ## Fields -/

theorem escapes_byteText_iff (byte : UInt8) :
    ¬ Clean (byteText none byte) ↔ byte = escapeByteCode := by
  have code := toNat_ofNat_toNat byte
  have same : escapeCharacter = Char.ofNat byte.toNat ↔ byte = escapeByteCode := by
    constructor
    · intro same
      rw [← same] at code
      exact UInt8.toNat_inj.mp code.symm
    · rintro rfl
      rfl
  rw [byteText, Clean, String.toList_singleton, List.mem_singleton, Decidable.not_not, same]

theorem spells_showBytes (bytes : Bytes) : Spells (showBytes none bytes) bytes := by
  induction bytes with
  | nil => exact .pure ()
  | cons byte rest ih =>
      have first : Spells (print (byteText none byte)) [byte] :=
        .print _ (escapes_byteText_iff byte)
      cases rest with
      | nil => exact first
      | cons next rest => exact first.bind fun _ => ih

namespace Field

/-- Whether a field is shown as characters: by a renderer that has no format. -/
def isText (field : Field) : Bool :=
  match field.render with
  | .custom _ none => true
  | _ => false

/-- The bytes that a field shows as characters. -/
def spelled (field : Field) (bytes : Bytes) : Bytes := if field.isText then bytes else []

/-- A labelled field that shows the bytes it spells as characters and is clean otherwise. -/
structure Legible (field : Field) : Prop where
  labelled : ∃ label, field.name = some label ∧ Clean label
  value : ∀ bytes, bytes.length = field.width →
    Spells (field.showValue bytes) (field.spelled bytes)
  check : ∀ bytes, Orderly (Sayable False) true (field.validate bytes)

section Legible

variable {name : String} {width offset : Nat}

@[simp] theorem legible_integer {format : NumberFormat} (clean : Clean name) :
    (integer format name width offset).Legible where
  labelled := ⟨name, rfl, clean⟩
  value bytes _ := .of_orderly (orderly_showInteger (sayable_numeral format) bytes)
  check _ := .pure ()

@[simp] theorem legible_text (clean : Clean name) : (text name width offset).Legible where
  labelled := ⟨name, rfl, clean⟩
  value bytes whole := by
    have all : bytes.take width = bytes := List.take_of_length_le (Nat.le_of_eq whole)
    have shown : Spells (characters width none bytes) bytes := by
      rw [characters, all]
      exact spells_showBytes bytes
    exact shown.bind_pure fun _ => true
  check _ := .pure ()

@[simp] theorem legible_kept {field : Field} (legible : field.Legible) : field.kept.Legible where
  labelled := legible.labelled
  value := legible.value
  check := legible.check

end Legible

end Field

/-! ## Records -/

namespace Record

/-- The bytes that a record shows as characters. -/
def spelledFrom (rest : Bytes) : List Field → Bytes
  | [] => []
  | field :: fields =>
      if field.width ≤ rest.length then
        field.spelled (rest.take field.width) ++ spelledFrom (rest.drop field.width) fields
      else spelledFrom rest fields

variable {title : Option String}

theorem spells_visitField {field : Field} (titled : Clean (title.getD ""))
    (legible : field.Legible) {bytes : Bytes} (whole : bytes.length = field.width)
    (offset : Nat) :
    Spells (visitField true title offset field bytes) (field.spelled bytes) := by
  obtain ⟨label, named, clean⟩ := legible.labelled
  have labelled : Clean (field.name.getD "") := named ▸ clean
  have tells : Tells (Sayable False) title field := tells_clean titled labelled
  unfold visitField
  rw [named]
  refine .orderly_bind (.whenChecking (orderly_checkOffset tells offset)) fun _ => ?_
  refine .orderly_bind (.fieldLabel_of_clean 2 clean) fun _ => ?_
  exact (legible.value bytes whole).bind_orderly
    (orderly_finishTrace tells (legible.check bytes))

theorem spells_decodeFrom {fields : List Field} (titled : Clean (title.getD ""))
    (legible : ∀ field ∈ fields, field.Legible) (offset : Nat) (rest : Bytes) :
    Spells (decodeFrom true title offset rest fields) (spelledFrom rest fields) := by
  induction fields generalizing offset rest with
  | nil => exact .pure _
  | cons field fields ih =>
      obtain ⟨here, there⟩ := List.forall_mem_cons.mp legible
      unfold decodeFrom spelledFrom
      split
      · rename_i fits
        exact (spells_visitField titled here (List.length_take_of_le fits) offset).bind fun _ =>
          (ih there _ _).bind_pure _
      · exact (ih there _ _).bind_pure _

theorem spells_decode {fields : List Field} (titled : Clean (title.getD ""))
    (legible : ∀ field ∈ fields, field.Legible) (indent : UInt64) (data : Bytes) :
    Spells (decode true indent title data fields) (spelledFrom data fields) :=
  .indented (.orderly_bind (orderly_showTitle titled true) fun _ =>
    spells_decodeFrom titled legible 0 data)

/-- A whole consistent record spells the bytes of its fields where they are declared. -/
theorem spelledFrom_of_whole {data : Bytes} {offset : Nat} {fields : List Field}
    (consistent : ConsistentFrom offset fields)
    (whole : offset + (fields.map Field.width).sum ≤ data.length) :
    spelledFrom (data.drop offset) fields =
      fields.flatMap fun field => field.spelled (bytesOf data field) := by
  induction fields generalizing offset with
  | nil => rfl
  | cons field fields ih =>
      obtain ⟨rfl, later⟩ := consistent
      rw [List.map_cons, List.sum_cons] at whole
      have fits : field.width ≤ (data.drop field.offset).length := by
        rw [List.length_drop]
        omega
      rw [spelledFrom, if_pos fits, List.drop_drop, ih later (by omega), List.flatMap_cons, bytesOf]

theorem spelledFrom_of_silent {rest : Bytes} {fields : List Field}
    (silent : ∀ field ∈ fields, field.isText = false) : spelledFrom rest fields = [] := by
  induction fields generalizing rest with
  | nil => rfl
  | cons field fields ih =>
      obtain ⟨here, there⟩ := List.forall_mem_cons.mp silent
      have nothing : field.spelled (rest.take field.width) = [] := by
        rw [Field.spelled, here, if_neg Bool.false_ne_true]
      rw [spelledFrom, nothing, ih there, ih there, List.nil_append, ite_self]

/-- Fields behind that are not shown as characters do not matter. -/
theorem spelledFrom_append_of_silent {rest : Bytes} {first second : List Field}
    (silent : ∀ field ∈ second, field.isText = false) :
    spelledFrom rest (first ++ second) = spelledFrom rest first := by
  induction first generalizing rest with
  | nil => exact spelledFrom_of_silent silent
  | cons field first ih => rw [List.cons_append, spelledFrom, spelledFrom, ih, ih]

end Record

/-! ## Structures -/

namespace Structure

variable {schema : Schema}

theorem spells_dispatch (named : schema.Named) (census : Census schema) (indent : UInt64)
    (data : Bytes) (offset : Nat) {code : UInt32}
    (arguments : Option Argument × Option Argument) {bytes : Bytes}
    (known : ∀ kind index, schema.kinds[code.toNat]? = some kind →
      Spells (Census.decodeKind kind index indent arguments data) bytes)
    (unknown : schema.kinds[code.toNat]? = none → bytes = []) :
    Spells (census.dispatch indent data offset code arguments) bytes := by
  have label : Orderly (Sayable False) false (fieldLabel indent "* Offset *") :=
    .fieldLabel_of_clean indent (.ofList (by decide))
  have line : Orderly (Sayable False) false (print (NumberFormat.hex.numeral offset ++ "\n")) :=
    .print_of_clean (Clean.append_iff.mpr ⟨Clean.numeral .hex offset, .ofList (by decide)⟩)
  unfold Census.dispatch
  refine .orderly_bind label fun _ => .orderly_bind line fun _ => ?_
  split
  · rename_i inside
    exact (known _ _ (List.getElem?_eq_getElem inside)).bind_pure _
  · rename_i outside
    have complaint : Orderly (Sayable False) false
        (error (Fault.message (.unknownCode schema.name code))) :=
      .error_of_clean (clean_unknownCode named.family code)
    rw [unknown (List.getElem?_eq_none_iff.mpr (Nat.not_lt.mp outside))]
    exact (Spells.of_orderly complaint).bind_pure _

theorem spells_handOut {spelled : Slice → Bytes} {slices : List Slice}
    (each : ∀ slice ∈ slices, ∀ census : Census schema, Spells (census.dispatch structureIndent
      slice.bytes slice.offset slice.typeCode (none, none)) (spelled slice))
    (census : Census schema) : Spells (handOut slices census) (slices.flatMap spelled) := by
  induction slices generalizing census with
  | nil => exact .pure _
  | cons slice slices ih =>
      obtain ⟨here, there⟩ := List.forall_mem_cons.mp each
      exact (here census).bind fun handed => ih there handed.2

theorem spells_walk {spelled : Slice → Bytes} (named : schema.Named) {table : Bytes}
    {start : Nat} (each : ∀ slice ∈ (outline table start).slices, ∀ census : Census schema,
      Spells (census.dispatch structureIndent slice.bytes slice.offset slice.typeCode (none, none))
        (spelled slice)) :
    Spells (walk schema table start) ((outline table start).slices.flatMap spelled) := by
  rw [walk_eq_handOut]
  exact (spells_handOut each _).bind_orderly (orderly_conclude named.tells table _ _)

end Structure

end AcpiTables
