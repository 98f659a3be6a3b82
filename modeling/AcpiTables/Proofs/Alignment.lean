import AcpiTables.Proofs.Columns
import AcpiTables.Proofs.HeadBytes
import AcpiTables.Proofs.OrderlyTables

/-!
# Values line up

Indents are opened and closed as blocks are nested, so whether a label fits depends on where it is
shown.  `Aligned decoder indent` says that whatever the decoder shows in a scope with that indent
lines up, if it is a label, a heading or a line of the breakdown.  Sequences of aligned decoders are
aligned, and a block is aligned if its body is under the larger indent.  Decoders without labels are
orderly, so it is enough that their texts are neat (`Aligned.of_orderly`).

A table is decoded without an indent and its structures behind two spaces, so the labels of the
fixed parts have to fit behind two spaces and those of structures behind four.  Some labels fill
this room to the last character.  Titles have room for any index (`Structure.fits_title`), and
labels of private resources for more than a structure can hold
(`ProcessorTopology.aligned_decodeProcessor`).

Hence everything that decoding a buffer shows in these ways lines up (`Table.values_line_up`).
-/

namespace AcpiTables

set_option autoImplicit false

open Decoder

/-- A message that does not end with a colon is told on a line without a column. -/
theorem Ended.tellable {message : String} (ended : Ended message) : Tellable Neat message where
  error := .of_line (by simp) (ended.append _)
  warning := .of_line (by simp) (ended.append _)

/-! ## Decoders -/

namespace Decoder

variable {α β : Type}

/-- In every scope with the indent, all that the decoder says is neat. -/
def Aligned (decoder : Decoder α) (indent : UInt64) : Prop :=
  ∀ scope : Scope, scope.indent = indent → ∃ value report, Reports decoder scope value report ∧
    ∀ emit ∈ report.emits, Neat emit.text

namespace Aligned

variable {indent : UInt64}

theorem pure (value : α) : Aligned (Pure.pure value) indent :=
  fun _ _ => ⟨value, .empty, Reports.pure value, List.forall_mem_nil _⟩

theorem bind {first : Decoder α} {next : α → Decoder β} (start : Aligned first indent)
    (rest : ∀ value, Aligned (next value) indent) : Aligned (first >>= next) indent := by
  intro scope within
  obtain ⟨one, before, startReports, early⟩ := start scope within
  obtain ⟨two, after, restReports, late⟩ := rest one scope within
  exact ⟨two, before ++ after, startReports.bind restReports,
    List.forall_mem_append.mpr ⟨early, late⟩⟩

theorem bind_pure {first : Decoder α} (form : α → β) (start : Aligned first indent) :
    Aligned (first >>= fun value => Pure.pure (form value)) indent :=
  start.bind fun value => pure (form value)

theorem print {text : String} (neat : Neat text) : Aligned (Decoder.print text) indent :=
  fun _ _ => ⟨(), _, Reports.print text, List.forall_mem_singleton.mpr neat⟩

/-- An orderly decoder is aligned under every indent if all it says is neat. -/
theorem of_orderly {checking : Bool} {decoder : Decoder α}
    (orderly : Orderly Neat checking decoder) : Aligned decoder indent := by
  intro scope _
  obtain ⟨value, report, reports, spoken⟩ := orderly.reports scope
  exact ⟨value, report, reports, spoken.texts⟩

theorem error {message : String} (ended : Ended message) :
    Aligned (Decoder.error message) indent :=
  of_orderly (.error message ended.tellable.error : Orderly Neat false _)

theorem fieldLabel {extra : UInt64} {label : String}
    (fits : Fits (addSaturating64 indent extra).toNat label) :
    Aligned (Decoder.fieldLabel extra label) indent := by
  rintro scope rfl
  exact ⟨(), _, Reports.fieldLabel extra label, List.forall_mem_singleton.mpr (.label fits)⟩

theorem heading {title : String} (fits : Fits indent.toNat title) :
    Aligned (Decoder.heading title) indent := by
  rintro scope rfl
  exact ⟨(), _, Reports.heading title, List.forall_mem_singleton.mpr (.heading fits)⟩

/-- A block is aligned if its body is, under the larger indent. -/
theorem indented {extra : UInt64} {body : Decoder α}
    (inner : Aligned body (addSaturating64 indent extra)) :
    Aligned (Decoder.indented extra body) indent := by
  rintro scope rfl
  obtain ⟨value, report, reports, neat⟩ := inner (scope.nested extra) rfl
  exact ⟨value, report, reports.indented, neat⟩

end Aligned

end Decoder

/-! ## Fields -/

theorem neat_byteText (format : Option NumberFormat) (byte : UInt8) :
    Neat (byteText format byte) := by
  cases format with
  | none =>
      refine .of_short ?_
      rw [byteText, String.length_singleton]
      decide
  | some format =>
      refine .of_plain ?_
      rw [byteText, NumberFormat.digitText, String.toList_ofList]
      exact colon_not_mem_digits format byte.toNat

namespace Field

section Neat

variable {name : String} {width offset : Nat}

@[simp] theorem tells_neat_integer {format : NumberFormat} :
    (integer format name width offset).Tells Neat :=
  tells_integer fun number => .of_plain (colon_not_mem_numeral format number)

@[simp] theorem tells_neat_characters {limit : Nat} {format : Option NumberFormat} :
    { labelled name width offset with render := .custom (characters limit) format }.Tells Neat :=
  tells_characters (neat_byteText format) (.of_plain (by decide))

@[simp] theorem tells_neat_text : (text name width offset).Tells Neat := tells_neat_characters

end Neat

end Field

/-! ## Records -/

namespace Record

variable {title : Option String} {indent : UInt64}

theorem tells_neat (title : Option String) (field : Field) : Tells Neat title field where
  newline := .of_plain (by decide)
  drift _ := (ended_message _).tellable
  refusal := (ended_message _).tellable

theorem aligned_visitField {field : Field}
    (fits : Fits (addSaturating64 indent 2).toNat (field.name.getD "")) (tells : field.Tells Neat)
    (trace : Bool) (offset : Nat) (bytes : Bytes) :
    Aligned (visitField trace title offset field bytes) indent := by
  have faults : Tells Neat title field := tells_neat title field
  have drift : Orderly Neat false (whenChecking (checkOffset title field offset)) :=
    .whenChecking (orderly_checkOffset faults offset)
  have shows : Orderly Neat false (do
      let shown ← field.showValue bytes
      finishTrace title field bytes shown) :=
    (tells.value false bytes).bind (orderly_finishTrace faults (tells.check bytes))
  unfold visitField
  refine (Aligned.of_orderly drift).bind fun _ => ?_
  split
  · rename_i label named
    rw [named] at fits
    rw [traceField_eq]
    exact (Aligned.fieldLabel fits).bind fun _ => .of_orderly shows
  · exact .pure ()

theorem aligned_decodeFrom {fields : List Field}
    (fits : ∀ field ∈ fields, Fits (addSaturating64 indent 2).toNat (field.name.getD ""))
    (tells : ∀ field ∈ fields, field.Tells Neat) (trace : Bool) (offset : Nat) (rest : Bytes) :
    Aligned (decodeFrom trace title offset rest fields) indent := by
  induction fields generalizing offset rest with
  | nil => exact .pure _
  | cons field fields ih =>
      obtain ⟨fitsHere, fitsThere⟩ := List.forall_mem_cons.mp fits
      obtain ⟨tellsHere, tellsThere⟩ := List.forall_mem_cons.mp tells
      unfold decodeFrom
      split
      · exact (aligned_visitField fitsHere tellsHere trace offset _).bind fun _ =>
          (ih fitsThere tellsThere _ _).bind_pure _
      · exact (ih fitsThere tellsThere _ _).bind_pure _

/-- A record is aligned if its title fits behind the indent of its block and all its labels fit
behind two more spaces. -/
theorem aligned_decode {extra : UInt64} {fields : List Field}
    (titled : Fits (addSaturating64 indent extra).toNat (title.getD ""))
    (fits : ∀ field ∈ fields,
      Fits (addSaturating64 (addSaturating64 indent extra) 2).toNat (field.name.getD ""))
    (tells : ∀ field ∈ fields, field.Tells Neat) (trace : Bool) (data : Bytes) :
    Aligned (decode trace extra title data fields) indent := by
  refine .indented (.bind ?_ fun _ => aligned_decodeFrom fits tells trace 0 data)
  unfold showTitle
  split
  · exact .heading titled
  · exact .pure ()

end Record

/-! ## Structures -/

namespace Structure

variable {schema : Schema}

/-- An indexed title fits where its name does with thirteen more characters, whatever the index. -/
theorem fits_title {pad : Nat} {name : String} (fits : Fits (pad + 13) name) (index : UInt32) :
    Fits pad (title name index) := by
  obtain ⟨short, plain⟩ := fits
  have digits : (toString index).length ≤ 10 :=
    length_toString_le (by decide) (Nat.lt_of_lt_of_le index.toNat_lt (by decide))
  have width : (title name index).length = name.length + 2 + (toString index).length + 1 := by
    simp only [title, String.length_append]
    rfl
  -- The index has at most ten digits, and the brackets and the space before them are three more.
  refine ⟨by omega, ?_⟩
  simp only [title, String.toList_append, List.mem_append, not_or]
  exact ⟨⟨⟨plain, by decide⟩, colon_not_mem_toString_uint32 index⟩, by decide⟩

/-- The structures of a kind are aligned as structures of a table are handed out, and its line of
the breakdown lines up. -/
structure Kind.Tidy (kind : Kind) : Prop where
  listed : Fits Census.breakdownIndent kind.name
  shown : ∀ (index : UInt32) (arguments : Option Argument × Option Argument) (data : Bytes),
    data.length < 256 → Aligned (Census.decodeKind kind index structureIndent arguments data) 0

theorem Kind.Tidy.record {name : String} {code : UInt32} {allowed : ArchitectureSet}
    {fields : List Field} (named : Fits 15 name)
    (fits : ∀ field ∈ fields, Fits 4 (field.name.getD ""))
    (tells : ∀ field ∈ fields, field.Tells Neat) :
    Kind.Tidy ⟨name, code, allowed, .record fields⟩ where
  listed := ⟨Nat.le_trans (Nat.add_le_add_right (by decide) _) named.1, named.2⟩
  shown index _ data _ := by
    have titled : Fits (addSaturating64 0 structureIndent).toNat
        ((some (title name index)).getD "") := fits_title named index
    exact (Record.aligned_decode titled fits tells true data).bind_pure _

theorem Kind.Tidy.unsupported {name : String} {code : UInt32} {allowed : ArchitectureSet}
    (named : Fits Census.breakdownIndent name) : Kind.Tidy ⟨name, code, allowed, .unsupported⟩ where
  listed := named
  shown _ _ _ _ := (Aligned.error (Fault.ended_message _)).bind_pure _

theorem aligned_dispatch (tidy : ∀ kind ∈ schema.kinds, kind.Tidy) (census : Census schema)
    {data : Bytes} (short : data.length < 256) (offset : Nat) (code : UInt32)
    (arguments : Option Argument × Option Argument) :
    Aligned (census.dispatch structureIndent data offset code arguments) 0 := by
  have labelled : Fits (addSaturating64 0 structureIndent).toNat "* Offset *" := by decide
  have line : ':' ∉ (NumberFormat.hex.numeral offset ++ "\n").toList := by simp
  unfold Census.dispatch
  refine (Aligned.fieldLabel labelled).bind fun _ => (Aligned.print (.of_plain line)).bind ?_
  intro _
  split
  · rename_i known
    exact ((tidy _ (List.getElem_mem known)).shown _ arguments data short).bind_pure _
  · exact (Aligned.error (Fault.ended_message _)).bind_pure _

theorem aligned_handOut (tidy : ∀ kind ∈ schema.kinds, kind.Tidy) {slices : List Slice}
    (short : ∀ slice ∈ slices, slice.bytes.length < 256) (census : Census schema) :
    Aligned (handOut slices census) 0 := by
  induction slices generalizing census with
  | nil => exact .pure _
  | cons slice slices ih =>
      obtain ⟨here, there⟩ := List.forall_mem_cons.mp short
      exact (aligned_dispatch tidy census here _ _ _).bind fun handed => ih there handed.2

theorem tells_neat (tidy : ∀ kind ∈ schema.kinds, kind.Tidy) : schema.Tells Neat where
  opening := .of_short (by decide)
  line kind there count := .breakdownLine (tidy kind there).listed count
  disallowed _ _ _ := (Fault.ended_message _).tellable
  early _ _ _ fault _ := (WalkFault.ended_message fault).tellable

theorem aligned_walk (tidy : ∀ kind ∈ schema.kinds, kind.Tidy) (table : Bytes) (start : Nat) :
    Aligned (walk schema table start) 0 := by
  have short : ∀ slice ∈ (outline table start).slices, slice.bytes.length < 256 := by
    intro slice there
    obtain ⟨_, declared⟩ := (framed_outlineFrom start _ rfl).declared_of_mem slice there
    obtain ⟨length, _, width⟩ := Option.map_eq_some_iff.mp declared
    rw [← width]
    exact length.toNat_lt
  have concludes (stop : Nat) (status : WalkStatus) (census : Census schema) :
      Orderly Neat false (conclude table stop status census) :=
    orderly_conclude (tells_neat tidy) table stop status census
  rw [walk_eq_handOut]
  exact (aligned_handOut tidy short _).bind fun census => .of_orderly (concludes _ _ census)

end Structure

/-! ## Headers and checksums -/

namespace Header

theorem fits_fields : ∀ field ∈ fields, Fits 2 (field.name.getD "") := by decide

theorem tells_neat_fields : ∀ field ∈ fields, field.Tells Neat := by
  simp [fields, Field.decimal, Field.hexUpper]

theorem aligned_trace (data : Bytes) : Aligned (trace data) 0 :=
  (Record.aligned_decode (by decide) fits_fields tells_neat_fields true _).bind_pure _

theorem aligned_read (data : Bytes) : Aligned (read data) 0 :=
  (Record.aligned_decode (by decide) fits_fields tells_neat_fields false _).bind_pure _

end Header

theorem Checksum.tells_neat : Tells Neat where
  passed := .of_short (by decide)
  failed sum := by
    have lines : ")\n\n" = ")\n" ++ "\n" := rfl
    rw [lines, ← String.append_assoc]
    exact .of_line (by simp) (.append _ (.ofList (by decide)))

/-! ## Tables of interrupt controllers -/

namespace InterruptController

open Structure

theorem tellable_neat_message (fault : Fault) : Tellable Neat fault.message :=
  (ended_message fault).tellable

/-- The longest label of the fixed part fills the column. -/
theorem fits_fields : ∀ field ∈ fields, Fits 2 (field.name.getD "") := by decide

theorem tells_neat_fields : ∀ field ∈ fields, field.Tells Neat := by
  simp [fields, Header.fields, Field.decimal, Field.hex, Field.hexUpper]

theorem tidy_kinds : ∀ kind ∈ schema.kinds, kind.Tidy := by
  have processorInterface : ∀ field ∈ processorInterfaceFields, field.Tells Neat := by
    simp [processorInterfaceFields, Field.decimal, Field.hex,
      orderly_checkOverflowInterrupt tellable_neat_message]
  have distributor : ∀ field ∈ distributorFields, field.Tells Neat := by
    simp [distributorFields, Field.decimal, Field.hex,
      orderly_checkVectorBase tellable_neat_message]
  have messageFrame : ∀ field ∈ messageFrameFields, field.Tells Neat := by
    simp [messageFrameFields, Field.decimal, Field.hex]
  have redistributor : ∀ field ∈ redistributorFields, field.Tells Neat := by
    simp [redistributorFields, Field.decimal, Field.hex]
  have translationService : ∀ field ∈ translationServiceFields, field.Tells Neat := by
    simp [translationServiceFields, Field.decimal, Field.hex]
  simp only [schema, kinds, List.forall_mem_cons]
  and_intros
  any_goals exact .unsupported (by decide)
  · exact .record (by decide) (by decide) processorInterface
  · exact .record (by decide) (by decide) distributor
  · exact .record (by decide) (by decide) messageFrame
  · exact .record (by decide) (by decide) redistributor
  · exact .record (by decide) (by decide) translationService
  · exact List.forall_mem_nil _

theorem aligned_decode (table : Bytes) : Aligned (decode table) 0 := by
  have checks (status : WalkStatus) (census : Census schema) :
      Orderly Neat false (checkDistributors status census) :=
    orderly_checkDistributors tellable_neat_message status census
  exact (Record.aligned_decode (by decide) fits_fields tells_neat_fields true table).bind fun _ =>
    (aligned_walk tidy_kinds table _).bind fun walked => .of_orderly (checks _ _)

end InterruptController

/-! ## Tables of processor topology -/

namespace ProcessorTopology

open Structure

theorem tellable_neat_message (fault : Fault) (_ : ∀ name length, fault ≠ .shortNode name length) :
    Tellable Neat fault.message :=
  (ended_message fault).tellable

theorem fits_resource {index : Nat} (small : index < 10 ^ 13) :
    Fits 4 s!"Private resource [{index}]" := by
  have digits : (toString index).length ≤ 13 := length_toString_le (by decide) small
  have width : s!"Private resource [{index}]".length = 18 + (toString index).length + 1 := by
    simp only [String.length_append]
    rfl
  refine ⟨by rw [width, labelColumn]; omega, ?_⟩
  simp only [String.toList_append, List.mem_append, not_or]
  exact ⟨⟨by decide, colon_not_mem_toString index⟩, by decide⟩

theorem aligned_showReferences {index count : Nat} (small : index + count ≤ 10 ^ 13)
    (data : Bytes) : Aligned (showReferences index count data) 0 := by
  induction count generalizing index data with
  | zero => exact .pure ()
  | succ count ih =>
      have line (number : Nat) : ':' ∉ (NumberFormat.hex.numeral number ++ "\n").toList := by simp
      have fits : Fits (addSaturating64 0 4).toNat s!"Private resource [{index}]" :=
        fits_resource (by omega)
      exact (Aligned.fieldLabel fits).bind fun _ =>
        (Aligned.print (.of_plain (line _))).bind fun _ => ih (by omega) _

/-- A node of a table is aligned, because its bytes have room for few references only. -/
theorem aligned_decodeProcessor {call : Call} (named : Fits 15 call.name)
    (indented : call.indent = structureIndent) {data : Bytes} (short : data.length < 256) :
    Aligned (decodeProcessor call data) 0 := by
  have titled : Fits (addSaturating64 0 call.indent).toNat
      ((some (title call.name call.index)).getD "") := by
    rw [indented]
    exact fits_title named call.index
  have fits : ∀ field ∈ processorFields,
      Fits (addSaturating64 (addSaturating64 0 call.indent) 2).toNat (field.name.getD "") := by
    rw [indented]
    decide
  have tells : ∀ field ∈ processorFields, field.Tells Neat := by
    simp [processorFields, Field.decimal, Field.hex]
  unfold decodeProcessor
  refine (Record.aligned_decode titled fits tells true data).bind fun reading => ?_
  split
  · exact .error (ended_message _)
  · rename_i count _
    dsimp only
    split
    · rename_i room
      rw [List.length_drop, referenceSize] at room
      exact aligned_showReferences (by omega) _
    · exact .error (ended_message _)

theorem tidy_kinds : ∀ kind ∈ schema.kinds, kind.Tidy := by
  have cache : ∀ field ∈ cacheFields, field.Tells Neat := by
    simp [cacheFields, Field.decimal, Field.hex, orderly_checkSets tellable_neat_message,
      orderly_checkAssociativity tellable_neat_message,
      orderly_checkAttributes tellable_neat_message, orderly_checkLineSize tellable_neat_message]
  have identity : ∀ field ∈ identityFields, field.Tells Neat := by
    simp [identityFields, Field.decimal, Field.hex]
  simp only [schema, kinds, List.forall_mem_cons]
  refine ⟨⟨by decide, ?_⟩, .record (by decide) (by decide) cache,
    .record (by decide) (by decide) identity, List.forall_mem_nil _⟩
  intro index arguments data short
  have named : Fits 15 "Processor" := by decide
  exact (aligned_decodeProcessor named rfl short).bind_pure _

theorem aligned_decode (table : Bytes) : Aligned (decode table) 0 :=
  (Record.aligned_decode (by decide) Header.fits_fields Header.tells_neat_fields true table).bind
    fun _ => (aligned_walk tidy_kinds table _).bind_pure _

end ProcessorTopology

/-! ## Whole tables -/

namespace Table

theorem aligned_decodeContent (signature table : Bytes) :
    Aligned (decodeContent signature table) 0 := by
  by_cases interrupt : signature = InterruptController.signature
  · rw [interrupt]
    exact InterruptController.aligned_decode table
  · by_cases topology : signature = ProcessorTopology.signature
    · rw [topology]
      exact ProcessorTopology.aligned_decode table
    · rw [decodeContent_of_unknown interrupt topology]
      refine (Header.aligned_trace table).bind fun _ => .print ?_
      have line : " table.\n" = " table." ++ "\n" := rfl
      rw [line, ← String.append_assoc]
      exact .of_line (by simp) (.append _ (.ofList (by decide)))

theorem aligned_decode (data : Bytes) : Aligned (decode data) 0 := by
  unfold decode
  split
  · exact (Aligned.error (ended_message _)).bind_pure _
  · refine (Header.aligned_read data).bind fun found => ?_
    match found with
    | (_, ⟨some signature, some declared, some revision⟩) =>
        dsimp only
        split
        · exact (Aligned.error (ended_message _)).bind_pure _
        · have clamps : Orderly Neat false (clamp data declared) :=
            orderly_clamp (fun fault => (ended_message fault).tellable) data declared
          refine (Aligned.of_orderly clamps).bind fun table => ?_
          have verifies : Orderly Neat false (Checksum.verify true table) :=
            Checksum.orderly_verify Checksum.tells_neat true table
          refine (Aligned.of_orderly verifies).bind fun _ => ?_
          exact (aligned_decodeContent signature table).bind_pure _
    | (_, ⟨none, _, _⟩) | (_, ⟨some _, none, _⟩) | (_, ⟨some _, some _, none⟩) => exact .pure _

/-- **Values line up.**  For every buffer and configuration, every label, heading and line of the
breakdown that decoding the buffer in a fresh session shows has one colon, 37 characters behind its
start.  And in every session, a label behind an indent that a formatter can pad to is shown as one
text of the width of the column and the separator, or of indent, label and separator if these need
more. -/
theorem values_line_up :
    (∀ (data : Bytes) (config : Config), ∀ emit ∈ (decode data (.start config)).2.emits,
      IsColumned emit.text → LinesUp emit.text) ∧
    ∀ (session : Session) (extra : UInt64) (label : String),
      let pad := (addSaturating64 session.indent extra).toNat
      pad ≤ 0xFFFF →
        ∃ emit, (fieldLabel extra label session).2.emits = session.emits ++ [emit] ∧
          IsColumned emit.text ∧ emit.text.length = max 36 (pad + label.length) + 3 := by
  constructor
  · intro data config emit there
    obtain ⟨found, report, reports, neat⟩ := aligned_decode data ⟨config, 0⟩ rfl
    rw [reports _ rfl, Session.emits_record] at there
    exact neat emit there
  · intro session extra label pad _
    refine ⟨⟨columnLabel pad label ++ " : ", none⟩, ?_, .label pad label, ?_⟩
    · rw [Reports.fieldLabel extra label session rfl, Session.emits_record]
      rfl
    · rw [String.length_append, length_columnLabel]
      rfl

/-- Two labels that fill their room to the last character and the line of a kind, in a table with
one processor interface, and a label behind the largest indent. -/
theorem values_line_up_of_full_labels :
    let table : Bytes := InterruptController.signature ++ [124, 0, 0, 0] ++ List.replicate 36 0 ++
      [11, 80] ++ List.replicate 78 0
    let session : Session := (decode table (.start ⟨true, false, .all⟩)).2
    (⟨columnLabel 2 "Local Interrupt Controller Address" ++ " : ", none⟩ ∈ session.emits ∧
      LinesUp (columnLabel 2 "Local Interrupt Controller Address" ++ " : ")) ∧
    (⟨columnLabel 4 "Processor Power Efficiency Class" ++ " : ", none⟩ ∈ session.emits ∧
      LinesUp (columnLabel 4 "Processor Power Efficiency Class" ++ " : ")) ∧
    (⟨Structure.Census.breakdownLine "GICC" 1, none⟩ ∈ session.emits ∧
      LinesUp (Structure.Census.breakdownLine "GICC" 1)) ∧
    let deep : Session := ⟨.default, .zero, 0xFFFD, #[]⟩
    ∃ emit, (fieldLabel 2 "Flags" deep).2.emits = deep.emits ++ [emit] ∧
      IsColumned emit.text ∧ emit.text.length = 65543 := by
  intro table session
  have address : ⟨columnLabel 2 "Local Interrupt Controller Address" ++ " : ", none⟩ ∈
      session.emits := by decide +kernel
  have efficiency : ⟨columnLabel 4 "Processor Power Efficiency Class" ++ " : ", none⟩ ∈
      session.emits := by decide +kernel
  have interfaces : ⟨Structure.Census.breakdownLine "GICC" 1, none⟩ ∈ session.emits := by
    decide +kernel
  refine ⟨⟨address, ?_⟩, ⟨efficiency, ?_⟩, ⟨interfaces, ?_⟩, ?_⟩
  · exact values_line_up.1 table _ _ address (.label _ _)
  · exact values_line_up.1 table _ _ efficiency (.label _ _)
  · exact values_line_up.1 table _ _ interfaces (.breakdown _ _)
  · exact values_line_up.2 ⟨.default, .zero, 0xFFFD, #[]⟩ 2 "Flags" (by decide)

end Table

end AcpiTables
