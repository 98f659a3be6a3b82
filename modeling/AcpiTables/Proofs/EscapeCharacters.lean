import AcpiTables.Proofs.Additivity
import AcpiTables.Proofs.CensusTallies
import AcpiTables.Proofs.FixedPart
import AcpiTables.Proofs.Spelling
import AcpiTables.Proofs.WholeTables
import AcpiTables.Terminal

/-!
# Escape characters in the output

Without highlighting no text has a style, so no escape sequence is put around a text.  But the
identifiers in a table are shown byte by byte as characters, and what they hold reaches the output
as it is.

`Table.spelled` gives the bytes of a buffer that are shown so: of the header the signature and the
identifiers of its makers, and in topology tables the vendors of all identities.  The output has
an escape character exactly if one of these bytes is one
(`Table.escape_character_iff_spelled`).
-/

namespace AcpiTables

set_option autoImplicit false

open Decoder

/-- A terminal is sent unstyled texts as they are. -/
theorem Terminal.Palette.encode_of_unstyled (palette : Palette) {emits : List Emit}
    (unstyled : ∀ emit ∈ emits, emit.style = none) : palette.encode emits = plainText emits := by
  have same : ∀ emit ∈ emits, String.join (palette.parts emit) = emit.text := by
    intro emit there
    rw [parts, unstyled emit there]
    rfl
  rw [encode, plainText, List.map_congr_left same]

/-! ## Headers -/

namespace Header

/-- The bytes of a header that are shown as characters: the signature, both identifiers of the
OEM, and the identifier of the creator. -/
def spelled (table : Bytes) : Bytes :=
  table.take 4 ++ (table.drop 10).take 6 ++ (table.drop 16).take 8 ++ (table.drop 28).take 4

theorem legible_fields : ∀ field ∈ fields, field.Legible := by
  simp [fields, Field.hexUpper, Field.decimal, Clean.iff_not_mem]

theorem spelledFrom_fields {table : Bytes} (whole : size ≤ table.length) :
    Record.spelledFrom table fields = spelled table := by
  have sum : 0 + (fields.map Field.width).sum ≤ table.length := whole
  have placed : Record.spelledFrom (table.drop 0) fields = _ :=
    Record.spelledFrom_of_whole wellLaid_fields.consistent sum
  rw [List.drop_zero] at placed
  rw [placed]
  simp [fields, Field.spelled, Field.isText, Field.text, Field.kept, Field.decimal,
    Field.hexUpper, Field.integer, Field.labelled, Record.bytesOf, spelled]

theorem spells_trace {table : Bytes} (whole : size ≤ table.length) :
    Spells (trace table) (spelled table) := by
  have titled : Clean ((some "ACPI Table Header").getD "") := .ofList (by decide)
  have length : (table.take size).length = size := List.length_take_of_le whole
  have same : spelled (table.take size) = spelled table := by
    simp [spelled, size, List.drop_take, List.take_take]
  rw [← same, ← spelledFrom_fields (Nat.le_of_eq length.symm)]
  exact (Record.spells_decode titled legible_fields 0 _).bind_pure _

end Header

/-! ## Tables of processor topology -/

namespace ProcessorTopology

open Structure

/-- The vendor of an identity, if the structure is one and long enough for it. -/
def vendor (slice : Slice) : Bytes :=
  if slice.code = 2 ∧ 8 ≤ slice.bytes.length then (slice.bytes.drop 4).take 4 else []

theorem legible_identityFields : ∀ field ∈ identityFields, field.Legible := by
  simp [identityFields, Field.hex, Field.decimal, Clean.iff_not_mem]

theorem spelledFrom_identityFields (bytes : Bytes) : Record.spelledFrom bytes identityFields =
    if 8 ≤ bytes.length then (bytes.drop 4).take 4 else [] := by
  have split : identityFields = identityFields.take 4 ++ identityFields.drop 4 := rfl
  have silent : ∀ field ∈ identityFields.drop 4, field.isText = false := by decide
  rw [split, Record.spelledFrom_append_of_silent silent]
  simp [identityFields, Record.spelledFrom, Field.spelled, Field.isText, Field.hex, Field.decimal,
    Field.integer, Field.text, Field.labelled]
  split_ifs <;> first | rfl | omega

theorem spells_dispatch_slice (slice : Slice) (census : Census schema) :
    Spells (census.dispatch structureIndent slice.bytes slice.offset slice.typeCode (none, none))
      (vendor slice) := by
  have code : slice.typeCode.toNat = slice.code.toNat := by
    simp [Slice.typeCode]
  by_cases identity : slice.code = 2
  · have shown : vendor slice = Record.spelledFrom slice.bytes identityFields := by
      rw [spelledFrom_identityFields, vendor]
      simp only [identity, true_and]
    rw [shown]
    refine spells_dispatch named_schema census _ _ _ _ ?_ ?_
    · intro kind index found
      rw [code, identity] at found
      cases found
      have titled : Clean ((some (title "ID" index)).getD "") :=
        clean_title (.ofList (by decide)) index
      exact (Record.spells_decode titled legible_identityFields _ _).bind_pure _
    · intro unknown
      rw [code, identity] at unknown
      cases unknown
  · have nothing : vendor slice = [] := by
      simp [vendor, identity]
    rw [nothing]
    refine .of_orderly (orderly_dispatch named_schema census _ _ _ _ ?_)
    intro kind found
    refine speaks_kinds (List.mem_of_getElem? found) fun same => ?_
    have position := schema.code_eq found
    rw [same, code] at position
    exact identity (UInt8.toNat_inj.mp position.symm)

theorem spells_decode {table : Bytes} (whole : Header.size ≤ table.length) :
    Spells (decode table)
      (Header.spelled table ++ (outline table Header.size).slices.flatMap vendor) := by
  have titled : Clean ((some "PPTT").getD "") := .ofList (by decide)
  have consumed (session : Session) :
      (Record.decode true 0 (some "PPTT") table fields session).1.consumed = Header.size := by
    rw [Record.decode_value]
    exact Header.wellLaid_fields.consumed whole
  have header : Spells (Record.decode true 0 (some "PPTT") table fields)
      (Header.spelled table) := by
    rw [← Header.spelledFrom_fields whole]
    exact Record.spells_decode titled Header.legible_fields 0 table
  refine header.bind_of (fun reading => reading.consumed = Header.size) consumed ?_
  intro reading start
  rw [start]
  exact (spells_walk named_schema fun slice _ census =>
    spells_dispatch_slice slice census).bind_pure _

end ProcessorTopology

/-! ## Tables of interrupt controllers -/

namespace InterruptController

open Structure

theorem legible_fields : ∀ field ∈ fields, field.Legible := by
  simp [fields, Header.fields, Field.hex, Field.hexUpper, Field.decimal, Clean.iff_not_mem]

theorem spells_decode {table : Bytes} (whole : Header.size ≤ table.length) :
    Spells (decode table) (Header.spelled table) := by
  have titled : Clean ((some "MADT").getD "") := .ofList (by decide)
  have silent : ∀ field ∈ ownFields, field.isText = false := by decide
  have split : fields = Header.fields ++ ownFields := rfl
  have fixed := Record.spells_decode titled legible_fields 0 table
  rw [split, Record.spelledFrom_append_of_silent silent, Header.spelledFrom_fields whole] at fixed
  exact fixed.bind_orderly fun reading =>
    (orderly_walk named_schema speaks_kinds table _).bind fun walked =>
      orderly_checkDistributors tellable_message _ _

end InterruptController

namespace Table

/-- The bytes of a buffer that are shown as characters when it is decoded. -/
def spelled (data : Bytes) : Bytes :=
  if data.length < Header.size ∨ Header.declared data < Header.size then []
  else
    let table := data.take (Header.declared data)
    Header.spelled table ++
      if table.take 4 = ProcessorTopology.signature then
        (Structure.outline table Header.size).slices.flatMap ProcessorTopology.vendor
      else []

theorem spells_decodeContent {table : Bytes} (whole : Header.size ≤ table.length) :
    Spells (decodeContent (table.take 4) table) (Header.spelled table ++
      if table.take 4 = ProcessorTopology.signature then
        (Structure.outline table Header.size).slices.flatMap ProcessorTopology.vendor
      else []) := by
  by_cases topology : table.take 4 = ProcessorTopology.signature
  · rw [if_pos topology, topology]
    exact ProcessorTopology.spells_decode whole
  · rw [if_neg topology, List.append_nil]
    by_cases interrupt : table.take 4 = InterruptController.signature
    · rw [interrupt]
      exact InterruptController.spells_decode whole
    · rw [decodeContent_of_unknown interrupt topology]
      refine (Header.spells_trace whole).bind_orderly fun _ => .print_of_clean ?_
      rw [Clean.append_iff, Clean.append_iff]
      exact ⟨⟨.ofList (by decide), Clean.escapeBytes _⟩, .ofList (by decide)⟩

/-- **What the decoder of a buffer spells.** -/
theorem spells_decode (data : Bytes) : Spells (decode data) (spelled data) := by
  unfold spelled
  by_cases short : data.length < Header.size
  · rw [if_pos (.inl short), decode_of_short short]
    exact .of_orderly ((Orderly.error_of_clean (clean_message _)).bind_pure _)
  · have whole : Header.size ≤ data.length := Nat.not_lt.mp short
    by_cases small : Header.declared data < Header.size
    · rw [if_pos (.inr small), decode_of_small whole small]
      exact .of_orderly ((Orderly.error_of_clean (clean_message _)).bind_pure _)
    · have large : Header.size ≤ Header.declared data := Nat.not_lt.mp small
      have content : Header.size ≤ (data.take (Header.declared data)).length :=
        size_le_length_clamped whole large
      have signature : (data.take (Header.declared data)).take 4 = data.take 4 := by
        rw [List.take_take, Nat.min_eq_left (Nat.le_trans (by decide) large)]
      rw [if_neg (not_or.mpr ⟨short, small⟩), decode_of_large whole large, ← signature]
      refine (Spells.of_orderly (orderly_clamp tellable_message data _)).bind_of
        (fun table => table = data.take (Header.declared data)) (clamp_value data _) ?_
      rintro _ rfl
      exact .orderly_bind (Checksum.orderly_verify Checksum.tells_clean true _) fun _ =>
        (spells_decodeContent content).bind_pure _

/-- Without highlighting, what decoding a buffer emits has no styles. -/
theorem unstyled_decode {data : Bytes} {session : Session} {said : List Emit}
    (emits : (decode data session).2.emits = session.emits ++ said)
    (off : session.config.highlight = false) : ∀ emit ∈ said, emit.style = none := by
  have orderly : Orderly (Sayable True) false (decodeNoting data) := orderly_decodeNoting data
  obtain ⟨found, report, reports, spoken⟩ := orderly.reports session.scope
  have ran : decode data session = (found.1, session.record report) := by
    rw [decode_eq_noting, map_eq_pure_bind, bind_apply, reports session rfl, pure_apply]
  rw [ran, Session.emits_record] at emits
  rw [← List.append_cancel_left emits]
  exact spoken.styles off

/-- **When the output of a buffer has an escape character.**  What decoding a buffer emits has an
escape character exactly if one of the bytes that are shown as characters is one, in every session.
Without highlighting a terminal is sent just the emitted texts, whatever its palette, so nothing
else puts an escape sequence there. -/
theorem escape_character_iff_spelled (data : Bytes) (session : Session) :
    ∃ said, (decode data session).2.emits = session.emits ++ said ∧
      (escapeCharacter ∈ (plainText said).toList ↔ escapeByteCode ∈ spelled data) ∧
      (session.config.highlight = false →
        ∀ palette : Terminal.Palette, palette.encode said = plainText said) := by
  obtain ⟨value, report, reports, escapes⟩ := spells_decode data session.scope
  have emits : (decode data session).2.emits = session.emits ++ report.emits := by
    rw [reports session rfl, Session.emits_record]
  refine ⟨report.emits, emits, Report.escapes_iff_mem_plainText.symm.trans escapes, ?_⟩
  intro off palette
  exact palette.encode_of_unstyled (unstyled_decode emits off)

/-- A header whose OEM identifier starts with an escape sequence. -/
def colouredTable : Bytes :=
  [0x41, 0x42, 0x43, 0x44, 36, 0, 0, 0, 1, 0x56, 0x1B, 0x5B, 0x33, 0x31, 0x6D, 0x20] ++
    List.replicate 20 0x41

/-- Without highlighting, the identifier of the coloured table reaches the output as it is. -/
theorem escape_character_without_highlighting :
    Config.default.highlight = false ∧
      escapeCharacter ∈ (plainText (decode colouredTable (.start .default)).2.emits).toList := by
  obtain ⟨value, report, reports, escapes⟩ := spells_decode colouredTable ⟨.default, 0⟩
  have emits : (decode colouredTable (.start .default)).2.emits = report.emits := by
    rw [reports _ rfl, Session.emits_record]
    rfl
  refine ⟨rfl, ?_⟩
  rw [emits, ← Report.escapes_iff_mem_plainText, escapes]
  decide

end Table

end AcpiTables
