import AcpiTables.Proofs.EscapeCharacters
import AcpiTables.Proofs.FieldLists
import AcpiTables.Proofs.Outcomes

/-!
# The members of a header

A header is read in three ways: silently, in a trace, and as the front of a table's own fields.  The
first two look at 36 bytes only, the third one at all data.  Fields lie the same in data that is cut
behind the room they take together (`Record.places_take`), and what follows a header in a field list
has no part in the members (`Header.ofReading_reading_append`), so all three find the same members,
also in data that is too short for a header.  In nine bytes the members are all there
(`Header.ofReading_of_nine`).

A traced decode of a field list that starts with a header opens with the lines of the signature and
of the length, and the length it shows there is the one that the header declares
(`Header.opens_decode`).  So a table is cut at the length that its trace shows.
-/

namespace AcpiTables

set_option autoImplicit false

open Decoder

/-! ## Data that is cut behind its fields -/

namespace Record

/-- Fields lie the same in data that is cut behind the room that they take together. -/
theorem places_take {offset size : Nat} {rest : Bytes} {fields : List Field}
    (room : (fields.map Field.width).sum ≤ size) :
    places offset (rest.take size) fields = places offset rest fields := by
  induction fields generalizing offset size rest with
  | nil => rfl
  | cons field fields ih =>
      rw [List.map_cons, List.sum_cons] at room
      have alike : field.width ≤ (rest.take size).length ↔ field.width ≤ rest.length := by
        rw [List.length_take]
        omega
      by_cases fits : field.width ≤ rest.length
      · rw [places_cons_of_fits fits, places_cons_of_fits (alike.mpr fits), List.take_take,
          Nat.min_eq_left (by omega), List.drop_take, ih (by omega)]
      · rw [places_cons_of_not_fits fits,
          places_cons_of_not_fits fun there => fits (alike.mp there),
          ih (by omega)]

theorem reading_take {size : Nat} {data : Bytes} {fields : List Field}
    (room : (fields.map Field.width).sum ≤ size) :
    reading (data.take size) fields = reading data fields := by
  rw [reading, readingFrom, places_take room, reading, readingFrom]

end Record

/-! ## The members -/

namespace Header

/-- The members are read off the first three fields. -/
theorem ofReading_reading_append (data : Bytes) {first : List Field} (more : List Field)
    (three : 3 ≤ first.length) :
    ofReading (Record.reading data (first ++ more)) = ofReading (Record.reading data first) := by
  have same {index : Nat} (inside : index < 3) :
      (Record.reading data (first ++ more)).capture? index =
        (Record.reading data first).capture? index := by
    rw [Record.reading_append]
    refine Reading.capture?_followedBy_of_lt ?_
    rw [Record.reading, Record.length_captures_readingFrom]
    omega
  simp only [ofReading, Reading.number?, same (show 0 < 3 by decide), same (show 1 < 3 by decide),
    same (show 2 < 3 by decide)]

/-- The fields of the members: those of the first nine bytes. -/
theorem wellLaid_memberFields : Record.WellLaid (fields.take 3) 9 where
  consistent := by decide
  width := rfl
  shown := by simp [fields, Field.decimal, Field.hexUpper, isIntegerWidth]

/-- In data of at least nine bytes all members are found where they are declared. -/
theorem ofReading_of_nine {data : Bytes} (nine : 9 ≤ data.length) :
    ofReading (Record.reading data fields) =
      ⟨some (data.take 4), data.number? 4 4, data.number? 8 1⟩ := by
  have members : Record.WellLaid (fields.take 3 ++ []) 9 := wellLaid_memberFields
  have three : 3 ≤ (fields.take 3).length := by decide
  rw [← List.take_append_drop 3 fields, ofReading_reading_append data _ three,
    ← List.append_nil (fields.take 3)]
  exact ofReading_of_wellLaid members nine nine

theorem number?_eight_of_nine {data : Bytes} (nine : 9 ≤ data.length) :
    data.number? 8 1 = data[8]?.map UInt8.toNat := by
  have inside : 8 < data.length := nine
  rw [Bytes.number?_of_le nine, List.getElem?_eq_getElem inside, List.drop_eq_getElem_cons inside,
    List.take_succ_cons, List.take_zero, Option.map_some]
  rfl

/-- What a silent or traced read of a header gives. -/
theorem read_value (data : Bytes) (session : Session) :
    (read data session).1 =
      ((Record.reading data fields).consumed, ofReading (Record.reading data fields)) := by
  have room : (fields.map Field.width).sum ≤ size := by decide
  rw [← Record.reading_take room,
    ← Record.decode_value false 0 none (data.take size) fields session]
  rfl

theorem trace_value (data : Bytes) (session : Session) :
    (trace data session).1 =
      ((Record.reading data fields).consumed, ofReading (Record.reading data fields)) := by
  have room : (fields.map Field.width).sum ≤ size := by decide
  rw [← Record.reading_take room,
    ← Record.decode_value true 0 (some "ACPI Table Header") (data.take size) fields session]
  rfl

theorem consumed_le_size (data : Bytes) : (Record.reading data fields).consumed ≤ size := by
  have room : (fields.map Field.width).sum ≤ size := by decide
  rw [← Record.reading_take room, Record.consumed_reading_eq_spent]
  refine Nat.le_trans Record.spent_le ?_
  rw [List.length_take]
  exact Nat.min_le_left _ _

end Header

/-! ## The first lines of a trace -/

namespace Record

/-- The line of a traced field whose value is shown. -/
def fieldLine (scope : Scope) (label : String) (value : List Emit) : List Emit :=
  ⟨columnLabel (addSaturating64 scope.indent 2).toNat label ++ " : ", none⟩ ::
    (value ++ [⟨"\n", none⟩])

variable {scope : Scope} {title : Option String}

/-- Bytes without a format are shown as one character each. -/
theorem reports_showBytes_plain (bytes : Bytes) :
    Reports (showBytes none bytes) scope ()
      ⟨bytes.map fun byte => ⟨byteText none byte, none⟩, 0, 0⟩ := by
  have emits : shownEmits none bytes = bytes.map fun byte => ⟨byteText none byte, none⟩ :=
    List.map_map
  rw [← emits]
  exact reports_showBytes scope none bytes

/-- A field shown as text has the characters of its bytes. -/
theorem reports_showValue_text (name : String) (offset : Nat) {width : Nat} {bytes : Bytes}
    (fits : bytes.length ≤ width) :
    Reports ((Field.text name width offset).showValue bytes) scope true
      ⟨bytes.map fun byte => ⟨byteText none byte, none⟩, 0, 0⟩ := by
  have shown : Reports (characters width none bytes) scope ()
      ⟨bytes.map fun byte => ⟨byteText none byte, none⟩, 0, 0⟩ := by
    rw [characters, List.take_of_length_le fits]
    exact reports_showBytes_plain bytes
  exact Reports.bind_pure (fun _ => true) shown

/-- A field shown as a number has the numeral of its bytes, if it has the width of an integer. -/
theorem reports_showValue_integer (format : NumberFormat) (name : String) (width offset : Nat)
    {bytes : Bytes} (readable : isIntegerWidth bytes.length = true) :
    Reports ((Field.integer format name width offset).showValue bytes) scope true
      ⟨[⟨format.numeral bytes.littleEndian, none⟩], 0, 0⟩ := by
  change Reports (showInteger format bytes) scope true _
  rw [showInteger, if_pos readable]
  exact Reports.bind_pure (fun _ => true) (Reports.print _)

/-- A labelled field that lies at its declared offset, can be shown and has no check has one line in
a trace, and counts nothing. -/
theorem reports_visitField_of_shown {field : Field} {label : String} {bytes : Bytes}
    {value : List Emit} (named : field.name = some label)
    (shown : Reports (field.showValue bytes) scope true ⟨value, 0, 0⟩)
    (unchecked : field.validator = none) :
    Reports (visitField true title field.offset field bytes) scope ()
      ⟨fieldLine scope label value, 0, 0⟩ := by
  have still : Reports (whenChecking (checkOffset title field field.offset)) scope () .empty := by
    have compared : Reports _ scope _ _ := reports_compare title field field.offset
    rwa [if_pos rfl, driftReports_nil] at compared
  have silent : Reports (whenChecking (field.validate bytes)) scope () .empty := by
    have checked : Reports (field.validate bytes) scope () .empty := by
      rw [Field.validate, unchecked]
      exact Reports.pure ()
    have skipped := Reports.whenChecking fun _ => checked
    rwa [ite_self] at skipped
  have ended : Reports (finishTrace title field bytes true) scope ()
      (.ofEmit ⟨"\n", none⟩ ++ .empty) := Reports.bind (Reports.print "\n") silent
  have line : Reports (traceField title label field bytes) scope () _ :=
    Reports.bind (Reports.fieldLabel 2 label) (shown.bind ended)
  have both : Reports (do
      whenChecking (checkOffset title field field.offset)
      traceField title label field bytes) scope () _ := Reports.bind still line
  unfold visitField
  rw [named]
  exact both

theorem reports_decodeFrom_cons {trace : Bool} {offset : Nat} {rest : Bytes} {field : Field}
    {fields : List Field} {reading : Reading} {here later : Report}
    (fits : field.width ≤ rest.length)
    (visit : Reports (visitField trace title offset field (rest.take field.width)) scope () here)
    (decode : Reports (decodeFrom trace title (offset + field.width) (rest.drop field.width) fields)
      scope reading later) :
    Reports (decodeFrom trace title offset rest (field :: fields)) scope
      (reading.consCapture
        (if field.captured then some ⟨offset, rest.take field.width⟩ else none))
      (here ++ later) := by
  rw [decodeFrom, if_pos fits]
  exact visit.bind (Reports.bind_pure _ decode)

end Record

namespace Decoder

variable {α β : Type}

/-- In the scope the decoder gives a value and a report that starts with the emits. -/
def Opens (decoder : Decoder α) (scope : Scope) (opening : List Emit) : Prop :=
  ∃ value report, Reports decoder scope value report ∧ opening <+: report.emits

namespace Opens

variable {scope : Scope} {opening : List Emit}

theorem bind {first : Decoder α} {next : α → Decoder β} (start : Opens first scope opening)
    (rest : ∀ value, Confined (next value)) : Opens (first >>= next) scope opening := by
  obtain ⟨one, before, startRuns, front⟩ := start
  obtain ⟨two, after, restRuns⟩ := (rest one).reports scope
  exact ⟨two, before ++ after, startRuns.bind restRuns, front.trans (List.prefix_append _ _)⟩

theorem emits {decoder : Decoder α} (opens : Opens decoder scope opening) {session : Session}
    (within : session.scope = scope) :
    ∃ after, (decoder session).2.emits = session.emits ++ opening ++ after := by
  obtain ⟨value, report, runs, after, split⟩ := opens
  refine ⟨after, ?_⟩
  rw [runs session within, Session.emits_record, ← split, List.append_assoc]

end Opens

end Decoder

namespace Header

/-- The first lines of a traced header: its title, the signature and the length. -/
def openingLines (scope : Scope) (title : String) (signature : Bytes) (declared : Nat) :
    List Emit :=
  ⟨columnLabel scope.indent.toNat title ++ " :\n", scope.styled .heading⟩ ::
    (Record.fieldLine scope "Signature" (signature.map fun byte => ⟨byteText none byte, none⟩) ++
      Record.fieldLine scope "Length" [⟨NumberFormat.decimal.numeral declared, none⟩])

theorem nested_zero (scope : Scope) : scope.nested 0 = scope := by
  have same : addSaturating64 scope.indent 0 = scope.indent := by
    have bound := scope.indent.toNat_lt
    rw [← UInt64.toNat_inj, toNat_addSaturating64]
    change min _ (scope.indent.toNat + 0) = _
    omega
  rw [Scope.nested, same]

theorem confined_fields : ∀ field ∈ fields, field.Confined := fun field there =>
  .of_speaks (speaks_fields field there)

/-- The lines of the signature and of the length stand in front of what is reported about the other
fields. -/
theorem reports_decodeFrom_fields {table : Bytes} (whole : size ≤ table.length) {scope : Scope}
    {title : Option String} {tail : List Field} {reading : Reading} {later : Report}
    (others : Reports (Record.decodeFrom true title 8 ((table.drop 4).drop 4)
      (fields.drop 2 ++ tail)) scope reading later) :
    ∃ found, Reports (Record.decodeFrom true title 0 table (fields ++ tail)) scope found
      (⟨Record.fieldLine scope "Signature"
          ((table.take 4).map fun byte => ⟨byteText none byte, none⟩), 0, 0⟩ ++
        (⟨Record.fieldLine scope "Length"
          [⟨NumberFormat.decimal.numeral (declared table), none⟩], 0, 0⟩ ++ later)) := by
  have long : 36 ≤ table.length := whole
  have four : ((table.drop 4).take 4).length = 4 := by
    rw [List.length_take, List.length_drop]
    omega
  have signature : Reports ((Field.text "Signature" 4 0).kept.showValue (table.take 4)) scope true
      ⟨(table.take 4).map fun byte => ⟨byteText none byte, none⟩, 0, 0⟩ :=
    Record.reports_showValue_text "Signature" 0 (List.length_take_le 4 table)
  have length : Reports ((Field.decimal "Length" 4 4).kept.showValue ((table.drop 4).take 4)) scope
      true ⟨[⟨NumberFormat.decimal.numeral (declared table), none⟩], 0, 0⟩ := by
    rw [declared_of_whole whole]
    exact Record.reports_showValue_integer .decimal "Length" 4 4 (by rw [four]; rfl)
  have second := Record.reports_decodeFrom_cons (by rw [List.length_drop]; change 4 ≤ _; omega)
    (Record.reports_visitField_of_shown rfl length rfl) others
  exact ⟨_, Record.reports_decodeFrom_cons (by change 4 ≤ _; omega)
    (Record.reports_visitField_of_shown rfl signature rfl) second⟩

/-- **A traced decode of a header and a tail opens with the signature and the declared length.** -/
theorem opens_decode {table : Bytes} (whole : size ≤ table.length) (scope : Scope) (title : String)
    {tail : List Field} (confined : ∀ field ∈ tail, field.Confined) :
    Opens (Record.decode true 0 (some title) table (fields ++ tail)) scope
      (openingLines scope title (table.take 4) (declared table)) := by
  have confinedOthers : ∀ field ∈ fields.drop 2 ++ tail, field.Confined := by
    intro field there
    rcases List.mem_append.mp there with mine | own
    · exact confined_fields field (List.mem_of_mem_drop mine)
    · exact confined field own
  obtain ⟨_, later, others⟩ := (Record.confined_decodeFrom confinedOthers true 8
    ((table.drop 4).drop 4)).reports scope
  obtain ⟨_, shown⟩ := reports_decodeFrom_fields whole others
  have body : Reports (do
      Record.showTitle true (some title)
      Record.decodeFrom true (some title) 0 table (fields ++ tail)) scope _ _ :=
    Reports.bind (Record.reports_showTitle true (some title)) shown
  rw [← nested_zero scope] at body
  refine ⟨_, _, Reports.indented body, later.emits, ?_⟩
  rw [nested_zero]
  simp [openingLines, Record.titleReport, Report.ofEmit]

end Header

namespace Table

/-- The titles that a table may be traced under. -/
def titles : List String := ["MADT", "PPTT", "ACPI Table Header"]

/-- Whatever its signature is, a table that holds a header is traced with the lines of the signature
and of the declared length in front. -/
theorem opens_decodeContent {table : Bytes} (whole : Header.size ≤ table.length) (signature : Bytes)
    (scope : Scope) : ∃ title ∈ titles, Opens (decodeContent signature table) scope
      (Header.openingLines scope title (table.take 4) (Header.declared table)) := by
  by_cases interrupt : signature = InterruptController.signature
  · subst interrupt
    have own : ∀ field ∈ InterruptController.ownFields, field.Confined := fun field there =>
      .of_speaks (InterruptController.speaks_fields field (List.mem_append_right _ there))
    have walks (start : Nat) : Orderly (Sayable False) false
        (Structure.walk InterruptController.schema table start) :=
      Structure.orderly_walk InterruptController.named_schema InterruptController.speaks_kinds table
        start
    have front := Header.opens_decode whole scope "MADT" own
    exact ⟨"MADT", by decide, front.bind fun reading => .of_orderly ((walks reading.consumed).bind
      fun walked => InterruptController.orderly_checkDistributors
        InterruptController.tellable_message _ _)⟩
  · by_cases topology : signature = ProcessorTopology.signature
    · subst topology
      have speaks : ∀ kind ∈ ProcessorTopology.schema.kinds, kind.method.Speaks True :=
        fun kind there => ProcessorTopology.speaks_kinds there fun _ => trivial
      have walks (start : Nat) : Orderly (Sayable True) false
          (Structure.walk ProcessorTopology.schema table start) :=
        Structure.orderly_walk ProcessorTopology.named_schema speaks table start
      have front := Header.opens_decode whole scope "PPTT" (List.forall_mem_nil _)
      exact ⟨"PPTT", by decide, front.bind fun reading =>
        .of_orderly ((walks reading.consumed).bind_pure _)⟩
    · have content := Header.size_le_length_take whole
      have front := Header.opens_decode content scope "ACPI Table Header" (List.forall_mem_nil _)
      have signed : (table.take Header.size).take 4 = table.take 4 := List.take_take
      have declares : Header.declared (table.take Header.size) = Header.declared table := by
        rw [Header.declared, Bytes.number?_take (by decide), Header.declared]
      rw [signed, declares, List.append_nil] at front
      refine ⟨"ACPI Table Header", by decide, ?_⟩
      rw [decodeContent_of_unknown interrupt topology]
      exact (front.bind fun reading => .pure _).bind fun traced => .print _

/-- A verification says one line. -/
theorem reports_verify (table : Bytes) (scope : Scope) : ∃ report,
    Reports (Checksum.verify true table) scope (table.sum == 0) report ∧
      report.emits.length = 1 := by
  rw [Checksum.verify, if_pos rfl]
  split
  · exact ⟨_, Reports.bind_pure _ (Reports.printStyled .success _), rfl⟩
  · exact ⟨_, Reports.countError.bind (Reports.bind_pure _ (Reports.printStyled .error _)), rfl⟩

/-- A table is cut off behind its declared length, with one line if the buffer ends before it. -/
theorem reports_clamp (data : Bytes) (declared : Nat) (scope : Scope) : ∃ report,
    Reports (clamp data declared) scope (data.take declared) report ∧ report.emits.length ≤ 1 := by
  rw [clamp]
  split
  · exact ⟨_, Reports.pure _, Nat.zero_le 1⟩
  · next beyond =>
      rw [List.take_of_length_le (Nat.le_of_not_le beyond)]
      exact ⟨_, Reports.bind_pure _ (Reports.error _), Nat.le_refl 1⟩

section Whole

variable {data : Bytes} (whole : Header.size ≤ data.length)
  (large : Header.size ≤ Header.declared data)

include whole large

theorem decode_eq_clamp :
    decode data = clamp data (Header.declared data) >>= verifyAndDecode (data.take 4) :=
  decode_of_large whole large

/-- A table is traced with the lines of the signature and of the declared length in front, after at
most two other lines. -/
theorem emits_decode (session : Session) : ∃ title ∈ titles, ∃ before after : List Emit,
    before.length ≤ 2 ∧ (decode data session).2.emits = session.emits ++ before ++
      Header.openingLines session.scope title (data.take 4) (Header.declared data) ++ after := by
  obtain ⟨cut, clamps, short⟩ := reports_clamp data (Header.declared data) session.scope
  obtain ⟨line, verifies, one⟩ :=
    reports_verify (data.take (Header.declared data)) session.scope
  obtain ⟨title, known, opens⟩ := opens_decodeContent (size_le_length_clamped whole large)
    (data.take 4) session.scope
  have four : 4 ≤ Header.declared data := Nat.le_trans (by decide) large
  have signed : (data.take (Header.declared data)).take 4 = data.take 4 := by
    rw [List.take_take, Nat.min_eq_left four]
  have declares : Header.declared (data.take (Header.declared data)) = Header.declared data := by
    rw [Header.declared, Bytes.number?_take (Nat.le_trans (by decide) large), Header.declared]
  rw [signed, declares] at opens
  have content := opens.bind fun _ => Confined.pure (some (data.take 4))
  let checked := (session.record cut).record line
  have run : decode data session = (do
      decodeContent (data.take 4) (data.take (Header.declared data))
      return some (data.take 4) : Decoder (Option Bytes)) checked := by
    rw [decode_eq_clamp whole large, bind_apply, clamps session rfl, verifyAndDecode, bind_apply,
      verifies (session.record cut) rfl]
  obtain ⟨after, emits⟩ := content.emits (show checked.scope = session.scope from rfl)
  refine ⟨title, known, cut.emits ++ line.emits, after, ?_, ?_⟩
  · rw [List.length_append, one]
    omega
  · rw [run, emits, Session.emits_record, Session.emits_record, List.append_assoc session.emits]

end Whole

end Table

/-- **All ways to read a header agree.**  A silent read, a trace, and a decode of a header with a
tail find the same members: from nine bytes on, the first four bytes, the number in the next four,
and the byte behind these.  From 36 bytes on a silent read consumes 36 bytes and leaves the session
as it is.  So the length at which a table is cut is the one that its trace shows. -/
theorem Header.members_agree (data : Bytes) (tail : List Field) :
    (∀ (reader tracer other : Session) (trace : Bool) (indent : UInt64) (title : Option String),
      let silent := (Header.read data reader).1
      let traced := (Header.trace data tracer).1
      let combined := (Record.decode trace indent title data (fields ++ tail) other).1
      silent.2 = traced.2 ∧ traced.2 = ofReading combined ∧ silent.1 = traced.1 ∧ silent.1 ≤ 36) ∧
    withTail? (9 + tail.length) tail = .ok (fields ++ tail) ∧
    let declared := Bytes.littleEndian ((data.drop 4).take 4)
    (9 ≤ data.length → ∀ session : Session, (Header.read data session).1.2 =
      ⟨some (data.take 4), some declared, data[8]?.map UInt8.toNat⟩) ∧
    (36 ≤ data.length → ∀ session : Session,
      (Header.read data session).1.1 = 36 ∧ (Header.read data session).2 = session) ∧
    (36 ≤ data.length → 36 ≤ declared → ∀ session : Session,
      Table.decode data session =
        (Table.clamp data declared >>= Table.verifyAndDecode (data.take 4)) session ∧
      ∃ title ∈ Table.titles, ∃ before after : List Emit, before.length ≤ 2 ∧
        (Table.decode data session).2.emits = session.emits ++ before ++
          openingLines session.scope title (data.take 4) declared ++ after) := by
  refine ⟨?_, if_pos rfl, ?_⟩
  · intro reader tracer other trace indent title silent traced combined
    have members : ofReading combined = ofReading (Record.reading data fields) := by
      rw [show combined = _ from Record.decode_value ..,
        ofReading_reading_append data tail (by decide)]
    have found : silent = _ := read_value data reader
    have shown : traced = _ := trace_value data tracer
    rw [found, shown, members]
    exact ⟨rfl, rfl, rfl, consumed_le_size data⟩
  · intro declared
    refine ⟨fun nine session => ?_, fun whole session => ?_, fun whole large session => ?_⟩
    · rw [read_value, ofReading_of_nine nine, number?_declared (Nat.le_of_succ_le nine),
        number?_eight_of_nine nine]
    · rw [read_of_whole whole]
      exact ⟨rfl, rfl⟩
    · rw [← show Header.declared data = declared from declared_of_whole whole] at large ⊢
      rw [← Table.decode_eq_clamp whole large]
      exact ⟨rfl, Table.emits_decode whole large session⟩

/-- A header alone, which declares 44 bytes. -/
theorem Header.members_agree_of_an_overlong_table :
    let data : Bytes := [0x41, 0x50, 0x49, 0x43, 44, 0, 0, 0, 5] ++ List.replicate 27 0
    let tail := InterruptController.ownFields
    let session : Session := .start .default
    9 ≤ data.length ∧ 36 ≤ data.length ∧
    (Header.read data session).1 = (36, ⟨some [0x41, 0x50, 0x49, 0x43], some 44, some 5⟩) ∧
    (Header.trace data session).1 = (Header.read data session).1 ∧
    ofReading (Record.decode true 0 (some "MADT") data (fields ++ tail) session).1 =
      (Header.read data session).1.2 ∧
    ∃ title ∈ Table.titles, ∃ before after : List Emit, before.length ≤ 2 ∧
      (Table.decode data session).2.emits = before ++
        openingLines session.scope title [0x41, 0x50, 0x49, 0x43] 44 ++ after := by
  intro data tail session
  obtain ⟨ways, _, nine, whole, shown⟩ := Header.members_agree data tail
  obtain ⟨members, combined, consumed, _⟩ := ways session session session true 0 (some "MADT")
  obtain ⟨_, title, known, before, after, short, emits⟩ := shown (by decide) (by decide) session
  refine ⟨by decide, by decide, ?_, Prod.ext consumed.symm members.symm,
    combined.symm.trans members.symm, title, known, before, after, short, emits⟩
  exact Prod.ext (whole (by decide) session).1 (nine (by decide) session)

end AcpiTables
