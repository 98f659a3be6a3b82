import AcpiTables.HexDump
import AcpiTables.Proofs.CleanText
import AcpiTables.Proofs.Reports

/-!
# The lines of a dump

A dump is emitted byte by byte: the characters of a line are held back until the next line begins,
and only a last line that is not full is filled up with spaces.  The lines that come out are simple.
A line is the offset of its chunk, the bytes in an area of fifty characters, and the bytes as
characters (`HexDump.row`), and a dump is the number of bytes, a line of two spaces, a line for each
chunk of sixteen bytes and an empty line (`HexDump.layout`, `prints_showAll`).

The areas all have the same width (`length_hexArea`), so the characters stand in one column.  All
characters are printable (`allPrintable_of_mem_lines`), and the bytes can be read back from the
digits in the areas (`readBack_layout`): no two data have the same dump.
-/

namespace AcpiTables

set_option autoImplicit false

open Decoder

/-! ## Decoders that only print -/

/-- In every session, the decoder does nothing but emit texts without styles, always the same ones,
which spell the characters. -/
def Decoder.Prints (decoder : Decoder Unit) (characters : List Char) : Prop :=
  ∃ emits : List Emit, (∀ emit ∈ emits, emit.style = none) ∧
    (plainText emits).toList = characters ∧ ∀ scope, Reports decoder scope () ⟨emits, 0, 0⟩

namespace Decoder.Prints

theorem print (text : String) : Prints (print text) text.toList := by
  refine ⟨[⟨text, none⟩], ?_, ?_, fun _ => Reports.print text⟩
  · simp
  · simp [plainText]

theorem bind {first next : Decoder Unit} {before after : List Char} (start : Prints first before)
    (rest : Prints next after) : Prints (first >>= fun _ => next) (before ++ after) := by
  obtain ⟨early, plainEarly, spelledEarly, reportsEarly⟩ := start
  obtain ⟨late, plainLate, spelledLate, reportsLate⟩ := rest
  have reports (scope : Scope) :
      Reports (first >>= fun _ => next) scope () (⟨early, 0, 0⟩ ++ ⟨late, 0, 0⟩) :=
    (reportsEarly scope).bind (reportsLate scope)
  refine ⟨early ++ late, ?_, ?_, reports⟩
  · intro emit there
    rcases List.mem_append.mp there with member | member
    · exact plainEarly emit member
    · exact plainLate emit member
  · rw [← spelledEarly, ← spelledLate]
    simp [plainText, String.toList_join]

end Decoder.Prints

namespace HexDump

/-! ## Lines -/

/-- The two digits of a byte. -/
def hexPair (byte : UInt8) : List Char :=
  (NumberFormat.hexUpper.digitTextOfWidth 2 byte.toNat).toList

/-- The digits of bytes from a position in a line on, each with a space behind them, and a dash
before the ninth byte of the line. -/
def pairsFrom (position : Nat) : Bytes → List Char
  | [] => []
  | byte :: rest =>
      (if position = 8 then ['-', ' '] else []) ++ hexPair byte ++ [' '] ++
        pairsFrom (position + 1) rest

/-- The number of characters for the digits of a line. -/
def areaWidth : Nat := 50

/-- The digits of a chunk, filled up with spaces. -/
def hexArea (chunk : Bytes) : List Char :=
  let pairs := pairsFrom 0 chunk
  pairs ++ List.replicate (areaWidth - pairs.length) ' '

/-- The line of a chunk, without its end. -/
def row (offset : Nat) (chunk : Bytes) : List Char :=
  (NumberFormat.hexUpper.digitTextOfWidth 8 offset).toList ++ [' ', ':', ' '] ++ hexArea chunk ++
    [' ', ' '] ++ chunk.map byteChar

/-- The chunks of sixteen bytes one after another, the last one perhaps shorter. -/
def chunks (data : Bytes) : List Bytes :=
  (List.range ((data.length + 15) / 16)).map fun index => (data.drop (16 * index)).take 16

/-- The lines of chunks, the first of which has the given number. -/
def rowsFrom (first : Nat) (chunks : List Bytes) : List (List Char) :=
  (chunks.zipIdx first).map fun entry => row (16 * entry.2) entry.1

/-- The lines of a dump: the number of bytes, two spaces, a line for each chunk, and none. -/
def lines (data : Bytes) : List (List Char) :=
  ("Length   : ".toList ++ (toString data.length).toList) :: [' ', ' '] ::
    (rowsFrom 0 (chunks data) ++ [[]])

/-- Lines, each with its end. -/
def ended (lines : List (List Char)) : List Char := lines.flatMap (· ++ ['\n'])

/-- The characters of a dump. -/
def layout (data : Bytes) : List Char := ended (lines data)

@[simp] theorem chunks_nil : chunks [] = [] := rfl

/-- The first chunk is taken off the data. -/
theorem chunks_of_ne_nil {data : Bytes} (nonempty : data ≠ []) :
    chunks data = data.take 16 :: chunks (data.drop 16) := by
  have positive := List.length_pos_iff.mpr nonempty
  have count : (data.length + 15) / 16 = (data.length - 16 + 15) / 16 + 1 := by omega
  rw [chunks, chunks, List.length_drop, count, List.range_succ_eq_map, List.map_cons, List.map_map]
  refine congrArg₂ _ rfl (List.map_congr_left fun index _ => ?_)
  rw [Function.comp_apply, List.drop_drop, Nat.mul_succ, Nat.add_comm]

theorem rowsFrom_cons (first : Nat) (chunk : Bytes) (chunks : List Bytes) :
    rowsFrom first (chunk :: chunks) = row (16 * first) chunk :: rowsFrom (first + 1) chunks := by
  rw [rowsFrom, List.zipIdx_cons, List.map_cons]
  rfl

/-! ## The digits of a byte -/

def upperDigit (digit : Nat) : Char := (Nat.digitChar digit).toUpper

theorem hexPair_eq (byte : UInt8) :
    hexPair byte = [upperDigit (byte.toNat / 16), upperDigit (byte.toNat % 16)] := by
  have bound := byte.toNat_lt
  rw [hexPair, NumberFormat.digitTextOfWidth, String.toList_ofList, NumberFormat.digits,
    Nat.toDigits_eq_if (by decide)]
  split
  · next small =>
      rw [Nat.div_eq_of_lt small, Nat.mod_eq_of_lt small]
      rfl
  · rw [Nat.toDigits_eq_if (by decide), if_pos (by omega)]
    rfl

theorem length_hexPair (byte : UInt8) : (hexPair byte).length = 2 := by
  rw [hexPair_eq]
  rfl

theorem length_pairsFrom (position : Nat) (chunk : Bytes) :
    (pairsFrom position chunk).length =
      3 * chunk.length + if position ≤ 8 ∧ 8 < position + chunk.length then 2 else 0 := by
  induction chunk generalizing position with
  | nil =>
      rw [if_neg (by rw [List.length_nil]; omega)]
      rfl
  | cons byte chunk ih =>
      simp only [pairsFrom, List.length_append, length_hexPair, ih, List.length_cons,
        List.length_nil]
      by_cases ninth : position = 8
      · rw [if_pos ninth, if_neg (by omega), if_pos (by omega)]
        simp only [List.length_cons, List.length_nil]
        omega
      · rw [if_neg ninth]
        split_ifs <;> simp only [List.length_nil] <;> omega

/-- **All areas have the same width.** -/
theorem length_hexArea {chunk : Bytes} (fits : chunk.length ≤ 16) :
    (hexArea chunk).length = 50 := by
  have pairs := length_pairsFrom 0 chunk
  rw [hexArea, List.length_append, List.length_replicate, areaWidth]
  split_ifs at pairs <;> omega

/-! ## What is printed -/

/-- The spaces that end a last line fill up its area. -/
theorem hexArea_of_short {chunk : Bytes} (row : Nat) (positive : 0 < chunk.length)
    (short : chunk.length < 16) :
    hexArea chunk = pairsFrom 0 chunk ++
      List.replicate (padding (16 * row + chunk.length)) ' ' := by
  have pairs := length_pairsFrom 0 chunk
  have missing : areaWidth - (pairsFrom 0 chunk).length =
      padding (16 * row + chunk.length) := by
    have within : (16 * row + chunk.length) % 16 = chunk.length := by omega
    simp only [padding, within, areaWidth]
    split_ifs at pairs ⊢ <;> omega
  rw [hexArea, missing]

theorem hexArea_of_full {chunk : Bytes} (full : chunk.length = 16) :
    hexArea chunk = pairsFrom 0 chunk := by
  have pairs := length_pairsFrom 0 chunk
  rw [if_pos (by omega), full] at pairs
  rw [hexArea, pairs, areaWidth]
  exact List.append_nil _

/-- Where the data ends, its last line is filled up and ended. -/
theorem prints_showFrom_nil (count : Nat) (held : List Char) :
    Prints (showFrom count held [])
      (List.replicate (padding count) ' ' ++ [' ', ' '] ++ held ++ ['\n', '\n']) := by
  have spelled : List.replicate (padding count) ' ' ++ [' ', ' '] ++ held ++ ['\n', '\n'] =
      (spaces (padding count) ++ "  " ++ String.ofList held ++ "\n\n").toList := by
    simp [spaces]
  rw [showFrom, spelled]
  exact Prints.print _

/-- A byte is printed as its digits, behind what stands before it. -/
theorem prints_showFrom_cons {count : Nat} {held : List Char} {byte : UInt8} {rest : Bytes}
    {characters : List Char}
    (later : Prints (showFrom (count + 1) (lineBefore count held ++ [byteChar byte]) rest)
      characters) :
    Prints (showFrom count held (byte :: rest))
      ((lead count held).toList ++ hexPair byte ++ [' '] ++ characters) := by
  have spelled : (lead count held).toList ++ hexPair byte ++ [' '] =
      (lead count held ++ NumberFormat.hexUpper.digitTextOfWidth 2 byte.toNat ++ " ").toList := by
    simp [hexPair]
  rw [showFrom, spelled]
  exact (Prints.print _).bind later

/-- The end of the line before a row, with the characters that are held back, and the start of the
row. -/
def rowStart (index : Nat) (held : List Char) : List Char :=
  [' ', ' '] ++ held ++ ['\n'] ++
    (NumberFormat.hexUpper.digitTextOfWidth 8 (16 * index)).toList ++ [' ', ':', ' ']

theorem toList_lead_start (index : Nat) (held : List Char) :
    (lead (16 * index) held).toList = rowStart index held := by
  simp [lead, rowStart]

theorem toList_lead_inside (index : Nat) {position : Nat} (held : List Char)
    (started : 0 < position) (inside : position < 16) :
    (lead (16 * index + position) held).toList = if position = 8 then ['-', ' '] else [] := by
  rw [lead, if_neg (by omega)]
  by_cases ninth : position = 8
  · rw [if_pos ninth, if_pos (by omega)]
    rfl
  · rw [if_neg ninth, if_neg (by omega)]
    rfl

theorem lineBefore_start (index : Nat) (held : List Char) : lineBefore (16 * index) held = [] :=
  if_pos (Nat.mul_mod_right 16 index)

theorem lineBefore_inside (index : Nat) {position : Nat} (held : List Char)
    (started : 0 < position) (inside : position < 16) :
    lineBefore (16 * index + position) held = held :=
  if_neg (by omega)

/-- Bytes inside a line are printed as their digits, and join the characters that are held back. -/
theorem prints_showFrom_inside {index position : Nat} {held : List Char} {part later : Bytes}
    {characters : List Char} (started : 0 < position) (inside : position + part.length ≤ 16)
    (rest : Prints (showFrom (16 * index + (position + part.length)) (held ++ part.map byteChar)
      later) characters) :
    Prints (showFrom (16 * index + position) held (part ++ later))
      (pairsFrom position part ++ characters) := by
  induction part generalizing position held with
  | nil => simpa [pairsFrom] using rest
  | cons byte part ih =>
      have behind : position + (part.length + 1) = position + 1 + part.length := by omega
      rw [List.length_cons, behind] at inside rest
      rw [List.map_cons, List.append_cons] at rest
      have here : position < 16 := by omega
      rw [List.cons_append, pairsFrom, ← toList_lead_inside index held started here,
        List.append_assoc]
      refine prints_showFrom_cons ?_
      rw [lineBefore_inside index held started here]
      exact ih (Nat.succ_pos position) inside rest

/-- The first bytes of a line come behind the end of the line before and their offset. -/
theorem prints_showFrom_row {index : Nat} {held : List Char} {chunk later : Bytes}
    {characters : List Char} (nonempty : chunk ≠ []) (fits : chunk.length ≤ 16)
    (rest : Prints (showFrom (16 * index + chunk.length) (chunk.map byteChar) later) characters) :
    Prints (showFrom (16 * index) held (chunk ++ later))
      (rowStart index held ++ pairsFrom 0 chunk ++ characters) := by
  cases chunk with
  | nil => exact absurd rfl nonempty
  | cons byte part =>
      rw [List.length_cons, Nat.add_comm part.length] at fits rest
      have pairs : rowStart index held ++ pairsFrom 0 (byte :: part) ++ characters =
          (lead (16 * index) held).toList ++ hexPair byte ++ [' '] ++
            (pairsFrom 1 part ++ characters) := by
        simp [pairsFrom, toList_lead_start]
      rw [pairs]
      refine prints_showFrom_cons ?_
      rw [lineBefore_start]
      exact prints_showFrom_inside Nat.one_pos fits rest

/-- **From the start of a line on, a dump is the end of the line before and a line for each
chunk.** -/
theorem prints_showFrom (index : Nat) (held : List Char) (data : Bytes) :
    Prints (showFrom (16 * index) held data)
      ([' ', ' '] ++ held ++ ['\n'] ++ ended (rowsFrom index (chunks data) ++ [[]])) := by
  by_cases empty : data = []
  · have printed := prints_showFrom_nil (16 * index) held
    rw [empty, chunks_nil]
    simpa [padding, rowsFrom, ended] using printed
  rw [chunks_of_ne_nil empty, rowsFrom_cons]
  by_cases short : data.length < 16
  · have last : data.take 16 = data := List.take_of_length_le (Nat.le_of_lt short)
    have none : data.drop 16 = [] := List.drop_eq_nil_of_le (Nat.le_of_lt short)
    have filled := hexArea_of_short index (List.length_pos_iff.mpr empty) short
    have printed : Prints (showFrom (16 * index) held (data ++ [])) _ :=
      prints_showFrom_row empty (Nat.le_of_lt short) (prints_showFrom_nil _ _)
    rw [List.append_nil] at printed
    rw [last, none, chunks_nil]
    simpa [row, filled, rowStart, rowsFrom, ended] using printed
  · have full : (data.take 16).length = 16 := List.length_take_of_le (Nat.not_lt.mp short)
    have nonempty : data.take 16 ≠ [] := by simpa using empty
    have later := prints_showFrom (index + 1) ((data.take 16).map byteChar) (data.drop 16)
    have stop : 16 * (index + 1) = 16 * index + (data.take 16).length := by rw [full, Nat.mul_succ]
    rw [stop] at later
    have printed : Prints (showFrom (16 * index) held (data.take 16 ++ data.drop 16)) _ :=
      prints_showFrom_row nonempty (Nat.le_of_eq full) later
    rw [List.take_append_drop] at printed
    simpa [row, hexArea_of_full full, rowStart, ended] using printed
termination_by data.length

/-- **A dump prints its layout.** -/
theorem prints_showAll (data : Bytes) : Prints (showAll data) (layout data) := by
  have printed := (Prints.print ("Length   : " ++ toString data.length ++ "\n")).bind
    (prints_showFrom 0 [] data)
  rw [showAll]
  simpa [layout, lines, ended] using printed

/-- Nine bytes: the ninth stands behind a dash, and the line is filled up. -/
example : layout (List.replicate 8 0x41 ++ [0x7F]) =
    ("Length   : 9\n  \n" ++
      "00000000 : 41 41 41 41 41 41 41 41 - 7F                        AAAAAAAA.\n\n").toList := by
  decide +kernel

/-! ## Printable characters -/

/-- From the space to the tilde. -/
def isPrintable (character : Char) : Bool := 0x20 ≤ character.toNat && character.toNat ≤ 0x7E

theorem isPrintable_byteChar (byte : UInt8) : isPrintable (byteChar byte) = true := by
  have ascii : ∀ code < 0x7F, 0x20 ≤ code → isPrintable (Char.ofNat code) = true := by decide
  unfold byteChar
  split
  · next printable => exact ascii _ printable.2 printable.1
  · rfl

theorem allPrintable_digits (format : NumberFormat) (number : Nat) :
    (format.digits number).all isPrintable = true := by
  have lower : Clean.digitCharacters.all isPrintable = true := by decide
  have upper : (Clean.digitCharacters.map Char.toUpper).all isPrintable = true := by decide
  rw [List.all_eq_true] at lower upper ⊢
  intro character there
  refine Decidable.byContradiction fun hidden => ?_
  exact Clean.not_mem_digits (fun known => hidden (lower _ known))
    (fun known => hidden (upper _ known)) format number there

/-- A numeral of some width has digits behind zeros. -/
theorem mem_digitTextOfWidth {format : NumberFormat} {width number : Nat} {character : Char}
    (there : character ∈ (format.digitTextOfWidth width number).toList) :
    character = '0' ∨ character ∈ format.digits number := by
  rw [NumberFormat.digitTextOfWidth, String.toList_ofList, List.mem_append] at there
  exact there.imp_left List.eq_of_mem_replicate

theorem allPrintable_digitTextOfWidth (format : NumberFormat) (width number : Nat) :
    (format.digitTextOfWidth width number).toList.all isPrintable = true := by
  rw [List.all_eq_true]
  intro character there
  rcases mem_digitTextOfWidth there with zero | digit
  · rw [zero]
    rfl
  · exact List.all_eq_true.mp (allPrintable_digits format number) character digit

theorem allPrintable_pairsFrom (position : Nat) (chunk : Bytes) :
    (pairsFrom position chunk).all isPrintable = true := by
  induction chunk generalizing position with
  | nil => rfl
  | cons byte chunk ih =>
      have dash : (if position = 8 then ['-', ' '] else []).all isPrintable = true := by
        split
        · rfl
        · rfl
      have pair : (hexPair byte).all isPrintable = true := allPrintable_digitTextOfWidth ..
      rw [pairsFrom, List.all_append, List.all_append, List.all_append, dash, pair, ih]
      rfl

theorem allPrintable_spaces (count : Nat) : (List.replicate count ' ').all isPrintable = true := by
  rw [List.all_eq_true]
  intro character there
  rw [List.eq_of_mem_replicate there]
  rfl

theorem allPrintable_row (offset : Nat) (chunk : Bytes) :
    (row offset chunk).all isPrintable = true := by
  have characters : (chunk.map byteChar).all isPrintable = true := by
    rw [List.all_map, List.all_eq_true]
    exact fun byte _ => isPrintable_byteChar byte
  simp only [row, hexArea, List.all_append, allPrintable_digitTextOfWidth, allPrintable_pairsFrom,
    allPrintable_spaces, characters]
  rfl

/-- **All characters of a dump are printable**, apart from the ends of lines. -/
theorem allPrintable_of_mem_lines {data : Bytes} {line : List Char} (member : line ∈ lines data) :
    line.all isPrintable = true := by
  have number : (toString data.length).toList.all isPrintable = true := by
    rw [Nat.toString_eq_ofList_toDigits, String.toList_ofList]
    exact allPrintable_digits .decimal data.length
  rw [lines, List.mem_cons, List.mem_cons, List.mem_append, List.mem_singleton] at member
  rcases member with first | second | shown | last
  · rw [first, List.all_append, number]
    rfl
  · rw [second]
    rfl
  · obtain ⟨entry, _, same⟩ := List.mem_map.mp shown
    rw [← same]
    exact allPrintable_row _ _
  · rw [last]
    rfl

/-! ## Reading a dump -/

/-- Whether a character is a digit in the dump of a byte. -/
def isUpperDigit (character : Char) : Bool :=
  character.isDigit || ('A' ≤ character && character ≤ 'F')

def digitValue (character : Char) : Nat :=
  if character.isDigit then character.toNat - '0'.toNat else character.toNat - 'A'.toNat + 10

/-- The bytes with the given digits. -/
def readPairs : List Char → Bytes
  | high :: low :: rest => UInt8.ofNat (16 * digitValue high + digitValue low) :: readPairs rest
  | _ => []

/-- The bytes of a line: those with the digits of the area behind the offset. -/
def readLine (line : List Char) : Bytes :=
  let area := ((line.dropWhile (· ≠ ':')).drop 2).take areaWidth
  readPairs (area.filter isUpperDigit)

/-- The bytes of a dump: those of the lines behind the first two. -/
def readBack (text : List Char) : Bytes := ((text.splitOn '\n').drop 2).flatMap readLine

theorem upperDigit_spec : ∀ digit < 16, isUpperDigit (upperDigit digit) = true ∧
    digitValue (upperDigit digit) = digit := by
  decide

theorem filter_hexPair (byte : UInt8) : (hexPair byte).filter isUpperDigit = hexPair byte := by
  have bound := byte.toNat_lt
  rw [hexPair_eq, List.filter_eq_self]
  intro digit there
  simp only [List.mem_cons, List.not_mem_nil, or_false] at there
  rcases there with rfl | rfl
  · exact (upperDigit_spec _ (by omega)).1
  · exact (upperDigit_spec _ (by omega)).1

theorem readPairs_hexPair (byte : UInt8) (rest : List Char) :
    readPairs (hexPair byte ++ rest) = byte :: readPairs rest := by
  have bound := byte.toNat_lt
  have high := (upperDigit_spec (byte.toNat / 16) (by omega)).2
  have low := (upperDigit_spec (byte.toNat % 16) (by omega)).2
  rw [hexPair_eq, List.cons_append, List.cons_append, List.nil_append, readPairs, high, low,
    Nat.div_add_mod, UInt8.ofNat_toNat]

theorem filter_pairsFrom (position : Nat) (chunk : Bytes) :
    (pairsFrom position chunk).filter isUpperDigit = chunk.flatMap hexPair := by
  induction chunk generalizing position with
  | nil => rfl
  | cons byte chunk ih =>
      have space : [' '].filter isUpperDigit = [] := by decide
      have dash : (if position = 8 then ['-', ' '] else []).filter isUpperDigit = [] := by
        split
        · decide
        · rfl
      simp only [pairsFrom, List.filter_append, dash, space, filter_hexPair, ih, List.flatMap_cons,
        List.nil_append, List.append_nil]

theorem filter_hexArea (chunk : Bytes) :
    (hexArea chunk).filter isUpperDigit = chunk.flatMap hexPair := by
  have blank (count : Nat) : (List.replicate count ' ').filter isUpperDigit = [] := by
    rw [List.filter_replicate_of_neg (by decide)]
  rw [hexArea, List.filter_append, filter_pairsFrom, blank, List.append_nil]

theorem readPairs_flatMap (chunk : Bytes) : readPairs (chunk.flatMap hexPair) = chunk := by
  induction chunk with
  | nil => rfl
  | cons byte chunk ih => rw [List.flatMap_cons, readPairs_hexPair, ih]

theorem colon_not_mem_digitTextOfWidth (format : NumberFormat) (width number : Nat) :
    ':' ∉ (format.digitTextOfWidth width number).toList := by
  intro there
  rcases mem_digitTextOfWidth there with zero | digit
  · exact absurd zero (by decide)
  · exact Clean.not_mem_digits (by decide) (by decide) format number digit

/-- The bytes of a chunk are read from its line. -/
theorem readLine_row (offset : Nat) {chunk : Bytes} (fits : chunk.length ≤ 16) :
    readLine (row offset chunk) = chunk := by
  let digits := (NumberFormat.hexUpper.digitTextOfWidth 8 offset).toList ++ [' ']
  let behind := [' ', ' '] ++ chunk.map byteChar
  have parts : row offset chunk = digits ++ ':' :: ' ' :: (hexArea chunk ++ behind) := by
    simp [row, digits, behind]
  have before : ∀ character ∈ digits, decide (character ≠ ':') = true := by
    intro character there
    rw [decide_eq_true_iff]
    rintro rfl
    rcases List.mem_append.mp there with digit | space
    · exact colon_not_mem_digitTextOfWidth _ _ _ digit
    · exact absurd (List.mem_singleton.mp space) (by decide)
  have area : (((row offset chunk).dropWhile (· ≠ ':')).drop 2).take areaWidth = hexArea chunk := by
    rw [parts, List.dropWhile_append_of_pos before]
    exact List.take_left' (length_hexArea fits)
  rw [readLine, area, filter_hexArea, readPairs_flatMap]

/-- The characters of a chunk stand in one column: 55 characters behind the offset. -/
theorem drop_row (offset : Nat) {chunk : Bytes} (fits : chunk.length ≤ 16) :
    (row offset chunk).drop
      ((NumberFormat.hexUpper.digitTextOfWidth 8 offset).toList.length + 55) =
      chunk.map byteChar := by
  refine List.drop_left' ?_
  simp only [List.length_append, length_hexArea fits, List.length_cons, List.length_nil]

/-- The lines are read back from their text. -/
theorem splitOn_ended {lines : List (List Char)} (whole : ∀ line ∈ lines, '\n' ∉ line) :
    (ended lines).splitOn '\n' = lines ++ [[]] := by
  induction lines with
  | nil => exact List.splitOn_nil '\n'
  | cons line lines ih =>
      obtain ⟨here, later⟩ := List.forall_mem_cons.mp whole
      have split : ended (line :: lines) = line ++ '\n' :: ended lines := by
        simp [ended]
      rw [split, List.splitOn_append_cons_self_of_not_mem here, ih later, List.cons_append]

theorem flatten_chunks (data : Bytes) : (chunks data).flatten = data := by
  by_cases empty : data = []
  · rw [empty]
    rfl
  · have shorter : (data.drop 16).length < data.length := by
      have positive := List.length_pos_iff.mpr empty
      rw [List.length_drop]
      omega
    rw [chunks_of_ne_nil empty, List.flatten_cons, flatten_chunks, List.take_append_drop]
termination_by data.length

theorem length_le_of_mem_chunks {data chunk : Bytes} (there : chunk ∈ chunks data) :
    chunk.length ≤ 16 := by
  obtain ⟨index, _, rfl⟩ := List.mem_map.mp there
  exact List.length_take_le 16 _

theorem readRows {chunks : List Bytes} (first : Nat) (fit : ∀ chunk ∈ chunks, chunk.length ≤ 16) :
    (rowsFrom first chunks).flatMap readLine = chunks.flatten := by
  induction chunks generalizing first with
  | nil => rfl
  | cons chunk chunks ih =>
      obtain ⟨here, later⟩ := List.forall_mem_cons.mp fit
      rw [rowsFrom_cons, List.flatMap_cons, readLine_row _ here, ih _ later, List.flatten_cons]

/-- **The data is read back from its dump.** -/
theorem readBack_layout (data : Bytes) : readBack (layout data) = data := by
  have whole : ∀ line ∈ lines data, '\n' ∉ line := fun line member there =>
    absurd (List.all_eq_true.mp (allPrintable_of_mem_lines member) _ there) (by decide)
  have rows : (rowsFrom 0 (chunks data)).flatMap readLine = (chunks data).flatten :=
    readRows 0 fun chunk => length_le_of_mem_chunks
  rw [readBack, layout, splitOn_ended whole]
  have behind : (lines data ++ [[]]).drop 2 = rowsFrom 0 (chunks data) ++ [[], []] := by
    simp [lines]
  have none : [[], []].flatMap readLine = [] := rfl
  rw [behind, List.flatMap_append, rows, none, List.append_nil, flatten_chunks]

/-- **A dump is its layout and loses nothing.**  In every session it emits texts without styles that
spell its layout, and changes no count.  The digits of a chunk fill fifty characters, so the
characters of all chunks begin equally far behind their offsets.  All characters but the ends of
lines are printable, and the data can be read back. -/
theorem dump_is_its_layout :
    (∀ data : Bytes, ∃ emits : List Emit,
      (∀ emit ∈ emits, emit.style = none) ∧ (plainText emits).toList = layout data ∧
      ∀ session, showAll data session = ((), session.record ⟨emits, 0, 0⟩) ∧
        (showAll data session).2.counters = session.counters) ∧
    (∀ data : Bytes, (chunks data).flatten = data ∧
      ∀ chunk ∈ chunks data, (hexArea chunk).length = 50 ∧
        ∀ offset, (row offset chunk).drop
          ((NumberFormat.hexUpper.digitTextOfWidth 8 offset).toList.length + 55) =
          chunk.map byteChar) ∧
    (∀ data : Bytes, ∀ character ∈ layout data,
      character = '\n' ∨ isPrintable character = true) ∧
    (∀ data : Bytes, readBack (layout data) = data) ∧
    Function.Injective layout := by
  refine ⟨fun data => ?_, fun data => ⟨flatten_chunks data, fun chunk there => ?_⟩,
    fun data character there => ?_, readBack_layout, fun data other same => ?_⟩
  · obtain ⟨emits, plain, spelled, reports⟩ := prints_showAll data
    refine ⟨emits, plain, spelled, fun session => ?_⟩
    rw [reports session.scope session rfl]
    exact ⟨rfl, Counters.plus_zero _⟩
  · have fits := length_le_of_mem_chunks there
    exact ⟨length_hexArea fits, fun offset => drop_row offset fits⟩
  · obtain ⟨line, member, inside⟩ := List.mem_flatMap.mp there
    rcases List.mem_append.mp inside with shown | newline
    · exact .inr (List.all_eq_true.mp (allPrintable_of_mem_lines member) character shown)
    · exact .inl (List.mem_singleton.mp newline)
  · rw [← readBack_layout data, same, readBack_layout]

end HexDump

end AcpiTables
