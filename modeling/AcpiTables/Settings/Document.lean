/-!
# Settings documents

A settings document is the flat part of a TOML document: lines of `key = value` whose
values are booleans and strings, blank lines, and comments from `#` to the end of the
line.  Keys are bare or quoted; strings are basic or literal, each also in the form with
three quotes that may run over several lines.  Tables, numbers, dates and lists never
make valid settings, so a document that uses them is refused like a malformed one.

`Document.read?` gives the settings in the order in which they stand.  The statements
about lengths say that every reader leaves less than it was given, which is why reading
line after line ends.
-/

namespace AcpiTables

set_option autoImplicit false

/-- The value of a setting. -/
inductive SettingValue where
  /-- A truth value. -/
  | boolean (value : Bool)
  | text (value : String)
  deriving DecidableEq, Repr

namespace Document

/-! ## Characters -/

/-- A space or a tab. -/
def isBlank (char : Char) : Bool := char == ' ' || char == '\t'

/-- A character that may stand for itself within a line: a tab, or anything but a control. -/
def isPlain (char : Char) : Bool :=
  char == '\t' || (0x20 ≤ char.toNat && char.toNat != 0x7F)

/-- A character of a bare key. -/
def isKeyChar (char : Char) : Bool := char.isAlphanum || char == '-' || char == '_'

/-- The text with every carriage return and line feed replaced by a line feed alone. -/
def joinLineBreaks : List Char → List Char
  | [] => []
  | '\r' :: '\n' :: rest => '\n' :: joinLineBreaks rest
  | char :: rest => char :: joinLineBreaks rest

/-- The value of a hexadecimal digit. -/
def hexDigit? (char : Char) : Option Nat :=
  if '0' ≤ char ∧ char ≤ '9' then some (char.toNat - '0'.toNat)
  else if 'a' ≤ char ∧ char ≤ 'f' then some (char.toNat - 'a'.toNat + 10)
  else if 'A' ≤ char ∧ char ≤ 'F' then some (char.toNat - 'A'.toNat + 10)
  else none

/-- The number written by hexadecimal digits. -/
def hexNumber? (digits : List Char) : Option Nat :=
  digits.foldlM (fun number digit => (hexDigit? digit).map (number * 16 + ·)) 0

/-- The character whose code point is written by hexadecimal digits. -/
def charOfCode? (digits : List Char) : Option Char :=
  (hexNumber? digits).bind fun code =>
    if code.isValidChar then some (Char.ofNat code) else none

/-- The character written by a letter behind a backslash. -/
def escape? (letter : Char) : Option Char :=
  match letter with
  | 'b' => some '\x08'
  | 't' => some '\t'
  | 'n' => some '\n'
  | 'f' => some '\x0c'
  | 'r' => some '\r'
  | '"' => some '"'
  | '\\' => some '\\'
  | _ => none

/-! ## Strings -/

/-- Puts characters in front of a text that was read. -/
def prepend (front : List Char) (text : List Char × List Char) : List Char × List Char :=
  (front ++ text.1, text.2)

/-- Reads a basic string behind its opening quote. -/
def readBasic : List Char → Option (List Char × List Char)
  | [] => none
  | '"' :: rest => some ([], rest)
  | '\\' :: 'u' :: a :: b :: c :: d :: rest => do
      let char ← charOfCode? [a, b, c, d]
      return prepend [char] (← readBasic rest)
  | '\\' :: 'U' :: a :: b :: c :: d :: e :: f :: g :: h :: rest => do
      let char ← charOfCode? [a, b, c, d, e, f, g, h]
      return prepend [char] (← readBasic rest)
  | '\\' :: letter :: rest => do
      let char ← escape? letter
      return prepend [char] (← readBasic rest)
  | char :: rest =>
      if isPlain char && char != '\\' then (readBasic rest).map (prepend [char]) else none

/-- Reads a literal string behind its opening quote. -/
def readLiteral : List Char → Option (List Char × List Char)
  | [] => none
  | char :: rest =>
      if char = '\'' then some ([], rest)
      else if isPlain char then (readLiteral rest).map (prepend [char])
      else none

/-- Where the reading of a long basic string stands. -/
inductive LongState where
  /-- Within the text. -/
  | within
  /-- Behind a backslash and blanks, before the line break that has to follow. -/
  | lineEnd
  /-- Behind such a line break, where blanks and further line breaks are dropped. -/
  | joining
  deriving DecidableEq, Repr

/-- The end of a long string behind its three quotes: two more quotes may belong to the text. -/
def closeLong (quote : Char) : List Char → List Char × List Char
  | first :: second :: rest =>
      if first = quote then
        if second = quote then ([quote, quote], rest) else ([quote], second :: rest)
      else ([], first :: second :: rest)
  | [first] => if first = quote then ([quote], []) else ([], [first])
  | [] => ([], [])

/-- Reads a long basic string behind its opening quotes. -/
def readLong : LongState → List Char → Option (List Char × List Char)
  | _, [] => none
  | .lineEnd, char :: rest =>
      if isBlank char then readLong .lineEnd rest
      else if char = '\n' then readLong .joining rest
      else none
  | state, char :: rest =>
      if state = .joining ∧ (isBlank char ∨ char = '\n') then readLong .joining rest
      else if char = '"' then
        match rest with
        | '"' :: '"' :: behind => some (closeLong '"' behind)
        | rest => (readLong .within rest).map (prepend ['"'])
      else if char = '\\' then
        match rest with
        | 'u' :: a :: b :: c :: d :: rest => do
            let char ← charOfCode? [a, b, c, d]
            return prepend [char] (← readLong .within rest)
        | 'U' :: a :: b :: c :: d :: e :: f :: g :: h :: rest => do
            let char ← charOfCode? [a, b, c, d, e, f, g, h]
            return prepend [char] (← readLong .within rest)
        | letter :: rest =>
            if isBlank letter then readLong .lineEnd rest
            else if letter = '\n' then readLong .joining rest
            else do
              let char ← escape? letter
              return prepend [char] (← readLong .within rest)
        | [] => none
      else if isPlain char ∨ char = '\n' then (readLong .within rest).map (prepend [char])
      else none

/-- Reads a long literal string behind its opening quotes. -/
def readLongLiteral : List Char → Option (List Char × List Char)
  | [] => none
  | char :: rest =>
      if char = '\'' then
        match rest with
        | '\'' :: '\'' :: behind => some (closeLong '\'' behind)
        | rest => (readLongLiteral rest).map (prepend ['\''])
      else if isPlain char ∨ char = '\n' then (readLongLiteral rest).map (prepend [char])
      else none

/-- A line break right behind the opening quotes of a long string is not part of it. -/
def dropLineBreak : List Char → List Char
  | '\n' :: rest => rest
  | rest => rest

/-! ## Lines -/

/-- Reads a value. -/
def readValue : List Char → Option (SettingValue × List Char)
  | 't' :: 'r' :: 'u' :: 'e' :: rest => some (.boolean true, rest)
  | 'f' :: 'a' :: 'l' :: 's' :: 'e' :: rest => some (.boolean false, rest)
  | '"' :: '"' :: '"' :: rest =>
      (readLong .within (dropLineBreak rest)).map fun (text, rest) => (.text (.ofList text), rest)
  | '"' :: rest => (readBasic rest).map fun (text, rest) => (.text (.ofList text), rest)
  | '\'' :: '\'' :: '\'' :: rest =>
      (readLongLiteral (dropLineBreak rest)).map fun (text, rest) => (.text (.ofList text), rest)
  | '\'' :: rest => (readLiteral rest).map fun (text, rest) => (.text (.ofList text), rest)
  | _ => none

/-- Reads a key. -/
def readKey : List Char → Option (List Char × List Char)
  | '"' :: rest => readBasic rest
  | '\'' :: rest => readLiteral rest
  | char :: rest =>
      if isKeyChar char then
        some (char :: rest.takeWhile isKeyChar, rest.dropWhile isKeyChar)
      else none
  | [] => none

/-- Reads what may stand behind a value: blanks, a comment, and the end of the line. -/
def readLineEnd (text : List Char) : Option (List Char) :=
  let behindBlanks := text.dropWhile isBlank
  let behindComment :=
    match behindBlanks with
    | '#' :: rest => rest.dropWhile isPlain
    | rest => rest
  match behindComment with
  | [] => some []
  | '\n' :: rest => some rest
  | _ => none

/-- Reads a line that sets a key. -/
def readSetting (text : List Char) : Option ((String × SettingValue) × List Char) := do
  let (key, rest) ← readKey (text.dropWhile isBlank)
  match rest.dropWhile isBlank with
  | '=' :: rest =>
      let (value, rest) ← readValue (rest.dropWhile isBlank)
      return ((String.ofList key, value), ← readLineEnd rest)
  | _ => none

/-! ## Readers leave less than they were given -/

theorem length_dropWhile_le (test : Char → Bool) (text : List Char) :
    (text.dropWhile test).length ≤ text.length :=
  (List.dropWhile_sublist test).length_le

theorem length_readBasic {text : List Char} {found : List Char × List Char}
    (read : readBasic text = some found) : found.2.length < text.length := by
  fun_induction readBasic text generalizing found <;> simp_all [Option.bind_eq_some_iff]
  all_goals grind [prepend]

theorem length_readLiteral {text : List Char} {found : List Char × List Char}
    (read : readLiteral text = some found) : found.2.length < text.length := by
  fun_induction readLiteral text generalizing found <;> simp_all
  all_goals grind [prepend]

theorem length_closeLong_le (quote : Char) (text : List Char) :
    (closeLong quote text).2.length ≤ text.length := by
  fun_cases closeLong quote text <;> simp_all
  omega

theorem length_readLong {state : LongState} {text : List Char} {found : List Char × List Char}
    (read : readLong state text = some found) : found.2.length < text.length := by
  fun_induction readLong state text generalizing found <;> simp_all [Option.bind_eq_some_iff]
  all_goals grind [prepend, length_closeLong_le]

theorem length_readLongLiteral {text : List Char} {found : List Char × List Char}
    (read : readLongLiteral text = some found) : found.2.length < text.length := by
  fun_induction readLongLiteral text generalizing found <;> simp_all
  all_goals grind [prepend, length_closeLong_le]

theorem length_dropLineBreak_le (text : List Char) :
    (dropLineBreak text).length ≤ text.length := by
  fun_cases dropLineBreak text <;> simp

theorem length_readKey {text : List Char} {found : List Char × List Char}
    (read : readKey text = some found) : found.2.length < text.length := by
  unfold readKey at read
  split at read
  · exact Nat.lt_succ_of_lt (length_readBasic read)
  · exact Nat.lt_succ_of_lt (length_readLiteral read)
  · split at read
    · cases read
      exact Nat.lt_succ_of_le (length_dropWhile_le _ _)
    · cases read
  · cases read

theorem length_readLineEnd {text rest : List Char} (read : readLineEnd text = some rest) :
    rest = [] ∨ rest.length < text.length := by
  have blanks := length_dropWhile_le isBlank text
  simp only [readLineEnd] at read
  split at read
  · cases read
    exact .inl rfl
  · rename_i ending
    cases read
    right
    split at ending
    · rename_i comment stripped
      have plain := length_dropWhile_le isPlain comment
      grind
    · grind
  · cases read

theorem length_readValue {text : List Char} {found : SettingValue × List Char}
    (read : readValue text = some found) : found.2.length < text.length := by
  unfold readValue at read
  split at read
  · cases read
    simp only [List.length_cons]
    omega
  · cases read
    simp only [List.length_cons]
    omega
  · rename_i rest
    have shorter := length_dropLineBreak_le rest
    obtain ⟨inner, known, rfl⟩ := Option.map_eq_some_iff.mp read
    have bound := length_readLong known
    simp only [List.length_cons]
    omega
  · obtain ⟨inner, known, rfl⟩ := Option.map_eq_some_iff.mp read
    exact Nat.lt_succ_of_lt (length_readBasic known)
  · rename_i rest
    have shorter := length_dropLineBreak_le rest
    obtain ⟨inner, known, rfl⟩ := Option.map_eq_some_iff.mp read
    have bound := length_readLongLiteral known
    simp only [List.length_cons]
    omega
  · obtain ⟨inner, known, rfl⟩ := Option.map_eq_some_iff.mp read
    exact Nat.lt_succ_of_lt (length_readLiteral known)
  · cases read

theorem length_readSetting {text : List Char} {found : (String × SettingValue) × List Char}
    (read : readSetting text = some found) : found.2.length < text.length := by
  have blanks := length_dropWhile_le isBlank text
  simp only [readSetting, Option.bind_eq_bind, Option.bind_eq_some_iff] at read
  obtain ⟨⟨key, afterKey⟩, keyRead, read⟩ := read
  have keyBound := length_readKey keyRead
  have keyBlanks := length_dropWhile_le isBlank afterKey
  simp only at read keyBound
  split at read
  · rename_i afterEquals behindKey
    have equalsBlanks := length_dropWhile_le isBlank afterEquals
    obtain ⟨⟨value, afterValue⟩, valueRead, read⟩ := Option.bind_eq_some_iff.mp read
    have valueBound := length_readValue valueRead
    obtain ⟨rest, endRead, read⟩ := Option.bind_eq_some_iff.mp read
    cases read
    rw [behindKey, List.length_cons] at keyBlanks
    simp only at valueBound endRead ⊢
    rcases length_readLineEnd endRead with rfl | endBound
    · simp only [List.length_nil]
      omega
    · omega
  · cases read

/-! ## Documents -/

/-- Reads the settings of all lines. -/
def readLines (text : List Char) : Option (List (String × SettingValue)) :=
  if text.isEmpty then some []
  else
    match _blankRead : readLineEnd text with
    | some rest => readLines rest
    | none =>
        match _settingRead : readSetting text with
        | some (setting, rest) => (readLines rest).map (setting :: ·)
        | none => none
termination_by text.length
decreasing_by
  · rename_i nonempty
    rcases length_readLineEnd _blankRead with rfl | shorter
    · cases text with
      | nil => simp at nonempty
      | cons char text => exact Nat.succ_pos _
    · exact shorter
  · exact length_readSetting _settingRead

/-- Reads a whole document; a byte order mark in front of it is skipped. -/
def read? (document : String) : Option (List (String × SettingValue)) :=
  match document.toList with
  | '\uFEFF' :: text => readLines (joinLineBreaks text)
  | text => readLines (joinLineBreaks text)

end Document

end AcpiTables
