import AcpiTables.Proofs.CleanText
import AcpiTables.Proofs.Numerals
import Mathlib.Data.List.Basic

/-!
# Texts with a column

A label is filled up to one column, so the values behind two labels start at the same place, unless
a label is too long for the indent it stands behind.  `Fits pad label` says that it is not: indent
and label together leave the column free, and no colon is in the label.  Then the colon of the
separator is the only one in the text, 37 characters behind its start (`LinesUp.of_fits`).

Labels before a value, headings and the lines of a breakdown have a column (`IsColumned`).  Other
texts are told from these by what they look like: a text without a colon, a short text, and a line
that does not begin with a space and has no colon at its end (`IsColumned.not_of_line`).  The lines
of errors and warnings are of this kind, as no message ends with a colon.
-/

namespace AcpiTables

set_option autoImplicit false

/-! ## Labels in their column -/

theorem length_columnLabel (pad : Nat) (label : String) :
    (columnLabel pad label).length = max labelColumn (pad + label.length) := by
  simp only [columnLabel, padRight, spaces, labelColumn, String.length_append,
    String.length_ofList, List.length_replicate]
  omega

/-- A label that leaves the column behind an indent free, and has no colon of its own. -/
def Fits (pad : Nat) (label : String) : Prop :=
  pad + label.length ≤ labelColumn ∧ ':' ∉ label.toList

instance (pad : Nat) (label : String) : Decidable (Fits pad label) :=
  inferInstanceAs (Decidable (_ ∧ ¬ _))

/-- The text has one colon, 37 characters behind its start. -/
structure LinesUp (text : String) : Prop where
  single : text.toList.count ':' = 1
  column : text.toList.idxOf ':' = 37

/-- A label that fits lines up, whatever follows its colon and has none. -/
theorem LinesUp.of_fits {pad : Nat} {label rest : String} (fits : Fits pad label)
    (plain : ':' ∉ rest.toList) : LinesUp (columnLabel pad label ++ " :" ++ rest) := by
  obtain ⟨short, named⟩ := fits
  have width : (columnLabel pad label ++ " ").toList.length = 37 := by
    rw [String.length_toList, String.length_append, length_columnLabel, Nat.max_eq_left short]
    rfl
  have absent : ':' ∉ (columnLabel pad label ++ " ").toList := by
    simp [columnLabel, padRight, Clean.not_mem_spaces, named]
  have split : (columnLabel pad label ++ " :" ++ rest).toList =
      (columnLabel pad label ++ " ").toList ++ ':' :: rest.toList := by
    simp
  constructor
  · rw [split, List.count_append, List.count_eq_zero_of_not_mem absent, List.count_cons_self,
      List.count_eq_zero_of_not_mem plain]
  · rw [split, List.idxOf_append_of_notMem absent, List.idxOf_cons_self, width]

/-- The texts that have a column: a label before its value, a heading, a line of the breakdown. -/
inductive IsColumned : String → Prop where
  | label (pad : Nat) (label : String) : IsColumned (columnLabel pad label ++ " : ")
  | heading (pad : Nat) (title : String) : IsColumned (columnLabel pad title ++ " :\n")
  | breakdown (name : String) (count : UInt32) :
      IsColumned (Structure.Census.breakdownLine name count)

/-- A text with a column lines up; any other text may look as it likes. -/
def Neat (text : String) : Prop := IsColumned text → LinesUp text

/-! ## Texts without a column -/

namespace IsColumned

theorem colon_mem {text : String} (columned : IsColumned text) : ':' ∈ text.toList := by
  cases columned with
  | label | heading => simp
  | breakdown => simp [Structure.Census.breakdownLine]

theorem labelColumn_lt_length {text : String} (columned : IsColumned text) :
    labelColumn < text.length := by
  cases columned with
  | label | heading =>
      rw [String.length_append, length_columnLabel]
      exact Nat.lt_of_le_of_lt (Nat.le_max_left _ _) (Nat.lt_add_of_pos_right (by decide))
  | breakdown =>
      simp only [Structure.Census.breakdownLine, String.length_append, length_columnLabel]
      have separated : 0 < " : ".length := by decide
      omega

/-- A line that does not begin with a space and has no colon at its end has no column. -/
theorem not_of_line {front : String} (begins : front.toList.head? ≠ some ' ')
    (ends : front.toList.getLast? ≠ some ':') : ¬ IsColumned (front ++ "\n") := by
  intro columned
  generalize same : front ++ "\n" = text at columned
  have characters := congrArg String.toList same
  cases columned with
  | label pad label =>
      have last := congrArg List.getLast? characters
      simp at last
  | heading pad title =>
      have split : columnLabel pad title ++ " :\n" = columnLabel pad title ++ " :" ++ "\n" := by
        rw [String.append_assoc]
        rfl
      rw [split, String.toList_append, String.toList_append] at characters
      rw [List.append_cancel_right characters] at ends
      simp at ends
  | breakdown name count =>
      have spaced : (Structure.Census.breakdownLine name count).toList.head? = some ' ' := by
        simp [Structure.Census.breakdownLine, columnLabel, spaces,
          Structure.Census.breakdownIndent]
      rw [← characters, String.toList_append, List.head?_append] at spaced
      cases first : front.toList.head? with
      | none =>
          rw [first] at spaced
          exact absurd spaced (by decide)
      | some character =>
          rw [first] at spaced begins
          exact begins spaced

end IsColumned

/-- The text ends, and not with a colon. -/
def Ended (text : String) : Prop := ∃ last ∈ text.toList.getLast?, last ≠ ':'

namespace Ended

/-- A literal text is decided by its last character. -/
theorem ofList {characters : List Char} (ends : characters.getLast?.any (· != ':') = true) :
    Ended (String.ofList characters) := by
  cases last : characters.getLast? with
  | none =>
      rw [last] at ends
      cases ends
  | some character =>
      rw [last, Option.any_some, bne_iff_ne] at ends
      exact ⟨character, by rw [String.toList_ofList, last]; rfl, ends⟩

theorem append {text : String} (before : String) (ended : Ended text) : Ended (before ++ text) := by
  obtain ⟨last, ends, other⟩ := ended
  refine ⟨last, ?_, other⟩
  rw [String.toList_append, List.getLast?_append, ends, Option.some_or]
  exact Option.mem_some_self last

theorem of_not_mem {text : String} (some : text.toList ≠ []) (absent : ':' ∉ text.toList) :
    Ended text := by
  refine ⟨text.toList.getLast some, List.getLast?_eq_some_getLast some, fun same => absent ?_⟩
  rw [← same]
  exact List.getLast_mem some

end Ended

theorem colon_not_mem_digits (format : NumberFormat) (number : Nat) :
    ':' ∉ format.digits number :=
  Clean.not_mem_digits (by decide) (by decide) format number

@[simp] theorem colon_not_mem_numeral (format : NumberFormat) (number : Nat) :
    ':' ∉ (format.numeral number).toList :=
  Clean.not_mem_numeral (by decide) (by decide) (by decide) format number

@[simp] theorem colon_not_mem_toString (number : Nat) : ':' ∉ (toString number).toList :=
  Clean.not_mem_toString (by decide) (by decide) number

@[simp] theorem colon_not_mem_toString_uint32 (number : UInt32) :
    ':' ∉ (toString number).toList :=
  colon_not_mem_toString number.toNat

theorem length_toString_le {number width : Nat} (some : 0 < width) (small : number < 10 ^ width) :
    (toString number).length ≤ width := by
  rw [Nat.toString_eq_ofList_toDigits, String.length_ofList]
  exact (Nat.length_toDigits_le_iff (by decide) some).mpr small

theorem Ended.toString_nat (number : Nat) : Ended (toString number) := by
  refine .of_not_mem ?_ (colon_not_mem_toString number)
  rw [Nat.toString_eq_ofList_toDigits, String.toList_ofList]
  exact NumberFormat.digits_ne_nil .decimal number

theorem Ended.toString_uint32 (number : UInt32) : Ended (toString number) :=
  toString_nat number.toNat

namespace Neat

theorem of_plain {text : String} (plain : ':' ∉ text.toList) : Neat text :=
  fun columned => absurd columned.colon_mem plain

theorem of_short {text : String} (short : text.length ≤ labelColumn) : Neat text :=
  fun columned => absurd columned.labelColumn_lt_length (Nat.not_lt.mpr short)

theorem of_line {front : String} (begins : front.toList.head? ≠ some ' ') (ended : Ended front) :
    Neat (front ++ "\n") := by
  obtain ⟨last, ends, other⟩ := ended
  refine fun columned => absurd columned (IsColumned.not_of_line begins ?_)
  rw [ends]
  exact fun colon => other (Option.some.inj colon)

theorem label {pad : Nat} {label : String} (fits : Fits pad label) :
    Neat (columnLabel pad label ++ " : ") := by
  intro _
  have linesUp : LinesUp (columnLabel pad label ++ " :" ++ " ") := .of_fits fits (by decide)
  rwa [String.append_assoc] at linesUp

theorem heading {pad : Nat} {title : String} (fits : Fits pad title) :
    Neat (columnLabel pad title ++ " :\n") := by
  intro _
  have linesUp : LinesUp (columnLabel pad title ++ " :" ++ "\n") := .of_fits fits (by decide)
  rwa [String.append_assoc] at linesUp

theorem breakdownLine {name : String} (fits : Fits Structure.Census.breakdownIndent name)
    (count : UInt32) : Neat (Structure.Census.breakdownLine name count) := by
  intro _
  have linesUp : LinesUp (columnLabel Structure.Census.breakdownIndent name ++ " :" ++
      (" " ++ toString count ++ "\n")) := .of_fits fits (by simp)
  have separator : " : " = " :" ++ " " := rfl
  rw [Structure.Census.breakdownLine, separator]
  simpa only [String.append_assoc] using linesUp

end Neat

/-! ## Messages -/

theorem Record.ended_message (fault : Fault) : Ended fault.message := by
  cases fault with
  | offsetMismatch | unreadableWidth => exact .append _ (.toString_nat _)

namespace Structure

theorem Fault.ended_message (fault : Fault) : Ended fault.message := by
  cases fault with
  | unknownCode => exact .append _ (.toString_uint32 _)
  | unsupported | disallowed => exact .append _ (.ofList (by decide))

theorem WalkFault.ended_message (fault : WalkFault) : Ended fault.message := by
  cases fault with
  | truncatedHead | invalidLength => exact .append _ (.append _ (.ofList (by decide)))

end Structure

theorem InterruptController.ended_message (fault : Fault) : Ended fault.message := by
  cases fault with
  | vectorBase | severalDistributors => exact .ofList (by decide)
  | overflowRange | overflowAssignment => exact .append _ (.append _ (.ofList (by decide)))

theorem ProcessorTopology.ended_message (fault : Fault) : Ended fault.message := by
  cases fault with
  | noSets | noWays | lineSizePower | reservedAttributes => exact .ofList (by decide)
  | extendedSets => exact .append _ (.append _ (.toString_nat _))
  | lineSizeRange | shortNode => exact .append _ (.ofList (by decide))
  | plainSets | resourceCount => exact .append _ (.append _ (.ofList (by decide)))

theorem Table.ended_message (fault : Fault) : Ended fault.message := by
  cases fault with
  | shortBuffer | shortTable | overlongTable => exact .append _ (.ofList (by decide))

end AcpiTables
