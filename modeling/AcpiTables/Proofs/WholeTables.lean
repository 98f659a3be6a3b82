import AcpiTables.Proofs.WholeRecords
import AcpiTables.Table

/-!
# Buffers that hold a header

A buffer that is long enough for a header is read without a trace, and all three members of the
header are found (`Header.read_of_whole`).  So only two cases are left for the decoder of such a
buffer: the declared length is too small even for the header (`Table.decode_of_small`), or the
table is cut off behind its declared length and decoded (`Table.decode_of_large`).
-/

namespace AcpiTables

set_option autoImplicit false

open Decoder

namespace Header

theorem wellLaid_fields : Record.WellLaid fields size where
  consistent := by decide
  width := rfl
  shown := by simp [fields, Field.decimal, Field.hexUpper, isIntegerWidth]

/-- The declared length of a table, zero if the buffer ends before it. -/
def declared (data : Bytes) : Nat := (data.number? 4 4).getD 0

/-- A whole record that starts with the fields of the three members has the members where they are
declared. -/
theorem ofReading_of_wellLaid {data : Bytes} {tail : List Field} {width : Nat}
    (laid : Record.WellLaid (fields.take 3 ++ tail) width) (there : width ≤ data.length)
    (nine : 9 ≤ data.length) : ofReading (Record.reading data (fields.take 3 ++ tail)) =
      ⟨some (data.take 4), data.number? 4 4, data.number? 8 1⟩ := by
  have signature : (Record.reading data (fields.take 3 ++ tail)).capture? 0 =
      some ⟨0, data.take 4⟩ :=
    laid.capture? there (show _ = some (Field.text "Signature" 4 0).kept from rfl) rfl
  have length : (Record.reading data (fields.take 3 ++ tail)).number? 1 4 = data.number? 4 4 :=
    laid.number? there (show _ = some (Field.decimal "Length" 4 4).kept from rfl) rfl
      (show 4 + 4 ≤ data.length by omega)
  have revision : (Record.reading data (fields.take 3 ++ tail)).number? 2 1 = data.number? 8 1 :=
    laid.number? there (show _ = some (Field.decimal "Revision" 1 8).kept from rfl) rfl nine
  have four : (data.take 4).length = 4 := List.length_take_of_le (by omega)
  rw [ofReading, signature, length, revision, Option.bind_some, if_pos four]

section Whole

variable {data : Bytes} (whole : size ≤ data.length)

include whole

theorem length_take_size : (data.take size).length = size := List.length_take_of_le whole

theorem size_le_length_take : size ≤ (data.take size).length :=
  Nat.le_of_eq (length_take_size whole).symm

theorem ofReading_of_whole : ofReading (Record.reading (data.take size) fields) =
    ⟨some (data.take 4), data.number? 4 4, data.number? 8 1⟩ := by
  have there := size_le_length_take whole
  have nine : 9 ≤ (data.take size).length := Nat.le_trans (by decide) there
  have found := ofReading_of_wellLaid wellLaid_fields there nine
  rwa [List.take_take, Bytes.number?_take (by decide), Bytes.number?_take (by decide)] at found

/-- Where a header is there, it is read without a trace. -/
theorem read_of_whole :
    read data = pure (size, ⟨some (data.take 4), data.number? 4 4, data.number? 8 1⟩) := by
  have there := size_le_length_take whole
  rw [read, wellLaid_fields.decode_untraced there, pure_bind, wellLaid_fields.consumed there,
    ofReading_of_whole whole]

end Whole

end Header

namespace Table

theorem clamp_value (data : Bytes) (declared : Nat) (session : Session) :
    (clamp data declared session).1 = data.take declared := by
  unfold clamp
  split
  · rfl
  · rename_i beyond
    exact (List.take_of_length_le (Nat.le_of_not_le beyond)).symm

theorem decode_of_short {data : Bytes} (short : data.length < Header.size) :
    decode data = (do
      error (Fault.message (.shortBuffer data.length))
      return none) := if_pos short

section Whole

variable {data : Bytes} (whole : Header.size ≤ data.length)

include whole

/-- A table that declares room for a header still has it once it is cut off. -/
theorem size_le_length_clamped (large : Header.size ≤ Header.declared data) :
    Header.size ≤ (data.take (Header.declared data)).length := by
  rw [List.length_take]
  exact Nat.le_min.mpr ⟨large, whole⟩

/-- What is left to do for a buffer that holds a header. -/
theorem decode_of_whole : decode data =
    if Header.declared data < Header.size then do
      error (Fault.message (.shortTable (Header.declared data)))
      return some (data.take 4)
    else do
      let table ← clamp data (Header.declared data)
      let _ ← Checksum.verify true table
      decodeContent (data.take 4) table
      return some (data.take 4) := by
  obtain ⟨declared, declares⟩ : ∃ declared, data.number? 4 4 = some declared :=
    Bytes.exists_number? (Nat.le_trans (by decide) whole)
  obtain ⟨revision, revises⟩ : ∃ revision, data.number? 8 1 = some revision :=
    Bytes.exists_number? (Nat.le_trans (by decide) whole)
  rw [decode, if_neg (Nat.not_lt.mpr whole), Header.read_of_whole whole, pure_bind,
    Header.declared, declares, revises]
  rfl

theorem decode_of_small (small : Header.declared data < Header.size) :
    decode data = (do
      error (Fault.message (.shortTable (Header.declared data)))
      return some (data.take 4)) := by
  rw [decode_of_whole whole, if_pos small]

theorem decode_of_large (large : Header.size ≤ Header.declared data) :
    decode data = (do
      let table ← clamp data (Header.declared data)
      let _ ← Checksum.verify true table
      decodeContent (data.take 4) table
      return some (data.take 4)) := by
  rw [decode_of_whole whole, if_neg (Nat.not_lt.mpr large)]

end Whole

end Table

end AcpiTables
