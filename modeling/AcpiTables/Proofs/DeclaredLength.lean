import AcpiTables.Proofs.WholeTables

/-!
# Bytes behind the declared length

A buffer may hold more than its table.  The header comes first and says how long the table is, so
what counts of a buffer is its extent: the header, and as many bytes as the header declares.  Two
buffers with the same extent and the same bytes in it are decoded alike
(`Table.decode_of_same_extent`), whatever is behind it, by every decoder and with every message
(`Table.bytes_behind_are_ignored`).
-/

namespace AcpiTables

set_option autoImplicit false

open Decoder

/-- Buffers that agree on a header declare the same length. -/
theorem Header.declared_of_agree {first second : Bytes} {extent : Nat}
    (header : Header.size ≤ extent) (agree : first.take extent = second.take extent) :
    declared first = declared second := by
  have inside : 4 + 4 ≤ extent := Nat.le_trans (by decide) header
  rw [declared, declared, ← Bytes.number?_take inside, agree, Bytes.number?_take inside]

namespace Table

theorem take_of_agree {first second : Bytes} {count extent : Nat} (inside : count ≤ extent)
    (agree : first.take extent = second.take extent) : first.take count = second.take count := by
  calc first.take count
      = (first.take extent).take count := by rw [List.take_take, Nat.min_eq_left inside]
    _ = (second.take extent).take count := by rw [agree]
    _ = second.take count := by rw [List.take_take, Nat.min_eq_left inside]

/-- A table that the buffer holds to its end is cut off behind it, and nothing is reported. -/
theorem clamp_of_inside {data : Bytes} {declared : Nat} (inside : declared ≤ data.length) :
    clamp data declared = pure (data.take declared) := if_pos inside

/-- How many bytes of a buffer matter: those of the header and those of the table. -/
def extent (data : Bytes) : Nat := max Header.size (Header.declared data)

/-- **Buffers that agree on the header and on the table are decoded alike.** -/
theorem decode_of_same_extent {first second : Bytes} (holds : extent first ≤ first.length)
    (holdsToo : extent first ≤ second.length)
    (agree : first.take (extent first) = second.take (extent first)) :
    decode first = decode second := by
  have header : Header.size ≤ extent first := Nat.le_max_left _ _
  have table : Header.declared first ≤ extent first := Nat.le_max_right _ _
  have declares := Header.declared_of_agree header agree
  have signature : first.take 4 = second.take 4 :=
    take_of_agree (Nat.le_trans (by decide) header) agree
  have whole := Nat.le_trans header holds
  have wholeToo := Nat.le_trans header holdsToo
  rcases Nat.lt_or_ge (Header.declared first) Header.size with small | large
  · rw [decode_of_small whole small, decode_of_small wholeToo (declares ▸ small), signature,
      declares]
  · have cut : clamp first (Header.declared first) = clamp second (Header.declared second) := by
      rw [← declares, clamp_of_inside (Nat.le_trans table holds),
        clamp_of_inside (Nat.le_trans table holdsToo), take_of_agree table agree]
    rw [decode_of_large whole large, decode_of_large wholeToo (declares ▸ large), signature, cut]

/-- **Bytes behind the declared length are ignored.**  Let a buffer hold a header and end nowhere
before the table it declares.  Whatever follows the header and the table, and be it nothing, the
buffer is decoded in the same way: in every session with the same value, texts and counts. -/
theorem bytes_behind_are_ignored {data : Bytes} {declared : Nat}
    (whole : Header.size ≤ data.length) (declares : data.number? 4 4 = some declared)
    (inside : declared ≤ data.length) (tail : Bytes) (session : Session) :
    decode (data.take (max Header.size declared) ++ tail) session = decode data session := by
  have reaches : extent data = max Header.size declared := by
    rw [extent, Header.declared, declares, Option.getD_some]
  have holds : extent data ≤ data.length := by
    rw [reaches]
    exact Nat.max_le.mpr ⟨whole, inside⟩
  have front : (data.take (extent data)).length = extent data := List.length_take_of_le holds
  have holdsToo : extent data ≤ (data.take (extent data) ++ tail).length := by
    rw [List.length_append, front]
    exact Nat.le_add_right _ _
  have agree : data.take (extent data) = (data.take (extent data) ++ tail).take (extent data) :=
    (List.take_left' front).symm
  rw [← reaches, ← decode_of_same_extent holds holdsToo agree]

/-- A topology table whose declared length cuts its only structure, a cache. -/
theorem bytes_behind_are_ignored_inside_a_cache :
    let cut : Bytes := ProcessorTopology.signature ++ [40, 0, 0, 0] ++ List.replicate 28 65 ++
      [1, 24, 0, 0]
    decode (cut ++ [7]) (.start .default) =
      decode (cut ++ List.replicate 20 0) (.start .default) := by
  intro cut
  have whole : Header.size ≤ (cut ++ List.replicate 20 0).length := by decide
  have declares : (cut ++ List.replicate 20 0).number? 4 4 = some 40 := by decide
  exact bytes_behind_are_ignored whole declares (by decide) [7] (.start .default)

end Table

end AcpiTables
