import AcpiTables.Proofs.Outcomes
import Mathlib.Data.List.Perm.Basic

/-!
# What a checksum tells

The sum of bytes modulo 256 is a homomorphism: joined bytes add up to the sum of their sums
(`Bytes.sum_append`), in whatever order they come (`Bytes.sum_perm`).  So the byte at any one place
can be taken out of the sum (`Bytes.sum_set`), and with all other bytes given there is exactly one
value for it with which the bytes add up to zero (`Bytes.sum_set_eq_zero_iff`).

For the place of the checksum this says how a table is sealed (`Checksum.sealed_eq_set`); for any
place of a table that passes it says that no other byte there passes.  A single wrong byte is always
found, though several may make up for each other.

A verification gives the same answer whether or not it is logged, and a log counts one error if the
table fails and nothing else (`Checksum.counters_verify`).
-/

namespace AcpiTables

set_option autoImplicit false

open Decoder

/-! ## Sums of bytes -/

namespace Bytes

@[simp] theorem sum_nil : sum [] = 0 := rfl

@[simp] theorem sum_cons (byte : UInt8) (rest : Bytes) :
    sum (byte :: rest) = byte + sum rest := by
  have folded (start : UInt8) : rest.foldl (· + ·) start = start + rest.foldl (· + ·) 0 := by
    induction rest generalizing start with
    | nil => exact (UInt8.add_zero start).symm
    | cons next rest ih =>
        rw [List.foldl_cons, List.foldl_cons, ih, ih (0 + next), UInt8.zero_add, UInt8.add_assoc]
  rw [sum, List.foldl_cons, UInt8.zero_add]
  exact folded byte

theorem sum_append (first second : Bytes) : sum (first ++ second) = sum first + sum second := by
  induction first with
  | nil => rw [List.nil_append, sum_nil, UInt8.zero_add]
  | cons byte first ih => rw [List.cons_append, sum_cons, sum_cons, ih, UInt8.add_assoc]

theorem sum_perm {data other : Bytes} (permuted : data.Perm other) : sum data = sum other := by
  induction permuted with
  | nil => rfl
  | cons byte _ ih => rw [sum_cons, sum_cons, ih]
  | swap first second rest =>
      rw [sum_cons, sum_cons, sum_cons, sum_cons, ← UInt8.add_assoc, ← UInt8.add_assoc,
        UInt8.add_comm second]
  | trans _ _ ihFirst ihSecond => exact ihFirst.trans ihSecond

section Places

variable {data : Bytes} {place : Nat} (inside : place < data.length)

include inside

/-- The byte at a place counts once, beside all other bytes. -/
theorem sum_set (byte : UInt8) :
    sum (data.set place byte) = byte + sum (data.eraseIdx place) := by
  rw [sum_perm (List.set_perm_cons_eraseIdx inside byte), sum_cons]

/-- **One value for each place**: with the other bytes given, bytes add up to zero exactly if this
one is the negated sum of the others. -/
theorem sum_set_eq_zero_iff (byte : UInt8) :
    sum (data.set place byte) = 0 ↔ byte = -sum (data.eraseIdx place) := by
  rw [sum_set inside, ← UInt8.eq_sub_iff_add_eq, UInt8.zero_sub]

/-- A single byte that is changed is always found. -/
theorem sum_set_ne_zero (passes : data.sum = 0) {byte : UInt8} (changed : data[place] ≠ byte) :
    sum (data.set place byte) ≠ 0 := by
  have before : data[place] = -sum (data.eraseIdx place) := by
    rw [← sum_set_eq_zero_iff inside, List.set_getElem_self]
    exact passes
  intro passesToo
  rw [sum_set_eq_zero_iff inside] at passesToo
  exact changed (before.trans passesToo.symm)

end Places

end Bytes

/-! ## Sealing and verifying -/

namespace Checksum

/-- The place of the checksum in a table. -/
def place : Nat := 9

/-- The table with its checksum filled in: what it lacks to zero once the checksum is cleared. -/
def sealed (table : Bytes) : Bytes :=
  let cleared : Bytes := table.set place 0
  cleared.set place (0 - cleared.sum)

theorem sealed_eq_set {table : Bytes} (inside : place < table.length) :
    sealed table = table.set place (-Bytes.sum (table.eraseIdx place)) := by
  rw [sealed, List.set_set, UInt8.zero_sub, Bytes.sum_set inside, UInt8.zero_add]

/-- The answer does not depend on the log. -/
theorem verify_value (log : Bool) (table : Bytes) (session : Session) :
    (verify log table session).1 = (table.sum == 0) := by
  unfold verify
  cases log with
  | false => rfl
  | true =>
      dsimp only
      rw [if_pos rfl]
      split
      · rfl
      · rfl

theorem verify_value_eq_true {log : Bool} {table : Bytes} {session : Session} :
    (verify log table session).1 = true ↔ table.sum = 0 := by
  rw [verify_value, beq_iff_eq]

theorem verify_unlogged (table : Bytes) (session : Session) :
    verify false table session = (table.sum == 0, session) := rfl

/-- One error is counted exactly if a logged verification fails. -/
theorem counters_verify (log : Bool) (table : Bytes) (session : Session) :
    (verify log table session).2.counters =
      session.counters.plus (if log && table.sum != 0 then 1 else 0) 0 := by
  cases log with
  | false =>
      rw [verify_unlogged, Bool.false_and, if_neg Bool.false_ne_true, Counters.plus_zero]
  | true =>
      have counted := (counts_verify session.config table).counters
      have worth : failures table = if table.sum != 0 then 1 else 0 := by
        by_cases passes : table.sum = 0
        · simp [failures, passes, Bytes.sum_eq_zero_iff.mp passes]
        · simp [failures, passes, mt Bytes.sum_eq_zero_iff.mpr passes]
      rw [counted, worth, Bool.true_and]

/-- **A table has one seal, and its seal finds every single change.**  Sums of bytes join, and do
not depend on the order of the bytes.  Of a table that reaches its checksum, exactly one value of
the checksum passes, the negated sum of all other bytes, and sealing the table puts it there.  Where
a table passes, every other byte at any one place fails.  The answer is the same with a log and
without, and one error is counted exactly if there is a log and the table fails. -/
theorem one_seal_passes :
    (∀ first second : Bytes, Bytes.sum (first ++ second) = first.sum + second.sum) ∧
    (∀ data other : Bytes, data.Perm other → data.sum = other.sum) ∧
    (∀ table : Bytes, 10 ≤ table.length →
      (∀ log session byte, (verify log (table.set 9 byte) session).1 = true ↔
        byte = -Bytes.sum (table.eraseIdx 9)) ∧
      sealed table = table.set 9 (-Bytes.sum (table.eraseIdx 9))) ∧
    (∀ (table : Bytes) log session, (verify log table session).1 = true →
      ∀ place byte, (inside : place < table.length) → table[place] ≠ byte →
        ∀ log session, (verify log (table.set place byte) session).1 = false) ∧
    ∀ (table : Bytes) log (session : Session),
      (verify log table session).1 = (verify false table session).1 ∧
      (verify log table session).2.counters = session.counters.plus
        (if log && !(verify log table session).1 then 1 else 0) 0 := by
  refine ⟨Bytes.sum_append, fun _ _ => Bytes.sum_perm, fun table reaches => ⟨?_, ?_⟩, ?_, ?_⟩
  · intro log session byte
    rw [verify_value_eq_true]
    exact Bytes.sum_set_eq_zero_iff reaches byte
  · exact sealed_eq_set reaches
  · intro table log session passes place byte inside changed log' session'
    have found := Bytes.sum_set_ne_zero inside (verify_value_eq_true.mp passes) changed
    rw [verify_value, beq_eq_false_iff_ne]
    exact found
  · intro table log session
    refine ⟨?_, ?_⟩
    · rw [verify_value, verify_value]
    · rw [counters_verify, verify_value]
      rfl

/-- Ten bytes with the sum 200 are sealed by 56.  Sealed they pass; with their first byte changed
they fail, and a log counts one error. -/
theorem one_seal_passes_of_ten :
    let table : Bytes := [100, 100, 0, 0, 0, 0, 0, 0, 0, 7]
    let changed := (sealed table).set 0 101
    10 ≤ table.length ∧ sealed table = table.set 9 56 ∧
      (verify false (sealed table) (.start .default)).1 = true ∧
      (verify true changed (.start .default)).1 = false ∧
      (verify true changed (.start .default)).2.counters = ⟨1, 0⟩ := by
  intro table changed
  obtain ⟨_, _, sealing, detection, counting⟩ := one_seal_passes
  obtain ⟨accepted, placed⟩ := sealing table (by decide)
  have passes : (verify false (sealed table) (.start .default)).1 = true := by
    rw [placed]
    exact (accepted false _ _).mpr rfl
  have fails := detection (sealed table) false _ passes 0 101 (by decide) (by decide)
  have counted := (counting changed true (.start .default)).2
  rw [fails true] at counted
  exact ⟨by decide, placed, passes, fails true _, counted⟩

end Checksum

end AcpiTables
