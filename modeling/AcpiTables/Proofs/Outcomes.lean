import AcpiTables.Proofs.DeclaredLength

/-!
# What becomes of a buffer

Two lengths decide what is done with a buffer: its own, and the one that its header declares.  A
buffer that cannot hold a header, or declares less than one, is refused with one error and nothing
else happens (`Table.decode_of_short_apply`, `Table.decode_of_small_apply`).  A buffer that ends
before its table is decoded as far as it goes, after one error (`Table.decode_of_beyond`), and any
other buffer is decoded up to the declared length (`Table.decode_of_inside`).  The header is read
before this is decided, and reading it never fails on a buffer that can hold it, so there is no
further case (`Table.outcome_of_buffer`).

A table without a decoder counts nothing but a wrong checksum
(`Table.counts_verifyAndDecode_of_unregistered`).
-/

namespace AcpiTables

set_option autoImplicit false

open Decoder

/-- Errors that are counted from zero on are shown as their number, if a word can hold it. -/
theorem Counters.toNat_errors_zero_plus {errors : Nat} (fits : errors ≤ 0xFFFFFFFF)
    (warnings : Nat) : (zero.plus errors warnings).errors.toNat = errors := by
  rw [toNat_errors_plus, zero, UInt32.toNat_zero, Nat.zero_add, Nat.min_eq_right fits]

/-! ## Checksums -/

namespace Bytes

/-- The sum of bytes is the sum of their numbers, modulo 256. -/
theorem toNat_sum (data : Bytes) : data.sum.toNat = (data.map UInt8.toNat).sum % 256 := by
  have folded (start : UInt8) : (data.foldl (· + ·) start).toNat =
      (start.toNat + (data.map UInt8.toNat).sum) % 256 := by
    induction data generalizing start with
    | nil =>
        have bound := start.toNat_lt
        simp only [List.foldl_nil, List.map_nil, List.sum_nil, Nat.add_zero]
        omega
    | cons byte rest ih =>
        rw [List.foldl_cons, ih, UInt8.toNat_add, List.map_cons, List.sum_cons]
        omega
  rw [sum, folded]
  exact congrArg (· % 256) (Nat.zero_add _)

theorem sum_eq_zero_iff {data : Bytes} :
    data.sum = 0 ↔ (data.map UInt8.toNat).sum % 256 = 0 := by
  rw [← UInt8.toNat_inj, toNat_sum]
  rfl

end Bytes

/-- How many errors the checksum of a table is worth: one for bytes that do not add up to zero. -/
def Checksum.failures (data : Bytes) : Nat :=
  if (data.map UInt8.toNat).sum % 256 = 0 then 0 else 1

theorem Checksum.failures_le_one (data : Bytes) : failures data ≤ 1 := by
  unfold failures
  split <;> decide

theorem Checksum.counts_verify (config : Config) (data : Bytes) :
    Counts (verify true data) config (data.sum == 0) ⟨failures data, 0⟩ := by
  intro scope _
  by_cases passes : data.sum = 0
  · have none : failures data = 0 := if_pos (Bytes.sum_eq_zero_iff.mp passes)
    rw [verify, if_pos rfl, if_pos passes, none]
    exact ⟨_, Reports.bind_pure _ (Reports.printStyled .success _), rfl⟩
  · have one : failures data = 1 := if_neg fun zero => passes (Bytes.sum_eq_zero_iff.mpr zero)
    rw [verify, if_pos rfl, if_neg passes, one]
    exact ⟨_, Reports.countError.bind (Reports.bind_pure _ (Reports.printStyled .error _)), rfl⟩

namespace Header

theorem number?_declared {data : Bytes} (inside : 8 ≤ data.length) :
    data.number? 4 4 = some (Bytes.littleEndian ((data.drop 4).take 4)) :=
  Bytes.number?_of_le inside

theorem declared_of_whole {data : Bytes} (whole : size ≤ data.length) :
    declared data = Bytes.littleEndian ((data.drop 4).take 4) := by
  rw [declared, number?_declared (Nat.le_trans (by decide) whole), Option.getD_some]

/-- Where a header is there, tracing it counts nothing. -/
theorem counts_trace {data : Bytes} (whole : size ≤ data.length) (config : Config) :
    ∃ found, Counts (trace data) config found 0 := by
  have traced : Counts (Record.decode true 0 (some "ACPI Table Header") (data.take size) fields)
      config _ 0 :=
    Record.counts_decode_of_unchecked wellLaid_fields (size_le_length_take whole) rfl
  exact ⟨_, Counts.bind_pure _ traced⟩

end Header

namespace Table

/-- Verifies the checksum of a table, decodes it under a signature and gives the signature. -/
def verifyAndDecode (signature table : Bytes) : Decoder (Option Bytes) := do
  let _ ← Checksum.verify true table
  decodeContent signature table
  return some signature

/-! ## The four cases -/

theorem decode_of_short_apply {data : Bytes} (short : data.length < Header.size)
    (session : Session) :
    decode data session = (none, session.record
      (.ofError session.scope (Fault.message (.shortBuffer data.length)))) := by
  rw [decode_of_short short, bind_apply, Reports.error _ _ rfl, pure_apply]

section Whole

variable {data : Bytes} (whole : Header.size ≤ data.length)

include whole

theorem decode_of_small_apply (small : Header.declared data < Header.size) (session : Session) :
    decode data session = (some (data.take 4), session.record
      (.ofError session.scope (Fault.message (.shortTable (Header.declared data))))) := by
  rw [decode_of_small whole small, bind_apply, Reports.error _ _ rfl, pure_apply]

/-- The signature is given whatever the header declares. -/
theorem decode_value (session : Session) : (decode data session).1 = some (data.take 4) := by
  rw [decode_of_whole whole]
  split
  · rfl
  · rfl

/-- A buffer that ends before its table is decoded to its end, after one error. -/
theorem decode_of_beyond (large : Header.size ≤ Header.declared data)
    (beyond : data.length < Header.declared data) (session : Session) :
    decode data session = verifyAndDecode (data.take 4) data (session.record (.ofError session.scope
      (Fault.message (.overlongTable (Header.declared data) data.length)))) := by
  rw [decode_of_large whole large, clamp, if_neg (Nat.not_le.mpr beyond), bind_assoc, bind_apply,
    Reports.error _ _ rfl, pure_bind]
  rfl

/-- A buffer that holds its table is decoded up to the end of the table. -/
theorem decode_of_inside (large : Header.size ≤ Header.declared data)
    (inside : Header.declared data ≤ data.length) :
    decode data = verifyAndDecode (data.take 4) (data.take (Header.declared data)) := by
  rw [decode_of_large whole large, clamp_of_inside inside, pure_bind]
  rfl

end Whole

/-- All that can be done with a buffer. -/
theorem decode_eq_ite (data : Bytes) (session : Session) :
    decode data session =
      if data.length < Header.size then (none, session.record
        (.ofError session.scope (Fault.message (.shortBuffer data.length))))
      else if Header.declared data < Header.size then (some (data.take 4), session.record
        (.ofError session.scope (Fault.message (.shortTable (Header.declared data)))))
      else if data.length < Header.declared data then
        verifyAndDecode (data.take 4) data (session.record (.ofError session.scope
          (Fault.message (.overlongTable (Header.declared data) data.length))))
      else verifyAndDecode (data.take 4) (data.take (Header.declared data)) session := by
  split
  · next short => exact decode_of_short_apply short session
  · next long =>
      have whole : Header.size ≤ data.length := Nat.not_lt.mp long
      split
      · next small => exact decode_of_small_apply whole small session
      · next notSmall =>
          have large : Header.size ≤ Header.declared data := Nat.not_lt.mp notSmall
          split
          · next beyond => exact decode_of_beyond whole large beyond session
          · next inside => rw [decode_of_inside whole large (Nat.not_lt.mp inside)]

/-! ## Tables without a decoder -/

/-- A table without a decoder counts nothing but a wrong checksum. -/
theorem counts_verifyAndDecode_of_unregistered {signature table : Bytes}
    (unregistered : find? signature = none) (whole : Header.size ≤ table.length)
    (config : Config) :
    Counts (verifyAndDecode signature table) config (some signature)
      ⟨Checksum.failures table, 0⟩ := by
  obtain ⟨found, traced⟩ := Header.counts_trace whole config
  have content : Counts (decodeContent signature table) config () 0 := by
    rw [decodeContent, unregistered]
    exact traced.quiet_bind (Counts.print _)
  rw [← Tally.add_zero ⟨Checksum.failures table, 0⟩]
  exact (Checksum.counts_verify config table).bind (content.bind_pure fun _ => some signature)

/-- Decoding a buffer without a decoder for its table counts one error if the buffer ends before the
table, and one if the checksum of the bytes that are there is wrong. -/
theorem counters_of_unregistered {data : Bytes} (whole : Header.size ≤ data.length)
    (large : Header.size ≤ Header.declared data) (unregistered : find? (data.take 4) = none)
    (session : Session) :
    (decode data session).2.counters = session.counters.plus
      ((if data.length < Header.declared data then 1 else 0) +
        Checksum.failures (data.take (Header.declared data))) 0 := by
  rcases Nat.lt_or_ge data.length (Header.declared data) with beyond | inside
  · let blamed := session.record (.ofError session.scope
      (Fault.message (.overlongTable (Header.declared data) data.length)))
    have all : data.take (Header.declared data) = data :=
      List.take_of_length_le (Nat.le_of_lt beyond)
    have counts := counts_verifyAndDecode_of_unregistered unregistered whole blamed.config
    rw [decode_of_beyond whole large beyond, if_pos beyond, all]
    exact counts.counters.trans (Counters.plus_plus ..)
  · have content : Header.size ≤ (data.take (Header.declared data)).length :=
      size_le_length_clamped whole large
    have counts := counts_verifyAndDecode_of_unregistered unregistered content session.config
    rw [decode_of_inside whole large inside, if_neg (Nat.not_lt.mpr inside), Nat.zero_add]
    exact counts.counters

/-- **What becomes of a buffer.**  A buffer without room for a header gives nothing and counts one
error.  Any other buffer gives its first four bytes, since its header is read without effect and
with all members.  If it declares less than a header, one error is all that happens; if it declares
more than it has, one error is followed by the decoding of all its bytes; else the declared bytes
are decoded.  Decoding a table under a signature without a decoder, from zero counts on, counts one
error for an overlong declaration and one for a wrong checksum, and no warning. -/
theorem outcome_of_buffer (data : Bytes) (session : Session) :
    let signature := data.take 4
    let declared := Bytes.littleEndian ((data.drop 4).take 4)
    let outcome := decode data session
    let refused (fault : Fault) := session.record (.ofError session.scope fault.message)
    (outcome.1 = none ↔ data.length < Header.size) ∧
    (Header.size ≤ data.length → outcome.1 = some signature ∧
      ∃ revision, Header.read data session =
        ((Header.size, ⟨some signature, some declared, some revision⟩), session)) ∧
    (outcome =
      if data.length < Header.size then (none, refused (.shortBuffer data.length))
      else if declared < Header.size then (some signature, refused (.shortTable declared))
      else if data.length < declared then
        verifyAndDecode signature data (refused (.overlongTable declared data.length))
      else verifyAndDecode signature (data.take declared) session) ∧
    (Header.size ≤ data.length → Header.size ≤ declared → find? signature = none →
      session.counters = .zero →
        outcome.2.counters.errors.toNat = (if data.length < declared then 1 else 0) +
          (if ((data.take declared).map UInt8.toNat).sum % 256 = 0 then 0 else 1) ∧
        outcome.2.counters.warnings = 0) := by
  intro signature declared outcome refused
  rcases Nat.lt_or_ge data.length Header.size with short | whole
  · have refuses : outcome = (none, refused (.shortBuffer data.length)) :=
      decode_of_short_apply short session
    have notWhole : ¬ Header.size ≤ data.length := Nat.not_le.mpr short
    refine ⟨iff_of_true (congrArg Prod.fst refuses) short, ?_, ?_, ?_⟩
    · intro whole
      exact absurd whole notWhole
    · rw [refuses, if_pos short]
    · intro whole
      exact absurd whole notWhole
  · have reads : Header.declared data = declared := Header.declared_of_whole whole
    have gives : outcome.1 = some signature := decode_value whole session
    refine ⟨?_, ?_, ?_, ?_⟩
    · rw [gives]
      exact iff_of_false nofun (Nat.not_lt.mpr whole)
    · intro _
      obtain ⟨revision, revises⟩ : ∃ revision, data.number? 8 1 = some revision :=
        Bytes.exists_number? (Nat.le_trans (by decide) whole)
      refine ⟨gives, revision, ?_⟩
      have told := Header.number?_declared (Nat.le_trans (by decide : 8 ≤ Header.size) whole)
      rw [Header.read_of_whole whole, told, revises, pure_apply]
    · rw [← reads]
      exact decode_eq_ite data session
    · intro _ large unregistered fresh
      have counters := counters_of_unregistered whole (reads ▸ large) unregistered session
      rw [reads, fresh] at counters
      rw [counters]
      refine ⟨Counters.toNat_errors_zero_plus ?_ 0, rfl⟩
      have one := Checksum.failures_le_one (data.take declared)
      split <;> omega

/-- A header without a decoder for its signature, which declares one byte more than there is and
does not add up to zero, counts two errors. -/
theorem outcome_of_buffer_of_overlong :
    let data : Bytes := [0x41, 0x42, 0x43, 0x44, 37, 0, 0, 0] ++ List.replicate 28 0
    let outcome := decode data (.start .default)
    Header.size ≤ data.length ∧ find? (data.take 4) = none ∧
      outcome.1 = some [0x41, 0x42, 0x43, 0x44] ∧ outcome.2.counters.errors.toNat = 2 ∧
      outcome.2.counters.warnings = 0 := by
  intro data outcome
  have whole : Header.size ≤ data.length := by decide
  have unregistered : find? (data.take 4) = none := by decide
  obtain ⟨_, gives, _, counts⟩ := outcome_of_buffer data (.start .default)
  obtain ⟨errors, warnings⟩ := counts whole (by decide) unregistered rfl
  exact ⟨whole, unregistered, (gives whole).1, errors.trans (by decide), warnings⟩

end Table

end AcpiTables
