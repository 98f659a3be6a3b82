import AcpiTables.Proofs.EscapeCharacters
import AcpiTables.Proofs.TerminalOutput
import Mathlib.Data.List.Basic

/-!
# Output to a writer that runs out of room

A writer may run out of room at any byte: inside an escape sequence, between a text and the
sequence that resets its colour, or behind a text that just fits.  Wherever that is, what was
written is the start of what would be written in endless room, as far as there is
room.  `Output.after room data` is the output on which `data` should have been written.  Writing
more onto it only adds to the data (`Output.write_after`), so a run of emits leaves the output
of the bytes of its encoded text (`Output.foldl_emitIn_after`), in any palette.

Writers need not take all bytes at once.  `Writer` is any writer that takes some of the bytes that
it is handed or fails, and a `Sink` hands it the rest again and keeps the error that it fails
with.  A limited writer takes what it likes of the bytes it has room for and fails when it has none
left; however it takes them, a sink on top of it writes and fails as an output with that room does
(`Sink.follows_foldl_emit`).
-/

namespace AcpiTables

set_option autoImplicit false

namespace Terminal

/-! ## Outputs with limited room -/

namespace Output

/-- The output on which `data` should have been written, if there was room for `room` bytes. -/
def after (room : Nat) (data : Bytes) : Output :=
  ⟨some (room - data.length), data.take room, room < data.length, 0⟩

/-- An output that failed takes nothing more. -/
theorem after_append_of_full {room : Nat} {data : Bytes} (full : room < data.length)
    (more : Bytes) : after room (data ++ more) = after room data := by
  have nothing : room - data.length = 0 ∧ room - (data ++ more).length = 0 := by
    rw [List.length_append]
    omega
  have longer : room < (data ++ more).length := by
    rw [List.length_append]
    omega
  simp only [after, full, longer, nothing, decide_true,
    List.take_append_of_le_length (Nat.le_of_lt full)]

/-- A write adds to what should have been written, whether or not the output failed before. -/
theorem write_after (room : Nat) (data more : Bytes) :
    (after room data).write more = after room (data ++ more) := by
  by_cases full : room < data.length
  · have failed : (after room data).failed = true := decide_eq_true full
    rw [after_append_of_full full, write, if_pos failed]
  · have fits : data.length ≤ room := Nat.not_lt.mp full
    have passes : room - data.length < more.length ↔ room < data.length + more.length := by
      omega
    simp only [write, after, full, passes, decide_false, Bool.false_eq_true, if_false,
      List.length_append, List.take_append, List.take_of_length_le fits, Nat.sub_sub]

/-- What is written for an emit are the bytes of its parts. -/
theorem emitIn_after (palette : Palette) (room : Nat) (data : Bytes) (emit : Emit) :
    (after room data).emitIn palette emit =
      after room (data ++ (palette.parts emit).flatMap bytes) := by
  refine foldl_adds (fun data output => output = after room data) ?_ (palette.parts emit) rfl
  rintro data _ part rfl
  exact write_after room data (bytes part)

/-- **A run of emits leaves the output of the bytes of its encoded text.** -/
theorem foldl_emitIn_after (palette : Palette) (room : Nat) (data : Bytes) (emits : List Emit) :
    emits.foldl (Output.emitIn palette) (after room data) =
      after room (data ++ bytes (palette.encode emits)) := by
  rw [← palette.sent_eq_bytes, palette.sent_eq_flatMap]
  refine foldl_adds (fun data output => output = after room data) ?_ emits rfl
  rintro data _ emit rfl
  exact emitIn_after palette room data emit

/-- Finishing flushes where nothing failed, and changes nothing else. -/
theorem finish_eq (output : Output) :
    output.finish = { output with
      flushes := output.flushes + if output.failed then 0 else 1 } := by
  unfold finish
  split
  · rfl
  · rfl

theorem start_eq_after (room : Nat) : start (some room) = after room [] := by
  simp [start, after]

end Output

/-! ## Writers and sinks -/

/-- A writer takes some of the bytes that it is handed, or fails. -/
structure Writer (σ ε : Type) where
  /-- The number of bytes that are taken, or the error. -/
  write : σ → Bytes → Except ε Nat × σ
  flush : σ → Except ε Unit × σ
  /-- The error of a write of which nothing is taken. -/
  nothing : ε

/-- The state of a writer, with the first error that it failed with. -/
structure Sink (σ ε : Type) where
  state : σ
  kept : Option ε

variable {σ ε : Type}

/-- Hands bytes to a writer until all are taken or it fails; no bytes are not handed to it. -/
def Writer.writeAll (writer : Writer σ ε) (state : σ) : Bytes → Sink σ ε
  | [] => ⟨state, none⟩
  | byte :: rest =>
      match writer.write state (byte :: rest) with
      | (.error error, next) => ⟨next, some error⟩
      | (.ok 0, next) => ⟨next, some writer.nothing⟩
      | (.ok (count + 1), next) => writer.writeAll next (rest.drop count)
termination_by data => data.length
decreasing_by
  rw [List.length_drop, List.length_cons]
  omega

namespace Sink

/-- A sink on a writer to which nothing was written. -/
def start (state : σ) : Sink σ ε := ⟨state, none⟩

/-- Writes bytes, unless an error is kept. -/
def write (writer : Writer σ ε) (sink : Sink σ ε) (data : Bytes) : Sink σ ε :=
  match sink.kept with
  | some _ => sink
  | none => writer.writeAll sink.state data

/-- Writes the parts of an emit in a palette. -/
def emit (palette : Palette) (writer : Writer σ ε) (sink : Sink σ ε) (emit : Emit) : Sink σ ε :=
  (palette.parts emit).foldl (fun sink part => sink.write writer (bytes part)) sink

/-- Gives the error that is kept; without one the writer is flushed. -/
def finish (writer : Writer σ ε) (sink : Sink σ ε) : Except ε Unit × σ :=
  match sink.kept with
  | some error => (.error error, sink.state)
  | none => writer.flush sink.state

/-- A sink that keeps an error takes nothing more. -/
theorem foldl_emit_of_kept (palette : Palette) {writer : Writer σ ε} {sink : Sink σ ε} {error : ε}
    (kept : sink.kept = some error) (emits : List Emit) :
    emits.foldl (emit palette writer) sink = sink := by
  have write (data : Bytes) : sink.write writer data = sink := by
    rw [Sink.write, kept]
  have emit (next : Emit) : sink.emit palette writer next = sink :=
    List.foldl_fixed' (fun part => write (bytes part)) _
  exact List.foldl_fixed' emit emits

end Sink

/-! ## Limited writers -/

/-- A writer with limited room.  While room is left it takes at least one byte of what it is handed,
and not more than there is room for; when none is left it fails. -/
structure Writer.Limited (writer : Writer σ ε) (taken : σ → Bytes) (left : σ → Nat) : Prop where
  takes : ∀ (state : σ) (data : Bytes), data ≠ [] → 0 < left state →
    ∃ count next, writer.write state data = (.ok count, next) ∧ 0 < count ∧
      count ≤ data.length ∧ count ≤ left state ∧
      taken next = taken state ++ data.take count ∧ left next = left state - count
  refuses : ∀ (state : σ) (data : Bytes), data ≠ [] → left state = 0 →
    ∃ error next, writer.write state data = (.error error, next) ∧
      taken next = taken state ∧ left next = 0

/-- What becomes of data that is handed to a limited writer in some state: it takes the start of the
data that there is room for, an error is kept if there is not room for all, and that error is the
last answer that the writer gave. -/
structure Sink.Follows (writer : Writer σ ε) (taken : σ → Bytes) (left : σ → Nat) (state : σ)
    (data : Bytes) (sink : Sink σ ε) : Prop where
  wrote : taken sink.state = taken state ++ data.take (left state)
  remains : left sink.state = left state - data.length
  kept : sink.kept.isSome = decide (left state < data.length)
  answer : ∀ error, sink.kept = some error →
    ∃ last rest, writer.write last rest = (.error error, sink.state)

namespace Sink.Follows

variable {writer : Writer σ ε} {taken : σ → Bytes} {left : σ → Nat} {state : σ}
  {data more : Bytes} {sink later : Sink σ ε}

theorem nil (state : σ) : Follows writer taken left state [] (.start state) where
  wrote := by rw [List.take_nil, List.append_nil]; rfl
  remains := rfl
  kept := rfl
  answer := nofun

theorem room_of_not_kept (follows : Follows writer taken left state data sink)
    (nothing : sink.kept = none) : data.length ≤ left state := by
  have kept := follows.kept
  rw [nothing] at kept
  exact Nat.not_lt.mp (of_decide_eq_false kept.symm)

/-- Where data found room, more data goes on. -/
theorem append (follows : Follows writer taken left state data sink) (nothing : sink.kept = none)
    (behind : Follows writer taken left sink.state more later) :
    Follows writer taken left state (data ++ more) later where
  wrote := by
    have fits := follows.room_of_not_kept nothing
    rw [behind.wrote, follows.wrote, follows.remains, List.append_assoc, List.take_append,
      List.take_of_length_le fits]
  remains := by
    rw [behind.remains, follows.remains, List.length_append, Nat.sub_sub]
  kept := by
    have fits := follows.room_of_not_kept nothing
    have passes : left state - data.length < more.length ↔
        left state < (data ++ more).length := by
      rw [List.length_append]
      omega
    rw [behind.kept, follows.remains, decide_eq_decide]
    exact passes
  answer := behind.answer

/-- Behind a failure nothing of more data is taken. -/
theorem append_of_kept (follows : Follows writer taken left state data sink)
    (kept : sink.kept.isSome = true) : Follows writer taken left state (data ++ more) sink := by
  have full : left state < data.length := by
    rw [follows.kept] at kept
    exact of_decide_eq_true kept
  have longer : left state < (data ++ more).length := by
    rw [List.length_append]
    omega
  refine ⟨?_, ?_, ?_, follows.answer⟩
  · rw [follows.wrote, List.take_append_of_le_length (Nat.le_of_lt full)]
  · rw [follows.remains, List.length_append]
    omega
  · rw [kept, decide_eq_true longer]

end Sink.Follows

section Limited

variable {writer : Writer σ ε} {taken : σ → Bytes} {left : σ → Nat}

/-- A limited writer fails only when it has no room left. -/
theorem Writer.Limited.full_of_error (limited : writer.Limited taken left) {state next : σ}
    {data : Bytes} {error : ε} (some : data ≠ [])
    (failed : writer.write state data = (.error error, next)) :
    left state = 0 ∧ taken next = taken state ∧ left next = 0 := by
  rcases Nat.eq_zero_or_pos (left state) with full | room
  · obtain ⟨_, _, answer, same, none⟩ := limited.refuses state data some full
    cases failed.symm.trans answer
    exact ⟨full, same, none⟩
  · obtain ⟨_, _, answer, _⟩ := limited.takes state data some room
    cases failed.symm.trans answer

/-- What a limited writer takes is some of the bytes it is handed, and there is room for it. -/
theorem Writer.Limited.takes_of_ok (limited : writer.Limited taken left) {state next : σ}
    {data : Bytes} {count : Nat} (some : data ≠ [])
    (taking : writer.write state data = (.ok count, next)) :
    0 < count ∧ count ≤ data.length ∧ count ≤ left state ∧
      taken next = taken state ++ data.take count ∧ left next = left state - count := by
  rcases Nat.eq_zero_or_pos (left state) with full | room
  · obtain ⟨_, _, answer, _⟩ := limited.refuses state data some full
    cases taking.symm.trans answer
  · obtain ⟨_, _, answer, takes⟩ := limited.takes state data some room
    cases taking.symm.trans answer
    exact takes

/-- A portion that a limited writer takes is data it ends up with. -/
theorem Writer.Limited.follows_portion (limited : writer.Limited taken left) {state next : σ}
    {data : Bytes} {count : Nat} (some : data ≠ [])
    (taking : writer.write state data = (.ok count, next)) :
    Sink.Follows writer taken left state (data.take count) (.start next) := by
  obtain ⟨_, inside, fits, took, remains⟩ := limited.takes_of_ok some taking
  have width : (data.take count).length = count := List.length_take_of_le inside
  refine ⟨?_, ?_, ?_, nofun⟩
  · rw [List.take_of_length_le (Nat.le_trans (Nat.le_of_eq width) fits)]
    exact took
  · rw [width]
    exact remains
  · rw [width]
    exact (decide_eq_false (Nat.not_lt.mpr fits)).symm

/-- A limited writer ends up with the bytes that it has room for, in whatever portions it takes
them. -/
theorem Writer.Limited.follows_writeAll (limited : writer.Limited taken left) (state : σ)
    (data : Bytes) : (writer.writeAll state data).Follows writer taken left state data := by
  fun_induction Writer.writeAll writer state data with
  | case1 state => exact .nil state
  | case2 state byte rest error next failed =>
      obtain ⟨full, same, none⟩ := limited.full_of_error (List.cons_ne_nil _ _) failed
      refine ⟨?_, ?_, ?_, ?_⟩
      · rw [same, full, List.take_zero, List.append_nil]
      · rw [none, full, Nat.zero_sub]
      · rw [full]
        rfl
      · rintro _ ⟨⟩
        exact ⟨state, _, failed⟩
  | case3 state byte rest next stuck =>
      obtain ⟨positive, _⟩ := limited.takes_of_ok (List.cons_ne_nil byte rest) stuck
      cases positive
  | case4 state byte rest count next taking ih =>
      have portion := limited.follows_portion (List.cons_ne_nil byte rest) taking
      have whole := portion.append rfl ih
      rwa [← List.drop_succ_cons, List.take_append_drop] at whole

namespace Sink

variable {state : σ} {data : Bytes} {sink : Sink σ ε}

theorem Follows.write (limited : writer.Limited taken left)
    (follows : Follows writer taken left state data sink) (more : Bytes) :
    (sink.write writer more).Follows writer taken left state (data ++ more) := by
  unfold Sink.write
  split
  · rename_i error kept
    exact follows.append_of_kept (by rw [kept]; rfl)
  · rename_i nothing
    exact follows.append nothing (limited.follows_writeAll sink.state more)

theorem Follows.emit (limited : writer.Limited taken left)
    (follows : Follows writer taken left state data sink) (palette : Palette) (emit : Emit) :
    (sink.emit palette writer emit).Follows writer taken left state
      (data ++ (palette.parts emit).flatMap bytes) :=
  foldl_adds (Follows writer taken left state)
    (fun _ _ part before => before.write limited (bytes part)) (palette.parts emit) follows

/-- **A sink on a limited writer writes and fails as an output with that room does.** -/
theorem follows_foldl_emit (limited : writer.Limited taken left) (palette : Palette) (state : σ)
    (emits : List Emit) :
    (emits.foldl (Sink.emit palette writer) (.start state)).Follows writer taken left state
      (bytes (palette.encode emits)) := by
  rw [← palette.sent_eq_bytes, palette.sent_eq_flatMap]
  exact foldl_adds (Follows writer taken left state)
    (fun _ _ emit before => before.emit limited palette emit) emits (.nil state)

end Sink

end Limited

/-! ## What is written and what fails -/

/-- A writer that takes at most two bytes at once, on the bytes taken and the room left. -/
def pairWriter : Writer (Bytes × Nat) String where
  write := fun (taken, left) data =>
    if left = 0 then (.error fullMessage, (taken, left))
    else
      let count := min 2 (min data.length left)
      (.ok count, (taken ++ data.take count, left - count))
  flush state := (.ok (), state)
  nothing := "nothing was taken"

theorem limited_pairWriter : pairWriter.Limited Prod.fst Prod.snd where
  takes := by
    rintro ⟨taken, left⟩ data some room
    have width : 0 < data.length := List.length_pos_iff.mpr some
    refine ⟨_, _, if_neg (Nat.ne_of_gt room), ?_, ?_, ?_, rfl, rfl⟩
    all_goals
      dsimp only at room ⊢
      omega
  refuses := by
    rintro ⟨taken, left⟩ data _ rfl
    exact ⟨fullMessage, _, rfl, rfl, rfl⟩

end Terminal

end AcpiTables
