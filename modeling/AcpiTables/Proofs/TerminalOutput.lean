import AcpiTables.Terminal

/-!
# What a terminal is sent

An output whose writer never runs out of room takes every part of every emit.  What it is sent is
the bytes of all parts, one behind the other (`Palette.sent_eq_flatMap`), which are the bytes of
the encoded text (`Palette.sent_eq_bytes`).  So what two runs of emits are sent is what the first
is sent, followed by what the second is sent, and the boundary between them leaves no trace.  All
this holds in any palette.
-/

namespace AcpiTables

set_option autoImplicit false

namespace Terminal

/-! ## The bytes of a text -/

/-- The bytes of an array from an index on, behind those that were taken before. -/
theorem loop_eq_append_drop (data : ByteArray) {index remaining : Nat}
    (ends : index + remaining = data.size) (taken : Bytes) :
    ByteArray.toList.loop data index taken = taken.reverse ++ data.data.toList.drop index := by
  induction remaining generalizing index taken with
  | zero =>
      have beyond : data.data.toList.length ≤ index := by
        rw [Array.length_toList, ByteArray.size_data]
        omega
      rw [ByteArray.toList.loop, if_neg (by omega), List.drop_eq_nil_of_le beyond, List.append_nil]
  | succ remaining ih =>
      have inside : index < data.data.size := by
        rw [ByteArray.size_data]
        omega
      have byte : data.get! index = data.data.toList[index] := getElem!_pos data.data index inside
      rw [ByteArray.toList.loop, if_pos (by omega), ih (by omega), List.reverse_cons,
        List.append_assoc, byte, List.singleton_append, List.getElem_cons_drop]

theorem bytes_eq (text : String) : bytes text = text.toByteArray.data.toList := by
  have whole := loop_eq_append_drop text.toByteArray (Nat.zero_add _) []
  rwa [List.reverse_nil, List.nil_append, List.drop_zero] at whole

@[simp] theorem bytes_append (first second : String) :
    bytes (first ++ second) = bytes first ++ bytes second := by
  rw [bytes_eq, bytes_eq, bytes_eq, String.toByteArray_append, ByteArray.data_append,
    Array.toList_append]

theorem bytes_join (texts : List String) : bytes (String.join texts) = texts.flatMap bytes := by
  induction texts with
  | nil => exact bytes_eq ""
  | cons text texts ih => rw [String.join_cons, bytes_append, ih, List.flatMap_cons]

/-- Where every item adds its bytes to the data of a state, a run of items adds all their bytes. -/
theorem foldl_adds {σ α : Type} (holds : Bytes → σ → Prop) {step : σ → α → σ} {encoding : α → Bytes}
    (adds : ∀ data state item, holds data state → holds (data ++ encoding item) (step state item))
    (items : List α) {data : Bytes} {state : σ} (before : holds data state) :
    holds (data ++ items.flatMap encoding) (items.foldl step state) := by
  induction items generalizing data state with
  | nil => rwa [List.flatMap_nil, List.append_nil]
  | cons item items ih =>
      rw [List.flatMap_cons, ← List.append_assoc, List.foldl_cons]
      exact ih (adds data state item before)

/-! ## Outputs that never fail -/

/-- An output that never fails, behind what was written. -/
def Output.endless (written : Bytes) : Output := ⟨none, written, false, 0⟩

theorem Output.emitIn_endless (palette : Palette) (written : Bytes) (emit : Emit) :
    (endless written).emitIn palette emit =
      endless (written ++ (palette.parts emit).flatMap bytes) := by
  refine foldl_adds (fun written output => output = endless written) ?_ (palette.parts emit) rfl
  rintro written _ part rfl
  rfl

theorem Output.foldl_emitIn_endless (palette : Palette) (written : Bytes) (emits : List Emit) :
    emits.foldl (Output.emitIn palette) (endless written) =
      endless (written ++ emits.flatMap fun emit => (palette.parts emit).flatMap bytes) := by
  refine foldl_adds (fun written output => output = endless written) ?_ emits rfl
  rintro written _ emit rfl
  exact emitIn_endless palette written emit

namespace Palette

/-- What is written for a run of emits where writing never fails. -/
def sent (palette : Palette) (emits : List Emit) : Bytes :=
  (emits.foldl (Output.emitIn palette) (.start none)).written

variable (palette : Palette)

theorem sent_eq_flatMap (emits : List Emit) :
    palette.sent emits = emits.flatMap fun emit => (palette.parts emit).flatMap bytes := by
  have written := Output.foldl_emitIn_endless palette [] emits
  rw [sent, show Output.start none = Output.endless [] from rfl, written]
  exact List.nil_append _

/-- **What a terminal is sent are the bytes of the encoded text.** -/
theorem sent_eq_bytes (emits : List Emit) :
    palette.sent emits = bytes (palette.encode emits) := by
  rw [sent_eq_flatMap, encode, bytes_join, List.flatMap_map]
  refine congrArg (emits.flatMap ·) (funext fun emit => ?_)
  exact (bytes_join _).symm

theorem sent_append (first second : List Emit) :
    palette.sent (first ++ second) = palette.sent first ++ palette.sent second := by
  rw [sent_eq_flatMap, sent_eq_flatMap, sent_eq_flatMap, List.flatMap_append]

theorem sent_flatMap {α : Type} (items : List α) (emits : α → List Emit) :
    palette.sent (items.flatMap emits) = items.flatMap fun item => palette.sent (emits item) := by
  induction items with
  | nil => rfl
  | cons item items ih => rw [List.flatMap_cons, sent_append, ih, List.flatMap_cons]

end Palette

end Terminal

end AcpiTables
