import AcpiTables.Proofs.FieldLists

/-!
# Records in less and in more data

Data that ends earlier may have room for a field that more data has no room for: where a wide field
does not fit any more, narrower ones behind it may.  But whatever fits then is less than the wide
field, so less data is never consumed further than more data (`spent_mono`).

Up to the first field that does not fit, a decode of less data finds the places that a decode of
more data finds (`take_places_take`).  A consistent record that is cut inside a field therefore
keeps the fields before it at their declared offsets and loses the field itself
(`Placement.place_of_whole`, `Placement.place_of_cut`); the bytes behind those fields go to later
fields that fit.  This is `truncation_keeps_the_prefix`.
-/

namespace AcpiTables

set_option autoImplicit false

open Decoder

namespace Record

/-! ## Less data is consumed less far -/

theorem spent_mono {less more : Nat} (le : less ≤ more) (fields : List Field) :
    spent less fields ≤ spent more fields := by
  induction fields generalizing less more with
  | nil => exact Nat.le_refl 0
  | cons field fields ih =>
      by_cases fitsLess : field.width ≤ less
      · have fitsMore : field.width ≤ more := Nat.le_trans fitsLess le
        rw [spent_cons_of_fits fitsLess, spent_cons_of_fits fitsMore]
        exact Nat.add_le_add_left (ih (Nat.sub_le_sub_right le _)) _
      · by_cases fitsMore : field.width ≤ more
        · have bound : spent less fields ≤ less := spent_le
          rw [spent_cons_of_not_fits fitsLess, spent_cons_of_fits fitsMore]
          omega
        · rw [spent_cons_of_not_fits fitsLess, spent_cons_of_not_fits fitsMore]
          exact ih le

theorem consumed_reading_take_mono {less more : Nat} (le : less ≤ more) (data : Bytes)
    (fields : List Field) :
    (reading (data.take less) fields).consumed ≤ (reading (data.take more) fields).consumed := by
  rw [consumed_reading_eq_spent, consumed_reading_eq_spent]
  refine spent_mono ?_ fields
  rw [List.length_take, List.length_take]
  omega

/-! ## The common places -/

/-- As long as fields fit into the start of the data, they lie as in all of the data. -/
theorem take_places_take {offset size count : Nat} {rest : Bytes} {fields : List Field}
    (fit : ∀ place ∈ (places offset (rest.take size) fields).take count, place ≠ none) :
    (places offset (rest.take size) fields).take count =
      (places offset rest fields).take count := by
  induction fields generalizing offset size count rest with
  | nil => rfl
  | cons field fields ih =>
      cases count with
      | zero => rw [List.take_zero, List.take_zero]
      | succ count =>
          by_cases fits : field.width ≤ (rest.take size).length
          · have narrow : field.width ≤ size ∧ field.width ≤ rest.length := by
              rw [List.length_take] at fits
              omega
            have behind : (rest.take size).drop field.width =
                (rest.drop field.width).take (size - field.width) := List.drop_take ..
            rw [places_cons_of_fits fits, behind, List.take_succ_cons] at fit ⊢
            rw [places_cons_of_fits narrow.2, List.take_succ_cons, List.take_take,
              Nat.min_eq_left narrow.1, ih (List.forall_mem_cons.mp fit).2]
          · rw [places_cons_of_not_fits fits, List.take_succ_cons] at fit
            exact absurd rfl (fit none List.mem_cons_self)

/-- A field that fits, as all fields before it do, has the same place in more data. -/
theorem getElem?_places_take_of_fit {data : Bytes} {fields : List Field} {fewer more index : Nat}
    (le : fewer ≤ more) (fit : ∀ earlier ≤ index,
      ∃ place, (places 0 (data.take fewer) fields)[earlier]? = some (some place)) :
    (places 0 (data.take fewer) fields)[index]? = (places 0 (data.take more) fields)[index]? := by
  have start : data.take fewer = (data.take more).take fewer := by
    rw [List.take_take, Nat.min_eq_left le]
  have same : (places 0 ((data.take more).take fewer) fields).take (index + 1) =
      (places 0 (data.take more) fields).take (index + 1) := by
    refine take_places_take ?_
    rw [← start]
    intro place there
    obtain ⟨earlier, found⟩ := List.getElem?_of_mem there
    obtain ⟨inside, _⟩ := List.getElem?_eq_some_iff.mp found
    have before : earlier < index + 1 := Nat.lt_of_lt_of_le inside (List.length_take_le _ _)
    obtain ⟨capture, fits⟩ := fit earlier (Nat.le_of_lt_succ before)
    rw [List.getElem?_take_of_lt before, fits] at found
    cases found
    exact Option.some_ne_none capture
  have entries := congrArg (·[index]?) same
  simp only [List.getElem?_take_of_lt (Nat.lt_succ_self index)] at entries
  rw [start, entries]

/-! ## Records that are cut inside a field -/

theorem sum_take_succ {fields : List Field} {index : Nat} {field : Field}
    (here : fields[index]? = some field) :
    ((fields.take (index + 1)).map Field.width).sum =
      ((fields.take index).map Field.width).sum + field.width := by
  rw [List.take_add_one, here, Option.toList_some, List.map_append, List.sum_append,
    List.map_singleton, List.sum_singleton]

theorem sum_take_le (fields : List Field) (count : Nat) :
    ((fields.take count).map Field.width).sum ≤ (fields.map Field.width).sum := by
  conv_rhs => rw [← List.take_append_drop count fields, List.map_append, List.sum_append]
  exact Nat.le_add_right _ _

/-- The offset that a consistent list declares for a field. -/
theorem Consistent.offset_eq {fields : List Field} (consistent : Consistent fields) {index : Nat}
    {field : Field} (here : fields[index]? = some field) :
    field.offset = ((fields.take index).map Field.width).sum := by
  obtain ⟨inside, same⟩ := List.getElem?_eq_some_iff.mp here
  refine consistent (fields.take index) field (fields.drop (index + 1)) ?_
  rw [← same, ← List.drop_eq_getElem_cons inside, List.take_append_drop]

theorem Consistent.end_eq {fields : List Field} (consistent : Consistent fields) {index : Nat}
    {field : Field} (here : fields[index]? = some field) :
    field.offset + field.width = ((fields.take (index + 1)).map Field.width).sum := by
  rw [consistent.offset_eq here, sum_take_succ here]

/-- A field of a consistent list ends before the fields behind it are declared. -/
theorem Consistent.end_le_offset {fields : List Field} (consistent : Consistent fields)
    {first second : Nat} {one two : Field} (before : first < second)
    (here : fields[first]? = some one) (there : fields[second]? = some two) :
    one.offset + one.width ≤ two.offset := by
  have shorter : fields.take (first + 1) = (fields.take second).take (first + 1) := by
    rw [List.take_take, Nat.min_eq_left before]
  rw [consistent.end_eq here, consistent.offset_eq there, shorter]
  exact sum_take_le _ _

theorem Consistent.end_le_sum {fields : List Field} (consistent : Consistent fields) {index : Nat}
    {field : Field} (here : fields[index]? = some field) :
    field.offset + field.width ≤ (fields.map Field.width).sum := by
  rw [consistent.end_eq here]
  exact sum_take_le _ _

namespace Placement

variable {data : Bytes} {fields : List Field} {placed : List (Option Capture)}

/-- Behind fields for which there is room, the running offset is the sum of their widths. -/
theorem startAt_of_whole (placement : Placement data fields placed) {index : Nat}
    (listed : index ≤ fields.length)
    (whole : ((fields.take index).map Field.width).sum ≤ data.length) :
    startAt fields placed index = ((fields.take index).map Field.width).sum := by
  induction index with
  | zero => rfl
  | succ index ih =>
      have here : fields[index]? = some fields[index] := List.getElem?_eq_getElem listed
      have next := sum_take_succ here
      have before := ih (Nat.le_of_succ_le listed) (by omega)
      have known := placement.place index _ here
      rw [before, ← next, if_pos whole] at known
      rw [startAt_succ here known, before, next, occupied]

/-- A field that a consistent list declares inside the data starts where it is declared. -/
theorem startAt_of_consistent (placement : Placement data fields placed)
    (consistent : Consistent fields) {index : Nat} {field : Field}
    (here : fields[index]? = some field) (starts : field.offset ≤ data.length) :
    startAt fields placed index = field.offset := by
  obtain ⟨inside, _⟩ := List.getElem?_eq_some_iff.mp here
  have declared := consistent.offset_eq here
  rw [declared]
  exact placement.startAt_of_whole (Nat.le_of_lt inside) (declared ▸ starts)

/-- A field that a consistent list declares inside the data lies where it is declared. -/
theorem place_of_whole (placement : Placement data fields placed) (consistent : Consistent fields)
    {index : Nat} {field : Field} (here : fields[index]? = some field)
    (fits : field.offset + field.width ≤ data.length) :
    placed[index]? = some (some ⟨field.offset, bytesOf data field⟩) := by
  have start := placement.startAt_of_consistent consistent here (by omega)
  rw [placement.place index field here, start, if_pos fits]
  rfl

/-- A field of a consistent list inside which the data ends has no place. -/
theorem place_of_cut (placement : Placement data fields placed) (consistent : Consistent fields)
    {index : Nat} {field : Field} (here : fields[index]? = some field)
    (starts : field.offset ≤ data.length) (cut : data.length < field.offset + field.width) :
    placed[index]? = some none := by
  have start := placement.startAt_of_consistent consistent here starts
  rw [placement.place index field here, start, if_neg (by omega)]

end Placement

/-- Around a field without a place, the consumed bytes are those of the fields before it and those
of the placed fields behind it. -/
theorem consumed_reading_of_cut {data : Bytes} {fields : List Field} {index : Nat}
    {field : Field} (here : fields[index]? = some field)
    (cut : (places 0 data fields)[index]? = some none) :
    (reading data fields).consumed = startAt fields (places 0 data fields) index +
      (((fields.zip (places 0 data fields)).drop (index + 1)).map occupied).sum := by
  have all : (fields.zip (places 0 data fields)).length ≤ fields.length := by
    rw [List.length_zip]
    exact Nat.min_le_left _ _
  have next : startAt fields (places 0 data fields) (index + 1) =
      startAt fields (places 0 data fields) index := startAt_succ here cut
  rw [consumed_reading, ← next, startAt, startAt, List.take_of_length_le all, ← List.sum_append,
    ← List.map_append, List.take_append_drop]

theorem bytesOf_take {data : Bytes} {size : Nat} {field : Field}
    (inside : field.offset + field.width ≤ size) :
    bytesOf (data.take size) field = bytesOf data field := Bytes.take_drop_take inside

/-- The capture of a field is what is kept of its place. -/
theorem capture?_reading_of_place {data : Bytes} {fields : List Field} {index : Nat}
    {field : Field} {place : Option Capture} (here : fields[index]? = some field)
    (found : (places 0 data fields)[index]? = some place) :
    (reading data fields).capture? index = keep field place := by
  rw [reading, readingFrom, Reading.capture?, List.getElem?_zipWith, here, found, Option.join_some]

theorem capture?_reading_congr {data other : Bytes} {fields : List Field} {index : Nat}
    (same : (places 0 data fields)[index]? = (places 0 other fields)[index]?) :
    (reading data fields).capture? index = (reading other fields).capture? index := by
  rw [reading, readingFrom, Reading.capture?, List.getElem?_zipWith, same, reading, readingFrom,
    Reading.capture?, List.getElem?_zipWith]

/-! ## Truncation -/

/-- **Truncation keeps the prefix.**  Of some data, a decode of fewer bytes consumes no more than
one of more bytes, and a field has the same place in both if it and all fields before it fit.  If a
consistent record is cut inside one of its fields, the fields before that one are as in the whole
record, and it has no place itself. -/
theorem truncation_keeps_the_prefix (fields : List Field) (data : Bytes) {fewer more : Nat}
    (le : fewer ≤ more) :
    let placed (size : Nat) := places 0 (data.take size) fields
    let read (size : Nat) := reading (data.take size) fields
    (∀ size trace indent title,
      decode trace indent title (data.take size) fields = indented indent (do
        showTitle trace title
        (fields.zip (placed size)).forM (visitPlaced trace title)
        return read size) ∧
      ∀ session, (decode trace indent title (data.take size) fields session).1 = read size) ∧
    (read fewer).consumed ≤ (read more).consumed ∧
    (∀ index, (∀ earlier ≤ index, ∃ place, (placed fewer)[earlier]? = some (some place)) →
      (placed fewer)[index]? = (placed more)[index]? ∧
      (read fewer).capture? index = (read more).capture? index) ∧
    ∀ index field, Consistent fields → (fields.map Field.width).sum ≤ more →
      more ≤ data.length → fields[index]? = some field →
      field.offset ≤ fewer → fewer < field.offset + field.width →
      (∀ (position : Nat) (other : Field), fields[position]? = some other →
        (placed more)[position]? = some (some ⟨other.offset, bytesOf data other⟩)) ∧
      (∀ earlier < index, (placed fewer)[earlier]? = (placed more)[earlier]? ∧
        (read fewer).capture? earlier = (read more).capture? earlier) ∧
      (placed fewer)[index]? = some none ∧ (read fewer).capture? index = none ∧
      (read fewer).consumed = ((fields.take index).map Field.width).sum +
        (((fields.zip (placed fewer)).drop (index + 1)).map occupied).sum ∧
      (read fewer).consumed ≤ fewer := by
  intro placed read
  refine ⟨?_, ?_, ?_, ?_⟩
  · intro size trace indent title
    refine ⟨?_, fun session => decode_value ..⟩
    rw [decode, decodeFrom_eq_visits]
    rfl
  · exact consumed_reading_take_mono le data fields
  · intro index fit
    have same : (placed fewer)[index]? = (placed more)[index]? := getElem?_places_take_of_fit le fit
    exact ⟨same, capture?_reading_congr same⟩
  · intro index field consistent whole inData here starts cut
    have lengthFewer : (data.take fewer).length = fewer :=
      List.length_take_of_le (Nat.le_trans le inData)
    have lengthMore : (data.take more).length = more := List.length_take_of_le inData
    have placementFewer : Placement (data.take fewer) fields (placed fewer) := placement_places ..
    have placementMore : Placement (data.take more) fields (placed more) := placement_places ..
    have lost : (placed fewer)[index]? = some none :=
      placementFewer.place_of_cut consistent here (by omega) (by omega)
    refine ⟨?_, ?_, lost, ?_, ?_, ?_⟩
    · intro position other there
      have ends := consistent.end_le_sum there
      rw [placementMore.place_of_whole consistent there (by omega), bytesOf_take (by omega)]
    · intro earlier before
      obtain ⟨inside, _⟩ := List.getElem?_eq_some_iff.mp here
      have there := List.getElem?_eq_getElem (Nat.lt_trans before inside)
      have ends := consistent.end_le_offset before there here
      have same : (placed fewer)[earlier]? = (placed more)[earlier]? := by
        rw [placementFewer.place_of_whole consistent there (by omega),
          placementMore.place_of_whole consistent there (by omega), bytesOf_take (by omega),
          bytesOf_take (by omega)]
      exact ⟨same, capture?_reading_congr same⟩
    · rw [capture?_reading_of_place here lost]
      exact ite_self none
    · have start := placementFewer.startAt_of_consistent consistent here (by omega)
      rw [show (read fewer).consumed = _ from consumed_reading_of_cut here lost, start,
        consistent.offset_eq here]
    · have bound := placementFewer.startAt_le_length fields.length
      rwa [← consumed_reading, lengthFewer] at bound

/-- Three of twelve bytes end inside the second field.  The two bytes behind the first field go to
the third one, and no byte is left for the fourth. -/
theorem truncation_keeps_the_prefix_of_twelve :
    let fields := [Field.hidden 1 0, Field.hidden 8 1, Field.hidden 2 9, Field.hidden 1 11].map
      Field.kept
    let data : Bytes := [1, 2, 3, 4, 5, 6, 7, 8, 9, 10, 11, 12]
    let cut := reading (data.take 3) fields
    cut.captures = [some ⟨0, [1]⟩, none, some ⟨1, [2, 3]⟩, none] ∧
    cut.capture? 0 = (reading (data.take 12) fields).capture? 0 ∧ cut.consumed = 1 + 2 ∧
    cut.consumed ≤ (reading (data.take 12) fields).consumed := by
  intro fields data cut
  obtain ⟨_, least, _, inside⟩ := truncation_keeps_the_prefix fields data (show 3 ≤ 12 by decide)
  have consistent : Consistent fields := consistent_iff.mpr (by decide)
  obtain ⟨_, front, _, _, consumed, _⟩ := inside 1 _ consistent (by decide) (by decide) rfl (by decide)
    (by decide)
  exact ⟨by decide, (front 0 Nat.zero_lt_one).2, consumed, least⟩

end Record

end AcpiTables
