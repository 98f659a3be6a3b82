import AcpiTables.Proofs.Drift

/-!
# The geometry of decoded fields

Fields are laid one behind the other: a field has a place exactly if it fits into the bytes behind
the placed fields before it, and then it lies there.  `Record.Placement` says so of a list of
places, index by index, without following the decoder.  Hence places do not overlap and come in the
order of their fields (`Placement.apart`), and none of them passes the end of the data
(`Placement.startAt_le_length`).

The places that a decode finds are such a placement (`placement_places`).  A decode visits each
placed field once, at its place and in order, and no other field (`decodeFrom_eq_visits`); what it
gives is read off the placement.  A decoder whose running offset is a machine word, with a checked
sum for the end of a field and a wrapping sum for the step behind it, does the same
(`decodeWords_eq`).  Together this is `fields_lie_in_order`.

Places depend on the widths of the fields only, so neither what a decode shows and reports nor the
session it runs in has a part in what it gives (`reading_ignores_presentation`).
-/

namespace AcpiTables

set_option autoImplicit false

open Decoder

namespace Record

/-! ## Placements -/

/-- The bytes that a field takes up: its width if it has a place. -/
def occupied : Field × Option Capture → Nat
  | (field, some _) => field.width
  | (_, none) => 0

/-- The total width of the placed fields before an index. -/
def startAt (fields : List Field) (placed : List (Option Capture)) (index : Nat) : Nat :=
  (((fields.zip placed).take index).map occupied).sum

/-- Places of fields in data, one entry for each field: a field that fits behind the placed fields
before it lies there, and any other field has no place. -/
structure Placement (data : Bytes) (fields : List Field) (placed : List (Option Capture)) :
    Prop where
  length : placed.length = fields.length
  place : ∀ index field, fields[index]? = some field → placed[index]? = some
    (if startAt fields placed index + field.width ≤ data.length then
      some ⟨startAt fields placed index,
        (data.drop (startAt fields placed index)).take field.width⟩
    else none)

section Starts

variable {fields : List Field} {placed : List (Option Capture)}

@[simp] theorem startAt_zero : startAt fields placed 0 = 0 := rfl

theorem startAt_cons_succ (field : Field) (place : Option Capture) (index : Nat) :
    startAt (field :: fields) (place :: placed) (index + 1) =
      occupied (field, place) + startAt fields placed index := by
  simp [startAt]

theorem startAt_succ {index : Nat} {field : Field} {place : Option Capture}
    (here : fields[index]? = some field) (there : placed[index]? = some place) :
    startAt fields placed (index + 1) = startAt fields placed index + occupied (field, place) := by
  have pair : (fields.zip placed)[index]? = some (field, place) :=
    List.getElem?_zip_eq_some.mpr ⟨here, there⟩
  simp [startAt, List.take_add_one, pair]

theorem startAt_le_succ (index : Nat) :
    startAt fields placed index ≤ startAt fields placed (index + 1) := by
  rw [startAt, startAt, List.take_add_one, List.map_append, List.sum_append]
  exact Nat.le_add_right _ _

theorem startAt_mono {first second : Nat} (le : first ≤ second) :
    startAt fields placed first ≤ startAt fields placed second := by
  induction le with
  | refl => exact Nat.le_refl _
  | step _ ih => exact Nat.le_trans ih (startAt_le_succ _)

end Starts

namespace Placement

variable {data : Bytes} {fields : List Field} {placed : List (Option Capture)}

/-- What is known of a field with a place. -/
theorem of_some (placement : Placement data fields placed) {index : Nat} {place : Capture}
    (found : placed[index]? = some (some place)) :
    ∃ field, fields[index]? = some field ∧
      startAt fields placed index + field.width ≤ data.length ∧
      place = ⟨startAt fields placed index,
        (data.drop (startAt fields placed index)).take field.width⟩ := by
  obtain ⟨inside, _⟩ := List.getElem?_eq_some_iff.mp found
  rw [placement.length] at inside
  have here := List.getElem?_eq_getElem inside
  have known := placement.place index _ here
  rw [found] at known
  split at known
  · next fits => exact ⟨_, here, fits, Option.some.inj (Option.some.inj known)⟩
  · cases known

/-- The running offset never passes the end of the data. -/
theorem startAt_le_length (placement : Placement data fields placed) (index : Nat) :
    startAt fields placed index ≤ data.length := by
  induction index with
  | zero => exact Nat.zero_le _
  | succ index ih =>
      cases here : fields[index]? with
      | none =>
          have all : (fields.zip placed).length ≤ index := by
            rw [List.length_zip, placement.length, Nat.min_self]
            exact List.getElem?_eq_none_iff.mp here
          rw [startAt, List.take_of_length_le (Nat.le_succ_of_le all)]
          rw [startAt, List.take_of_length_le all] at ih
          exact ih
      | some field =>
          have known := placement.place index field here
          rw [startAt_succ here known]
          split
          · next fits => exact fits
          · exact ih

/-- A place holds as many bytes as its field is wide. -/
theorem length_bytes (placement : Placement data fields placed) {index : Nat} {field : Field}
    {place : Capture} (here : fields[index]? = some field)
    (found : placed[index]? = some (some place)) : place.bytes.length = field.width := by
  obtain ⟨other, same, fits, rfl⟩ := placement.of_some found
  rw [here] at same
  cases same
  rw [List.length_take, List.length_drop]
  omega

/-- **Places do not overlap, and come in the order of their fields.** -/
theorem apart (placement : Placement data fields placed) {first second : Nat} {one two : Capture}
    (before : first < second) (foundOne : placed[first]? = some (some one))
    (foundTwo : placed[second]? = some (some two)) :
    one.offset + one.bytes.length ≤ two.offset := by
  obtain ⟨field, here, _, starts⟩ := placement.of_some foundOne
  obtain ⟨_, _, _, startsTwo⟩ := placement.of_some foundTwo
  have ends : startAt fields placed (first + 1) = one.offset + one.bytes.length := by
    rw [startAt_succ here foundOne, placement.length_bytes here foundOne, starts]
    rfl
  rw [← ends, startsTwo]
  exact startAt_mono before

end Placement

/-! ## The places of a decode -/

theorem getElem?_places {data : Bytes} {fields : List Field} {offset index : Nat} {field : Field}
    (inside : offset ≤ data.length) (here : fields[index]? = some field) :
    let placed := places offset (data.drop offset) fields
    placed[index]? = some
      (if offset + startAt fields placed index + field.width ≤ data.length then
        some ⟨offset + startAt fields placed index,
          (data.drop (offset + startAt fields placed index)).take field.width⟩
      else none) := by
  induction fields generalizing offset index with
  | nil => cases here
  | cons head fields ih =>
      intro placed
      by_cases fits : head.width ≤ (data.drop offset).length
      · have behind : placed = some ⟨offset, (data.drop offset).take head.width⟩ ::
            places (offset + head.width) (data.drop (offset + head.width)) fields := by
          rw [← List.drop_drop]
          exact places_cons_of_fits fits
        rw [List.length_drop] at fits
        rw [behind]
        cases index with
        | zero =>
            cases here
            have whole : offset + field.width ≤ data.length := by omega
            rw [List.getElem?_cons_zero, startAt_zero, Nat.add_zero, if_pos whole]
        | succ index =>
            rw [startAt_cons_succ, List.getElem?_cons_succ, ← Nat.add_assoc]
            exact ih (by omega) here
      · have behind : placed = none :: places offset (data.drop offset) fields :=
          places_cons_of_not_fits fits
        rw [List.length_drop] at fits
        rw [behind]
        cases index with
        | zero =>
            cases here
            have passes : ¬ offset + field.width ≤ data.length := by omega
            rw [List.getElem?_cons_zero, startAt_zero, Nat.add_zero, if_neg passes]
        | succ index =>
            rw [startAt_cons_succ, List.getElem?_cons_succ, occupied, Nat.zero_add]
            exact ih inside here

/-- **A decode finds a placement.** -/
theorem placement_places (data : Bytes) (fields : List Field) :
    Placement data fields (places 0 data fields) where
  length := length_places
  place index field here := by
    have known := getElem?_places (Nat.zero_le data.length) here
    simpa only [List.drop_zero, Nat.zero_add] using known

namespace Placement

variable {data : Bytes} {fields : List Field} {placed : List (Option Capture)}

/-- The bytes at the places are those that the placed fields take up. -/
theorem sum_placeWidth (placement : Placement data fields placed) :
    (placed.map placeWidth).sum = startAt fields placed fields.length := by
  have each : ∀ pair ∈ fields.zip placed, placeWidth pair.2 = occupied pair := by
    rintro ⟨field, place⟩ there
    obtain ⟨index, found⟩ := List.getElem?_of_mem there
    obtain ⟨here, atPlace⟩ := List.getElem?_zip_eq_some.mp found
    cases place with
    | none => rfl
    | some place => exact placement.length_bytes here atPlace
  have all : (fields.zip placed).length ≤ fields.length := by
    rw [List.length_zip]
    exact Nat.min_le_left _ _
  have second : (fields.zip placed).map Prod.snd = placed :=
    List.map_snd_zip (Nat.le_of_eq placement.length)
  rw [startAt, List.take_of_length_le all, ← List.map_congr_left each, ← Function.comp_def,
    ← List.map_map, second]

end Placement

theorem consumed_reading (data : Bytes) (fields : List Field) :
    (reading data fields).consumed = startAt fields (places 0 data fields) fields.length := by
  rw [reading, readingFrom, (placement_places data fields).sum_placeWidth, Nat.zero_add]

/-- What is captured of a field: its place, if it is kept and fits. -/
theorem capture?_reading {data : Bytes} {fields : List Field} {index : Nat} {field : Field}
    (here : fields[index]? = some field) (capture : Capture) :
    let start := startAt fields (places 0 data fields) index
    (reading data fields).capture? index = some capture ↔
      field.captured = true ∧ start + field.width ≤ data.length ∧
      capture = ⟨start, (data.drop start).take field.width⟩ := by
  intro start
  have known := (placement_places data fields).place index field here
  simp only [reading, readingFrom, Reading.capture?, List.getElem?_zipWith, here, known, keep,
    Option.join_some]
  cases field.captured with
  | true => simp [start, eq_comm]
  | false => simp

/-- There are no captures behind the last field. -/
theorem capture?_reading_of_le {data : Bytes} {fields : List Field} {index : Nat}
    (past : fields.length ≤ index) : (reading data fields).capture? index = none := by
  have none : (List.zipWith keep fields (places 0 data fields))[index]? = none := by
    rw [List.getElem?_eq_none_iff, List.length_zipWith, length_places, Nat.min_self]
    exact past
  rw [reading, readingFrom, Reading.capture?, none, Option.join_none]

/-- A captured field lies at its place. -/
theorem getElem?_places_of_capture? {data : Bytes} {fields : List Field} {index : Nat}
    {capture : Capture} (found : (reading data fields).capture? index = some capture) :
    (places 0 data fields)[index]? = some (some capture) := by
  cases here : fields[index]? with
  | none =>
      rw [capture?_reading_of_le (List.getElem?_eq_none_iff.mp here)] at found
      cases found
  | some field => exact (List.getElem?_zip_eq_some.mp (places_of_capture? here found)).2

/-! ## What a decode visits -/

/-- Visits a field at its place, if it has one. -/
def visitPlaced (trace : Bool) (title : Option String) : Field × Option Capture → Decoder Unit
  | (field, some place) => visitField trace title place.offset field place.bytes
  | (_, none) => return

/-- **A decode visits the placed fields in order**, and gives what they hold. -/
theorem decodeFrom_eq_visits (trace : Bool) (title : Option String) (offset : Nat) (rest : Bytes)
    (fields : List Field) :
    decodeFrom trace title offset rest fields = (do
      (fields.zip (places offset rest fields)).forM (visitPlaced trace title)
      return readingFrom offset rest fields) := by
  induction fields generalizing offset rest with
  | nil => rfl
  | cons field fields ih =>
      by_cases fits : field.width ≤ rest.length
      · rw [decodeFrom, if_pos fits, places_cons_of_fits fits, readingFrom_cons_of_fits fits,
          List.zip_cons_cons, ih]
        simp [visitPlaced]
      · rw [decodeFrom, if_neg fits, places_cons_of_not_fits fits,
          readingFrom_cons_of_not_fits fits, List.zip_cons_cons, ih]
        simp [visitPlaced]

/-! ## Machine words -/

/-- The sum of two words, unless it passes the largest word. -/
def checkedAdd (first second : UInt64) : Option UInt64 :=
  if first.toNat + second.toNat < UInt64.size then some (first + second) else none

/-- The bytes between two words that say where they start and end, if the data has them. -/
def between? (data : Bytes) (start stop : UInt64) : Option Bytes :=
  if start ≤ stop ∧ stop.toNat ≤ data.length then
    some ((data.take stop.toNat).drop start.toNat)
  else none

/-- Decodes fields with a running offset that is a machine word.  The end of a field is a checked
sum; behind a decoded field the offset moves on by a sum that wraps around. -/
def decodeWords (trace : Bool) (title : Option String) (data : Bytes) :
    (offset : UInt64) → (fields : List Field) → Decoder Reading
  | offset, [] => return ⟨offset.toNat, []⟩
  | offset, field :: fields =>
      let width := UInt64.ofNat field.width
      match (checkedAdd offset width).bind (between? data offset) with
      | some bytes => do
          visitField trace title offset.toNat field bytes
          let reading ← decodeWords trace title data (offset + width) fields
          return reading.consCapture (if field.captured then some ⟨offset.toNat, bytes⟩ else none)
      | none => do
          let reading ← decodeWords trace title data offset fields
          return reading.consCapture none

/-- A sum that is less than the number of words does not wrap around. -/
theorem toNat_add_of_lt {first second : UInt64}
    (fits : first.toNat + second.toNat < UInt64.size) :
    (first + second).toNat = first.toNat + second.toNat := by
  rw [UInt64.toNat_add]
  exact Nat.mod_eq_of_lt fits

/-- Bytes whose end is a checked sum are the bytes whose end is the exact sum. -/
theorem bind_between? {data : Bytes} (short : data.length < UInt64.size) (offset width : UInt64) :
    (checkedAdd offset width).bind (between? data offset) =
      if offset.toNat + width.toNat ≤ data.length then
        some ((data.drop offset.toNat).take width.toNat)
      else none := by
  unfold checkedAdd
  split
  · next fits =>
      have exact := toNat_add_of_lt fits
      have forward : offset ≤ offset + width := by
        rw [UInt64.le_iff_toNat_le, exact]
        exact Nat.le_add_right _ _
      rw [Option.bind_some, between?, exact]
      split
      · next inside => rw [if_pos inside.2, List.drop_take, Nat.add_sub_cancel_left]
      · next outside =>
          rw [if_neg fun inside => outside ⟨forward, inside⟩]
  · next passes =>
      rw [Option.bind_none, if_neg (by omega)]

/-- **Machine words are wide enough**: with widths that are words, in data that is shorter than the
number of words, a decode with machine words does what the exact one does. -/
theorem decodeWords_eq {trace : Bool} {title : Option String} {data : Bytes} {fields : List Field}
    (short : data.length < UInt64.size) (words : ∀ field ∈ fields, field.width < UInt64.size)
    {offset : UInt64} (inside : offset.toNat ≤ data.length) :
    decodeWords trace title data offset fields =
      decodeFrom trace title offset.toNat (data.drop offset.toNat) fields := by
  induction fields generalizing offset with
  | nil => rfl
  | cons field fields ih =>
      obtain ⟨word, later⟩ := List.forall_mem_cons.mp words
      have width : (UInt64.ofNat field.width).toNat = field.width := UInt64.toNat_ofNat_of_lt' word
      rw [decodeWords, decodeFrom, bind_between? short, width, List.length_drop]
      by_cases fits : offset.toNat + field.width ≤ data.length
      · have moved : (offset + UInt64.ofNat field.width).toNat = offset.toNat + field.width := by
          rw [toNat_add_of_lt (by omega), width]
        have next := ih later (moved ▸ fits)
        rw [if_pos fits, if_pos (by omega), List.drop_drop, ← moved, ← next]
      · rw [if_neg fits, if_neg (by omega), ih later inside]

/-! ## Decoded fields -/

/-- **Decoded fields lie in order.**  In data shorter than half of the 64-bit words, a decode visits
exactly the fields that fit behind the fields visited before them, and no sum of offsets wraps
around.  A field is captured exactly if it is kept and fits, with the bytes there.  Captures do not
overlap and come in order, and the consumed bytes are the widths of the decoded fields. -/
theorem fields_lie_in_order {fields : List Field} {data : Bytes}
    (words : ∀ field ∈ fields, field.width < UInt64.size)
    (short : data.length < UInt64.size / 2) :
    let placed := places 0 data fields
    let start := startAt fields placed
    Placement data fields placed ∧
    (∀ index field, fields[index]? = some field → start index + field.width ≤ data.length →
      (UInt64.ofNat (start index) + UInt64.ofNat field.width).toNat =
        start index + field.width) ∧
    ∀ trace indent title,
      decode trace indent title data fields = indented indent (do
        showTitle trace title
        decodeWords trace title data 0 fields) ∧
      decode trace indent title data fields = indented indent (do
        showTitle trace title
        (fields.zip placed).forM (visitPlaced trace title)
        return reading data fields) ∧
      ∀ session,
        let decoded := (decode trace indent title data fields session).1
        (∀ index field capture, fields[index]? = some field →
          (decoded.capture? index = some capture ↔
            field.captured = true ∧ start index + field.width ≤ data.length ∧
            capture = ⟨start index, (data.drop (start index)).take field.width⟩)) ∧
        (∀ first second one two, first < second → decoded.capture? first = some one →
          decoded.capture? second = some two → one.offset + one.bytes.length ≤ two.offset) ∧
        decoded.consumed = start fields.length ∧ decoded.consumed ≤ data.length ∧
        ∀ index, fields.length ≤ index → decoded.capture? index = none := by
  intro placed start
  have placement : Placement data fields placed := placement_places data fields
  refine ⟨placement, ?_, ?_⟩
  · intro index field here fits
    have word := words field (List.mem_of_getElem? here)
    have first : (UInt64.ofNat (start index)).toNat = start index :=
      UInt64.toNat_ofNat_of_lt' (by omega)
    have second : (UInt64.ofNat field.width).toNat = field.width :=
      UInt64.toNat_ofNat_of_lt' (by omega)
    rw [toNat_add_of_lt (by omega), first, second]
  · intro trace indent title
    refine ⟨?_, ?_, ?_⟩
    · have exact : decodeWords trace title data 0 fields = decodeFrom trace title 0 data fields :=
        decodeWords_eq (by omega) words (Nat.zero_le _)
      rw [exact, decode]
    · rw [decode, decodeFrom_eq_visits]
      rfl
    · intro session decoded
      have value : decoded = reading data fields := decode_value ..
      rw [value]
      refine ⟨fun index field capture here => capture?_reading here capture, ?_,
        consumed_reading data fields, ?_, fun index past => capture?_reading_of_le past⟩
      · intro first second one two before foundOne foundTwo
        exact placement.apart before (getElem?_places_of_capture? foundOne)
          (getElem?_places_of_capture? foundTwo)
      · rw [consumed_reading]
        exact placement.startAt_le_length _

/-- In three bytes, a field as wide as the largest word and one of four bytes do not fit between
fields of one and of two bytes, and a field without bytes fits at the end. -/
theorem fields_lie_in_order_around_the_widest :
    let fields := [Field.hidden 1 0, Field.hidden 0xFFFFFFFFFFFFFFFF 9, Field.hidden 4 0,
      Field.hidden 2 1, Field.hidden 0 7].map Field.kept
    let decoded := (decode false 0 none [1, 2, 3] fields (.start .default)).1
    (∀ field ∈ fields, field.width < UInt64.size) ∧
    decoded.captures = [some ⟨0, [1]⟩, none, none, some ⟨1, [2, 3]⟩, some ⟨3, []⟩] ∧
    decoded.consumed = 3 ∧ decoded.capture? 5 = none := by
  intro fields decoded
  have words : ∀ field ∈ fields, field.width < UInt64.size := by decide
  have short : [(1 : UInt8), 2, 3].length < UInt64.size / 2 := by decide
  obtain ⟨_, _, every⟩ := fields_lie_in_order words short
  obtain ⟨_, _, reads⟩ := every false 0 none
  obtain ⟨_, _, consumed, _, past⟩ := reads (.start .default)
  exact ⟨words, by decide, consumed, past 5 (Nat.le_refl 5)⟩

/-! ## What a reading depends on -/

/-- **A reading ignores presentation.**  Two decodes of the same data give the same reading, that is
the same number of consumed bytes and the same captures, if their field lists have the same widths
and keep the same fields.  Neither tracing, titles and indents, nor the sessions, nor the labels,
declared offsets, renderers and checks of the fields have a part in it, whatever these do in the
session. -/
theorem reading_ignores_presentation {fields others : List Field}
    (widths : fields.map Field.width = others.map Field.width)
    (kept : fields.map Field.captured = others.map Field.captured) (data : Bytes)
    (trace otherTrace : Bool) (indent otherIndent : UInt64) (title otherTitle : Option String)
    (session otherSession : Session) :
    let reading := (decode trace indent title data fields session).1
    let other := (decode otherTrace otherIndent otherTitle data others otherSession).1
    reading = other ∧ reading.consumed = other.consumed ∧
      ∀ index, reading.capture? index = other.capture? index := by
  intro reading other
  have same : reading = other := by
    rw [show reading = _ from decode_value .., show other = _ from decode_value ..]
    exact readingFrom_congr widths kept
  rw [same]
  exact ⟨rfl, rfl, fun _ => rfl⟩

/-- A traced decode that shows a generic address and counts five errors reads the same as a silent
look at hidden fields: fields declared elsewhere, a width that is no integer's, a field that does
not fit, and a cache without sets. -/
theorem reading_ignores_presentation_of_a_register :
    let shown : List Field :=
      [ { Field.labelled "Register" 12 3 with
          render := .custom GenericAddress.renderer none, captured := true },
        Field.hex "Odd" 3 0,
        (Field.decimal "Wide" 64 7).kept,
        ((Field.decimal "Sets" 4 16).checkedBy ProcessorTopology.checkSets).kept ]
    let looked : List Field :=
      [(Field.hidden 12 0).kept, .hidden 3 0, (Field.hidden 64 0).kept, (Field.hidden 4 0).kept]
    let traced := decode true 2 (some "Register") (List.replicate 19 0) shown (.start .default)
    let silent := decode false 0 none (List.replicate 19 0) looked (.start ⟨false, true, .empty⟩)
    traced.1 = silent.1 ∧ silent.1.consumed = 19 ∧ traced.2.counters = ⟨5, 0⟩ ∧
      silent.2.counters = ⟨0, 0⟩ := by
  intro shown looked traced silent
  have widths : shown.map Field.width = looked.map Field.width := by decide
  have kept : shown.map Field.captured = looked.map Field.captured := by decide
  have same := (reading_ignores_presentation widths kept (List.replicate 19 0) true false 2 0
    (some "Register") none (.start .default) (.start ⟨false, true, .empty⟩)).1
  exact ⟨same, by decide, by decide +kernel, by decide⟩

end Record

end AcpiTables
