import AcpiTables.Proofs.CleanText
import AcpiTables.Proofs.Inherited
import AcpiTables.Proofs.Tallies

/-!
# The decoders of tables are orderly

Every decoder of the library is built from the steps that `Decoder.Orderly` allows.  Decoders that
show no label are orderly whatever may be said, as long as it includes their own texts; `Tells`
names these for each of them.  All that the library says is clean, but for the bytes that it shows
as characters.  `Sayable` allows these too where they may be said, and with it the decoders of
records, structures and tables are orderly, labels included.  So the functions that their fields and
kinds bring along have every property that decoders inherit from their parts.
-/

namespace AcpiTables

set_option autoImplicit false

open Decoder

/-- What may be said: clean texts, and any text where raw characters are allowed. -/
def Sayable (raw : Prop) (text : String) : Prop := raw ∨ Clean text

theorem Clean.sayable {raw : Prop} {text : String} (clean : Clean text) : Sayable raw text :=
  .inr clean

variable {raw : Prop} {checking : Bool}

/-- A message that may be told on a line of its own, as an error and as a warning. -/
structure Tellable (speech : String → Prop) (message : String) : Prop where
  error : speech ("ERROR: " ++ message ++ "\n")
  warning : speech ("WARNING: " ++ message ++ "\n")

theorem Clean.tellable {message : String} (clean : Clean message) :
    Tellable (Sayable raw) message where
  error := by
    refine Clean.sayable ?_
    rw [Clean.append_iff, Clean.append_iff]
    exact ⟨⟨.ofList (by decide), clean⟩, .ofList (by decide)⟩
  warning := by
    refine Clean.sayable ?_
    rw [Clean.append_iff, Clean.append_iff]
    exact ⟨⟨.ofList (by decide), clean⟩, .ofList (by decide)⟩

namespace Decoder.Orderly

theorem error_of_clean {message : String} (clean : Clean message) :
    Orderly (Sayable raw) checking (Decoder.error message) :=
  error message clean.tellable.error

theorem print_of_clean {text : String} (clean : Clean text) :
    Orderly (Sayable raw) checking (Decoder.print text) :=
  print text clean.sayable

theorem fieldLabel_of_clean {label : String} (extra : UInt64) (clean : Clean label) :
    Orderly (Sayable raw) checking (Decoder.fieldLabel extra label) := by
  refine fieldLabel extra label fun indent => Clean.sayable ?_
  rw [Clean.append_iff, Clean.columnLabel_iff]
  exact ⟨clean, .ofList (by decide)⟩

theorem heading_of_clean {title : String} (clean : Clean title) :
    Orderly (Sayable raw) checking (Decoder.heading title) := by
  refine heading title fun indent => Clean.sayable ?_
  rw [Clean.append_iff, Clean.columnLabel_iff]
  exact ⟨clean, .ofList (by decide)⟩

end Decoder.Orderly

/-! ## Fields -/

namespace Field

/-- A field with a clean label whose value and check are orderly. -/
structure Speaks (raw : Prop) (field : Field) : Prop where
  label : Clean (field.name.getD "")
  value : ∀ checking bytes, Orderly (Sayable raw) checking (field.showValue bytes)
  check : ∀ bytes, Orderly (Sayable raw) true (field.validate bytes)

/-- A field whose value is shown and checked by orderly decoders that say what is allowed. -/
structure Tells (speech : String → Prop) (field : Field) : Prop where
  value : ∀ checking bytes, Orderly speech checking (field.showValue bytes)
  check : ∀ bytes, Orderly speech true (field.validate bytes)

section Values

variable {speech : String → Prop} {format : NumberFormat}

theorem orderly_showInteger (shown : ∀ number, speech (format.numeral number)) (bytes : Bytes) :
    Orderly speech checking (showInteger format bytes) := by
  unfold showInteger
  split
  · exact (Orderly.print _ (shown _)).bind fun _ => .pure true
  · exact .pure false

theorem orderly_showBytes {format : Option NumberFormat}
    (shown : ∀ byte, speech (byteText format byte)) (space : speech " ") (bytes : Bytes) :
    Orderly speech checking (showBytes format bytes) := by
  fun_induction showBytes format bytes with
  | case1 => exact .pure ()
  | case2 byte => exact .print _ (shown byte)
  | case3 byte rest more ih =>
      refine (Orderly.print _ (shown byte)).bind fun _ => ?_
      split
      · exact (Orderly.print _ space).bind fun _ => ih
      · exact ih

variable {name : String} {width offset : Nat}

theorem tells_integer (shown : ∀ number, speech (format.numeral number)) :
    (integer format name width offset).Tells speech where
  value _ bytes := orderly_showInteger shown bytes
  check _ := .pure ()

theorem tells_characters {limit : Nat} {format : Option NumberFormat}
    (shown : ∀ byte, speech (byteText format byte)) (space : speech " ") :
    { labelled name width offset with render := .custom (characters limit) format }.Tells
      speech where
  value _ bytes := (orderly_showBytes shown space (bytes.take limit)).bind fun _ => .pure true
  check _ := .pure ()

@[simp] theorem tells_kept {field : Field} (tells : field.Tells speech) :
    field.kept.Tells speech where
  value := tells.value
  check := tells.check

@[simp] theorem tells_checkedBy {field : Field} {validator : Validator} (tells : field.Tells speech)
    (check : ∀ bytes argument, Orderly speech true (validator bytes argument)) :
    (field.checkedBy validator).Tells speech where
  value := tells.value
  check bytes := check bytes field.argument

end Values

theorem Speaks.of_tells {field : Field} (label : Clean (field.name.getD ""))
    (tells : field.Tells (Sayable raw)) : field.Speaks raw :=
  ⟨label, tells.value, tells.check⟩

theorem Speaks.tells {field : Field} (speaks : field.Speaks raw) : field.Tells (Sayable raw) :=
  ⟨speaks.value, speaks.check⟩

theorem sayable_numeral (format : NumberFormat) (number : Nat) :
    Sayable raw (format.numeral number) :=
  (Clean.numeral format number).sayable

section Fields

variable {name : String} {width offset : Nat}

@[simp] theorem speaks_integer {format : NumberFormat} (clean : Clean name) :
    (integer format name width offset).Speaks raw :=
  .of_tells clean (tells_integer (sayable_numeral format))

@[simp] theorem speaks_characters {limit : Nat} {format : Option NumberFormat}
    (clean : Clean name) (said : raw ∨ format.isSome = true) :
    { labelled name width offset with render := .custom (characters limit) format }.Speaks
      raw := by
  refine .of_tells clean (tells_characters (fun byte => ?_) (Clean.sayable (.ofList (by decide))))
  rcases said with allowed | formatted
  · exact .inl allowed
  · obtain ⟨format, rfl⟩ := Option.isSome_iff_exists.mp formatted
    exact (Clean.digitText format _).sayable

@[simp] theorem speaks_text (clean : Clean name) (allowed : raw) :
    (text name width offset).Speaks raw :=
  speaks_characters clean (.inl allowed)

@[simp] theorem speaks_kept {field : Field} (speaks : field.Speaks raw) :
    field.kept.Speaks raw :=
  .of_tells speaks.label (tells_kept speaks.tells)

@[simp] theorem speaks_checkedBy {field : Field} {validator : Validator}
    (speaks : field.Speaks raw)
    (check : ∀ bytes argument, Orderly (Sayable raw) true (validator bytes argument)) :
    (field.checkedBy validator).Speaks raw :=
  .of_tells speaks.label (tells_checkedBy speaks.tells check)

end Fields

end Field

/-! ## Records -/

namespace Record

variable {title : Option String}

/-- What a record says about a field, besides its label and value, may be told. -/
structure Tells (speech : String → Prop) (title : Option String) (field : Field) : Prop where
  newline : speech "\n"
  drift : ∀ offset, Tellable speech (Fault.message
    (.offsetMismatch (title.getD "") (field.name.getD "") offset field.offset))
  refusal : Tellable speech (Fault.message (.unreadableWidth (title.getD "") field.width))

theorem tells_clean {field : Field} (titled : Clean (title.getD ""))
    (labelled : Clean (field.name.getD "")) : Tells (Sayable raw) title field where
  newline := Clean.sayable (.ofList (by decide))
  drift offset := (clean_offsetMismatch titled labelled offset field.offset).tellable
  refusal := (clean_unreadableWidth titled field.width).tellable

theorem orderly_checkOffset {speech : String → Prop} {field : Field}
    (tells : Tells speech title field) (offset : Nat) :
    Orderly speech checking (checkOffset title field offset) := by
  unfold checkOffset
  split
  · exact .pure ()
  · exact (Orderly.print _ tells.newline).bind fun _ => .error _ (tells.drift offset).error

/-- What the trace of a field ends with, behind the value. -/
def finishTrace (title : Option String) (field : Field) (bytes : Bytes) (shown : Bool) :
    Decoder Unit := do
  print "\n"
  unless shown do
    error (Fault.message (.unreadableWidth (title.getD "") field.width))
  whenChecking (field.validate bytes)

theorem traceField_eq (title : Option String) (label : String) (field : Field) (bytes : Bytes) :
    traceField title label field bytes = (do
      fieldLabel 2 label
      let shown ← field.showValue bytes
      finishTrace title field bytes shown) := rfl

theorem orderly_finishTrace {speech : String → Prop} {field : Field}
    (tells : Tells speech title field) {bytes : Bytes}
    (check : Orderly speech true (field.validate bytes)) (shown : Bool) :
    Orderly speech checking (finishTrace title field bytes shown) := by
  refine (Orderly.print _ tells.newline).bind fun _ => ?_
  cases shown with
  | true => exact .whenChecking check
  | false => exact (Orderly.error _ tells.refusal.error).bind fun _ => .whenChecking check

theorem orderly_visitField {field : Field} (titled : Clean (title.getD ""))
    (speaks : field.Speaks raw) (trace : Bool) (offset : Nat) (bytes : Bytes) :
    Orderly (Sayable raw) checking (visitField trace title offset field bytes) := by
  have tells : Tells (Sayable raw) title field := tells_clean titled speaks.label
  unfold visitField
  refine (Orderly.whenChecking (orderly_checkOffset tells offset)).bind fun _ => ?_
  split
  · rename_i label named
    have labelled := speaks.label
    rw [named] at labelled
    rw [traceField_eq]
    exact (Orderly.fieldLabel_of_clean 2 labelled).bind fun _ =>
      (speaks.value checking bytes).bind (orderly_finishTrace tells (speaks.check bytes))
  · exact .pure ()

theorem orderly_decodeFrom {fields : List Field} (titled : Clean (title.getD ""))
    (speaks : ∀ field ∈ fields, field.Speaks raw) (trace : Bool) (offset : Nat) (rest : Bytes) :
    Orderly (Sayable raw) checking (decodeFrom trace title offset rest fields) := by
  induction fields generalizing offset rest with
  | nil => exact .pure _
  | cons field fields ih =>
      obtain ⟨here, there⟩ := List.forall_mem_cons.mp speaks
      unfold decodeFrom
      split
      · exact (orderly_visitField titled here trace offset _).bind fun _ =>
          (ih there _ _).bind_pure _
      · exact (ih there _ _).bind_pure _

theorem orderly_showTitle (titled : Clean (title.getD "")) (trace : Bool) :
    Orderly (Sayable raw) checking (showTitle trace title) := by
  unfold showTitle
  split
  · exact .heading_of_clean titled
  · exact .pure ()

theorem orderly_decode {fields : List Field} (titled : Clean (title.getD ""))
    (speaks : ∀ field ∈ fields, field.Speaks raw) (trace : Bool) (indent : UInt64)
    (data : Bytes) : Orderly (Sayable raw) checking (decode trace indent title data fields) :=
  .indented indent ((orderly_showTitle titled trace).bind fun _ =>
    orderly_decodeFrom titled speaks trace 0 data)

end Record

/-! ## Structures -/

namespace Structure

variable {schema : Schema}

/-- The family and the kinds of a schema have clean names. -/
structure Schema.Named (schema : Schema) : Prop where
  family : Clean schema.name
  kinds : ∀ kind ∈ schema.kinds, Clean kind.name

/-- A method whose fields, or whose own decoder, are orderly. -/
def Method.Speaks (raw : Prop) : Method → Prop
  | .record fields => ∀ field ∈ fields, field.Speaks raw
  | .custom decoder => ∀ (checking : Bool) (call : Call) (data : Bytes), Clean call.name →
      Orderly (Sayable raw) checking (decoder call data)
  | .unsupported => True

theorem orderly_decodeKind {kind : Kind} (named : Clean kind.name)
    (speaks : kind.method.Speaks raw) (index : UInt32) (indent : UInt64)
    (arguments : Option Argument × Option Argument) (data : Bytes) :
    Orderly (Sayable raw) checking (Census.decodeKind kind index indent arguments data) := by
  unfold Census.decodeKind
  cases method : kind.method with
  | record fields =>
      rw [method] at speaks
      have titled : Clean ((some (title kind.name index)).getD "") := clean_title named index
      exact (Record.orderly_decode titled speaks true indent data).bind_pure _
  | custom decoder =>
      rw [method] at speaks
      exact (speaks checking _ data named).bind_pure _
  | unsupported => exact (Orderly.error_of_clean (clean_unsupported named)).bind_pure _

theorem orderly_dispatch (named : schema.Named) (census : Census schema) (indent : UInt64)
    (data : Bytes) (offset : Nat) {code : UInt32}
    (arguments : Option Argument × Option Argument)
    (speaks : ∀ kind, schema.kinds[code.toNat]? = some kind → kind.method.Speaks raw) :
    Orderly (Sayable raw) checking (census.dispatch indent data offset code arguments) := by
  have line : Clean (NumberFormat.hex.numeral offset ++ "\n") :=
    Clean.append_iff.mpr ⟨Clean.numeral .hex offset, .ofList (by decide)⟩
  unfold Census.dispatch
  refine (Orderly.fieldLabel_of_clean indent (.ofList (by decide))).bind fun _ => ?_
  refine (Orderly.print_of_clean line).bind fun _ => ?_
  split
  · rename_i known
    exact (orderly_decodeKind (named.kinds _ (List.getElem_mem known))
      (speaks _ (List.getElem?_eq_getElem known)) _ indent arguments data).bind_pure _
  · exact (Orderly.error_of_clean (clean_unknownCode named.family code)).bind_pure _

/-- What the end of a walk says about the kinds of a schema may be told. -/
structure Schema.Tells (speech : String → Prop) (schema : Schema) : Prop where
  opening : speech "\nTable Breakdown:\n"
  line : ∀ kind ∈ schema.kinds, ∀ count, speech (Census.breakdownLine kind.name count)
  disallowed : ∀ kind ∈ schema.kinds, ∀ count,
    Tellable speech (Fault.message (.disallowed kind.name count))
  early : ∀ table stop status fault, faultAt schema table stop status = some fault →
    Tellable speech fault.message

theorem Schema.Named.tells (named : schema.Named) : schema.Tells (Sayable raw) where
  opening := Clean.sayable (.ofList (by decide))
  line kind there count := (clean_breakdownLine (named.kinds kind there) count).sayable
  disallowed kind there count := (clean_disallowed (named.kinds kind there) count).tellable
  early _ _ _ _ early := (clean_faultAt named.family early).tellable

section Ends

variable {speech : String → Prop} (tells : schema.Tells speech)

include tells

theorem orderly_validateKind {kind : Kind} (there : kind ∈ schema.kinds) (count : UInt32) :
    Orderly speech checking (Census.validateKind kind count) := by
  unfold Census.validateKind
  refine .byScope (fun scope => ?_) (fun _ _ => rfl) fun _ _ => rfl
  dsimp only
  split
  · exact (Orderly.print _ (tells.line kind there count)).bind_pure _
  · split
    · exact .pure true
    · exact (Orderly.error _ (tells.disallowed kind there count).error).bind_pure _

theorem orderly_validateKinds {pairs : List (Kind × UInt32)}
    (there : ∀ pair ∈ pairs, pair.1 ∈ schema.kinds) :
    Orderly speech checking (Census.validateKinds pairs) := by
  induction pairs with
  | nil => exact .pure true
  | cons pair pairs ih =>
      obtain ⟨here, later⟩ := List.forall_mem_cons.mp there
      exact (orderly_validateKind tells here pair.2).bind fun _ => (ih later).bind_pure _

theorem orderly_finish (census : Census schema) : Orderly speech checking (finish census) := by
  have pairs : ∀ pair ∈ schema.kinds.zip census.counts.toList, pair.1 ∈ schema.kinds :=
    fun pair there => (List.of_mem_zip there).1
  have validated : Orderly speech true census.validate :=
    (Orderly.print _ tells.opening).bind fun _ => orderly_validateKinds tells pairs
  exact (Orderly.whenChecking (validated.bind_pure _)).bind_pure _

theorem orderly_conclude (table : Bytes) (stop : Nat) (status : WalkStatus)
    (census : Census schema) : Orderly speech checking (conclude table stop status census) := by
  unfold conclude
  split
  · exact orderly_finish tells census
  · rename_i fault early
    exact (Orderly.error _ (tells.early _ _ _ _ early).error).bind_pure _

end Ends

end Structure

/-! ## Headers and checksums -/

namespace Header

theorem speaks_fields : ∀ field ∈ fields, field.Speaks True := by
  simp [fields, Field.decimal, Field.hexUpper, Clean.iff_not_mem]

theorem orderly_trace (data : Bytes) : Orderly (Sayable True) checking (trace data) := by
  have titled : Clean ((some "ACPI Table Header").getD "") := .ofList (by decide)
  exact (Record.orderly_decode titled speaks_fields true 0 _).bind_pure _

theorem orderly_read (data : Bytes) : Orderly (Sayable True) checking (read data) := by
  have untitled : Clean ((none : Option String).getD "") := .ofList (by decide)
  exact (Record.orderly_decode untitled speaks_fields false 0 _).bind_pure _

end Header

namespace Checksum

/-- Both verdicts on a checksum may be told. -/
structure Tells (speech : String → Prop) : Prop where
  passed : speech "Table Checksum : OK\n\n"
  failed : ∀ sum : Nat,
    speech ("Table Checksum : FAILED (" ++ NumberFormat.hexUpper.numeral sum ++ ")\n\n")

theorem tells_clean : Tells (Sayable raw) where
  passed := Clean.sayable (.ofList (by decide))
  failed sum := by
    refine Clean.sayable ?_
    rw [Clean.append_iff, Clean.append_iff]
    exact ⟨⟨.ofList (by decide), Clean.numeral _ _⟩, .ofList (by decide)⟩

theorem orderly_verify {speech : String → Prop} (tells : Tells speech) (log : Bool)
    (data : Bytes) : Orderly speech checking (verify log data) := by
  unfold verify
  dsimp only
  split
  · split
    · exact (Orderly.announce .success _ (by decide) tells.passed).bind_pure _
    · rw [← bind_assoc]
      exact (Orderly.blame _ (tells.failed _)).bind_pure _
  · exact .pure _

end Checksum

/-! ## Tables of interrupt controllers -/

namespace InterruptController

open Structure

theorem tellable_message (fault : Fault) : Tellable (Sayable raw) fault.message :=
  (clean_message fault).tellable

section Checks

variable {speech : String → Prop} (tells : ∀ fault : Fault, Tellable speech fault.message)

include tells

theorem orderly_checkVectorBase (bytes : Bytes) (argument : Option Argument) :
    Orderly speech true (checkVectorBase bytes argument) := by
  unfold checkVectorBase
  split
  · split
    · exact .pure ()
    · exact .error _ (tells _).error
  · exact .pure ()

theorem orderly_checkOverflowInterrupt (bytes : Bytes) (argument : Option Argument) :
    Orderly speech true (checkOverflowInterrupt bytes argument) := by
  unfold checkOverflowInterrupt
  split
  · exact .pure ()
  · split
    · exact .pure ()
    · split
      · exact .error _ (tells _).error
      · split
        · exact .warning _ (tells _).warning
        · exact .pure ()

theorem orderly_checkDistributors (status : WalkStatus) (census : Census schema) :
    Orderly speech checking (checkDistributors status census) := by
  unfold checkDistributors
  split
  · refine .whenChecking ?_
    split
    · exact .error _ (tells _).error
    · exact .pure ()
  · exact .pure ()

end Checks

theorem speaks_fields : ∀ field ∈ fields, field.Speaks True := by
  simp [fields, Header.fields, Field.decimal, Field.hex, Field.hexUpper, Clean.iff_not_mem]

theorem named_schema : schema.Named where
  family := .ofList (by decide)
  kinds := by simp [schema, kinds, Clean.iff_not_mem]

/-- No structure of the table has a field that is shown as raw characters. -/
theorem speaks_kinds : ∀ kind ∈ schema.kinds, kind.method.Speaks raw := by
  simp [schema, kinds, Method.Speaks, processorInterfaceFields, distributorFields,
    messageFrameFields, redistributorFields, translationServiceFields, Field.decimal, Field.hex,
    Clean.iff_not_mem, orderly_checkVectorBase tellable_message,
    orderly_checkOverflowInterrupt tellable_message]

end InterruptController

/-! ## Tables of processor topology -/

namespace ProcessorTopology

open Structure

/-- The messages of checks are clean; only that of a short node names something. -/
theorem tellable_message (fault : Fault)
    (nameless : ∀ name length, fault ≠ .shortNode name length) :
    Tellable (Sayable raw) fault.message :=
  (clean_message fun name length same => absurd same (nameless name length)).tellable

section Checks

variable {speech : String → Prop}

theorem orderly_onArm {check : Decoder Unit} (orderly : Orderly speech checking check) :
    Orderly speech checking (onArm check) := by
  unfold onArm
  refine .byScope (fun scope => ?_) (fun _ _ => rfl) fun _ _ => rfl
  split
  · exact orderly
  · exact .pure ()

variable (tells : ∀ fault : Fault, (∀ name length, fault ≠ .shortNode name length) →
  Tellable speech fault.message)

include tells

theorem orderly_checkSets (bytes : Bytes) (argument : Option Argument) :
    Orderly speech true (checkSets bytes argument) := by
  unfold checkSets
  split
  · exact .pure ()
  · split
    · exact .error _ (tells .noSets nofun).error
    · refine orderly_onArm ?_
      split
      · exact .error _ (tells .extendedSets nofun).error
      · split
        · exact .warning _ (tells .plainSets nofun).warning
        · exact .pure ()

theorem orderly_checkAssociativity (bytes : Bytes) (argument : Option Argument) :
    Orderly speech true (checkAssociativity bytes argument) := by
  unfold checkAssociativity
  split
  · split
    · exact .error _ (tells .noWays nofun).error
    · exact .pure ()
  · exact .pure ()

theorem orderly_checkAttributes (bytes : Bytes) (argument : Option Argument) :
    Orderly speech true (checkAttributes bytes argument) := by
  unfold checkAttributes
  split
  · split
    · exact .pure ()
    · exact .error _ (tells .reservedAttributes nofun).error
  · exact .pure ()

theorem orderly_checkLineSize (bytes : Bytes) (argument : Option Argument) :
    Orderly speech true (checkLineSize bytes argument) := by
  unfold checkLineSize
  refine orderly_onArm ?_
  split
  · exact .pure ()
  · split
    · exact .error _ (tells .lineSizeRange nofun).error
    · split
      · exact .error _ (tells .lineSizePower nofun).error
      · exact .pure ()

end Checks

theorem orderly_showReferences (index count : Nat) (data : Bytes) :
    Orderly (Sayable raw) checking (showReferences index count data) := by
  induction count generalizing index data with
  | zero => exact .pure ()
  | succ count ih =>
      have label : Clean s!"Private resource [{index}]" := by
        simp only [and_true, Clean.append_iff, Clean.toString_iff, Clean.toString_nat]
        and_intros <;> exact .ofList (by decide)
      have line (number : Nat) : Clean (NumberFormat.hex.numeral number ++ "\n") :=
        Clean.append_iff.mpr ⟨Clean.numeral .hex number, .ofList (by decide)⟩
      exact (Orderly.fieldLabel_of_clean 4 label).bind fun _ =>
        (Orderly.print_of_clean (line _)).bind fun _ => ih _ _

theorem speaks_processorFields : ∀ field ∈ processorFields, field.Speaks raw := by
  simp [processorFields, Field.decimal, Field.hex, Clean.iff_not_mem]

theorem orderly_decodeProcessor {call : Call} (named : Clean call.name) (data : Bytes) :
    Orderly (Sayable raw) checking (decodeProcessor call data) := by
  have titled : Clean ((some (title call.name call.index)).getD "") := clean_title named _
  have short : Clean (Fault.message (.shortNode call.name data.length)) := by
    refine clean_message ?_
    rintro _ _ ⟨⟩
    exact named
  unfold decodeProcessor
  refine (Record.orderly_decode titled speaks_processorFields true _ data).bind fun reading => ?_
  split
  · exact .error_of_clean short
  · dsimp only
    split
    · exact orderly_showReferences _ _ _
    · exact .error_of_clean (clean_message nofun)

theorem speaks_cacheFields : ∀ field ∈ cacheFields, field.Speaks raw := by
  simp [cacheFields, Field.decimal, Field.hex, Clean.iff_not_mem,
    orderly_checkSets tellable_message, orderly_checkAssociativity tellable_message,
    orderly_checkAttributes tellable_message, orderly_checkLineSize tellable_message]

theorem speaks_identityFields : ∀ field ∈ identityFields, field.Speaks True := by
  simp [identityFields, Field.decimal, Field.hex, Clean.iff_not_mem]

theorem named_schema : schema.Named where
  family := .ofList (by decide)
  kinds := by simp [schema, kinds, Clean.iff_not_mem]

/-- Only identities have a field that is shown as raw characters. -/
theorem speaks_kinds {kind : Structure.Kind} (there : kind ∈ schema.kinds)
    (allowed : kind.code = 2 → raw) : kind.method.Speaks raw := by
  simp only [schema, kinds, List.mem_cons, List.not_mem_nil, or_false] at there
  rcases there with rfl | rfl | rfl
  · exact fun checking call data named => orderly_decodeProcessor named data
  · exact speaks_cacheFields
  · have anything : raw = True := eq_true (allowed rfl)
    rw [anything]
    exact speaks_identityFields

end ProcessorTopology

/-! ## What the functions of tables inherit -/

section Inherited

variable {holds : ∀ {α : Type}, Decoder α → Prop} (inherited : Inherited holds)

include inherited

theorem Field.Speaks.calls {field : Field} (speaks : field.Speaks raw) : field.Calls holds where
  renderer renderer format shown bytes := by
    have shows := inherited.of_orderly (speaks.value false bytes)
    rw [Field.showValue, shown] at shows
    exact inherited.of_bind_pure shows
  check validator checked bytes := by
    have checks := inherited.of_orderly (speaks.check bytes)
    rwa [Field.validate, checked] at checks

theorem Structure.Kind.calls_of_speaks {kind : Kind} (named : Clean kind.name)
    (speaks : kind.method.Speaks raw) : kind.Calls holds := by
  unfold Kind.Calls
  cases method : kind.method with
  | record fields =>
      rw [method] at speaks
      exact fun field there => (speaks field there).calls inherited
  | custom decoder =>
      rw [method] at speaks
      exact fun index indent arguments data =>
        inherited.of_orderly (speaks false ⟨kind.name, index, indent, arguments⟩ data named)
  | unsupported => trivial

theorem InterruptController.calls_kinds : ∀ kind ∈ schema.kinds, kind.Calls holds := by
  intro kind there
  have speaks : kind.method.Speaks True := speaks_kinds kind there
  exact Structure.Kind.calls_of_speaks inherited (named_schema.kinds kind there) speaks

theorem ProcessorTopology.calls_kinds : ∀ kind ∈ schema.kinds, kind.Calls holds := by
  intro kind there
  have speaks : kind.method.Speaks True := speaks_kinds there fun _ => trivial
  exact Structure.Kind.calls_of_speaks inherited (named_schema.kinds kind there) speaks

end Inherited

/-! ## Whole tables -/

namespace Table

/-- Of a table without a decoder the header is shown, and its signature in escaped form. -/
theorem decodeContent_of_unknown {signature : Bytes}
    (interrupt : signature ≠ InterruptController.signature)
    (topology : signature ≠ ProcessorTopology.signature) (table : Bytes) :
    decodeContent signature table = (do
      let _ ← Header.trace table
      print ("\nParser not implemented for " ++ escapeBytes signature ++ " table.\n")) := by
  have absent : find? signature = none := by
    simp [find?, entries, interrupt.symm, topology.symm]
  rw [decodeContent, absent]

theorem tellable_message (fault : Fault) : Tellable (Sayable raw) fault.message :=
  (clean_message fault).tellable

theorem orderly_clamp {speech : String → Prop}
    (tells : ∀ fault : Fault, Tellable speech fault.message) (data : Bytes) (declared : Nat) :
    Orderly speech checking (clamp data declared) := by
  unfold clamp
  split
  · exact .pure _
  · exact (Orderly.error _ (tells _).error).bind_pure _

end Table

end AcpiTables
