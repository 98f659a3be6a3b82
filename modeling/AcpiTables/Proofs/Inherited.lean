import AcpiTables.GenericAddress
import AcpiTables.HexDump
import AcpiTables.Structure.Walk
import AcpiTables.Proofs.Orderly

/-!
# What decoders inherit from their parts

A property of decoders is inherited if the actions of a session have it and if sequences and blocks
have it whenever their parts do (`Decoder.Inherited`).  The decoders of records and structures are
put together in this way from actions and from the functions that fields and kinds bring along, so
they have every inherited property that these functions have.
-/

namespace AcpiTables

set_option autoImplicit false

namespace Decoder

/-- A property that decoders inherit from their parts. -/
structure Inherited (holds : ∀ {α : Type}, Decoder α → Prop) : Prop where
  pure : ∀ {α : Type} (value : α), holds (Pure.pure value : Decoder α)
  bind : ∀ {α β : Type} {first : Decoder α} {next : α → Decoder β}, holds first →
    (∀ value, holds (next value)) → holds (first >>= next)
  scope : holds Decoder.scope
  print : ∀ text, holds (Decoder.print text)
  printStyled : ∀ style text, holds (Decoder.printStyled style text)
  countError : holds Decoder.countError
  countWarning : holds Decoder.countWarning
  indented : ∀ {α : Type} (extra : UInt64) {body : Decoder α}, holds body →
    holds (Decoder.indented extra body)

end Decoder

variable {holds : ∀ {α : Type}, Decoder α → Prop}

/-- A field whose functions have a property, if it has functions. -/
structure Field.Calls (holds : ∀ {α : Type}, Decoder α → Prop) (field : Field) : Prop where
  renderer : ∀ renderer format, field.render = .custom renderer format →
    ∀ bytes, holds (renderer format bytes)
  check : ∀ validator, field.validator = some validator →
    ∀ bytes, holds (validator bytes field.argument)

/-- A kind whose fields, or whose own decoder, have a property. -/
def Structure.Kind.Calls (holds : ∀ {α : Type}, Decoder α → Prop) (kind : Kind) : Prop :=
  match kind.method with
  | .record fields => ∀ field ∈ fields, field.Calls holds
  | .custom decoder =>
      ∀ index indent arguments data, holds (decoder ⟨kind.name, index, indent, arguments⟩ data)
  | .unsupported => True

/-- A field that is not checked, and shown as an integer or as its label. -/
theorem Field.calls_of_plain {field : Field} (unchecked : field.validator = none)
    (plain : ∀ renderer format, field.render ≠ .custom renderer format) : field.Calls holds where
  renderer _ _ shown := absurd shown (plain _ _)
  check _ checked := by
    rw [unchecked] at checked
    cases checked

namespace Decoder.Inherited

variable {α β : Type} (inherited : Inherited holds)

include inherited

theorem bind_pure {first : Decoder α} (form : α → β) (start : holds first) :
    holds (first >>= fun value => Pure.pure (form value)) :=
  inherited.bind start fun value => inherited.pure (form value)

theorem error (message : String) : holds (Decoder.error message) :=
  inherited.bind inherited.countError fun _ => inherited.printStyled .error _

theorem fieldLabel (extra : UInt64) (label : String) : holds (Decoder.fieldLabel extra label) :=
  inherited.bind inherited.scope fun scope =>
    inherited.print (columnLabel (addSaturating64 scope.indent extra).toNat label ++ " : ")

theorem heading (title : String) : holds (Decoder.heading title) :=
  inherited.bind inherited.scope fun scope =>
    inherited.printStyled .heading (columnLabel scope.indent.toNat title ++ " :\n")

theorem whenChecking {check : Decoder Unit} (checks : holds check) :
    holds (Decoder.whenChecking check) := by
  rw [whenChecking_eq_scope]
  refine inherited.bind inherited.scope fun scope => ?_
  split
  · exact checks
  · exact inherited.pure ()

/-- A step has the property if it does with another value behind it. -/
theorem of_bind_pure {step : Decoder Unit} {value : β}
    (followed : holds (step >>= fun _ => Pure.pure value)) : holds step := by
  have again := inherited.bind followed fun _ => inherited.pure ()
  simpa only [bind_assoc, pure_bind, bind_pure_unit] using again

/-- Orderly decoders have every inherited property. -/
theorem of_orderly {speech : String → Prop} {checking : Bool} {decoder : Decoder α}
    (orderly : Orderly speech checking decoder) : holds decoder := by
  induction orderly with
  | pure value => exact inherited.pure value
  | bind _ _ ihStart ihRest => exact inherited.bind ihStart ihRest
  | print text _ => exact inherited.print text
  | announce style text _ _ => exact inherited.printStyled style text
  | fieldLabel extra label _ => exact inherited.fieldLabel extra label
  | heading title _ => exact inherited.heading title
  | blame text _ => exact inherited.bind inherited.countError fun _ => inherited.printStyled _ text
  | caution text _ =>
      exact inherited.bind inherited.countWarning fun _ => inherited.printStyled _ text
  | indented extra _ ih => exact inherited.indented extra ih
  | whenChecking _ ih => exact inherited.whenChecking ih
  | byScope _ _ _ ih => exact inherited.bind inherited.scope ih

/-! ## Records -/

section Records

variable {title : Option String} {field : Field}

theorem showValue (calls : field.Calls holds) (bytes : Bytes) : holds (field.showValue bytes) := by
  unfold Field.showValue
  split
  · exact inherited.pure true
  · unfold showInteger
    split
    · exact inherited.bind_pure _ (inherited.print _)
    · exact inherited.pure false
  · next renderer format shown =>
      exact inherited.bind_pure _ (calls.renderer renderer format shown bytes)

theorem validate (calls : field.Calls holds) (bytes : Bytes) : holds (field.validate bytes) := by
  unfold Field.validate
  split
  · exact inherited.pure ()
  · next validator checked => exact calls.check validator checked bytes

theorem checkOffset (field : Field) (offset : Nat) :
    holds (Record.checkOffset title field offset) := by
  unfold Record.checkOffset
  split
  · exact inherited.pure ()
  · exact inherited.bind (inherited.print _) fun _ => inherited.error _

theorem traceField (calls : field.Calls holds) (label : String) (bytes : Bytes) :
    holds (Record.traceField title label field bytes) := by
  refine inherited.bind (inherited.fieldLabel 2 label) fun _ => ?_
  refine inherited.bind (inherited.showValue calls bytes) fun shown => ?_
  refine inherited.bind (inherited.print _) fun _ => ?_
  have checks := inherited.whenChecking (inherited.validate calls bytes)
  cases shown with
  | true => exact checks
  | false => exact inherited.bind (inherited.error _) fun _ => checks

theorem visitField (calls : field.Calls holds) (trace : Bool) (offset : Nat) (bytes : Bytes) :
    holds (Record.visitField trace title offset field bytes) := by
  refine inherited.bind (inherited.whenChecking (inherited.checkOffset field offset)) fun _ => ?_
  split
  · exact inherited.traceField calls _ bytes
  · exact inherited.pure ()

theorem decodeFrom {fields : List Field} (calls : ∀ field ∈ fields, field.Calls holds)
    (trace : Bool) (offset : Nat) (rest : Bytes) :
    holds (Record.decodeFrom trace title offset rest fields) := by
  induction fields generalizing offset rest with
  | nil => exact inherited.pure _
  | cons field fields ih =>
      obtain ⟨here, there⟩ := List.forall_mem_cons.mp calls
      unfold Record.decodeFrom
      split
      · exact inherited.bind (inherited.visitField here trace offset _) fun _ =>
          inherited.bind_pure _ (ih there _ _)
      · exact inherited.bind_pure _ (ih there _ _)

theorem showTitle (trace : Bool) (title : Option String) :
    holds (Record.showTitle trace title) := by
  unfold Record.showTitle
  split
  · exact inherited.heading _
  · exact inherited.pure ()

/-- **A record inherits from its fields.** -/
theorem record {fields : List Field} (calls : ∀ field ∈ fields, field.Calls holds) (trace : Bool)
    (indent : UInt64) (title : Option String) (data : Bytes) :
    holds (Record.decode trace indent title data fields) :=
  inherited.indented indent (inherited.bind (inherited.showTitle trace title) fun _ =>
    inherited.decodeFrom calls trace 0 data)

theorem showBelow (indent : UInt64) (data : Bytes) :
    holds (GenericAddress.showBelow indent data) := by
  have plain : ∀ field ∈ GenericAddress.fields, field.Calls holds := by
    simp [GenericAddress.fields, Field.hex, Field.integer, Field.labelled, Field.calls_of_plain]
  exact inherited.bind (inherited.print _) fun _ =>
    inherited.bind_pure _ (inherited.record plain true indent none data)

theorem genericAddress (format : Option NumberFormat) (data : Bytes) :
    holds (GenericAddress.renderer format data) :=
  inherited.bind (inherited.showBelow 2 _) fun _ => inherited.pure ()

theorem showBytes (format : Option NumberFormat) :
    ∀ bytes : Bytes, holds (AcpiTables.showBytes format bytes)
  | [] => inherited.pure ()
  | [_] => inherited.print _
  | _ :: next :: rest => by
      refine inherited.bind (inherited.print _) fun _ => ?_
      split
      · exact inherited.bind (inherited.print " ") fun _ => showBytes format (next :: rest)
      · exact showBytes format (next :: rest)

theorem characters (limit : Nat) (format : Option NumberFormat) (data : Bytes) :
    holds (AcpiTables.characters limit format data) :=
  inherited.showBytes format (data.take limit)

end Records

theorem dump (data : Bytes) : holds (HexDump.showAll data) := by
  have bytes (count : Nat) (line : List Char) : holds (HexDump.showFrom count line data) := by
    induction data generalizing count line with
    | nil => exact inherited.print _
    | cons byte rest ih => exact inherited.bind (inherited.print _) fun _ => ih _ _
  exact inherited.bind (inherited.print _) fun _ => bytes 0 []

/-! ## Structures -/

section Structures

open Structure

variable {schema : Schema}

theorem decodeKind {kind : Kind} (calls : kind.Calls holds) (index : UInt32) (indent : UInt64)
    (arguments : Option Argument × Option Argument) (data : Bytes) :
    holds (Census.decodeKind kind index indent arguments data) := by
  unfold Kind.Calls at calls
  unfold Census.decodeKind
  split
  · next fields method =>
      rw [method] at calls
      exact inherited.bind_pure _ (inherited.record calls true indent _ data)
  · next decoder method =>
      rw [method] at calls
      exact inherited.bind_pure _ (calls index indent arguments data)
  · exact inherited.bind_pure _ (inherited.error _)

theorem dispatch (calls : ∀ kind ∈ schema.kinds, kind.Calls holds) (census : Census schema)
    (indent : UInt64) (data : Bytes) (offset : Nat) (code : UInt32)
    (arguments : Option Argument × Option Argument) :
    holds (census.dispatch indent data offset code arguments) := by
  refine inherited.bind (inherited.fieldLabel _ _) fun _ =>
    inherited.bind (inherited.print _) fun _ => ?_
  split
  · next known =>
      exact inherited.bind_pure _
        (inherited.decodeKind (calls _ (List.getElem_mem known)) _ indent arguments data)
  · exact inherited.bind_pure _ (inherited.error _)

theorem validateKinds (pairs : List (Kind × UInt32)) : holds (Census.validateKinds pairs) := by
  induction pairs with
  | nil => exact inherited.pure true
  | cons pair pairs ih =>
      have here : holds (Census.validateKind pair.1 pair.2) := by
        refine inherited.bind inherited.scope fun scope => ?_
        dsimp only
        split
        · exact inherited.bind_pure _ (inherited.print _)
        · split
          · exact inherited.pure true
          · exact inherited.bind_pure _ (inherited.error _)
      exact inherited.bind here fun _ => inherited.bind_pure _ ih

theorem validateCensus (census : Census schema) : holds census.validate :=
  inherited.bind (inherited.print _) fun _ => inherited.validateKinds _

theorem finish (census : Census schema) : holds (Structure.finish census) :=
  inherited.bind_pure _ (inherited.whenChecking
    (inherited.bind_pure _ (inherited.validateCensus census)))

theorem walkFrom (calls : ∀ kind ∈ schema.kinds, kind.Calls holds) (tableLength offset : Nat)
    (census : Census schema) (remaining : Bytes) :
    holds (Structure.walkFrom tableLength offset census remaining) := by
  have plain : ∀ field ∈ headFields, field.Calls holds := by
    simp [headFields, Field.hidden, Field.labelled, Field.kept, Field.calls_of_plain]
  fun_induction Structure.walkFrom tableLength offset census remaining with
  | case1 => exact inherited.finish _
  | case2 offset census remaining more ih =>
      refine inherited.bind (inherited.record plain false 0 none remaining) fun head => ?_
      split
      · split
        · next code length _ _ possible =>
            exact inherited.bind (inherited.dispatch calls census _ _ offset _ _) fun handed =>
              ih length possible handed.2
        · exact inherited.bind_pure _ (inherited.error _)
      · exact inherited.bind_pure _ (inherited.error _)

/-- **A walk inherits from the kinds of its schema.** -/
theorem walk (calls : ∀ kind ∈ schema.kinds, kind.Calls holds) (table : Bytes) (offset : Nat) :
    holds (Structure.walk schema table offset) :=
  inherited.walkFrom calls _ _ _ _

end Structures

end Decoder.Inherited

end AcpiTables
