import AcpiTables.Field.Value

/-!
# Records

A record is decoded field by field.  Each field takes the bytes behind the fields
decoded before it; declared offsets are compared with that running offset and never
move it.  A field that does not fit into the rest of the data is skipped, and since
the running offset then stays, a later and smaller field may still be decoded there.

Decoding gives the number of bytes consumed and, for every field of the list, where
it lay if it was decoded and kept.  A traced decode also shows the labelled fields.
-/

namespace AcpiTables

set_option autoImplicit false

open Decoder

/-- Where a kept field lies in the data, and the bytes it holds. -/
structure Capture where
  /-- The offset from the start of the data. -/
  offset : Nat
  bytes : Bytes
  deriving DecidableEq, Repr

/-- The bytes at the start of a captured field, unless the field is narrower. -/
def Capture.slice? (capture : Capture) (width : Nat) : Option Bytes :=
  capture.bytes.slice? 0 width

/-- The little-endian number at the start of a captured field, unless the field is narrower. -/
def Capture.number? (capture : Capture) (width : Nat) : Option Nat :=
  capture.bytes.number? 0 width

/-- What decoding a record gives. -/
structure Reading where
  /-- The total width of the decoded fields. -/
  consumed : Nat
  /-- One entry for each field of the list, filled if the field was decoded and kept. -/
  captures : List (Option Capture)
  deriving DecidableEq, Repr

namespace Reading

def capture? (reading : Reading) (index : Nat) : Option Capture :=
  (reading.captures[index]?).join

/-- The little-endian number at the start of the captured field at an index. -/
def number? (reading : Reading) (index width : Nat) : Option Nat :=
  (reading.capture? index).bind fun capture => capture.number? width

/-- The reading with one more entry in front. -/
def consCapture (entry : Option Capture) (reading : Reading) : Reading :=
  { reading with captures := entry :: reading.captures }

end Reading

namespace Record

/-- What may be wrong with a record, whatever its values mean. -/
inductive Fault where
  /-- A field was decoded away from its declared offset. -/
  | offsetMismatch (record field : String) (current declared : Nat)
  /-- An integer has a width that cannot be shown. -/
  | unreadableWidth (record : String) (width : Nat)
  deriving DecidableEq, Repr

def Fault.message : Fault → String
  | .offsetMismatch record field current declared =>
      s!"{record}: Offset Mismatch for {field}\nCurrentOffset = {current} FieldOffset = {declared}"
  | .unreadableWidth record width =>
      s!"{record}: CANNOT PARSE THIS FIELD, Field Length = {width}"

/-- Reports a field that lies away from its declared offset. -/
def checkOffset (title : Option String) (field : Field) (offset : Nat) : Decoder Unit :=
  if offset = field.offset then return
  else do
    print "\n"
    error (Fault.message
      (.offsetMismatch (title.getD "") (field.name.getD "") offset field.offset))

/-- Shows one decoded field and checks its value. -/
def traceField (title : Option String) (label : String) (field : Field) (bytes : Bytes) :
    Decoder Unit := do
  fieldLabel 2 label
  let shown ← field.showValue bytes
  print "\n"
  unless shown do
    error (Fault.message (.unreadableWidth (title.getD "") field.width))
  whenChecking (field.validate bytes)

/-- Reports on one field whose bytes were found at an offset. -/
def visitField (trace : Bool) (title : Option String) (offset : Nat) (field : Field)
    (bytes : Bytes) : Decoder Unit := do
  whenChecking (checkOffset title field offset)
  match trace, field.name with
  | true, some label => traceField title label field bytes
  | _, _ => return

/-- Decodes fields from the bytes that start at a running offset. -/
def decodeFrom (trace : Bool) (title : Option String) :
    (offset : Nat) → (rest : Bytes) → (fields : List Field) → Decoder Reading
  | offset, _, [] => return ⟨offset, []⟩
  | offset, rest, field :: fields =>
      if field.width ≤ rest.length then do
        let bytes := rest.take field.width
        visitField trace title offset field bytes
        let reading ← decodeFrom trace title (offset + field.width) (rest.drop field.width) fields
        return reading.consCapture (if field.captured then some ⟨offset, bytes⟩ else none)
      else do
        let reading ← decodeFrom trace title offset rest fields
        return reading.consCapture none

/-- Shows the title of a traced record, if it has one. -/
def showTitle (trace : Bool) (title : Option String) : Decoder Unit :=
  match trace, title with
  | true, some title => heading title
  | _, _ => return

/-- Decodes a record in an indented block; a traced record starts with its title. -/
def decode (trace : Bool) (indent : UInt64) (title : Option String) (data : Bytes)
    (fields : List Field) : Decoder Reading :=
  indented indent do
    showTitle trace title
    decodeFrom trace title 0 data fields

end Record

end AcpiTables
