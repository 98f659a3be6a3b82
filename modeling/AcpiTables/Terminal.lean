import AcpiTables.Bytes
import AcpiTables.Report

/-!
# Terminal output

Styled text is written between an escape sequence that selects its colour and one that
resets it; text without a style is written as it is.  Which sequences these are depends on
the terminal: a `Palette` gives them, and everything here is for any palette.  The program
writes for a terminal with numbered colours (`Palette.numbered`).

The writer underneath may run out of room.  It then takes what still fits and fails, and
from the first failure on nothing more is written.  The failure is kept until the output
is finished; only an output without failure is flushed.
-/

namespace AcpiTables

set_option autoImplicit false

namespace Terminal

/-! ## Colours -/

/-- The colours of styled text. -/
inductive Colour where
  | red | yellow | green
  deriving DecidableEq, Repr

/-- The colour of a style. -/
def colour : Style → Colour
  | .error => .red
  | .warning => .yellow
  | .heading => .yellow
  | .success => .green

/-- The escape sequences of a terminal. -/
structure Palette where
  /-- Selects a colour. -/
  select : Colour → String
  /-- Resets the colour. -/
  reset : String

namespace Palette

/-- The texts that are written for an emit, one after another. -/
def parts (palette : Palette) (emit : Emit) : List String :=
  match emit.style with
  | none => [emit.text]
  | some style => [palette.select (colour style), emit.text, palette.reset]

/-- The text that is written for a run of emits when nothing fails. -/
def encode (palette : Palette) (emits : List Emit) : String :=
  String.join (emits.map fun emit => String.join (palette.parts emit))

/-- The number of a colour among 256. -/
def number : Colour → Nat
  | .red => 9
  | .yellow => 11
  | .green => 10

/-- The palette of a terminal that selects colours by their number. -/
def numbered : Palette where
  select colour := "\x1b[38;5;" ++ toString (number colour) ++ "m"
  reset := "\x1b[0m"

end Palette

/-- The text that the program writes for a run of emits when nothing fails. -/
def encode (emits : List Emit) : String := Palette.numbered.encode emits

/-! ## Outputs -/

/-- The bytes of a text. -/
def bytes (text : String) : Bytes := text.toUTF8.toList

/-- A writer together with what became of the output so far. -/
structure Output where
  /-- How many more bytes the writer takes, if that is limited. -/
  room : Option Nat
  written : Bytes
  failed : Bool
  /-- How often the writer was flushed. -/
  flushes : Nat
  deriving DecidableEq, Repr

namespace Output

/-- An output on which nothing was written. -/
def start (room : Option Nat) : Output := ⟨room, [], false, 0⟩

/-- Writes bytes as far as there is room; a write that does not fit fails. -/
def write (output : Output) (data : Bytes) : Output :=
  if output.failed then output
  else
    match output.room with
    | none => { output with written := output.written ++ data }
    | some room =>
        { output with
          room := some (room - data.length)
          written := output.written ++ data.take room
          failed := room < data.length }

/-- Writes the parts of an emit in a palette. -/
def emitIn (palette : Palette) (output : Output) (emit : Emit) : Output :=
  (palette.parts emit).foldl (fun output part => output.write (bytes part)) output

/-- Writes an emit as the program does. -/
def emit (output : Output) (emit : Emit) : Output := output.emitIn .numbered emit

/-- Finishes the output: without a failure the writer is flushed. -/
def finish (output : Output) : Output :=
  if output.failed then output else { output with flushes := output.flushes + 1 }

end Output

/-- The message of a writer that ran out of room. -/
def fullMessage : String := "writer is full"

end Terminal

end AcpiTables
