import AcpiTables.Session
import AcpiTables.Text.Column

/-!
# Decoders

A decoder computes a value in a session and may change the session: it emits texts,
counts findings and opens indented blocks.  Running two decoders in sequence runs the
second in the session that the first one leaves.

An indented block runs with a larger indent and restores the indent afterwards, whatever
its body did.
-/

namespace AcpiTables

set_option autoImplicit false

/-- A computation in a session. -/
def Decoder (α : Type) : Type := Session → α × Session

namespace Decoder

variable {α β : Type}

/-- Gives a value and leaves the session as it is. -/
protected def pure (value : α) : Decoder α := fun session => (value, session)

/-- Runs a decoder and then the one that its value selects. -/
protected def bind (first : Decoder α) (next : α → Decoder β) : Decoder β := fun session =>
  let one := first session
  next one.1 one.2

instance : Monad Decoder where
  pure := Decoder.pure
  bind := Decoder.bind

/-! ## What a sequence of decoders does -/

@[simp] theorem pure_apply (value : α) (session : Session) :
    (pure value : Decoder α) session = (value, session) := rfl

@[simp] theorem bind_apply (first : Decoder α) (next : α → Decoder β) (session : Session) :
    (first >>= next) session = next (first session).1 (first session).2 := rfl

instance : LawfulMonad Decoder := LawfulMonad.mk' Decoder
  (fun _ => rfl)
  (fun _ _ => rfl)
  (fun _ _ _ => rfl)

/-! ## Reading the scope -/

/-- The scope the decoder runs in. -/
def scope : Decoder Scope := fun session => (session.scope, session)

/-- Runs a decoder in a block whose indent is larger by `extra`, as far as indents reach. -/
def indented (extra : UInt64) (body : Decoder α) : Decoder α := fun session =>
  let inner := body { session with indent := addSaturating64 session.indent extra }
  (inner.1, { inner.2 with indent := session.indent })

/-- Runs a check, unless the session does not check consistency. -/
def whenChecking (check : Decoder Unit) : Decoder Unit := fun session =>
  if session.config.consistency then check session else ((), session)

/-! ## Reporting -/

/-- Emits a text without a style. -/
def print (text : String) : Decoder Unit := fun session => ((), session.emit ⟨text, none⟩)

/-- Emits a text, with its style when the session highlights. -/
def printStyled (style : Style) (text : String) : Decoder Unit := fun session =>
  ((), session.emit ⟨text, session.scope.styled style⟩)

/-- Counts an error and emits nothing. -/
def countError : Decoder Unit := fun session =>
  ((), { session with counters := session.counters.addError })

/-- Counts a warning and emits nothing. -/
def countWarning : Decoder Unit := fun session =>
  ((), { session with counters := session.counters.addWarning })

/-- Counts an error and emits its message on a line of its own. -/
def error (message : String) : Decoder Unit := do
  countError
  printStyled .error ("ERROR: " ++ message ++ "\n")

/-- Counts a warning and emits its message on a line of its own. -/
def warning (message : String) : Decoder Unit := do
  countWarning
  printStyled .warning ("WARNING: " ++ message ++ "\n")

/-- Emits a label padded to the label column, with the separator that a value follows. -/
def fieldLabel (extra : UInt64) (label : String) : Decoder Unit := fun session =>
  print (columnLabel (addSaturating64 session.indent extra).toNat label ++ " : ") session

/-- Emits a section heading, padded like the labels below it. -/
def heading (title : String) : Decoder Unit := fun session =>
  printStyled .heading (columnLabel session.indent.toNat title ++ " :\n") session

end Decoder

/-- Runs a decoder in a session. -/
def Session.perform {α : Type} (session : Session) (decoder : Decoder α) : α × Session :=
  decoder session

end AcpiTables
