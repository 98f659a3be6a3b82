import AcpiTables.Config
import AcpiTables.Counters

/-!
# Decoding sessions

A session is what decoding works on: the configuration, the counts, the indent of
the blocks that are open, and everything emitted so far.  Decoders run one after
another in it, each where the one before it stopped.
-/

namespace AcpiTables

set_option autoImplicit false

/-- What a decoder may read of its session besides the counts. -/
structure Scope where
  config : Config
  /-- The indent of the enclosing blocks. -/
  indent : UInt64
  deriving DecidableEq, Repr

/-- The style that a text asking for one gets. -/
def Scope.styled (scope : Scope) (style : Style) : Option Style :=
  if scope.config.highlight then some style else none

/-- The state of a decoding session. -/
@[ext]
structure Session where
  /-- The configuration, fixed when the session starts. -/
  config : Config
  /-- The errors and warnings counted since the last reset. -/
  counters : Counters
  /-- The indent of the blocks that are open. -/
  indent : UInt64
  output : Array Emit

namespace Session

/-- A session that has decoded nothing yet. -/
def start (config : Config) : Session := ⟨config, .zero, 0, #[]⟩

/-- Everything emitted so far, in order. -/
def emits (session : Session) : List Emit := session.output.toList

/-- The scope of what runs next. -/
def scope (session : Session) : Scope := ⟨session.config, session.indent⟩

/-- Appends an emit to what was emitted. -/
def emit (session : Session) (emit : Emit) : Session :=
  { session with output := session.output.push emit }

def resetCounters (session : Session) : Session :=
  { session with counters := .zero }

def doubleCounters (session : Session) : Session :=
  { session with counters := session.counters.add session.counters }

/-- Takes a report into the session: its texts are appended and its findings counted. -/
def record (session : Session) (report : Report) : Session :=
  { session with
    counters := session.counters.plus report.errors report.warnings
    output := session.output ++ report.emits }

/-! ## What a report changes -/

@[simp] theorem scope_record (session : Session) (report : Report) :
    (session.record report).scope = session.scope := rfl

@[simp] theorem config_record (session : Session) (report : Report) :
    (session.record report).config = session.config := rfl

@[simp] theorem indent_record (session : Session) (report : Report) :
    (session.record report).indent = session.indent := rfl

@[simp] theorem counters_record (session : Session) (report : Report) :
    (session.record report).counters =
      session.counters.plus report.errors report.warnings := rfl

@[simp] theorem emits_record (session : Session) (report : Report) :
    (session.record report).emits = session.emits ++ report.emits := by
  simp [record, emits]

@[simp] theorem record_empty (session : Session) : session.record .empty = session := by
  cases session
  simp [record]

theorem emit_eq_record (session : Session) (emit : Emit) :
    session.emit emit = session.record (.ofEmit emit) := by
  have output : session.output.push emit = session.output ++ [emit] := Array.ext' (by simp)
  simp only [Session.emit, record, Report.ofEmit, Counters.plus_zero, output]

theorem record_append (session : Session) (first second : Report) :
    session.record (first ++ second) = (session.record first).record second := by
  have output : session.output ++ (first.emits ++ second.emits) =
      session.output ++ first.emits ++ second.emits := Array.ext' (by simp)
  simp [record, output]

end Session

end AcpiTables
