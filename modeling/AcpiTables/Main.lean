import AcpiTables.Inspection

/-!
# The command line program

The outer layer of an inspection: it reads the files, writes what was emitted to the
standard output and the notes to the standard error, and measures how long each file
took.  What is decoded and what is shown is decided by `Inspection`.
-/

namespace AcpiTables

set_option autoImplicit false

namespace Program

/-- The contents of a file, unless it cannot be read. -/
def readFile (path : String) : IO (Option Bytes) := do
  try
    return some (← IO.FS.readBinFile path).toList
  catch _ =>
    return none

/-- Writes emits to the standard output. -/
def writeEmits (emits : List Emit) : IO Unit := do
  let output ← IO.getStdout
  output.putStr (Terminal.encode emits)
  output.flush

/-- Writes the wanted ones of some notes to the standard error. -/
def writeNotes (options : Options) (elapsed : String) (notes : List Note) : IO Unit := do
  let wanted := Note.isWanted (.ofSwitches options.quiet options.verbose)
  for note in notes.filter wanted do
    IO.eprintln (note.line elapsed)

/-- Reports a failure. -/
def fail (failure : Failure) : IO UInt32 := do
  IO.eprintln ("Error: " ++ failure.message)
  match failure with
  | .unusableSettings fault => IO.eprintln ("\nCaused by:\n    " ++ fault.cause)
  | _ => pure ()
  return 1

/-- Forgets emits and notes that were written. -/
def written (inspection : Inspection) : Inspection :=
  { inspection with session := { inspection.session with output := #[] }, notes := [] }

/-- Visits the files in order, writing what each of them brings. -/
def visitFiles (options : Options) (selected : Option Bytes) :
    List String → Inspection → IO UInt32
  | [], inspection => do
      writeEmits inspection.conclude.session.emits
      return if inspection.totals.errors = 0 then 0 else 1
  | path :: paths, inspection => do
      match ← readFile path with
      | none => fail (.unreadable path)
      | some data =>
          let started ← IO.monoNanosNow
          let visited := inspection.visit selected options.dump path data
          writeEmits visited.session.emits
          let ended ← IO.monoNanosNow
          writeNotes options (toString ((ended - started) / 1000) ++ "µs") visited.notes
          visitFiles options selected paths (written visited)

/-- Inspects the files that a command line names. -/
def inspect (options : Options) : IO UInt32 := do
  let terminal ← (← IO.getStdout).isTty
  let settings ←
    match options.config with
    | none => pure none
    | some path => readFile path
  match Inspection.prepare FileSettings.parse? (fun _ => settings) terminal options with
  | .error failure => fail failure
  | .ok (selected, config) =>
      let inspection := Inspection.start config
      writeNotes options "" inspection.notes
      visitFiles options selected options.files (written inspection)

end Program

end AcpiTables

/-- Runs the program and gives its exit status. -/
def main (arguments : List String) : IO UInt32 := do
  match AcpiTables.CommandLine.parse arguments with
  | .ok options => AcpiTables.Program.inspect options
  | .error .help =>
      IO.print AcpiTables.CommandLine.helpText
      return 0
  | .error .version =>
      IO.print AcpiTables.CommandLine.versionText
      return 0
  | .error .usage =>
      IO.eprint AcpiTables.CommandLine.usageText
      return 2
