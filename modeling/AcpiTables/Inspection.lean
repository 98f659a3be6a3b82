import AcpiTables.HexDump
import AcpiTables.Session
import AcpiTables.Settings
import AcpiTables.Table
import AcpiTables.Terminal

/-!
# Inspections of table files

An inspection decodes files one after another in one session, each holding one table,
and ends with the numbers of errors and warnings in all of them.  Files whose first
bytes are not the selected signature are skipped.  The counts restart with every file
and are added up, so the last line of an inspection tells about all files together.

An inspection fails, without the final numbers, when the selected signature does not
have four bytes, when the settings cannot be used, or when a file cannot be read.

Besides the output there are notes on the progress.  How much is noted depends on the
verbosity alone and has no influence on anything else.

How settings are written down is left open: a run is given a function that reads them
(`Inspection.runWith`), and the program reads them with `FileSettings.parse?`.
-/

namespace AcpiTables

set_option autoImplicit false

/-! ## Notes -/

/-- How many notes are wanted. -/
inductive Verbosity where
  /-- No notes. -/
  | quiet
  /-- Notes on skipped files. -/
  | default
  /-- All notes. -/
  | verbose
  deriving DecidableEq, Repr

namespace Verbosity

/-- The verbosity asked for by two switches, of which the quiet one wins. -/
def ofSwitches (quiet verbose : Bool) : Verbosity :=
  if quiet then .quiet else if verbose then .verbose else .default

def name : Verbosity → String
  | .quiet => "Quiet"
  | .default => "Default"
  | .verbose => "Verbose"

end Verbosity

/-- A note on the progress of an inspection. -/
inductive Note where
  /-- The configuration in force. -/
  | settings (config : Config)
  /-- A file was read. -/
  | loaded (path : String) (length : Nat)
  /-- A file was skipped because of its signature. -/
  | skipped (path : String)
  /-- A file was decoded, with what it contributed to the counts. -/
  | decoded (path : String) (signature : Option Bytes) (counters : Counters)
  /-- The time that decoding a file took. -/
  | timed (path : String)
  deriving DecidableEq, Repr

namespace Note

/-- Whether a note is wanted at a verbosity. -/
def isWanted (verbosity : Verbosity) : Note → Bool
  | .skipped _ => verbosity != .quiet
  | _ => verbosity == .verbose

/-- The line of a note; `elapsed` is the time for a note that tells one. -/
def line (elapsed : String) : Note → String
  | .settings config => "settings: " ++ config.describe
  | .loaded path length => "loaded " ++ path ++ " (" ++ toString length ++ " bytes)"
  | .skipped path => "skipping " ++ path ++ ": signature does not match"
  | .decoded path signature counters =>
      path ++ ": " ++ (signature.map escapeBytes).getD "?" ++ " (" ++
        toString counters.errors ++ " errors, " ++ toString counters.warnings ++ " warnings)"
  | .timed path => "  decode " ++ path ++ ": " ++ elapsed

end Note

/-! ## Failures -/

/-- Why an inspection fails. -/
inductive Failure where
  /-- The selected signature does not have four bytes. -/
  | badSelection (text : String)
  /-- A file cannot be read. -/
  | unreadable (path : String)
  /-- A settings file is not a settings document. -/
  | malformedSettings (path : String)
  /-- The settings give no configuration. -/
  | unusableSettings (fault : SettingsFault)
  deriving DecidableEq, Repr

def Failure.message : Failure → String
  | .badSelection text => "table signature must be exactly 4 bytes, got '" ++ text ++ "'"
  | .unreadable path => "failed to read " ++ path
  | .malformedSettings path => "failed to parse " ++ path
  | .unusableSettings fault => fault.message

/-! ## Inspecting files -/

/-- How far an inspection has come. -/
structure Inspection where
  /-- The session that decodes all files. -/
  session : Session
  /-- The counts of the files decoded so far. -/
  totals : Counters
  /-- The notes so far. -/
  notes : List Note

namespace Inspection

open Decoder

/-- An inspection that has seen no file yet. -/
def start (config : Config) : Inspection := ⟨.start config, .zero, [.settings config]⟩

/-- The signature that selects tables, if one is asked for. -/
def selection (options : Options) : Except Failure (Option Bytes) :=
  match options.select with
  | none => .ok none
  | some text =>
      let signature := Terminal.bytes text
      if signature.length = 4 then .ok (some signature) else .error (.badSelection text)

/-- Whether a file is to be decoded. -/
def isSelected (selected : Option Bytes) (data : Bytes) : Bool :=
  match selected with
  | none => true
  | some signature => data.slice? 0 4 == some signature

/-- What is decoded of one file. -/
def decodeFile (dump : Bool) (data : Bytes) : Decoder (Option Bytes) := do
  if dump then HexDump.showAll data
  Table.decode data

/-- Decodes the contents of a file and adds up its counts. -/
def decode (inspection : Inspection) (dump : Bool) (path : String) (data : Bytes) : Inspection :=
  let (signature, session) := inspection.session.resetCounters.perform (decodeFile dump data)
  let counters := session.counters
  { session := (session.perform (print "\n")).2
    totals := inspection.totals.add counters
    notes := inspection.notes ++ [.decoded path signature counters, .timed path] }

/-- Takes the contents of a file into the inspection. -/
def visit (inspection : Inspection) (selected : Option Bytes) (dump : Bool) (path : String)
    (data : Bytes) : Inspection :=
  let loaded := { inspection with notes := inspection.notes ++ [Note.loaded path data.length] }
  if isSelected selected data then loaded.decode dump path data
  else { loaded with notes := loaded.notes ++ [Note.skipped path] }

def visitAll (readFile : String → Option Bytes) (selected : Option Bytes) (dump : Bool) :
    List String → Inspection → Inspection × Option Failure
  | [], inspection => (inspection, none)
  | path :: paths, inspection =>
      match readFile path with
      | none => (inspection, some (.unreadable path))
      | some data =>
          visitAll readFile selected dump paths (inspection.visit selected dump path data)

/-- Shows a count, styled unless it is zero. -/
def showCount (style : Style) (count : UInt32) (label : String) : Decoder Unit :=
  let line := "\t" ++ toString count ++ " " ++ label ++ "\n"
  if 0 < count then printStyled style line else print line

/-- Shows the numbers of errors and warnings. -/
def showStatistics (totals : Counters) : Decoder Unit := do
  print "Table Statistics:\n"
  showCount .error totals.errors "Error(s)"
  showCount .warning totals.warnings "Warning(s)"

/-- The inspection with the numbers of errors and warnings shown at its end. -/
def conclude (inspection : Inspection) : Inspection :=
  { inspection with session := (inspection.session.perform (showStatistics inspection.totals)).2 }

/-! ## Settling the configuration -/

/-- Reads the settings file, if one is asked for. -/
def readSettings (parse : String → Option FileSettings) (readFile : String → Option Bytes)
    (options : Options) : Except Failure FileSettings :=
  match options.config with
  | none => .ok .none
  | some path =>
      match (readFile path).bind fun data => String.fromUTF8? data.toByteArray with
      | none => .error (.unreadable path)
      | some document =>
          match parse document with
          | none => .error (.malformedSettings path)
          | some settings => .ok settings

/-- The selected signature and the configuration of a run. -/
def prepare (parse : String → Option FileSettings) (readFile : String → Option Bytes)
    (terminal : Bool) (options : Options) : Except Failure (Option Bytes × Config) := do
  let selected ← selection options
  let settings ← readSettings parse readFile options
  match Config.settle settings options terminal with
  | .ok config => return (selected, config)
  | .error fault => throw (.unusableSettings fault)

/-! ## Runs -/

/-- What a run leaves behind. -/
structure Outcome where
  /-- The exit status. -/
  exitCode : Nat
  /-- Everything emitted. -/
  emits : List Emit
  /-- The notes that were wanted. -/
  notes : List Note
  /-- Why the run failed, if it did. -/
  failure : Option Failure

/-- Inspects the files that a command line names, with settings that `parse` reads. -/
def runWith (parse : String → Option FileSettings) (readFile : String → Option Bytes)
    (terminal : Bool) (options : Options) : Outcome :=
  let wanted := Note.isWanted (.ofSwitches options.quiet options.verbose)
  match prepare parse readFile terminal options with
  | .error failure => ⟨1, [], [], some failure⟩
  | .ok (selected, config) =>
      match visitAll readFile selected options.dump options.files (start config) with
      | (inspection, some failure) =>
          ⟨1, inspection.session.emits, inspection.notes.filter wanted, some failure⟩
      | (inspection, none) =>
          ⟨if inspection.totals.errors = 0 then 0 else 1, inspection.conclude.session.emits,
            inspection.notes.filter wanted, none⟩

/-- Inspects the files that a command line names, as the program does. -/
def run (readFile : String → Option Bytes) (terminal : Bool) (options : Options) : Outcome :=
  runWith FileSettings.parse? readFile terminal options

end Inspection

end AcpiTables
