import AcpiTables.Inspection
import AcpiTables.Proofs.Additivity
import AcpiTables.Proofs.Confined
import AcpiTables.Proofs.TerminalOutput

/-!
# A run is a sequence of separate runs

An inspection decodes all its files in one session, and clears only the counts between two of
them.  Nothing of one file is left for the next all the same: decoding a file is confined, and the
scope of the session stays what it was at the start.  So a file shows and counts what it does in a
session of its own (`Inspection.alone`).

How far an inspection has come can be told by one session that takes these in without ever
clearing a count (`Inspection.Reached`).  One file keeps this (`Inspection.Reached.visit`), and so
do any number of files (`Inspection.visitAll_append`).  At the end of a run its output is what the
files show alone, one behind the other, and then the sums of what they count
(`Inspection.run_is_sequence`).  Neither the way settings are read nor the palette of the terminal
matters for this: both are parameters, which the program fills in.
-/

namespace AcpiTables

set_option autoImplicit false

open Decoder

/-! ## Confined steps of an inspection -/

namespace Inspection

theorem confined_decodeFile (dump : Bool) (data : Bytes) : Confined (decodeFile dump data) := by
  have orderly : Orderly (Sayable True) false (Table.decode data) := Table.orderly_decode data
  have decodes : Confined (Table.decode data) := .of_orderly orderly
  unfold decodeFile
  split
  · exact (Confined.inherited.dump data).bind fun _ => decodes
  · exact decodes

theorem confined_showCount (style : Style) (count : UInt32) (label : String) :
    Confined (showCount style count label) := by
  unfold showCount
  dsimp only
  split
  · exact .printStyled _ _
  · exact .print _

theorem confined_showStatistics (totals : Counters) : Confined (showStatistics totals) :=
  (Confined.print _).bind fun _ => (confined_showCount _ _ _).bind fun _ => confined_showCount _ _ _

/-! ## One file alone -/

/-- What is shown for the contents of a file: the dump, if there is one, the table, and an empty
line. -/
def showFile (dump : Bool) (data : Bytes) : Decoder Unit := do
  let _ ← decodeFile dump data
  print "\n"

theorem confined_showFile (dump : Bool) (data : Bytes) : Confined (showFile dump data) :=
  (confined_decodeFile dump data).bind fun _ => .print _

/-- The session of a run over one file only, before its counts are shown. -/
def alone (config : Config) (dump : Bool) (data : Bytes) : Session :=
  ((Session.start config).perform (showFile dump data)).2

/-- Whether the options ask for the table in a file: for every table, unless a signature is
selected. -/
def selects (options : Options) (data : Bytes) : Bool :=
  options.select.all fun text => data.take 4 == Terminal.bytes text

/-- What the files that can be read and that the options ask for do alone, in order. -/
def decodedAlone (readFile : String → Option Bytes) (config : Config) (options : Options)
    (files : List String) : List Session :=
  ((files.filterMap readFile).filter (selects options)).map (alone config options.dump)

theorem decodedAlone_of_selected {readFile : String → Option Bytes} {options : Options}
    {files : List String} {tables : List Bytes} (config : Config)
    (selected : (files.filterMap readFile).filter (selects options) = tables) :
    decodedAlone readFile config options files = tables.map (alone config options.dump) := by
  rw [decodedAlone, selected]

theorem isSelected_eq_selects {options : Options} {selected : Option Bytes}
    (chosen : selection options = .ok selected) (data : Bytes) :
    isSelected selected data = selects options data := by
  unfold selection at chosen
  unfold selects
  cases asked : options.select with
  | none =>
      rw [asked] at chosen
      cases chosen
      rfl
  | some text =>
      rw [asked] at chosen
      dsimp only at chosen
      split at chosen
      · next four =>
          cases chosen
          rw [isSelected, Option.all_some, Bool.eq_iff_iff, beq_iff_eq, beq_iff_eq, Bytes.slice?]
          split
          · rw [Option.some_inj, List.drop_zero]
          · next short =>
              constructor
              · intro impossible
                cases impossible
              · intro same
                have length := congrArg List.length same
                rw [four, List.length_take] at length
                omega
      · cases chosen

/-! ## How far an inspection has come -/

/-- An inspection has come as far as a session that took in what the files do alone: both go on in
one scope, have shown the same, and have counted the same. -/
structure Reached (inspection : Inspection) (session : Session) : Prop where
  scope : inspection.session.scope = session.scope
  emits : inspection.session.emits = session.emits
  totals : inspection.totals = session.counters

theorem reached_start (config : Config) : (start config).Reached (.start config) :=
  ⟨rfl, rfl, rfl⟩

variable {parse : String → Option FileSettings} {readFile : String → Option Bytes}
  {options : Options} {selected : Option Bytes} {config : Config} {inspection : Inspection}
  {session : Session}

/-- **Visiting a file adds what the file does alone**, if it is selected, and nothing else. -/
theorem Reached.visit (reached : inspection.Reached session) (fresh : session.scope = ⟨config, 0⟩)
    (selected : Option Bytes) (dump : Bool) (path : String) (data : Bytes) :
    (inspection.visit selected dump path data).Reached
      (if isSelected selected data then session.absorb (alone config dump data) else session) := by
  unfold Inspection.visit
  dsimp only
  split
  · -- The file is shown with cleared counts, but the totals have been carried on beside them.
    have within : inspection.session.resetCounters.scope = ⟨config, 0⟩ :=
      reached.scope.trans fresh
    have shown : (showFile dump data inspection.session.resetCounters).2 =
        inspection.session.resetCounters.absorb (alone config dump data) := by
      rw [(confined_showFile dump data).session_eq, within]
      rfl
    have counted : (showFile dump data inspection.session.resetCounters).2.counters =
        (alone config dump data).counters := by
      rw [shown, Session.counters_absorb]
      exact Counters.zero_add _
    refine ⟨?_, ?_, ?_⟩
    · exact (congrArg Session.scope shown).trans reached.scope
    · refine (congrArg Session.emits shown).trans ?_
      rw [Session.emits_absorb, Session.emits_absorb, ← reached.emits]
      rfl
    · rw [Session.counters_absorb, ← reached.totals]
      exact congrArg inspection.totals.add counted
  · exact ⟨reached.scope, reached.emits, reached.totals⟩

/-- **Files that can be read add what they do alone**, and the files behind them are visited as
if these were all that had been done. -/
theorem visitAll_append (chosen : selection options = .ok selected) {files : List String}
    (readable : ∀ path ∈ files, (readFile path).isSome) (rest : List String)
    (reached : inspection.Reached session) (fresh : session.scope = ⟨config, 0⟩) :
    ∃ later : Inspection,
      visitAll readFile selected options.dump (files ++ rest) inspection =
        visitAll readFile selected options.dump rest later ∧
      later.Reached (session.absorbAll (decodedAlone readFile config options files)) := by
  induction files generalizing inspection session with
  | nil => exact ⟨inspection, rfl, reached⟩
  | cons path files ih =>
      obtain ⟨here, behind⟩ := List.forall_mem_cons.mp readable
      obtain ⟨data, found⟩ := Option.isSome_iff_exists.mp here
      have visited := reached.visit fresh selected options.dump path data
      rw [List.cons_append, visitAll, found]
      rw [isSelected_eq_selects chosen] at visited
      rw [decodedAlone, List.filterMap_cons_some found, List.filter_cons]
      cases asked : selects options data with
      | true =>
          rw [asked, if_pos rfl] at visited
          rw [if_pos rfl, List.map_cons, Session.absorbAll_cons]
          exact ih behind visited ((Session.scope_absorb _ _).trans fresh)
      | false =>
          rw [asked, if_neg Bool.false_ne_true] at visited
          rw [if_neg Bool.false_ne_true]
          exact ih behind visited fresh

/-! ## The end of a run -/

/-- The sums of what parts count, as far as counts reach. -/
def total (parts : List Session) : Counters :=
  ⟨saturate32 (parts.map fun part => part.counters.errors.toNat).sum,
    saturate32 (parts.map fun part => part.counters.warnings.toNat).sum⟩

/-- The session that only shows numbers of errors and warnings. -/
def statistics (config : Config) (totals : Counters) : Session :=
  ((Session.start config).perform (showStatistics totals)).2

theorem counters_absorbAll_start (parts : List Session) :
    ((Session.start config).absorbAll parts).counters = total parts := by
  have zero : (Session.start config).counters = .zero := rfl
  rw [Session.counters_absorbAll, zero, Counters.plus, total]
  simp only [Counters.zero, UInt32.toNat_zero, Nat.zero_add]

theorem total_of_perm {parts others : List Session} (same : others.Perm parts) :
    total others = total parts := by
  rw [total, total, (same.map _).sum_nat, (same.map _).sum_nat]

/-- The sum of the errors is zero exactly if there is none, however many parts there are. -/
theorem errors_total_eq_zero_iff {parts : List Session} :
    (total parts).errors = 0 ↔ ∀ part ∈ parts, part.counters.errors = 0 := by
  rw [total, saturate32_eq_zero_iff, List.sum_eq_zero_iff_forall_eq_nat, List.forall_mem_map]
  simp only [← UInt32.toNat_inj, UInt32.toNat_zero]

theorem selection_of_prepare {terminal : Bool}
    (prepared : prepare parse readFile terminal options = .ok (selected, config)) :
    selection options = .ok selected := by
  cases chosen : selection options with
  | error failure =>
      rw [prepare, chosen] at prepared
      cases prepared
  | ok found =>
      simp only [prepare, chosen, bind, Except.bind] at prepared
      split at prepared
      · cases prepared
      · split at prepared
        · cases prepared
          rfl
        · cases prepared

theorem Reached.emits_conclude (reached : inspection.Reached session)
    (fresh : session.scope = ⟨config, 0⟩) :
    inspection.conclude.session.emits =
      session.emits ++ (statistics config session.counters).emits := by
  have within : inspection.session.scope = ⟨config, 0⟩ := reached.scope.trans fresh
  have shown : inspection.conclude.session =
      inspection.session.absorb (statistics config session.counters) := by
    rw [conclude, Session.perform, (confined_showStatistics _).session_eq, within, reached.totals]
    rfl
  rw [shown, Session.emits_absorb, reached.emits]

section Run

variable {terminal : Bool} {later : Inspection}
  (prepared : prepare parse readFile terminal options = .ok (selected, config))

include prepared

theorem runWith_of_visited
    (visits : visitAll readFile selected options.dump options.files (start config) =
      (later, none)) :
    runWith parse readFile terminal options =
      ⟨if later.totals.errors = 0 then 0 else 1, later.conclude.session.emits,
        later.notes.filter (Note.isWanted (.ofSwitches options.quiet options.verbose)), none⟩ := by
  rw [runWith, prepared]
  dsimp only
  rw [visits]

theorem runWith_of_failed {failure : Failure}
    (visits : visitAll readFile selected options.dump options.files (start config) =
      (later, some failure)) :
    runWith parse readFile terminal options =
      ⟨1, later.session.emits,
        later.notes.filter (Note.isWanted (.ofSwitches options.quiet options.verbose)),
        some failure⟩ := by
  rw [runWith, prepared]
  dsimp only
  rw [visits]

/-- **A run over files that can be read shows what they do alone**, and then the sums. -/
theorem runWith_of_readable (readable : ∀ path ∈ options.files, (readFile path).isSome) :
    let parts := decodedAlone readFile config options options.files
    (runWith parse readFile terminal options).failure = none ∧
    (runWith parse readFile terminal options).emits =
      parts.flatMap Session.emits ++ (statistics config (total parts)).emits ∧
    (runWith parse readFile terminal options).exitCode =
      if (total parts).errors = 0 then 0 else 1 := by
  intro parts
  have fresh : (Session.start config).scope = ⟨config, 0⟩ := rfl
  obtain ⟨later, visits, reached⟩ := visitAll_append (selection_of_prepare prepared) readable []
    (reached_start config) fresh
  rw [List.append_nil, visitAll] at visits
  have totals : later.totals = total parts := reached.totals.trans (counters_absorbAll_start parts)
  have concluded := reached.emits_conclude ((Session.scope_absorbAll _ _).trans fresh)
  rw [runWith_of_visited prepared visits, concluded, totals, Session.emits_absorbAll,
    counters_absorbAll_start]
  exact ⟨rfl, rfl, rfl⟩

/-- **A run that comes to a file that cannot be read** has shown what the files before it do
alone, and fails. -/
theorem runWith_of_unreadable {before after : List String} {path : String}
    (files : options.files = before ++ path :: after)
    (readable : ∀ path ∈ before, (readFile path).isSome) (unreadable : readFile path = none) :
    (runWith parse readFile terminal options).failure = some (.unreadable path) ∧
    (runWith parse readFile terminal options).emits =
      (decodedAlone readFile config options before).flatMap Session.emits ∧
    (runWith parse readFile terminal options).exitCode = 1 := by
  have fresh : (Session.start config).scope = ⟨config, 0⟩ := rfl
  obtain ⟨later, visits, reached⟩ := visitAll_append (selection_of_prepare prepared) readable
    (path :: after) (reached_start config) fresh
  rw [← files, visitAll, unreadable] at visits
  rw [runWith_of_failed prepared visits, reached.emits, Session.emits_absorbAll]
  exact ⟨rfl, rfl, rfl⟩

end Run

/-- How many notes are wanted decides about the notes only. -/
theorem runWith_of_verbosity (parse : String → Option FileSettings)
    (readFile : String → Option Bytes) (terminal : Bool) (options : Options)
    (quiet verbose : Bool) :
    let other := runWith parse readFile terminal { options with quiet := quiet, verbose := verbose }
    other.emits = (runWith parse readFile terminal options).emits ∧
    other.exitCode = (runWith parse readFile terminal options).exitCode := by
  have same : prepare parse readFile terminal { options with quiet := quiet, verbose := verbose } =
      prepare parse readFile terminal options := rfl
  rw [runWith, runWith, same]
  cases prepare parse readFile terminal options with
  | error failure => exact ⟨rfl, rfl⟩
  | ok prepared =>
      obtain ⟨selected, config⟩ := prepared
      dsimp only
      cases visitAll readFile selected options.dump options.files (start config) with
      | mk inspection failure =>
          cases failure with
          | none => exact ⟨rfl, rfl⟩
          | some failure => exact ⟨rfl, rfl⟩

/-! ## Whole runs -/

/-- A table of 36 bytes without a decoder, whose checksum is wrong. -/
def unsealedTable : Bytes := [0x41, 0x42, 0x43, 0x44, 36, 0, 0, 0] ++ List.replicate 28 0

/-- The same bytes as a table that declares more than there is. -/
def overlongTable : Bytes := [0x41, 0x42, 0x43, 0x44, 40, 0, 0, 0] ++ List.replicate 28 0

/-- Three files, of which the second has another signature than the others. -/
def threeFiles (path : String) : Option Bytes :=
  if path = "unsealed.bin" then some unsealedTable
  else if path = "other.bin" then some (0x58 :: unsealedTable)
  else if path = "overlong.bin" then some overlongTable
  else none

/-- The options that select tables with the signature of `unsealedTable`. -/
def optionsFor (files : List String) : Options :=
  { Options.none with files := files, select := some "ABCD" }

/-- Whatever files there are, these options select their signature and keep the defaults. -/
theorem prepare_optionsFor (parse : String → Option FileSettings)
    (readFile : String → Option Bytes) (files : List String) :
    prepare parse readFile false (optionsFor files) =
      .ok (some [0x41, 0x42, 0x43, 0x44], .default) := by
  have signature : Terminal.bytes "ABCD" = [0x41, 0x42, 0x43, 0x44] := by decide +kernel
  have selected : selection (optionsFor files) = .ok (some [0x41, 0x42, 0x43, 0x44]) := by
    change (if (Terminal.bytes "ABCD").length = 4 then _ else _) = _
    rw [signature]
    rfl
  rw [prepare, selected]
  rfl

end Inspection

end AcpiTables
