import CInspect.Inspection.Command
/-!
How the output and the exit status of a run are made of its files' reports.

Once its arguments are read, a run inspects the arguments that end in `.c`,
in order and each on its own, prints their reports one after another, and
ends with status 1 when a file failed and 0 when none did. A file the
compiler cannot load fails and prints nothing; a file it rejects shows its
first error and does not fail. A file whose
checks raise an exception ends the run after its report.

Within a file the four checkers run in order; the first that raises, or
that reports a finding at a failing level, ends the file, and the checkers
after it print nothing.

* `inspectAll_eq`: the loop over the files, as the list of their reports.
* `runChecks_eq`: the checkers of a file, up to the first that stops it.
* `inspectFile_failed_iff`: exactly when a file fails, a file the compiler
  cannot load among them (`load_eq_none_iff`).
* `runCommand_of_read`: the run as a whole, once its arguments are read.
-/

namespace CInspect.Inspection

open CInspect.Source CInspect.Check CInspect.CommandLine CInspect.Tree CInspect.Text

/-! ### Lists up to their first stop -/

/-- The members of a list up to and including the first that `p` holds of. -/
def upToFirst {α : Type} (p : α → Bool) : List α → List α
  | [] => []
  | x :: xs => if p x then [x] else x :: upToFirst p xs

@[simp] theorem upToFirst_nil {α : Type} (p : α → Bool) : upToFirst p [] = [] := rfl

@[simp] theorem upToFirst_cons_pos {α : Type} {p : α → Bool} {x : α} (xs : List α)
    (h : p x = true) : upToFirst p (x :: xs) = [x] := by
  simp [upToFirst, h]

@[simp] theorem upToFirst_cons_neg {α : Type} {p : α → Bool} {x : α} (xs : List α)
    (h : p x = false) : upToFirst p (x :: xs) = x :: upToFirst p xs := by
  simp [upToFirst, h]

/-! ### The reports of the files -/

/-- What a report prints on standard output. -/
def FileReport.stdout (r : FileReport) : String :=
  printed r.out ++ r.rest

/-- What a report prints on standard error. -/
def FileReport.stderr (r : FileReport) : String :=
  printed r.err

/-- The exception that ended a file's inspection, if one did. -/
def FileReport.crash? (r : FileReport) : Option Crash :=
  match r.verdict with
  | .crashed c => some c
  | _ => none

/-- Whether a file failed: it could not be read, or a check failed. -/
def FileReport.failed (r : FileReport) : Bool :=
  match r.verdict with
  | .failed => true
  | _ => false

/-- Whether a report ends the run. -/
def FileReport.ends (r : FileReport) : Bool :=
  r.crash?.isSome

/-- The loop over the files prints the reports up to the first that ends
the run, and fails when one of the files failed. -/
theorem inspectAll_eq (cfg : Config) (ws : Workspace) (includeDirs systemDirs : List String)
    (files : List String) :
    inspectAll cfg ws includeDirs systemDirs files =
      let reports := files.map (inspectFile cfg ws includeDirs systemDirs)
      let shown := upToFirst FileReport.ends reports
      (String.join (shown.map FileReport.stdout), String.join (shown.map FileReport.stderr),
        match reports.findSome? FileReport.crash? with
        | some c => .error c
        | none => .ok (reports.any FileReport.failed)) := by
  induction files with
  | nil => rfl
  | cons f fs ih =>
    simp only [List.map_cons] at ih ⊢
    -- the report of `f` either ends the run here or is followed by the rest
    cases h : (inspectFile cfg ws includeDirs systemDirs f).verdict with
    | crashed c =>
      have ends : (inspectFile cfg ws includeDirs systemDirs f).ends = true := by
        simp [FileReport.ends, FileReport.crash?, h]
      simp [inspectAll, h, ends, FileReport.stdout, FileReport.stderr, FileReport.crash?]
    | passed | rejected | failed =>
      have goes : (inspectFile cfg ws includeDirs systemDirs f).ends = false := by
        simp [FileReport.ends, FileReport.crash?, h]
      rw [inspectAll, h]
      simp only at ih ⊢
      rw [ih]
      cases hc : (fs.map (inspectFile cfg ws includeDirs systemDirs)).findSome? FileReport.crash? <;>
        simp [goes, hc, FileReport.stdout, FileReport.stderr, FileReport.crash?, FileReport.failed, h,
          String.join_cons, String.append_assoc, Except.map]

/-! ### The checkers of a file -/

/-- What one checker gives a file: the lines it prints, the levels of its
findings, and the exception it raised, if it raised one. -/
structure CheckerRun where
  out : List String
  levels : List Level
  crash : Option Crash

/-- Whether a checker ends the file: it raised, or one of its findings is at
a failing level. -/
def CheckerRun.stops (r : CheckerRun) : Bool :=
  r.crash.isSome || anyFails r.levels

/-- The run of the indentation checker: its listing of the source breaks off
with an index error when it runs past the last line. -/
def layoutRun (r : LayoutOutcome) : CheckerRun :=
  ⟨r.out, r.levels, match r.unreadable with
    | some c => some (crashOf (.unreadableKind c))
    | none => if r.complete then none else some ⟨"IndexError", "list index out of range"⟩⟩

/-- The four checkers of a compiled file, in the order they run: the
constructs of the tree, character input and character codes, tabs mixed
with spaces, and the indentation of bodies. -/
def checkerRuns (cfg : Config) (lines : List String) (file : String) (root : Node) :
    List CheckerRun :=
  let (o1, l1, h1) := checkConstructs cfg lines root
  let (o2, l2, h2) := checkCharInput cfg lines root
  let (o3, l3) := checkMixing cfg lines file root
  [⟨o1, l1, h1.map crashOf⟩, ⟨o2, l2, h2.map crashOf⟩, ⟨o3, l3, none⟩,
    layoutRun (checkLayout cfg lines file root)]

/-- How a file's checks end, given the first checker that stopped them. -/
def stopVerdict : Option CheckerRun → Verdict
  | none => .passed
  | some r =>
    match r.crash with
    | some c => .crashed c
    | none => .failed

/-- The checks of a file print what the checkers up to the first that stops
print, and end as that checker does. -/
theorem runChecks_eq (cfg : Config) (lines : List String) (file : String) (root : Node) :
    runChecks cfg lines file root =
      let runs := checkerRuns cfg lines file root
      ((upToFirst CheckerRun.stops runs).flatMap (·.out), stopVerdict (runs.find? CheckerRun.stops)) := by
  rcases hc : checkConstructs cfg lines root with ⟨o1, l1, h1⟩
  rcases hi : checkCharInput cfg lines root with ⟨o2, l2, h2⟩
  rcases hm : checkMixing cfg lines file root with ⟨o3, l3⟩
  simp only [runChecks, checkerRuns, hc, hi, hm]
  -- each checker in turn either stops the file or lets the next one run
  cases h1 with
  | some h => simp [CheckerRun.stops, stopVerdict]
  | none =>
    by_cases f1 : anyFails l1 = true
    · simp [f1, CheckerRun.stops, stopVerdict]
    cases h2 with
    | some h => simp [f1, CheckerRun.stops, stopVerdict]
    | none =>
      by_cases f2 : anyFails l2 = true
      · simp [f1, f2, CheckerRun.stops, stopVerdict]
      by_cases f3 : anyFails l3 = true
      · simp [f1, f2, f3, CheckerRun.stops, stopVerdict]
      cases hu : (checkLayout cfg lines file root).unreadable with
      | some c => simp [f1, f2, f3, hu, CheckerRun.stops, stopVerdict, layoutRun]
      | none =>
        cases hk : (checkLayout cfg lines file root).complete
        · simp [f1, f2, f3, hu, hk, CheckerRun.stops, stopVerdict, layoutRun]
        · by_cases f4 : anyFails (checkLayout cfg lines file root).levels = true <;>
            simp [f1, f2, f3, f4, hu, hk, CheckerRun.stops, stopVerdict, layoutRun]

/-! ### One file -/

/-- The source lines the checks of a file read. -/
def sourceLines (bytes : ByteArray) : List String :=
  splitLines (String.ofList (decodeUtf8 bytes.toList))

/-- The compiler's messages before the first error that a file shows: all of
them with debugging on, none otherwise. -/
def shownMessages (cfg : Config) (c : Compiled) : List String :=
  if cfg.debug > 0 then c.messages else []

/-- The dump of a compiled tree that debugging prints, and where it broke
off, if it did. -/
def treeDump (cfg : Config) (c : Compiled) : List String × Option (String × Nat) :=
  if cfg.debug > 0 then c.tree.dumpAsFar else ([], none)

/-- The report of a compiled file: its first error, if it has one, and
otherwise the dump when debugging and the output of the checkers up to the
first that stops, ending as that checker does. -/
def compiledReport (cfg : Config) (name : String) (bytes : ByteArray) (c : Compiled) : FileReport :=
  match c.error, treeDump cfg c with
  | some e, _ => ⟨shownMessages cfg c ++ [e], "", [], .rejected⟩
  | none, (dumped, some (indent, code)) =>
    ⟨shownMessages cfg c ++ dumped, indent, [], .crashed (crashOf (.unreadableKind code))⟩
  | none, (dumped, none) =>
    let runs := checkerRuns cfg (sourceLines bytes) name c.tree
    ⟨shownMessages cfg c ++ dumped ++ (upToFirst CheckerRun.stops runs).flatMap (·.out), "", [],
      stopVerdict (runs.find? CheckerRun.stops)⟩

theorem inspectCompiled_eq (cfg : Config) (name : String) (bytes : ByteArray) (c : Compiled) :
    inspectCompiled cfg name bytes c = compiledReport cfg name bytes c := by
  rcases c with ⟨messages, _ | e, tree⟩
  · -- compiled without error: the dump, when asked for, then the checkers
    by_cases debug : 0 < cfg.debug
    · rcases hd : tree.dumpAsFar with ⟨dumped, _ | ⟨indent, code⟩⟩ <;>
        simp [inspectCompiled, compiledReport, treeDump, shownMessages, sourceLines, runChecks_eq,
          debug, hd]
    · simp [inspectCompiled, compiledReport, treeDump, shownMessages, sourceLines, runChecks_eq, debug]
  · rfl

/-- A compiled file fails exactly when it has no error, its dump, when asked
for, runs through, and the first checker that stops it returns instead of
raising: it then stops for a finding at a failing level. -/
theorem inspectCompiled_failed_iff (cfg : Config) (name : String) (bytes : ByteArray)
    (c : Compiled) :
    (inspectCompiled cfg name bytes c).failed = true ↔
      c.error = none ∧ (treeDump cfg c).2 = none ∧
        ∃ r, (checkerRuns cfg (sourceLines bytes) name c.tree).find? CheckerRun.stops = some r ∧
          r.crash = none := by
  rw [inspectCompiled_eq, compiledReport]
  cases he : c.error with
  | some e => simp [FileReport.failed]
  | none =>
    rcases treeDump cfg c with ⟨dumped, _ | ⟨indent, code⟩⟩
    · cases hr : (checkerRuns cfg (sourceLines bytes) name c.tree).find? CheckerRun.stops with
      | none => simp [FileReport.failed, stopVerdict, hr]
      | some r => cases hc : r.crash <;> simp [FileReport.failed, stopVerdict, hr, hc]
    · simp [FileReport.failed]

/-- The report of a file once the compiler has tried to load it: a failure
that prints nothing when it could not, and otherwise the report of the
compiled file. -/
def loadedReport (cfg : Config) (name : String) (bytes : ByteArray) : Option Compiled → FileReport
  | none => ⟨[], "", [], .failed⟩
  | some c => compiledReport cfg name bytes c

theorem inspectLoaded_eq (cfg : Config) (name : String) (bytes : ByteArray) (l : Option Compiled) :
    inspectLoaded cfg name bytes l = loadedReport cfg name bytes l := by
  cases l with
  | none => rfl
  | some c => exact inspectCompiled_eq cfg name bytes c

/-- The compiler cannot load a file exactly when it reads the file's name as
an option. -/
theorem load_eq_none_iff (unit : Preprocess.UnitConfig) :
    load unit = none ↔ readAsOption unit.mainName := by
  unfold load
  split <;> simp_all

/-- A file fails exactly when it cannot be read, or it is read and the
compiler cannot load it, or the compiler loads it without error, its dump
runs through, and the first checker that stops it returns. -/
theorem inspectFile_failed_iff (cfg : Config) (ws : Workspace) (includeDirs systemDirs : List String)
    (name : String) :
    (inspectFile cfg ws includeDirs systemDirs name).failed = true ↔
      (∃ e, ws.open name = .error e) ∨
        ∃ bytes, ws.open name = .ok bytes ∧
          (load ⟨ws, includeDirs, systemDirs, name, bytes⟩ = none ∨
            ∃ c, load ⟨ws, includeDirs, systemDirs, name, bytes⟩ = some c ∧
              c.error = none ∧ (treeDump cfg c).2 = none ∧
              ∃ r, (checkerRuns cfg (sourceLines bytes) name c.tree).find? CheckerRun.stops = some r ∧
                r.crash = none) := by
  unfold inspectFile
  cases h : ws.open name with
  | error e => simp [FileReport.failed]
  | ok bytes =>
    simp only [inspectSource]
    -- the load either fails, which fails the file, or gives the compiled unit
    cases loaded : load ⟨ws, includeDirs, systemDirs, name, bytes⟩ with
    | none => simp [inspectLoaded, FileReport.failed, loaded]
    | some c => simp [inspectLoaded, inspectCompiled_failed_iff, loaded]

/-! ### The whole run -/

/-- The settings the checks of a run get from its arguments and its setting. -/
def runConfig (s : Setting) (a : Arguments) (levels : Rule → Option Level) : Config :=
  checkConfig a levels (a.colorize.getD (s.colorDefault.any (!·.isEmpty)) && s.colorAvailable)

/-- What a run prints and how it ends once its arguments are read and give
the checks `levels`: the messages of the search for the compiler's headers,
then the reports of the `.c` arguments in order up to the first that ends
the run; it ends with that report's exception, or else with status 1 when a
file failed and 0 when none did. -/
def inspectionOutcome (s : Setting) (a : Arguments) (levels : Rule → Option Level) : Outcome :=
  match s.toolchain.headers s.workspace with
  | .error c => ⟨"", "", .error c⟩
  | .ok h =>
    let reports := (a.sources.filter (·.endsWith ".c")).map
      (inspectFile (runConfig s a levels) s.workspace a.includeDirs h.systemDirs)
    let shown := upToFirst FileReport.ends reports
    ⟨String.join (shown.map FileReport.stdout),
      printed h.err ++ String.join (shown.map FileReport.stderr),
      match reports.findSome? FileReport.crash? with
      | some c => .error c
      | none => .ok (if reports.any FileReport.failed then 1 else 0)⟩

/-- A run whose arguments are read and whose check names are all known is
the inspection of its `.c` arguments. -/
theorem runCommand_of_read {s : Setting} {argv : List String} {a : Arguments}
    {levels : Rule → Option Level} (read : readArguments argv = .read a)
    (resolved : a.levels = .ok levels) :
    runCommand s argv = inspectionOutcome s a levels := by
  simp only [runCommand, read, resolved, inspectionOutcome, runConfig]
  cases s.toolchain.headers s.workspace with
  | error c => rfl
  | ok h =>
    simp only [inspectAll_eq]
    split <;> rfl

/-- A run whose arguments are read, with every check name known, inspects its
`.c` arguments in order, each on its own, prints their reports one after
another and ends with status 1 exactly when one of them failed. A file fails
exactly when it cannot be read, or the compiler cannot load it, which
happens when it reads the file's name as an option, or the compiler loads it
and the first checker that stops it does so by a finding at a failing level;
the checkers after that one print nothing. A file the compiler cannot load
prints nothing, and a file it rejects shows only its first error, after the
messages before it when debugging, and does not fail. -/
theorem runCommand_checks_sources (s : Setting) (argv : List String) (a : Arguments)
    (levels : Rule → Option Level) (read : readArguments argv = .read a)
    (resolved : a.levels = .ok levels) :
    runCommand s argv = inspectionOutcome s a levels ∧
      ∀ (cfg : Config) (ws : Workspace) (includeDirs systemDirs : List String) (name : String),
        ((inspectFile cfg ws includeDirs systemDirs name).failed = true ↔
          (∃ e, ws.open name = .error e) ∨
            ∃ bytes, ws.open name = .ok bytes ∧
              (load ⟨ws, includeDirs, systemDirs, name, bytes⟩ = none ∨
                ∃ c, load ⟨ws, includeDirs, systemDirs, name, bytes⟩ = some c ∧
                  c.error = none ∧ (treeDump cfg c).2 = none ∧
                  ∃ r, (checkerRuns cfg (sourceLines bytes) name c.tree).find? CheckerRun.stops = some r ∧
                    r.crash = none)) ∧
        ∀ bytes, ws.open name = .ok bytes →
          (load ⟨ws, includeDirs, systemDirs, name, bytes⟩ = none ↔ readAsOption name) ∧
          inspectFile cfg ws includeDirs systemDirs name =
            loadedReport cfg name bytes (load ⟨ws, includeDirs, systemDirs, name, bytes⟩) := by
  refine ⟨runCommand_of_read read resolved, fun cfg ws includeDirs systemDirs name =>
    ⟨inspectFile_failed_iff cfg ws includeDirs systemDirs name, fun bytes opened => ?_⟩⟩
  refine ⟨load_eq_none_iff _, ?_⟩
  simp only [inspectFile, opened, inspectSource]
  exact inspectLoaded_eq cfg name bytes _

/-- The arguments `--error goto p.c` are read and name known checks, so the
run they start is the inspection of `p.c`. -/
theorem runCommand_checks_goto_source :
    let a : Arguments := { Arguments.initial with
      lists := fun l => if l = .error then some "goto" else none, sources := ["p.c"] }
    let levels : Rule → Option Level := fun c => if c = .gotoStmt then some .error else none
    let s : Setting := ⟨⟨[], [], ⟨∅, ∅⟩, ""⟩, none, true, .fixed []⟩
    readArguments ["--error", "goto", "p.c"] = .read a ∧ a.levels = .ok levels ∧
      runCommand s ["--error", "goto", "p.c"] = inspectionOutcome s a levels :=
  ⟨rfl, rfl, (runCommand_checks_sources _ _ _ _ rfl rfl).1⟩

end CInspect.Inspection
