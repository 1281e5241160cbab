import CInspect.Inspection.Toolchain
import CInspect.CommandLine.Options
import CInspect.CommandLine.Help
/-!
The command: read the arguments, then inspect each C source file named.

Asking for help prints the help text; arguments that cannot be read print
the usage and the reason, with exit status 2; a check name that does not
exist prints it with the list of valid names, with exit status 1. Otherwise
every argument ending in `.c` is inspected in order, and the exit status is
1 when one of them failed and 0 when none did.

Colour is on when asked for on the command line, or, failing that, when
the environment gives a non-empty default; it is off when the library for
coloured text is missing.
-/

namespace CInspect.Inspection

open CInspect.Source CInspect.Check CInspect.CommandLine

/-- What a run is given besides its arguments. -/
structure Setting where
  workspace : Workspace
  /-- The environment's default for colour, if it gives one. -/
  colorDefault : Option String
  /-- Whether the library for coloured text can be loaded. -/
  colorAvailable : Bool
  toolchain : Toolchain

/-- What a run prints, and its exit status, or the exception that ended
it. -/
structure Outcome where
  out : String
  err : String
  result : Except Crash Nat

/-- Lines as printed text, each ended by a line feed. -/
def printed (ls : List String) : String :=
  String.join (ls.map (· ++ "\n"))

/-- The message for a check name that does not exist. -/
def invalidCheckText (name : String) : String :=
  let valid := " ".intercalate (Rule.all.map Rule.name)
  printed [s!"Invalid checker: '{name}'", "", s!"Valid checks are: {valid}", ""]

/-- The settings of the checks that the arguments give. -/
def checkConfig (a : Arguments) (levels : Rule → Option Level) (colorize : Bool) : Config :=
  { level := levels, whereText := a.whereText.getD "", extraText := a.extraText.getD "",
    mixedIndentingText := a.mixedIndentingText.getD "", highlight := a.highlight,
    colorize := colorize, debug := a.debug }

/-- Inspect the files in order; a crash stops. Gives what was printed and
whether a file failed. -/
def inspectAll (cfg : Config) (ws : Workspace) (includeDirs systemDirs : List String) :
    List String → String × String × Except Crash Bool
  | [] => ("", "", .ok false)
  | f :: fs =>
    let r := inspectFile cfg ws includeDirs systemDirs f
    let here := (printed r.out ++ r.rest, printed r.err)
    match r.verdict with
    | .crashed c => (here.1, here.2, .error c)
    | v =>
      let (o, e, rest) := inspectAll cfg ws includeDirs systemDirs fs
      let failed := match v with
        | .failed => true
        | _ => false
      (here.1 ++ o, here.2 ++ e, rest.map (failed || ·))

/-- Run the command on its arguments. -/
def runCommand (s : Setting) (argv : List String) : Outcome :=
  match readArguments argv with
  | .help => ⟨helpText, "", .ok 0⟩
  | .failed m => ⟨"", usageText ++ printed [s!"c_check.py: error: {m}"], .ok 2⟩
  | .read a =>
    match a.levels with
    | .error name => ⟨"", invalidCheckText name, .ok 1⟩
    | .ok levels =>
      let asked := a.colorize.getD (s.colorDefault.any (!·.isEmpty))
      let cfg := checkConfig a levels (asked && s.colorAvailable)
      match s.toolchain.headers s.workspace with
      | .error c => ⟨"", "", .error c⟩
      | .ok h =>
        let sources := a.sources.filter (·.endsWith ".c")
        let (o, e, r) := inspectAll cfg s.workspace a.includeDirs h.systemDirs sources
        ⟨o, printed h.err ++ e, r.map (fun failed => if failed then 1 else 0)⟩

/-- The names a text includes in double quotes, one per directive line. -/
def quotedIncludes (text : String) : List String :=
  (text.splitOn "\n").filterMap fun line =>
    let rest := (line.trimAsciiStart.drop 1).trimAsciiStart
    if line.trimAsciiStart.startsWith "#" && rest.startsWith "include" then
      match ((rest.drop 7).trimAsciiStart.toString.splitOn "\"") with
      | "" :: name :: _ => some name
      | _ => none
    else none

/-- The paths a file named `file` may include a header `name` from: its own
directory, then the include directories. -/
def headerCandidates (includeDirs : List String) (file name : String) : List String :=
  let dir := match (file.splitOn "/").dropLast with
    | [] => ""
    | parts => "/".intercalate parts ++ "/"
  (dir ++ name) :: includeDirs.map (fun d => joinName d name)

end CInspect.Inspection
