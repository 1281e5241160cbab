import CInspect.Parse.Cursor
import CInspect.Check.Construct
import CInspect.Check.CharInput
import CInspect.Check.Mixing
import CInspect.Check.Layout
import CInspect.Tree.Dump
import CInspect.Text.Lines
import CInspect.Text.Utf8
/-!
Inspecting one source file: compile it, then run the checks on its tree.

The compiler's messages come in the order it raises them. The
preprocessor and the parser each tag a message with how far the token
stream had got: a preprocessor message raised before token `j` was handed
out comes before a parser message raised once token `s` had been read
exactly when `j ≤ s`.

A file the compiler cannot load at all fails and prints nothing; the
compiler cannot load a file whose name it reads as an option. A file with a
compile error is not inspected: the first error is shown, and the file
counts as rejected, which is not a failure. Otherwise the
checks run in a fixed order: the constructs of the tree, the character
input and character code checks, tabs mixed with spaces, and the
indentation of function bodies. The first of them that reports a finding
of a failing level ends the file's inspection.

With debugging on, the messages before the first error are shown too,
and the tree of a file without errors is dumped before the checks run. A
check that breaks off (`BreakOff`) ends the whole run with the exception
it raises (`crashOf`); the dump breaks off too, at a node whose kind
cannot be read.

The checks read the file's text decoded from UTF-8, an ill-formed byte
sequence read as a replacement character, and cut into lines at every
line boundary; the compiler reads the bytes themselves.
-/

namespace CInspect.Inspection

open CInspect.Source CInspect.Preprocess CInspect.Parse CInspect.Check CInspect.Tree CInspect.Text
open CInspect.Language

/-- An exception that ends the whole run: its kind and its message. -/
structure Crash where
  kind : String
  message : String
deriving Repr, Inhabited

/-- How inspecting a file ends. -/
inductive Verdict where
  /-- Every check ran and none failed. -/
  | passed
  /-- The compiler rejected the file; this does not count as a failure. -/
  | rejected
  /-- The file could not be read, or a check failed. -/
  | failed
  /-- The run broke off. -/
  | crashed (c : Crash)
deriving Repr, Inhabited

/-- What inspecting a file prints, and how it ends: lines on standard
output, text written after them without a line end, and lines on standard
error. -/
structure FileReport where
  out : List String
  rest : String
  err : List String
  verdict : Verdict

/-- The exception a check that breaks off raises. -/
def crashOf : BreakOff → Crash
  | .noChild | .noToken => ⟨"StopIteration", ""⟩
  | .unreadableKind c => ⟨"ValueError", s!"Unknown template argument kind {c}"⟩
  | .operands n =>
    ⟨"ValueError", if n < 2 then s!"not enough values to unpack (expected 2, got {n})"
      else "too many values to unpack (expected 2)"⟩
  | .noDeclaration => ⟨"AttributeError", "'NoneType' object has no attribute 'hash'"⟩
  | .noPointee => ⟨"AttributeError", "'NoneType' object has no attribute 'kind'"⟩

/-- The compiler's messages in the order it raises them, from the
preprocessor's and the parser's, each tagged with how far the token stream
had got. -/
def interleave : List (Nat × Diagnostic) → List (Nat × Diagnostic) → List Diagnostic
  | [], ys => ys.map (·.2)
  | xs, [] => xs.map (·.2)
  | (j, d) :: xs, (s, e) :: ys =>
    if j ≤ s then d :: interleave xs ((s, e) :: ys) else e :: interleave ((j, d) :: xs) ys
termination_by xs ys => xs.length + ys.length

/-- The messages before the first error, and that error. -/
def untilError : List Diagnostic → List Diagnostic × Option Diagnostic
  | [] => ([], none)
  | d :: ds =>
    if d.severity.isError then ([], some d)
    else
      let (w, e) := untilError ds
      (d :: w, e)

/-- Where a place stands in the token stream: the index of the first token
given out at or after it in its file. -/
def streamPosition (tokens : Array PpToken) (l : Loc) : Nat :=
  (tokens.findIdx? (fun t => t.loc.file == l.file && t.loc.offset ≥ l.offset)).getD tokens.size

/-- A message as the unit reports it: none for a warning in a system
header, and otherwise with the severity that the `#pragma diagnostic`
directives before its place give it. -/
def settleDiagnostic (pp : Preprocessed) (d : Diagnostic) : Option Diagnostic :=
  match d.loc with
  | none => some d
  | some l =>
    if d.severity == .warning && pp.systemFiles.contains l.file then none
    else if pp.severityActions.isEmpty then some d
    else
      let p := streamPosition pp.tokens l
      underSettings (severitySettings ((pp.severityActions.toList.filter (·.1 ≤ p)).map (·.2))) d

/-- What compiling a file gives: the messages raised before the first
error, that error, and the tree of the file. -/
structure Compiled where
  messages : List String
  error : Option String
  tree : Node

/-- Compile a translation unit. A note belongs to the message before it
and is not listed on its own. -/
def compile (unit : UnitConfig) : Compiled :=
  let pp := preprocess unit
  let parsed := parseUnit pp.tokens pp.files pp.packs pp.systemFiles pp.nullMacro
  let all := ((interleave pp.diags.toList (parsed.warnings.toList ++ parsed.error.toList)).filterMap
    (settleDiagnostic pp)).filter (·.severity != .note)
  let (before, err) := untilError all
  let ctx : TreeContext := ⟨pp.tokens, pp.files, parsed.decls, parsed.tags⟩
  { messages := before.map (·.render pp.files), error := err.map (·.render pp.files),
    tree := ctx.unit mainFile parsed.items }

/-- Whether a finding of one of these levels fails the file. -/
def anyFails (levels : List Level) : Bool :=
  levels.any Level.fails

/-- Run the checks on a compiled tree, in order, up to the first that
fails. -/
def runChecks (cfg : Config) (lines : List String) (file : String) (root : Node) :
    List String × Verdict :=
  let (o1, l1, h1) := checkConstructs cfg lines root
  if let some h := h1 then (o1, .crashed (crashOf h)) else
  if anyFails l1 then (o1, .failed) else
  let (o2, l2, h2) := checkCharInput cfg lines root
  if let some h := h2 then (o1 ++ o2, .crashed (crashOf h)) else
  if anyFails l2 then (o1 ++ o2, .failed) else
  let (o3, l3) := checkMixing cfg lines file root
  if anyFails l3 then (o1 ++ o2 ++ o3, .failed) else
  let layout := checkLayout cfg lines file root
  let out := o1 ++ o2 ++ o3 ++ layout.out
  if let some c := layout.unreadable then (out, .crashed (crashOf (.unreadableKind c))) else
  if !layout.complete then (out, .crashed ⟨"IndexError", "list index out of range"⟩)
  else if anyFails layout.levels then (out, .failed)
  else (out, .passed)

/-- Inspect a file, given its name and bytes, once it is compiled. -/
def inspectCompiled (cfg : Config) (name : String) (bytes : ByteArray) (c : Compiled) : FileReport :=
  let shown := if cfg.debug > 0 then c.messages else []
  match c.error with
  | some e => ⟨shown ++ [e], "", [], .rejected⟩
  | none =>
    let (dumped, stop) := if cfg.debug > 0 then c.tree.dumpAsFar else ([], none)
    match stop with
    | some (indent, code) => ⟨shown ++ dumped, indent, [], .crashed (crashOf (.unreadableKind code))⟩
    | none =>
      let lines := splitLines (String.ofList (decodeUtf8 bytes.toList))
      let (out, verdict) := runChecks cfg lines name c.tree
      ⟨shown ++ dumped ++ out, "", [], verdict⟩

/-- Whether the compiler reads a file's name as an option: the name is
handed to it after the options, so one that starts with `-` is taken for an
option, and the compiler is left with no input file. -/
def readAsOption (name : String) : Bool :=
  name.startsWith "-"

/-- Load a translation unit: none when the compiler cannot load one, which
happens when it reads the file's name as an option. -/
def load (unit : UnitConfig) : Option Compiled :=
  if readAsOption unit.mainName then none else some (compile unit)

/-- Inspect a file, given its name and bytes, once the compiler has tried to
load it: a file it cannot load fails and prints nothing. -/
def inspectLoaded (cfg : Config) (name : String) (bytes : ByteArray) : Option Compiled → FileReport
  | none => ⟨[], "", [], .failed⟩
  | some c => inspectCompiled cfg name bytes c

/-- Inspect a file given its name and bytes, with the include directories
and the system header directories of the run. -/
def inspectSource (cfg : Config) (ws : Workspace) (includeDirs systemDirs : List String)
    (name : String) (bytes : ByteArray) : FileReport :=
  let unit : UnitConfig :=
    { workspace := ws, includeDirs := includeDirs, systemDirs := systemDirs,
      mainName := name, mainBytes := bytes }
  inspectLoaded cfg name bytes (load unit)

/-- Inspect the file at a path: its report, or the reason it cannot be
read. -/
def inspectFile (cfg : Config) (ws : Workspace) (includeDirs systemDirs : List String)
    (name : String) : FileReport :=
  match ws.open name with
  | .error e => ⟨[], "", [e.message (quoteText name)], .failed⟩
  | .ok bytes => inspectSource cfg ws includeDirs systemDirs name bytes

end CInspect.Inspection
