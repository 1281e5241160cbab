import CInspect.Workload.Trees
import CInspect.Check.Construct
import CInspect.Check.CharInput
import CInspect.Check.Mixing
import CInspect.Check.Layout
import CInspect.Tree.Dump
import CInspect.Tree.Objects
/-!
Running checks on a sample tree.

A session builds a sample of `n` parts (`0 ≤ n ≤ 2000`), edits some of its
source lines, and runs a list of steps on it in order: the four checks, a
dump of the tree, or the list of its function definitions. Each step gives
a result, and all steps print to one transcript. A step that is not known,
or a listing that runs past the source, stops the session; the results of
the steps before it stay.

The steps run on the same nodes: the walks of the checks and of the dump
write each node's parent and depth into the node (`Marks`), and a step
finds in the nodes what the steps before it left there. A session starts
on nodes no walk has been through.
-/

namespace CInspect.Workload

open CInspect.Tree CInspect.Check

/-- The sample trees. -/
inductive Sample where
  | constructs
  | charInput
  | nesting
  | mixedIndent
deriving DecidableEq, Repr

/-- The sample a name stands for. -/
def Sample.ofName? : String → Option Sample
  | "syntax_tree" => some .constructs
  | "expression_funcs" => some .charInput
  | "indent_funcs" => some .nesting
  | "tabs_funcs" => some .mixedIndent
  | _ => none

/-- The tree and source lines of a sample of `n` parts. -/
def Sample.build : Sample → Nat → Node × List String
  | .constructs, n => constructsTree n
  | .charInput, n => charInputTree n
  | .nesting, n => nestingTree n
  | .mixedIndent, n => mixedIndentTree n

/-- The steps a session can run. -/
inductive Step where
  | constructs
  | charInput
  | mixing
  | layout
  | dump
  | functions
deriving DecidableEq, Repr

/-- The step a name stands for. -/
def Step.ofName? : String → Option Step
  | "check_syntax_tree" => some .constructs
  | "check_file_expressions" => some .charInput
  | "check_tabs_spaces_mixed" => some .mixing
  | "check_body_indents" => some .layout
  | "print_ast" => some .dump
  | "get_functions" => some .functions
  | _ => none

/-- The result of a step: levels of findings, nothing, or names. -/
inductive StepResult where
  | levels (ls : List Level)
  | nothing
  | names (ns : List String)

/-- Why a session stopped early. -/
inductive Halt where
  | unknownStep (name : String)
  | pastSource
  /-- A check broke off, for the reason `why`. -/
  | brokenOff (why : BreakOff)

/-- What a session gives: the results of the steps that finished, the
printed lines, and why it stopped, if it did. -/
structure Transcript where
  results : List StepResult
  out : List String
  halt : Option Halt

/-- Run one step on the tree as the steps before left its nodes: its
printed lines and result, why it stopped early, if it did, and the
attributes it leaves in the nodes. -/
def runStep (cfg : Config) (file : String) (root : Node) (lines : List String) (a : Marks) :
    Step → (List String × StepResult × Option Halt) × Marks
  | .constructs =>
    let walk := root.walkOn a [] none 0 (Obj.none_above [])
    let report := constructsReport cfg lines (walkFindings cfg walk.1 0)
    ((report.1, .levels report.2.1, none), walk.2)
  | .charInput =>
    let walks := root.functionWalksOn a
    let report := charInputReport cfg lines (walksCharFindings cfg walks.1)
    ((report.1, .levels report.2.1, report.2.2.map .brokenOff), walks.2)
  | .mixing =>
    let report := checkMixing cfg lines file root
    ((report.1, .levels report.2, none), a)
  | .layout =>
    let r := checkLayoutOn cfg lines file root a
    ((r.1.out, .levels r.1.levels, if r.1.complete then none else some .pastSource), r.2)
  | .dump =>
    let walk := root.walkOn a [] none 0 (Obj.none_above [])
    ((walk.1.map Visit.dumpLine, .nothing, none), walk.2)
  | .functions => (([], .names (root.functions.map (·.spelling)), none), a)

/-- Run the named steps in order, each on the nodes as the one before left
them. -/
def runSteps (cfg : Config) (file : String) (root : Node) (lines : List String) (a : Marks) :
    List String → Transcript
  | [] => ⟨[], [], none⟩
  | name :: rest =>
    match Step.ofName? name with
    | none => ⟨[], [], some (.unknownStep name)⟩
    | some step =>
      match runStep cfg file root lines a step with
      | ((o, r, none), a') =>
        let t := runSteps cfg file root lines a' rest
        ⟨r :: t.results, o ++ t.out, t.halt⟩
      | ((o, _, some h), _) => ⟨[], o, some h⟩

/-- Replace line `i` of `lines` by `text`, counting a negative `i` from the
end; none when `i` names no line. -/
def replaceLine (lines : List String) (i : Int) (text : String) : Option (List String) :=
  let j := if i < 0 then i + lines.length else i
  if 0 ≤ j ∧ j < lines.length then some (lines.set j.toNat text) else none

/-- Apply line edits in order. -/
def applyEdits (lines : List String) : List (Int × String) → Option (List String)
  | [] => some lines
  | (i, text) :: rest => (replaceLine lines i text).bind (applyEdits · rest)

/-- Why a session could not start. -/
inductive SetupError where
  | partsOutOfRange
  | editOutOfRange

/-- A session: build the sample with `n` parts, apply the edits, and run the
steps on it. -/
def session (sample : Sample) (n : Int) (edits : List (Int × String)) (cfg : Config)
    (file : String) (steps : List String) : Except SetupError Transcript :=
  if n < 0 ∨ n > 2000 then .error .partsOutOfRange
  else
    let (root, lines) := sample.build n.toNat
    match applyEdits lines edits with
    | none => .error .editOutOfRange
    | some lines' => .ok (runSteps cfg file root lines' .blank steps)

end CInspect.Workload
