import CInspect.Tree.Walk
import CInspect.Check.Level
import CInspect.Indent.LineClass
import CInspect.Indent.LineSet
/-!
The tabs-and-spaces check.

Every source line is classified by its indentation (`Indent.classify`),
numbering the lines from 0. A line indented with a mixture of tabs and
spaces is reported for the whole file. Otherwise the first function whose
lines, from the line of its start to the line of its end (numbered as the
tree numbers them, from 1), include both a line indented with tabs and a
line indented with spaces is reported, with both sets of lines. Supplied
code indented one way and a student's own code indented the other way is
thus not reported, unless one function mixes them.
-/

namespace CInspect.Check

open CInspect.Tree CInspect.Indent

/-- The numbers, counted from 0, of the lines with indentation class `k`. -/
def linesOfClass (lines : List String) (k : LineClass) : List Int :=
  ((List.range lines.length).zip lines).filterMap (fun (i, l) =>
    if classify l = some k then some (i : Int) else none)

/-- The members of `xs` within a function's line range. -/
def withinLines (f : Node) (xs : List Int) : List Int :=
  xs.filter (fun i => (f.extent.start.line : Int) ≤ i ∧ i ≤ f.extent.stop.line)

/-- The report of the first function that mixes tab and space indentation. -/
def mixingFunction (file : String) (tabbed spaced : List Int) : List Node → Option (List String)
  | [] => none
  | f :: fs =>
    let t := withinLines f tabbed
    let s := withinLines f spaced
    if t.isEmpty ∨ s.isEmpty then mixingFunction file tabbed spaced fs
    else some [s!"{file}: warning: function {f.spelling} is indented with a mixture of tabs and spaces:",
      s!"\t{describeLines t} indented with tabs", s!"\t{describeLines s} indented with spaces"]

/-- The tabs-and-spaces check: printed lines and levels. -/
def checkMixing (cfg : Config) (lines : List String) (file : String) (root : Node) :
    List String × List Level :=
  match cfg.level .indenting with
  | none => ([], [])
  | some lvl =>
    let extra := if cfg.mixedIndentingText = "" then [] else [cfg.mixedIndentingText]
    let mixed := linesOfClass lines .mixed
    if !mixed.isEmpty then
      ([s!"{file}: warning: {describeLines mixed} indented with a mixture of tabs and spaces"] ++ extra,
        [lvl])
    else
      match mixingFunction file (linesOfClass lines .tabs) (linesOfClass lines .spaces) root.functions with
      | some out => (out ++ extra, [lvl])
      | none => ([], [])

end CInspect.Check
