import CInspect.Tree.Objects
import CInspect.Check.Level
import CInspect.Indent.LineSet
/-!
The body indentation check.

A body is a compound statement owned by a function, an `if`, a `while` or a
`for`; the owner of a body in an `else if` chain is the first `if` of the
chain. Each statement of a body is expected one unit deeper than its owner,
and the closing brace at the owner's depth. For every line that starts a
statement of a body, or holds a body's closing brace, the first such item
records (`Indent`) its absolute indentation, its indentation relative to
the owner, its depth and its owner.

A function's unit is its most frequent positive relative indentation, ties
going to the one recorded first; a function with fewer than two different
positive relative indentations is not judged. A line is incorrectly
indented when its absolute indentation differs from depth times unit. For
each such line the owner's lines are shown, with small gaps filled
(`Indent.expandShown`), incorrect lines marked with `*`.

The walk writes each node's parent into the node, and finds the owner of an
`else if` body by following these attributes up (`indentOn`, over the
attributes `Marks`); `indentItems` is the same walk with the ancestors
carried down instead.
-/

namespace CInspect.Check

open CInspect.Tree CInspect.Indent

/-- What is recorded for a line of a body. -/
structure Indent where
  absolute : Int
  relative : Int
  depth : Nat
  ownerStart : Nat
  ownerStop : Nat

/-- The statements that own a body. -/
def ownsBody (k : Kind) : Bool :=
  k == .ifStmt || k == .whileStmt || k == .forStmt || k == .functionDecl

/-- The owner of a body whose parent is `p`, with `up` the ancestors of `p`,
nearest first: `p`, walked up while its parent is an `if`. -/
def chainOwner (p : Node) : List Node → Node
  | [] => p
  | a :: rest => if a.kind = .ifStmt then chainOwner a rest else p

/-- The indent of an item at column `col` of a body owned by `o` at `depth`. -/
def Indent.at (o : Node) (col : Int) (depth : Nat) (shift : Int) : Indent :=
  ⟨col - 1 + shift, col - o.extent.start.col + shift, depth, o.extent.start.line, o.extent.stop.line⟩

mutual
/-- The recorded items under `n`, reached with ancestors `up` (nearest
first) at body depth `depth`, in order: a line number and its indent. -/
def indentItems (up : List Node) (depth : Nat) : Node → List (Nat × Indent)
  | n@⟨_, _, _, _, _, _, _, _, _, _, children⟩ =>
  if n.kind = .compoundStmt then
    match up with
    | [] => []
    | p :: above =>
      if ownsBody p.kind then
        let o := chainOwner p above
        bodyItems o (n :: up) depth children ++
          [(n.extent.stop.line, Indent.at o n.extent.stop.col depth (-1))]
      else []
  else sameFileItems n.fileKey (n :: up) depth children
termination_by structural n => n

/-- The items of the statements `cs` of a body owned by `o` at `depth`. -/
def bodyItems (o : Node) (up : List Node) (depth : Nat) : List Node → List (Nat × Indent)
  | [] => []
  | c :: cs =>
    (c.extent.start.line, Indent.at o c.extent.start.col (depth + 1) 0) ::
      (indentItems up (depth + 1) c ++ bodyItems o up depth cs)
termination_by structural cs => cs

/-- The items under the children `cs` that are in the file named `key`. -/
def sameFileItems (key : String) (up : List Node) (depth : Nat) : List Node → List (Nat × Indent)
  | [] => []
  | c :: cs =>
    (if c.fileKey = key then indentItems up depth c else []) ++ sameFileItems key up depth cs
termination_by structural cs => cs
end

/-- The entries whose line is not in `seen` and not taken by an earlier
entry: the first entry for each line, in the order lines first occur. -/
def firstPerLine {α : Type} (seen : List Nat) : List (Nat × α) → List (Nat × α)
  | [] => []
  | (l, i) :: rest =>
    if seen.contains l then firstPerLine seen rest else (l, i) :: firstPerLine (l :: seen) rest

/-- Count the values of a list, in the order values first occur. -/
def countValues (xs : List Int) : List (Int × Nat) :=
  xs.foldl (fun acc x =>
    if acc.any (·.1 = x) then acc.map (fun (v, k) => if v = x then (v, k + 1) else (v, k))
    else acc ++ [(x, 1)]) []

/-- The counts ordered by count, most frequent first, ties in first-seen order. -/
def byFrequency (counts : List (Int × Nat)) : List (Int × Nat) :=
  counts.mergeSort (fun a b => a.2 ≥ b.2)

/-- A tally as it is shown in a debug line. -/
def showCounts (counts : List (Int × Nat)) : String :=
  if counts.isEmpty then "Counter()"
  else "Counter(\x7b" ++ ", ".intercalate ((byFrequency counts).map (fun (v, k) => s!"{v}: {k}")) ++
    "\x7d)"

/-- Sort line entries by line. -/
def sortByLine (xs : List (Nat × Indent)) : List (Nat × Indent) :=
  xs.mergeSort (fun a b => a.1 ≤ b.1)

/-- What judging one function gives: debug and report lines, its entries with
their expected indentation, and the lines to show. -/
structure FunctionLayout where
  out : List String
  entries : List (Nat × Indent × Int)
  shown : List Int

/-- Judge the indentation of one function definition, given the items its
walk records. -/
def judgeItems (cfg : Config) (file : String) (recorded : List (Nat × Indent)) : FunctionLayout :=
  let items := firstPerLine [] recorded
  let counts := countValues ((items.map (·.2.relative)).filter (· > 0))
  let debug := if cfg.debug > 0 then ["indent_counts " ++ showCounts counts] else []
  match byFrequency counts with
  | (unit, _) :: _ :: _ =>
    let sorted := sortByLine items
    let entries := sorted.map (fun (l, i) => (l, i, (i.depth : Int) * unit))
    let wrong := entries.filter (fun (_, i, c) => i.absolute ≠ c)
    let report := if cfg.highlight then [] else
      wrong.map (fun (l, i, c) => s!"{file}:{l} indented {i.absolute} should be {c}")
    let shown := wrong.flatMap (fun (_, i, _) => intRange i.ownerStart (i.ownerStop + 1))
    ⟨debug ++ report, entries, shown⟩
  | _ => ⟨debug, [], []⟩

/-- Judge the indentation of one function definition. -/
def judgeFunction (cfg : Config) (file : String) (f : Node) : FunctionLayout :=
  judgeItems cfg file (indentItems [] 0 f)

/-- A listing line number, right-aligned in six columns. -/
def lineNumberText (n : Int) : String :=
  let s := toString n
  String.ofList (List.replicate (6 - s.length) ' ') ++ s

/-- A source line as listed: marked with `*` when incorrectly indented, and
padded to its expected indentation. -/
def listedLine (entry : Option (Indent × Int)) (line : String) : String :=
  match entry with
  | some (i, c) =>
    let pad := String.ofList (List.replicate (c.toNat - line.length) ' ')
    (if i.absolute = c then "  " else "* ") ++ line ++ pad
  | none => "  " ++ line

/-- The source line a listing number names, counting negative positions
from the end, as list positions may be given. -/
def lineAt? (lines : List String) (n : Int) : Option String :=
  if n ≥ 1 then lines[(n - 1).toNat]?
  else if (lines.length : Int) + n - 1 ≥ 0 then lines[((lines.length : Int) + n - 1).toNat]?
  else none

/-- The listing lines for the numbers `ns` after line `last`; stops, with
`false`, at a number that names no source line. -/
def listing (lines : List String) (entries : List (Nat × Indent × Int)) :
    Int → List Int → List String × Bool
  | _, [] => ([], true)
  | last, n :: ns =>
    let gap := if last ≠ 0 ∧ n > last + 5 then ["......"] else []
    match lineAt? lines n with
    | none => (gap, false)
    | some line =>
      let entry := if n ≥ 0 then (entries.find? (·.1 = n.toNat)).map (·.2) else none
      let (rest, ok) := listing lines entries n ns
      (gap ++ [lineNumberText n ++ listedLine entry line] ++ rest, ok)

mutual
/-- The number of the first kind that cannot be read among the nodes the
check asks the kind of under `n`, walking as `indentItems` does. -/
def unreadableIn (up : List Node) : Node → Option Nat
  | n@⟨k, _, _, _, _, _, _, _, _, _, children⟩ =>
  match k with
  | .unreadableAttr c => some c
  | _ =>
    if k = .compoundStmt then
      match up with
      | [] => none
      | p :: _ => if ownsBody p.kind then unreadableAmong (n :: up) none children else none
    else unreadableAmong (n :: up) (some n.fileKey) children
termination_by structural n => n

/-- The same among the children `cs`, those in the file named `key` when
one is given. -/
def unreadableAmong (up : List Node) (key : Option String) : List Node → Option Nat
  | [] => none
  | c :: cs =>
    let here := if key.all (c.fileKey = ·) then unreadableIn up c else none
    here.orElse fun _ => unreadableAmong up key cs
termination_by structural cs => cs
end

/-- The outcome of the body indentation check: printed lines, levels,
whether the listing ran past the source, and the number of a kind that
could not be read, where that broke the check off. -/
structure LayoutOutcome where
  out : List String
  levels : List Level
  complete : Bool
  unreadable : Option Nat

/-- The body indentation check over the function definitions `fns`, given
what judging each of them gives. It asks for the kind of the nodes of each
function in turn; one that cannot be read ends the check after the lines of
the functions before it. -/
def layoutOf (cfg : Config) (lines : List String) (file : String) (lvl : Level) (fns : List Node)
    (judged : List FunctionLayout) : LayoutOutcome :=
  match fns.findIdx? (fun f => (unreadableIn [] f).isSome) with
  | some k => ⟨(judged.take k).flatMap (·.out), [], true, (fns[k]?).bind (unreadableIn [])⟩
  | none =>
    let out := judged.flatMap (·.out)
    let entries := firstPerLine [] (judged.flatMap (·.entries))
    let shown := sortedMembers (judged.flatMap (·.shown))
    if shown.isEmpty then ⟨out, [], true, none⟩
    else if cfg.highlight then
      let header := [s!"{file}: warning: some lines are not consistently indented."] ++
        (if cfg.colorize then
          ["Incorrectly indented lines are marked with an *. The correct indent is shown in red.",
            "Correctly indented lines are shown in green."]
        else ["Incorrectly indented lines are marked with an *."])
      let (body, ok) := listing lines entries 0 (expandShown lines.length shown)
      ⟨out ++ header ++ body, [lvl], ok, none⟩
    else ⟨out, [lvl], true, none⟩

/-- The body indentation check over all function definitions. -/
def checkLayout (cfg : Config) (lines : List String) (file : String) (root : Node) :
    LayoutOutcome :=
  match cfg.level .indenting with
  | none => ⟨[], [], true, none⟩
  | some lvl => layoutOf cfg lines file lvl root.functions (root.functions.map (judgeFunction cfg file))

/-! ### The walk over the attributes of the nodes -/

/-- The owner of a body whose parent is the node `q`: `q`, walked up through
the parent attributes while they lead to an `if`. -/
def chainOwnerOn (a : Marks) (q : Obj) : Obj :=
  match _up : a.parent q.place with
  | some g => if g.node.kind = .ifStmt then chainOwnerOn a g else q
  | none => q
termination_by q.place.length
decreasing_by exact a.parent_above _ _ _up

mutual
/-- The recorded items under the node `n` at place `p`, reached from `par`
at body depth `depth`, and the attributes the walk leaves: it sets the
parent of every node it enters, and finds the owner of a body through the
parent attributes. -/
def indentOn (a : Marks) (p : Place) (par : Option Obj) (depth : Nat)
    (above : ∀ o, par = some o → o.place.length < p.length) : Node → List (Nat × Indent) × Marks
  | n@⟨_, _, _, _, _, _, _, _, _, _, children⟩ =>
  let a' := a.setParent p par above
  if n.kind = .compoundStmt then
    match par with
    | none => ([], a')
    | some q =>
      if ownsBody q.node.kind then
        let o := (chainOwnerOn a' q).node
        let body := bodyOn a' o ⟨p, n⟩ depth 0 children
        (body.1 ++ [(n.extent.stop.line, Indent.at o n.extent.stop.col depth (-1))], body.2)
      else ([], a')
  else sameFileOn a' ⟨p, n⟩ n.fileKey depth 0 children
termination_by structural n => n

/-- The items of the statements `cs` of the body `self` owned by `o` at
`depth`, the first of them its child number `j`. -/
def bodyOn (a : Marks) (o : Node) (self : Obj) (depth j : Nat) : List Node → List (Nat × Indent) × Marks
  | [] => ([], a)
  | c :: cs =>
    let inner := indentOn a (self.place ++ [j]) (some self) (depth + 1) (self.above_child j) c
    let rest := bodyOn inner.2 o self depth (j + 1) cs
    ((c.extent.start.line, Indent.at o c.extent.start.col (depth + 1) 0) :: (inner.1 ++ rest.1), rest.2)
termination_by structural cs => cs

/-- The items under the children `cs` of `self` that are in the file named
`key`, the first of them its child number `j`. -/
def sameFileOn (a : Marks) (self : Obj) (key : String) (depth j : Nat) :
    List Node → List (Nat × Indent) × Marks
  | [] => ([], a)
  | c :: cs =>
    let here := if c.fileKey = key then indentOn a (self.place ++ [j]) (some self) depth (self.above_child j) c
      else ([], a)
    let rest := sameFileOn here.2 self key depth (j + 1) cs
    (here.1 ++ rest.1, rest.2)
termination_by structural cs => cs
end

/-- The body indentation check on a tree whose nodes hold the attributes
`a`, and the attributes it leaves: each function definition is walked from
its place with no parent. -/
def checkLayoutOn (cfg : Config) (lines : List String) (file : String) (root : Node) (a : Marks) :
    LayoutOutcome × Marks :=
  match cfg.level .indenting with
  | none => (⟨[], [], true, none⟩, a)
  | some lvl =>
    let recorded := root.eachFunctionOn (fun a p above n => indentOn a p none 0 above n) a
    (layoutOf cfg lines file lvl root.functions (recorded.1.map (judgeItems cfg file)), recorded.2)

end CInspect.Check
