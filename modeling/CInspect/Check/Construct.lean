import CInspect.Tree.Walk
import CInspect.Check.Finding
/-!
Checks on single nodes: constructs a course may not permit.

Each node of the same-file walk of a translation unit is tried against each
enabled node check in the order of `Rule.onNodes`. Most checks look at the
node's kind; the comma check finds the operator token; the variable checks
look at where a variable is declared, whether it is static, and whether its
type is const at every level; the library checks look at the file that
declares what a reference names. The malloc check counts calls and reports
every one after the first.

The checks break off at a node whose kind cannot be read, and two of them
at nodes they cannot take apart (`nodeBreakOff?`): the comma check at a
binary operator without two operands, a variable check at a const pointer
that points to no type. After the findings of checks that ran to the end,
the extra text is printed once when a finding is at a "not" level.
-/

namespace CInspect.Tree

/-- The operator of a binary operator node: the first of its tokens that lies
between the end of its left operand and the start of its right operand. -/
def Node.operator? (n : Node) : Option String :=
  match n.children with
  | [l, r] =>
    (n.tokens.find? (fun t => l.extent.stop.le t.extent.start && t.extent.stop.le r.extent.start)).map
      (·.spelling)
  | _ => none

/-- A type that is not const at some level, typedefs resolved. -/
def TypeView.writable (t : TypeView) : Bool :=
  t.constChain.any (· == false)

/-- Whether following a type down its pointers while each level is const
reaches a pointer that points to no type. -/
def TypeView.reachesMissingPointee (t : TypeView) : Bool :=
  t.pointeeMissing && !t.writable

end CInspect.Tree

namespace CInspect.Check

open CInspect.Tree

/-- Whether `needle` occurs in `hay`. -/
def hasInfix (hay needle : String) : Bool :=
  let n := needle.toList
  let rec go : List Char → Bool
    | [] => n.isEmpty
    | c :: cs => n.isPrefixOf (c :: cs) || go cs
  go hay.toList

/-- The calls the malloc check counts. -/
def isAllocation (n : Node) : Bool :=
  n.kind == .callExpr && (n.spelling == "malloc" || n.spelling == "calloc" || n.spelling == "realloc")

/-- A reference to something declared in the system header `path`. -/
def refersInto (path : String) (n : Node) : Bool :=
  n.kind == .declRefExpr && (n.referenced.bind (·.file)) == some path

/-- Whether a variable check follows the type of the variable declared at
visit `v`: the global-variable check for one declared at file scope, the
static-variable check for a static one declared elsewhere, both only for a
name that holds no `debug`. -/
def followsType (c : Rule) (v : Visit) : Bool :=
  v.node.kind == .varDecl && !hasInfix v.node.displayName "debug" &&
    match c with
    | .globalVariable => v.parent == some .translationUnit
    | .staticLocalVariable => v.node.isStatic && v.parent != some .translationUnit
    | _ => false

/-- The message of node check `c` at visit `v`, given the number of
allocation calls seen before; with the new count. -/
def nodeMessage (c : Rule) (v : Visit) (allocs : Nat) : Option String × Nat :=
  let n := v.node
  let kindIs (k : Kind) (what : String) := ((if n.kind = k then some (what ++ " used") else none), allocs)
  match c with
  | .array => (if n.kind = .varDecl ∧ n.type.spelling.contains '[' then some "array used" else none, allocs)
  | .breakStmt => kindIs .breakStmt "break statement"
  | .comma => (if n.kind = .binaryOperator ∧ n.operator? = some "," then some "comma operator used" else none, allocs)
  | .continueStmt => kindIs .continueStmt "continue statement"
  | .doWhile => kindIs .doStmt "do while statement"
  | .globalVariable =>
    (if followsType .globalVariable v ∧ n.type.writable then
      some s!"variable '{n.displayName}' is a global variable" else none, allocs)
  | .gotoStmt => kindIs .gotoStmt "goto statement"
  | .multipleMalloc =>
    if isAllocation n then (if allocs + 1 > 1 then some "malloc called" else none, allocs + 1)
    else (none, allocs)
  | .nonCharArray =>
    (if n.kind = .varDecl ∧ n.type.spelling.contains '[' ∧ ¬ hasInfix n.type.spelling "char" then
      some "non-char array used" else none, allocs)
  | .staticLocalVariable =>
    (if followsType .staticLocalVariable v ∧ n.type.writable then
      some s!"variable '{n.displayName}' is a static variable" else none, allocs)
  | .stringLibrary => (if refersInto "/usr/include/string.h" n then some "string.h used" else none, allocs)
  | .switchStmt => kindIs .switchStmt "switch statement"
  | .ternary => kindIs .conditionalOperator "ternary 'if' ?:"
  | .unionDecl => kindIs .unionDecl "union"
  | .unistdLibrary => (if refersInto "/usr/include/unistd.h" n then some "unistd.h used" else none, allocs)
  | .assignGetcharChar | .indenting | .integerAsciiCode => (none, allocs)

/-- Why node check `c` breaks off at visit `v`, if it does: the comma check
takes the two operands of a binary operator to find its operator, and a
variable check follows the type of a variable down its const pointers. -/
def nodeBreakOff? (c : Rule) (v : Visit) : Option BreakOff :=
  match c with
  | .comma =>
    if v.node.kind = .binaryOperator ∧ v.node.children.length ≠ 2 then
      some (.operands v.node.children.length)
    else none
  | .globalVariable | .staticLocalVariable =>
    if followsType c v ∧ v.node.type.reachesMissingPointee then some .noPointee else none
  | _ => none

/-- The findings of the enabled node checks among `cs` at one visit, in
order, threading the allocation count, up to the first of them that breaks
off there; and why it did, if one did. -/
def checksAt (cfg : Config) (v : Visit) : List Rule → Nat → List Finding × Nat × Option BreakOff
  | [], allocs => ([], allocs, none)
  | c :: cs, allocs =>
    match cfg.level c with
    | none => checksAt cfg v cs allocs
    | some lvl =>
      match nodeBreakOff? c v with
      | some why => ([], allocs, some why)
      | none =>
        let here := nodeMessage c v allocs
        let rest := checksAt cfg v cs here.2
        ((here.1.map fun m => (⟨v.node, m, lvl, lvl⟩ : Finding)).toList ++ rest.1, rest.2)

/-- The findings of the enabled node checks at one visit, in check order,
threading the allocation count, and why a check broke off there, if one
did. -/
def visitFindings (cfg : Config) (v : Visit) (allocs : Nat) : List Finding × Nat × Option BreakOff :=
  checksAt cfg v Rule.onNodes allocs

/-- Whether any node check is enabled. -/
def anyNodeCheck (cfg : Config) : Bool :=
  Rule.onNodes.any fun c => (cfg.level c).isSome

/-- The findings of the node checks over a walk, in order, and why the walk
broke off, if it did: every node check asks for the kind of each node, so
a node whose kind cannot be read ends the walk when a check is enabled,
and a check that breaks off at a node ends it after the findings of the
checks before it there. -/
def walkFindings (cfg : Config) : List Visit → Nat → List Finding × Option BreakOff
  | [], _ => ([], none)
  | v :: vs, allocs =>
    match breakOffAt? v.node.kind, anyNodeCheck cfg with
    | some h, true => ([], some h)
    | _, _ =>
      let here := visitFindings cfg v allocs
      match here.2.2 with
      | some h => (here.1, some h)
      | none =>
        let rest := walkFindings cfg vs here.2.1
        (here.1 ++ rest.1, rest.2)

/-- The findings of the node checks on the translation unit `root`, and
why they broke off, if they did. -/
def constructFindings (cfg : Config) (root : Node) : List Finding × Option BreakOff :=
  walkFindings cfg root.sameFileNodes 0

/-- What the node checks print and return, given their findings and why
they broke off: the printed lines, the levels of the findings, in order,
and the halt; the extra text follows only checks that ran to the end. -/
def constructsReport (cfg : Config) (lines : List String) (found : List Finding × Option BreakOff) :
    List String × List Level × Option BreakOff :=
  let (fs, halt) := found
  let levels := fs.map (·.level)
  let extra :=
    if halt.isNone ∧ cfg.extraText ≠ "" ∧ (levels.contains .notPermitted || levels.contains .notRecommended) then
      [cfg.extraText] else []
  ((fs.map (·.render cfg lines)).flatten ++ extra, levels, halt)

/-- The node checks on a translation unit. -/
def checkConstructs (cfg : Config) (lines : List String) (root : Node) :
    List String × List Level × Option BreakOff :=
  constructsReport cfg lines (constructFindings cfg root)

end CInspect.Check
