import CInspect.Parse.Node
import CInspect.Types.Convert
/-!
Jumps into protected scopes.

A declaration of a variably modified type (an array whose size is computed
when the program runs, or a type built on one) allocates storage when it is
reached, so its scope may not be entered except through the declaration
itself. The same holds for the inside of a statement expression. A `goto`
whose label lies in such a scope that the `goto` is not already in, and a
`switch` whose case label lies in one that the `switch` is not in, are
errors.

The scopes a point of a function body is in are the protected
declarations that come before it in the blocks around it, and the
statement expressions around it; `jumpEvents` lists the jumps and their
targets of a body in source order with those scopes, and `jumpError`
finds the first jump that enters a scope. The jumps are checked in source
order; the cases of one `switch` from the last to the first.
-/

namespace CInspect.Parse

open CInspect.Types

/-- Something a function body holds that takes part in jumps, with the
scopes it is in, each named by the token that opens it. -/
inductive JumpEvent where
  | goto (label : String) (tok : Nat) (scopes : List Nat)
  | label (name : String) (tok : Nat) (scopes : List Nat)
  | switchStart (tok : Nat) (scopes : List Nat)
  | switchCase (tok : Nat) (scopes : List Nat)
  | switchEnd
deriving Inhabited

/-- The scopes a statement opens for the statements after it: one for each
declaration of a variably modified type it declares. -/
def Built.protectedScopes (n : Built) : List Nat :=
  if n.kind == .declStmt then
    (n.children.filter fun c =>
      (c.kind == .varDecl || c.kind == .typedefDecl) &&
        (c.ty.map fun t => match t with
          | .typedef _ target _ => c.kind == .typedefDecl && target.variablyModified
          | t => t.variablyModified).getD false).map (·.locTok)
  else []

/-- The name of the label a `goto` names. -/
def gotoTarget (children : List Built) : String :=
  match children.find? (·.kind == .labelRef) with
  | some r => r.spelling
  | none => ""

mutual

/-- The jump events of a node and what it holds, in source order; `scopes`
are the protected scopes the node is in. -/
def jumpEvents (scopes : List Nat) : Built → List JumpEvent
  | ⟨kind, spelling, _, _, first, _, _, _, _, _, _, _, _, _, _, _, _, _, _, _, children⟩ =>
    let here : List JumpEvent := match kind with
      | .gotoStmt => [.goto (gotoTarget children) first scopes]
      | .labelStmt => [.label spelling first scopes]
      | .switchStmt => [.switchStart first scopes]
      | .caseStmt | .defaultStmt => [.switchCase first scopes]
      | _ => []
    let inner := if kind == .stmtExpr then first :: scopes else scopes
    here ++ childJumpEvents inner children ++ (if kind == .switchStmt then [.switchEnd] else [])

/-- The jump events of a sequence of children: each protected declaration
among them puts the children after it in its scope. -/
def childJumpEvents (scopes : List Nat) : List Built → List JumpEvent
  | [] => []
  | c :: cs => jumpEvents scopes c ++ childJumpEvents (c.protectedScopes.reverse ++ scopes) cs

end

/-- Whether a jump from a point in `from` scopes to one in `to` scopes
enters a scope. -/
def entersScope (src dst : List Nat) : Bool := dst.any (!src.contains ·)

/-- The cases of the `switch` whose events follow, up to its end, leaving
out those of nested `switch` statements, last first. -/
def switchCases (events : List JumpEvent) : List (Nat × List Nat) :=
  let step := fun (acc : Nat × List (Nat × List Nat) × Bool) (e : JumpEvent) =>
    let (depth, found, done) := acc
    if done then acc else
    match e with
    | .switchStart _ _ => (depth + 1, found, false)
    | .switchEnd => if depth == 0 then (0, found, true) else (depth - 1, found, false)
    | .switchCase tok sc => (depth, if depth == 0 then (tok, sc) :: found else found, false)
    | _ => acc
  (events.foldl step (0, [], false)).2.1

/-- The first jump of a function body that enters a protected scope: the
token it is reported at and the message. -/
def jumpError (events : List JumpEvent) : Option (Nat × String) :=
  let labels := events.filterMap fun e => match e with
    | .label name _ sc => some (name, sc)
    | _ => none
  let rec go : List JumpEvent → Option (Nat × String)
    | [] => none
    | e :: rest =>
      match e with
      | .goto name tok sc =>
        match labels.find? (·.1 == name) with
        | some (_, dst) =>
          if entersScope sc dst then some (tok, "cannot jump from this goto statement to its label")
          else go rest
        | none => go rest
      | .switchStart _ sc =>
        match (switchCases rest).find? (fun (_, dst) => entersScope sc dst) with
        | some (tok, _) => some (tok, "cannot jump from switch statement to this case label")
        | none => go rest
      | _ => go rest
  go events

end CInspect.Parse
