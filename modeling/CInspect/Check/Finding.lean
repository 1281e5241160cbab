import CInspect.Tree.Basic
import CInspect.Check.Level
/-!
Findings and how they are printed.

A finding is reported at a node: a first line `file:line:column word:
message`, and, when the node's extent lies on one line of the source and
covers a non-empty run of that line's characters, the line itself with a
caret under the first character and tildes under the rest (`Echo`).

The "not" levels add ` - this is not permitted` or ` - this is not
recommended` to the message, followed by the configured where-text.
-/

namespace CInspect.Check

open CInspect.Tree

/-- Why a check breaks off before its end: it looked through a conversion
that has no child, asked for the kind of a node whose kind cannot be read,
numbered `code`, took the two operands of a binary operator that has
`count` children, read the first token of an integer literal that has
none, asked a reference that refers to no declaration for the
declaration's identity, or followed a pointer that points to no type. -/
inductive BreakOff where
  | noChild
  | unreadableKind (code : Nat)
  | operands (count : Nat)
  | noToken
  | noDeclaration
  | noPointee
deriving DecidableEq, Repr, Inhabited

/-- The halt a node's kind gives a check that asks for it, if any. -/
def breakOffAt? : Tree.Kind → Option BreakOff
  | .unreadableAttr c => some (.unreadableKind c)
  | _ => none

/-- A finding of a check: where, what, the level it is printed with, and the
level it counts as. -/
structure Finding where
  node : Node
  message : String
  shownAs : Level
  level : Level

/-- The sentence a level adds to a message, if any. -/
def Level.addendum (cfg : Config) : Level → String
  | .notPermitted => " - this is not permitted" ++ (if cfg.whereText = "" then "" else " " ++ cfg.whereText)
  | .notRecommended => " - this is not recommended" ++ (if cfg.whereText = "" then "" else " " ++ cfg.whereText)
  | .error | .warning => ""

/-- The source line an extent lies on and the columns it covers there, when
it lies on one line and covers a non-empty run of that line's characters. -/
def echoSpan (lines : List String) (e : Extent) : Option (String × Nat × Nat) :=
  if e.start.line ≠ e.stop.line ∨ e.start.line = 0 then none
  else match lines[e.start.line - 1]? with
    | none => none
    | some line =>
      let a := e.start.col
      let b := e.stop.col
      if a = 0 ∨ b = 0 ∨ a > line.length ∨ b > line.length ∨ a ≥ b then none
      else some (line, a, b)

/-- The caret line under columns `a` (inclusive) to `b` (exclusive). -/
def underline (a b : Nat) : String :=
  String.ofList (List.replicate (a - 1) ' ' ++ '^' :: List.replicate (b - a - 1) '~')

/-- The lines printed for a finding at `n` with `message`, printed as `shownAs`. -/
def report (cfg : Config) (lines : List String) (n : Node) (message : String)
    (shownAs : Level) : List String :=
  let head := s!"{n.location} {shownAs.word}: {message}{shownAs.addendum cfg}"
  match echoSpan lines n.extent with
  | some (line, a, b) => [head, line, underline a b]
  | none => [head]

/-- The lines printed for a finding. -/
def Finding.render (cfg : Config) (lines : List String) (f : Finding) : List String :=
  report cfg lines f.node f.message f.shownAs

theorem underline_length (a b : Nat) (ha : 1 ≤ a) (hab : a < b) :
    (underline a b).length = b - 1 := by
  simp only [underline, String.length_ofList, List.length_append, List.length_replicate,
    List.length_cons]
  omega

end CInspect.Check
