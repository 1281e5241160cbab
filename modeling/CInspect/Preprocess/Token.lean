import CInspect.Source.File
import CInspect.Lex.Token
/-!
Tokens after preprocessing.

A token knows where its text is spelled: a byte range of a source file, or
of the scratch buffer where tokens made by stringizing, pasting and the
built-in macros are written. A token that a macro expansion produced also
knows where that expansion stands in the file:

* `start`: the first byte of the outermost invocation, which is where the
  token is said to be;
* `stop`: just past the last token of the outermost invocation;
* `fromArgument`: whether the token was substituted for a parameter;
* `reported`: where a message about the token points: the argument as
  written for a substituted token, else the invocation.

The hide set names the macros that may not expand the token again.
-/

namespace CInspect.Preprocess

open CInspect.Source CInspect.Lex

/-- What a `#pragma pack` does to the largest alignment of structure
members: set it (none for no limit), push the current limit and then
set it when a value is given, or pop the last pushed limit and then set
it when a value is given. -/
inductive PackAction where
  | set (limit : Option Nat)
  | push (limit : Option Nat)
  | pop (limit : Option Nat)
deriving Repr, Inhabited, BEq

/-- The limit the actions give, applied in order to an empty stack. -/
def packLimit (actions : List PackAction) : Option Nat :=
  (actions.foldl step (none, [])).1
where
  /-- One action on the current limit and the stack of pushed limits. -/
  step : Option Nat × List (Option Nat) → PackAction → Option Nat × List (Option Nat)
    | (_, stack), .set n => (n, stack)
    | (cur, stack), .push n => (match n with | some v => some v | none => cur, cur :: stack)
    | (cur, stack), .pop n =>
      let (restored, rest) := match stack with
        | top :: more => (top, more)
        | [] => (cur, [])
      (match n with | some v => some v | none => restored, rest)

/-- Where a token produced by a macro expansion stands in the file, and
whether the expansion that produced it last was the body of a
function-like macro. -/
structure Origin where
  start : Loc
  stop : Loc
  fromArgument : Bool
  reported : Loc
  functionBody : Bool := false
deriving Repr, Inhabited, BEq

/-- A preprocessing token. -/
structure PpToken where
  kind : TokenKind
  text : String
  spell : Loc
  len : Nat
  origin : Option Origin := none
  spaceBefore : Bool := false
  hide : List String := []
deriving Repr, Inhabited

/-- Where the token is said to be: its expansion's start, or its spelling. -/
def PpToken.loc (t : PpToken) : Loc :=
  match t.origin with
  | some o => o.start
  | none => t.spell

/-- Where a message about the token points. -/
def PpToken.reportLoc (t : PpToken) : Loc :=
  match t.origin with
  | some o => o.reported
  | none => t.spell

/-- Where a message about the character at byte `offset` of a token's
spelling points: that character when the token is written in the file,
else where the token is said to be. -/
def PpToken.charLoc (t : PpToken) (offset : Nat) : Loc :=
  match t.origin with
  | some _ => t.reportLoc
  | none => t.spell.shift offset

/-- Just past the token's spelling. -/
def PpToken.spellEnd (t : PpToken) : Loc :=
  t.spell.shift t.len

/-- Whether the token is the punctuator `p`. -/
def PpToken.isPunct (t : PpToken) (p : String) : Bool :=
  t.kind == .punctuator && t.text == p

/-- Whether the token is the identifier `s`. -/
def PpToken.isIdent (t : PpToken) (s : String) : Bool :=
  t.kind == .identifier && t.text == s

/-- The token that ends a translation unit. -/
def PpToken.endOfInput (l : Loc) : PpToken :=
  { kind := .unknown, text := "", spell := l, len := 0 }

/-- The place an expansion whose name token is `name` and whose last
token is `last` gives the tokens it produces; `arg` says whether they
stand for a parameter, and `rep` is where messages about them point. -/
def expansionOrigin (name last : PpToken) (arg : Bool) (rep : Loc) : Origin :=
  let start := match name.origin with
    | some o => o.start
    | none => name.spell
  let stop := match last.origin with
    | some o => o.stop
    | none => last.spellEnd
  { start := start, stop := stop, fromArgument := arg, reported := rep }

end CInspect.Preprocess
