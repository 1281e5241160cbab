import CInspect.Preprocess.Token
import CInspect.Lex.Escape
import CInspect.Source.Diagnostic
/-!
The conditions of `#if` and `#elif`.

A condition is evaluated after its macros are expanded and `defined` is
replaced by 1 or 0. It is an integer expression in the widest integer
type: signed unless an operand is unsigned, 64 bits wide and wrapping.
Identifiers that are left count as 0. `&&`, `||` and `?:` evaluate only the
operands they need, so a division by zero in an operand that is not
evaluated is no error.

Signed arithmetic that leaves the 64-bit range, a negative operand made
unsigned by the other operand, and a decimal constant too large for a
signed type are reported as warnings, but only in operands that are
evaluated.

`evalCondition` gives the warnings, then whether the condition holds or
the message and the place of the first error.
-/

namespace CInspect.Preprocess

open CInspect.Source CInspect.Lex

/-- A value of a condition: an integer in the range of its type. -/
structure CondValue where
  value : Int
  unsigned : Bool
deriving Repr, Inhabited

/-- A value brought into the range of 64-bit integers of its kind. -/
def CondValue.wrap (v : CondValue) : CondValue :=
  let m := v.value % ((Nat.pow 2 64 : Nat) : Int)
  if v.unsigned then ⟨m, true⟩
  else ⟨if m ≥ ((Nat.pow 2 63 : Nat) : Int) then m - ((Nat.pow 2 64 : Nat) : Int) else m, false⟩

/-- The value of a truth. -/
def CondValue.ofBool (b : Bool) : CondValue := ⟨if b then 1 else 0, false⟩

/-- Whether a value counts as true. -/
def CondValue.truth (v : CondValue) : Bool := v.value != 0

/-- An error of a condition: the message and its place. -/
abbrev CondError := String × Loc

/-- The precedence of the token after an operand: that of a binary
operator, then of `?`, `,` and `:`, zero for `)` and for the end of the
line, and none for a token that cannot follow an operand. -/
def followPrecedence : Option PpToken → Option Nat
  | none => some 0
  | some t =>
    if t.kind != TokenKind.punctuator then none
    else match t.text with
      | "*" | "/" | "%" => some 14
      | "+" | "-" => some 13
      | "<<" | ">>" => some 12
      | "<" | ">" | "<=" | ">=" => some 11
      | "==" | "!=" => some 10
      | "&" => some 9
      | "^" => some 8
      | "|" => some 7
      | "&&" => some 6
      | "||" => some 5
      | "?" => some 4
      | "," => some 3
      | ":" => some 2
      | ")" => some 0
      | _ => none

/-- The 64 bits of an integer in two's complement, as a number. -/
def bits (x : Int) : Nat := (x % ((Nat.pow 2 64 : Nat) : Int)).toNat

/-- Evaluation of a condition: the warnings so far, then a result or the
first error. -/
abbrev CondM := ExceptT CondError (StateM (Array Diagnostic))

/-- Record a warning. -/
def condWarn (d : Diagnostic) : CondM Unit := modify (·.push d)

/-- Whether a value fits a signed 64-bit integer. -/
def fitsSigned64 (v : Int) : Bool :=
  -((Nat.pow 2 63 : Nat) : Int) ≤ v && v < ((Nat.pow 2 63 : Nat) : Int)

/-- The bits a non-negative value needs. -/
def bitLength (n : Nat) : Nat := if n = 0 then 0 else Nat.log2 n + 1

/-- A left shift of `x` by `sh`, with whether bits that matter were lost:
for a signed value, any bit that differs from the sign. -/
def shiftLeft (x : Int) (sh : Nat) (unsigned : Bool) : CondValue × Bool :=
  if sh ≥ 64 then (⟨0, unsigned⟩, true)
  else
    let overflow :=
      if unsigned then sh > 64 - bitLength x.toNat
      else if x ≥ 0 then sh ≥ 64 - bitLength x.toNat
      else sh ≥ 64 - bitLength (-x - 1).toNat
    (CondValue.wrap ⟨x * ((Nat.pow 2 sh : Nat) : Int), unsigned⟩, overflow)

/-- Apply a binary operator to two values. `live` says whether the
operation is evaluated. -/
def applyBinary (op : PpToken) (a b : CondValue) (live : Bool) : CondM CondValue := do
  match op.text with
  | "," => return b
  | "||" => return .ofBool (a.truth || b.truth)
  | "&&" => return .ofBool (a.truth && b.truth)
  | "<<" =>
    let sh := if b.value < 0 then 64 else b.value.toNat
    let (r, overflow) := shiftLeft a.value sh a.unsigned
    if overflow && live then condWarn ⟨.warning, some op.reportLoc, "integer overflow in preprocessor expression", none⟩
    return r
  | ">>" =>
    let sh := if b.value < 0 then 64 else b.value.toNat
    let overflow := sh ≥ 64
    let sh := min sh 63
    if overflow && live then condWarn ⟨.warning, some op.reportLoc, "integer overflow in preprocessor expression", none⟩
    return CondValue.wrap ⟨a.value >>> sh, a.unsigned⟩
  | _ =>
    let u := a.unsigned || b.unsigned
    if live && u then
      for (side, v) in [("left", a), ("right", b)] do
        if !v.unsigned && v.value < 0 then
          let shown := v.value + ((Nat.pow 2 64 : Nat) : Int)
          condWarn ⟨.warning, some op.reportLoc,
            s!"{side} side of operator converted from negative value to unsigned: {v.value} to {shown}", none⟩
    let conv (v : CondValue) : Int := (CondValue.wrap ⟨v.value, u⟩).value
    let x := conv a
    let y := conv b
    let checked (v : Int) : CondM CondValue := do
      if !u && !fitsSigned64 v && live then
        condWarn ⟨.warning, some op.reportLoc, "integer overflow in preprocessor expression", none⟩
      return CondValue.wrap ⟨v, u⟩
    match op.text with
    | "|" => return CondValue.wrap ⟨(bits x ||| bits y : Nat), u⟩
    | "^" => return CondValue.wrap ⟨(bits x ^^^ bits y : Nat), u⟩
    | "&" => return CondValue.wrap ⟨(bits x &&& bits y : Nat), u⟩
    | "==" => return .ofBool (x == y)
    | "!=" => return .ofBool (x != y)
    | "<" => return .ofBool (x < y)
    | ">" => return .ofBool (x > y)
    | "<=" => return .ofBool (x ≤ y)
    | ">=" => return .ofBool (x ≥ y)
    | "+" => checked (x + y)
    | "-" => checked (x - y)
    | "*" => checked (x * y)
    | "/" =>
      if y == 0 then
        if live then throw ("division by zero in preprocessor expression", op.reportLoc)
        else return ⟨0, u⟩
      else checked (x.tdiv y)
    | "%" =>
      if y == 0 then
        if live then throw ("remainder by zero in preprocessor expression", op.reportLoc)
        else return ⟨0, u⟩
      else return CondValue.wrap ⟨x.tmod y, u⟩
    | _ => throw ("token is not a valid binary operator in a preprocessor subexpression", op.reportLoc)

/-- The value of a character constant in a condition: its code unit, or
its value as an `int` when it holds several characters, signed unless it
is a `u` or `U` constant. Its messages are reported; an invalid one stops
the evaluation. -/
def charOperand (t : PpToken) : CondM CondValue := do
  let c := charConstant t.text
  for i in c.issues do
    let d : Diagnostic := ⟨if i.error then .error else .warning, some (t.charLoc i.offset), i.text, i.option⟩
    if i.error then throw (i.text, t.charLoc i.offset)
    else condWarn d
  if c.failed then throw ("", t.reportLoc)
  let unsigned := c.kind == .utf16 || c.kind == .utf32
  return CondValue.wrap ⟨c.value, unsigned⟩

mutual

/-- Evaluate an operand: a unary operator and its operand, a parenthesized
expression, a constant or an identifier. -/
def evalOperand (fuel : Nat) (eol : Loc) (live : Bool) (toks : List PpToken) :
    CondM (CondValue × List PpToken) := do
  match fuel with
  | 0 => throw ("expected value in expression", eol)
  | f + 1 =>
    match toks with
    | [] => throw ("expected value in expression", eol)
    | t :: rest =>
      match t.kind with
      | .number =>
        match classifyNumber t.text with
        | .integer lit =>
          if lit.imaginary then throw ("floating point literal in preprocessor expression", t.reportLoc)
          let big := lit.value ≥ Nat.pow 2 63
          if big && !lit.unsigned && lit.decimal && live then
            condWarn (.warning t.reportLoc
              "integer literal is too large to be represented in a signed integer type, interpreting as unsigned"
              "-Wimplicitly-unsigned-literal")
          return (⟨lit.value, lit.unsigned || big⟩, rest)
        | .floating _ _ _ => throw ("floating point literal in preprocessor expression", t.reportLoc)
        | .invalid msg off =>
          if off == 0 && msg == "integer literal is too large to be represented in any integer type" && !live then
            return (⟨0, true⟩, rest)
          throw (msg, t.charLoc off)
      | .charConst => return (← charOperand t, rest)
      | .identifier =>
        match rest with
        | p :: _ =>
          if p.isPunct "(" then throw (s!"function-like macro '{t.text}' is not defined", t.reportLoc)
          else return (⟨0, false⟩, rest)
        | [] => return (⟨0, false⟩, rest)
      | .punctuator =>
        if t.text == "(" then
          let (v, rest1) ← evalOperand f eol live rest
          match ← evalTail f eol live 1 v rest1 with
          | (v, r :: rest') =>
            if r.isPunct ")" then return (v, rest')
            else throw ("expected ')' in preprocessor expression", r.reportLoc)
          | (_, []) => throw ("expected ')' in preprocessor expression", eol)
        else if t.text == ")" then throw ("expected value in expression", t.reportLoc)
        else if t.text == "+" || t.text == "-" || t.text == "~" || t.text == "!" then
          let (v, rest') ← evalOperand f eol live rest
          let r : CondValue := match t.text with
            | "-" => CondValue.wrap ⟨-v.value, v.unsigned⟩
            | "~" => CondValue.wrap ⟨-v.value - 1, v.unsigned⟩
            | "!" => .ofBool (!v.truth)
            | _ => v
          if t.text == "-" && !v.unsigned && v.value == -((Nat.pow 2 63 : Nat) : Int) && live then
            condWarn ⟨.warning, some t.reportLoc, "integer overflow in preprocessor expression", none⟩
          return (r, rest')
        else throw ("invalid token at start of a preprocessor expression", t.reportLoc)
      | _ => throw ("invalid token at start of a preprocessor expression", t.reportLoc)

/-- Continue after a left operand `lhs` with the operators that follow
whose precedence is at least `minPrec`: a binary operator takes the
operators of higher precedence into its right operand, `?` takes a whole
expression before its `:` and a conditional expression after it. -/
def evalTail (fuel : Nat) (eol : Loc) (live : Bool) (minPrec : Nat) (lhs : CondValue)
    (toks : List PpToken) : CondM (CondValue × List PpToken) := do
  let badToken (ts : List PpToken) : CondError :=
    ("token is not a valid binary operator in a preprocessor subexpression",
      (ts.head?.map (·.reportLoc)).getD eol)
  match fuel with
  | 0 => return (lhs, toks)
  | f + 1 =>
    match followPrecedence toks.head?, toks with
    | none, _ => throw (badToken toks)
    | some _, [] => return (lhs, [])
    | some p, op :: rest =>
      if p < minPrec then return (lhs, toks)
      else
        let rhsLive :=
          if op.text == "&&" || op.text == "?" then live && lhs.truth
          else if op.text == "||" then live && !lhs.truth
          else live
        let (rhs, rest1) ← evalOperand f eol rhsLive rest
        let rhsPrec := if op.text == "?" then 3 else p + 1
        let (rhs, rest2) ← match followPrecedence rest1.head? with
          | none => throw (badToken rest1)
          | some peek => if peek ≥ rhsPrec then evalTail f eol rhsLive rhsPrec rhs rest1 else pure (rhs, rest1)
        if op.text == "?" then
          match rest2 with
          | c :: rest3 =>
            if c.isPunct ":" then
              let otherLive := live && !lhs.truth
              let (other, rest4) ← evalOperand f eol otherLive rest3
              let (other, rest5) ← evalTail f eol otherLive 4 other rest4
              let v := if lhs.truth then rhs else other
              evalTail f eol live minPrec (CondValue.wrap ⟨v.value, rhs.unsigned || other.unsigned⟩) rest5
            else throw ("expected ':'", c.reportLoc)
          | [] => throw ("expected ':'", eol)
        else if op.text == ":" then throw ("':' without preceding '?'", op.reportLoc)
        else if op.text == "," then evalTail f eol live minPrec rhs rest2
        else
          let v ← applyBinary op lhs rhs live
          evalTail f eol live minPrec v rest2

end

/-- The warnings of the condition in `toks`, and whether it holds or the
first error; `eol` is the end of its line. An error with an empty text was
reported among the warnings already. -/
def evalCondition (eol : Loc) (toks : List PpToken) : Array Diagnostic × Except CondError Bool :=
  let fuel := 4 * toks.length + 8
  let run : CondM Bool := do
    let (v, rest) ← evalOperand fuel eol true toks
    if rest.isEmpty then return v.truth
    match ← evalTail fuel eol true 4 v rest with
    | (v, []) => return v.truth
    | (_, t :: _) => throw ("expected end of line in preprocessor expression", t.reportLoc)
  let (r, ws) := (run.run).run #[]
  (ws, r)

end CInspect.Preprocess
