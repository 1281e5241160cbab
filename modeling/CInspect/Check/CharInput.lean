import CInspect.Tree.Walk
import CInspect.Check.Construct
import CInspect.Text.Quoted
/-!
Checks on how characters read from input are handled.

`getchar`, `getc` and `fgetc` return an `int`, so that end of input can be
told apart from every character. Storing that result in a `char` loses the
difference: the first check reports a binary operator whose left operand is
a reference to a `char` variable and whose right operand is such a call, and
a `char` variable whose first child is such a call.

The second check reports integer constants compared with a character where
a character constant would say more: a comparison with a direct integer
literal child and a direct child that is character-valued, whose literal is
written as a decimal numeral for a code between 7 and 12 or between 32 and
125. A value is character-valued when its type is `char`, when it is one
of the three calls, or when it is a variable that was last given a
character-valued value (`Tracked`); variables are tracked per function in
walk order.

Implicit conversions are looked through (`Node.peel`). The checks break
off where they cannot take a node apart: a binary operator without two
operands, a conversion without a child (which some builtin expressions
give), a reference to no declaration whose key the second check asks for,
and an integer literal without a token whose text it reads. The second
check goes on past a conversion without a child in the initializer of a
declaration it tracks.
-/

namespace CInspect.Tree

/-- The node under any implicit conversions; `none` when the chain ends in
a conversion without a child, where looking through it breaks off. -/
def Node.peel : Node → Option Node
  | ⟨k, s, d, f, e, t, st, r, tk, key, children⟩ =>
    if k = .unexposedExpr then
      match children with
      | c :: _ => c.peel
      | [] => none
    else some ⟨k, s, d, f, e, t, st, r, tk, key, children⟩

/-- The declaration that a value refers to, looking through conversions;
`none` when looking through them breaks off. -/
def Node.variable? (n : Node) : Option (Option DeclInfo) :=
  n.peel.map fun m => if m.kind = .declRefExpr then m.referenced else none

/-- The three input functions whose result is a character or end of input. -/
def isCharInputName (s : String) : Bool :=
  s == "getchar" || s == "getc" || s == "fgetc"

/-- A call of an input function, looking through conversions; `none` when
looking through them breaks off. -/
def Node.inputCall? (n : Node) : Option (Option Node) :=
  n.peel.map fun m => if m.kind = .callExpr ∧ isCharInputName m.spelling then some m else none

/-- The keys of the variables that currently hold a character. -/
abbrev Tracked := List Nat

open CInspect.Check (BreakOff)

/-- Whether a node is character-valued, looking through conversions: it has
type `char`, calls an input function, or refers to a tracked variable;
asking a reference to no declaration for its key breaks off. -/
def Node.charValued (tracked : Tracked) (n : Node) : Except BreakOff Bool :=
  match n.peel with
  | none => .error .noChild
  | some m =>
    if m.type.spelling = "char" ∨ (m.kind = .callExpr ∧ isCharInputName m.spelling) then .ok true
    else if m.kind = .declRefExpr then
      match m.referenced with
      | some d => .ok (tracked.contains d.key)
      | none => .error .noDeclaration
    else .ok false

/-- The first node of a list that is character-valued, trying them in
order, or why trying one broke off before one was found. -/
def firstCharValued (tracked : Tracked) : List Node → Except BreakOff (Option Node)
  | [] => .ok none
  | n :: ns =>
    match n.charValued tracked with
    | .ok true => .ok (some n)
    | .ok false => firstCharValued tracked ns
    | .error e => .error e

end CInspect.Tree

namespace CInspect.Check

open CInspect.Tree CInspect.Text

/-- The message of the char-variable check. -/
def charVariableMessage (fn var : String) : String :=
  s!" return value of {fn} assigned to char variable '{var}', change the type of '{var}' to int"

/-- The char-variable check at node `n`: a finding if `n` stores an input
call into a `char` variable, or why the check broke off taking `n` apart. -/
def charVariableFinding (lvl : Level) (n : Node) : Except BreakOff (Option Finding) :=
  if n.kind = .binaryOperator then
    match n.children with
    | [l, r] =>
      match l.variable?, r.inputCall? with
      | some v, some call =>
        .ok (match v, call with
          | some v, some call =>
            if v.typeSpelling = "char" then some ⟨n, charVariableMessage call.spelling v.name, lvl, lvl⟩
            else none
          | _, _ => none)
      | _, _ => .error .noChild
    | cs => .error (.operands cs.length)
  else if n.kind = .varDecl then
    match n.children with
    | c :: _ =>
      match c.inputCall? with
      | some call =>
        .ok (match call with
          | some call =>
            if n.type.spelling = "char" then some ⟨n, charVariableMessage call.spelling n.spelling, lvl, lvl⟩
            else none
          | none => none)
      | none => .error .noChild
    | [] => .ok none
  else .ok none

/-- The comparison operators. -/
def isComparison (op : String) : Bool :=
  op == "==" || op == "!=" || op == "<=" || op == ">=" || op == "<" || op == ">"

/-- The character codes that are reported: those with a character constant
that says more than the number. -/
def reportedCode (c : Nat) : Bool :=
  (6 < c && c < 13) || (31 < c && c < 126)

/-- The message of the code check. -/
def codeMessage (c : Nat) : String :=
  s!"ASCII code {c} used, replace with {quoteChar (Char.ofNat c)}"

/-- The code check at node `n`: the variables tracked after it and a
finding, or why it broke off taking `n` apart. In a declaration's
initializer a conversion without a child leaves the tracking as it was. -/
def codeStep (lvl : Level) (tracked : Tracked) (n : Node) : Except BreakOff (Tracked × Option Finding) :=
  if n.kind = .varDecl then
    match n.children with
    | c :: _ =>
      match c.charValued tracked with
      | .ok isChar => .ok (if isChar then n.key :: tracked else tracked, none)
      | .error .noChild => .ok (tracked, none)
      | .error e => .error e
    | [] => .ok (tracked, none)
  else if n.kind = .binaryOperator then
    match n.children with
    | [l, r] =>
      match n.operator? with
      | some "=" =>
        match l.variable? with
        | some (some v) =>
          (r.charValued tracked).map fun isChar =>
            if isChar then (v.key :: tracked, none) else (tracked.filter (· ≠ v.key), none)
        | some none => .ok (tracked, none)
        | none => .error .noChild
      | some op =>
        if isComparison op then
          match n.children.find? (·.kind = .integerLiteral) with
          | some lit =>
            match firstCharValued tracked n.children with
            | .ok (some _) =>
              match lit.tokens.head? with
              | some tok =>
                .ok (tracked, match decimalValue? tok.spelling with
                  | some c => if reportedCode c then some ⟨lit, codeMessage c, .warning, lvl⟩ else none
                  | none => none)
              | none => .error .noToken
            | .ok none => .ok (tracked, none)
            | .error e => .error e
          | none => .ok (tracked, none)
        else .ok (tracked, none)
      | none => .ok (tracked, none)
    | cs => .error (.operands cs.length)
  else .ok (tracked, none)

/-- The findings of both checks over the walk of one function, in order,
and why the walk broke off, if it did. Both checks ask for the kind of
each node, so one whose kind cannot be read ends the walk when either is
enabled. -/
def functionCharFindings (cfg : Config) : Tracked → List Visit → List Finding × Option BreakOff
  | _, [] => ([], none)
  | tracked, v :: vs =>
    let asks := (cfg.level .assignGetcharChar).isSome || (cfg.level .integerAsciiCode).isSome
    match breakOffAt? v.node.kind, asks with
    | some h, true => ([], some h)
    | _, _ =>
    let first := match cfg.level .assignGetcharChar with
      | some lvl => (charVariableFinding lvl v.node).map Option.toList
      | none => .ok []
    match first with
    | .error h => ([], some h)
    | .ok first =>
      match cfg.level .integerAsciiCode with
      | some lvl =>
        match codeStep lvl tracked v.node with
        | .ok (tracked', f) =>
          let rest := functionCharFindings cfg tracked' vs
          (first ++ f.toList ++ rest.1, rest.2)
        | .error h => (first, some h)
      | none =>
        let rest := functionCharFindings cfg tracked vs
        (first ++ rest.1, rest.2)

/-- The findings over the walks of several functions, in order, up to the
walk that breaks off, and why it did, if one did. -/
def walksCharFindings (cfg : Config) : List (List Visit) → List Finding × Option BreakOff
  | [] => ([], none)
  | w :: ws =>
    let found := functionCharFindings cfg [] w
    match found.2 with
    | none =>
      let rest := walksCharFindings cfg ws
      (found.1 ++ rest.1, rest.2)
    | some h => (found.1, some h)

/-- The findings over every function of a list, up to the walk that breaks
off, and why it did, if one did. -/
def functionsCharFindings (cfg : Config) (fns : List Node) : List Finding × Option BreakOff :=
  walksCharFindings cfg (fns.map (·.sameFileNodes))

/-- What the character checks print and return, given their findings and
why they broke off: printed lines, levels, and the halt. -/
def charInputReport (cfg : Config) (lines : List String) (found : List Finding × Option BreakOff) :
    List String × List Level × Option BreakOff :=
  ((found.1.map (·.render cfg lines)).flatten, found.1.map (·.level), found.2)

/-- The character checks on every function definition of a translation unit. -/
def checkCharInput (cfg : Config) (lines : List String) (root : Node) :
    List String × List Level × Option BreakOff :=
  charInputReport cfg lines (functionsCharFindings cfg root.functions)

end CInspect.Check
