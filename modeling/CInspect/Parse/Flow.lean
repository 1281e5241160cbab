import CInspect.Parse.ExprChecks
/-!
Where control goes in a function body.

The compiler decides two things from the flow of control in a function
body: whether its end can be reached, so that a function with a result may
fall off it without returning one, and which expressions can be reached
at all, since a warning about what an expression does when it runs is given
only for one that runs.

The walk follows the statements in order with a flag saying whether the
point before each is reached, and gives whether the point after it is.
Control stops after `return`, `break`, `continue`, `goto` and a call of a
function that never returns, and goes on at a label a reached `goto` names,
at a `case` of a reached `switch`, and at a loop's condition when the end
of its body is reached. Those last three depend on code later in the body,
so the walk is repeated, each round assuming what the previous one found,
until nothing changes.

A condition whose value is known takes one branch only: a constant, `x && 0`
or `x || 1`, `x * 0` and `x & 0`, a truth value compared with a number
other than 0 and 1, and two comparisons of one variable with constants that
together always hold or never do (`x < 0 && x > 10`). A `switch` on a
constant reaches only the matching label, and one on an enumeration that
has a label for each of its values never goes past its labels.

The end of the body is reached or not, and a function whose end is reached
falls off it always, or only on some paths when a `return` or a call that
never returns is also reached.
-/

namespace CInspect.Parse

open CInspect.Types

/-- What a `switch` gives the labels in its body. -/
structure SwitchFlow where
  /-- Whether the switch itself is reached. -/
  reached : Bool
  /-- The value of its condition, when it is a constant. -/
  value : Option Int
  /-- Whether some `case` has the constant value. -/
  matched : Bool
  /-- Whether it is on an enumeration with a label for each value. -/
  covered : Bool
deriving Inhabited

/-- The state of one round of the walk. -/
structure FlowState where
  /-- The labels a reached `goto` named in the previous round. -/
  gotoBefore : List String := []
  /-- Whether an indirect `goto` was reached in the previous round. -/
  indirectBefore : Bool := false
  /-- The loops, by first token, whose condition was reached again from
  their body in the previous round. -/
  loopsBefore : List Nat := []
  /-- The labels whose address is taken. -/
  addressTaken : List String := []
  /-- What this round finds of the same. -/
  gotos : List String := []
  indirect : Bool := false
  loops : List Nat := []
  /-- Whether a `return` is reached. -/
  returns : Bool := false
  /-- Whether a call of a function that never returns is reached. -/
  abnormal : Bool := false
  /-- Whether a `break` or `continue` of the innermost loop or switch is
  reached. -/
  breaks : Bool := false
  continues : Bool := false
  /-- The token extents of expressions never reached. -/
  unreachable : Array (Nat × Nat) := #[]
  /-- The innermost `switch`. -/
  switch : Option SwitchFlow := none
deriving Inhabited

/-- The walk's state monad. -/
abbrev FlowM := StateM FlowState

/-- What the flow of a function body gives. -/
structure FlowSummary where
  /-- Whether the end of the body is reached. -/
  fallsOff : Bool
  /-- Whether a `return` is reached. -/
  returns : Bool
  /-- Whether a call of a function that never returns is reached. -/
  abnormal : Bool
  /-- The token extents of expressions never reached. -/
  unreachable : Array (Nat × Nat)
deriving Inhabited

/-- Whether token `i` lies in code that is never reached. -/
def FlowSummary.unreached (s : FlowSummary) (i : Nat) : Bool :=
  s.unreachable.any fun (a, b) => a ≤ i && i ≤ b

/-! ### Known truth values -/

/-- The value of an integer literal written as the whole operand, inside
parentheses only. -/
def integerLiteralValue (n : Built) : Option Int :=
  let n := n.withoutParens
  if n.kind == .integerLiteral then n.value else none

/-- A constant side of a comparison, with its value and, for an
enumerator, the enumeration it belongs to: inside parentheses, an integer
literal, behind at most one conversion between two different integer
types and a minus sign; or an enumerator. -/
def PState.comparedConstant (st : PState) (n : Built) : Option (Int × Option Nat) :=
  let n := n.withoutParens
  let integral (t : Option CType) : Bool := (t.map (·.isInteger)).getD false
  let m := n.withoutParens
  let m : Option Built :=
    if m.converted || m.kind == .cStyleCastExpr then
      match m.children.getLast? with
      | some c =>
        let changes := match m.ty, c.ty with
          | some a, some b => !(a.canonical.unqualified == b.canonical.unqualified)
          | _, _ => false
        if integral m.ty && integral c.ty && changes then some c else none
      | none => none
    else some m
  let m := m.map fun m =>
    if m.kind == .unaryOperator && !m.isPostfix && st.operatorOf m == "-" then
      some (m.children.head?.getD m)
    else if m.kind == .unaryOperator then none
    else some m
  match m.join with
  | some lit =>
    if lit.kind == .integerLiteral then n.value.map (·, none)
    else enumeratorOperand n
  | none => enumeratorOperand n
where
  /-- An enumerator, behind parentheses and conversions. -/
  enumeratorOperand (n : Built) : Option (Int × Option Nat) :=
    let inner := n.bare
    if inner.kind == .declRefExpr then
      match inner.referenced.bind (st.decls[·]?) with
      | some d => if d.kind == .enumerator then some (d.value, some (d.tag.getD 0)) else none
      | none => none
    else none

/-- A comparison as `operand op constant`, the operator turned around when
the constant is written first. -/
def PState.normalizedComparison (st : PState) (n : Built) : Option (Built × String × Int × Option Nat) :=
  match n.children with
  | [l, r] =>
    let o := st.operatorOf n
    match st.comparedConstant r with
    | some (v, e) => some (l, o, v, e)
    | none =>
      match st.comparedConstant l with
      | some (v, e) =>
        let flipped := if o == "<" then ">" else if o == ">" then "<" else if o == "<=" then ">="
          else if o == ">=" then "<=" else o
        some (r, flipped, v, e)
      | none => none
  | _ => none

/-- The truth of `x op c` for a value `x`. -/
def relationHolds (op : String) (x c : Int) : Bool :=
  if op == "==" then x == c else if op == "!=" then x != c else if op == "<" then x < c
  else if op == "<=" then x ≤ c else if op == ">" then x > c else x ≥ c

/-- The truth value two comparisons of one variable with constants joined
by `&&` or `||` always have, if they always have one: tried on a value
below both constants, at each, between them and above both. -/
def PState.joinedComparisons (st : PState) (conjunction : Bool) (l r : Built) : Option Bool := do
  let l := l.withoutParens
  let r := r.withoutParens
  if l.kind != .binaryOperator || r.kind != .binaryOperator then none
  if !isComparisonOperator (st.operatorOf l) || !isComparisonOperator (st.operatorOf r) then none
  let (x, o1, c1, e1) ← st.normalizedComparison l
  let (y, o2, c2, e2) ← st.normalizedComparison r
  if !st.sameOperand 64 x y then none
  if e1 != e2 then none
  -- the constants are compared in the type they are converted to
  let t1 := (l.children.head?.bind (·.ty)).getD .int
  let t2 := (r.children.head?.bind (·.ty)).getD .int
  let (w, u) := (st.basicOfType t1).map (fun b => (b.width, b.isUnsigned)) |>.getD (32, false)
  let (w2, u2) := (st.basicOfType t2).map (fun b => (b.width, b.isUnsigned)) |>.getD (32, false)
  if w != w2 || u != u2 then none
  let c1 := wrapBits w u c1
  let c2 := wrapBits w u c2
  let lowest : Int := if u then 0 else -((Nat.pow 2 (w - 1) : Nat) : Int)
  let highest : Int := if u then ((Nat.pow 2 w : Nat) : Int) - 1 else ((Nat.pow 2 (w - 1) : Nat) : Int) - 1
  let between := wrapBits w u ((min c1 c2) + 1)
  let values := [lowest, c1, between, c2, highest]
  let results := values.map fun v =>
    let a := relationHolds o1 v c1
    let b := relationHolds o2 v c2
    if conjunction then a && b else a || b
  if results.all id then some true
  else if results.all (!·) then some false
  else none

/-- The truth value a condition is known to have, as the flow of control
uses it. A logical operator is decided by its operands, or by two
comparisons of one operand with constants; a product or a bitwise `&` with
an operand that folds to zero is false; a comparison of a value known to
be 0 or 1 with a literal that is neither, and a bitwise `|` with a nonzero
constant, are decided by their shape; anything else is decided when it
folds. Parentheses around the whole condition leave only folding. -/
def PState.knownTruth (st : PState) : Nat → Built → Option Bool
  | 0, _ => none
  | f + 1, e =>
    let o := st.operatorOf e
    let binary := e.kind == .binaryOperator
    if binary && (o == "&&" || o == "||") then
      match e.children with
      | [l, r] =>
        let orOp := o == "||"
        match st.knownTruth f l with
        | some lv =>
          if lv == orOp then some lv
          else st.knownTruth f r
        | none =>
          match st.knownTruth f r with
          | some rv => if rv == orOp then some rv else none
          | none => st.joinedComparisons (!orOp) l r
      | _ => none
    else
      let zeroFactor : Bool :=
        binary && (o == "*" || o == "&") && e.children.any (st.foldInteger · == some 0)
      let byShape : Option Bool :=
        if zeroFactor then some false
        else if binary && (o == "==" || o == "!=") then
          match e.children with
          | [l, r] =>
            let (lit, other) := match integerLiteralValue l with
              | some v => (some v, r)
              | none => (integerLiteralValue r, l)
            match lit with
            | some v =>
              let ow := other.withoutParens
              let bitwise := ow.kind == .binaryOperator &&
                (st.operatorOf ow == "&" || st.operatorOf ow == "|")
              if !bitwise && st.knownBoolean 64 other && v != 0 && v != 1 then some (o == "!=")
              else none
            | none => none
          | _ => none
        else if binary && (o == "<" || o == ">" || o == "<=" || o == ">=") then
          match e.children with
          | [l, r] =>
            let (lit, other, litFirst) := match integerLiteralValue l with
              | some v => (some v, r, true)
              | none => (integerLiteralValue r, l, false)
            match lit with
            | some v =>
              if st.knownBoolean 64 other && v != 0 && v != 1 then
                let larger := v ≥ 0
                if o == ">" || o == ">=" then some (litFirst == larger) else some (litFirst != larger)
              else none
            | none => none
          | _ => none
        else if binary && o == "|" then
          match e.children with
          | [l, r] =>
            match st.comparedConstant l.bare, st.comparedConstant r.bare with
            | some (v, _), none => if v != 0 then some true else none
            | none, some (v, _) => if v != 0 then some true else none
            | _, _ => none
          | _ => none
        else none
      match byShape with
      | some b => some b
      | none => st.foldTruth e

/-! ### The walk -/

/-- Whether a function never returns: it is declared `_Noreturn` or its
type says so. -/
def DeclEntry.neverReturns (d : DeclEntry) : Bool :=
  d.noreturn ||
    match d.ty.canonical with
    | .function _ _ _ _ nr => nr
    | _ => false

/-- Whether a call never returns: its callee is a function declared
`_Noreturn` or of a type that never returns. -/
def PState.callNeverReturns (st : PState) (call : Built) : Bool :=
  match call.children with
  | callee :: _ =>
    let direct := callee.bare
    let declared := direct.kind == .declRefExpr &&
      (match direct.referenced.bind (st.decls[·]?) with
       | some d => d.noreturn
       | none => false)
    let byType := match (callee.ty.getD .error).canonical with
      | .pointer p _ =>
        match p.canonical with
        | .function _ _ _ _ nr => nr
        | _ => false
      | .function _ _ _ _ nr => nr
      | _ => false
    declared || byType
  | [] => false

/-- Record an expression as never reached. -/
def markUnreached (n : Built) : FlowM Unit :=
  modify fun s => { s with unreachable := s.unreachable.push (n.first, n.last) }

/-- Whether a `case` label of the switch whose body is `n` (not of a
switch inside it) has the value `v`. -/
def caseMatches (v : Int) : Nat → Built → Bool
  | 0, _ => false
  | f + 1, n =>
    if n.kind == .switchStmt then false
    else if n.kind == .caseStmt then
      let here := match n.children with
        | [low, high, _] =>
          match low.value, high.value with
          | some a, some b => a ≤ v && v ≤ b
          | _, _ => false
        | [low, _] => low.value == some v
        | _ => false
      here || n.children.any (caseMatches v f)
    else n.children.any (caseMatches v f)

/-- Whether a node is a statement rather than an expression. -/
def Built.isStatement (n : Built) : Bool :=
  match n.kind with
  | .compoundStmt | .declStmt | .returnStmt | .ifStmt | .whileStmt | .doStmt | .forStmt
  | .switchStmt | .caseStmt | .defaultStmt | .breakStmt | .continueStmt | .gotoStmt
  | .labelStmt | .nullStmt | .unexposedStmt | .indirectGotoStmt | .asmStmt | .staticAssert => true
  | _ => false

/-- Whether a node is evaluated when the declaration holding it runs: an
initializer, not a type or an attribute. -/
def Built.isEvaluated (n : Built) : Bool :=
  match n.kind with
  | .typeRef | .memberRef | .labelRef | .packedAttr | .alignedAttr | .unexposedAttr | .pureAttr
  | .constAttr | .visibilityAttr | .warnUnusedResultAttr | .noDuplicateAttr | .convergentAttr
  | .asmLabelAttr | .warnUnusedAttr | .annotateAttr | .unreadableAttr _ | .varDecl | .parmDecl | .functionDecl
  | .fieldDecl | .structDecl | .unionDecl | .enumDecl | .enumConstantDecl | .typedefDecl
  | .unexposedDecl | .staticAssert => false
  | _ => true

/-- The parts of a `for` statement: the initialization, condition and
increment that are written, told apart by the token after each, and the
body. -/
def PState.forParts (st : PState) (n : Built) : Option Built × Option Built × Option Built × Built :=
  let body := n.children.getLast?.getD n
  let heads := n.children.dropLast
  let init := heads.find? (·.first == n.first + 2)
  let rest := heads.filter (·.first != n.first + 2)
  let cond := rest.find? fun c => (st.tokAt (c.last + 1)).text == ";"
  let inc := rest.find? fun c => (st.tokAt (c.last + 1)).text != ";"
  (init, cond, inc, body)

mutual

/-- Walk an expression reached or not, giving whether its evaluation
completes. -/
def exprFlow (st : PState) : Nat → Bool → Built → FlowM Bool
  | 0, r, _ => pure r
  | f + 1, r, n => do
    if !r then
      markUnreached n
      return false
    match n.kind with
    | .unaryExpr => pure r
    | .stmtExpr =>
      match n.children with
      | [c] => stmtFlow st f r c
      | _ => pure r
    | .callExpr =>
      let done ← exprSequence st f r n.children
      if st.callNeverReturns n then
        if done then modify fun s => { s with abnormal := true }
        pure false
      else pure done
    | .binaryOperator =>
      let o := st.operatorOf n
      match n.children with
      | [_, _] =>
        if o == "&&" || o == "||" then
          let (yes, no) ← logicalFlow st f r n
          pure (yes || no)
        else exprSequence st f r n.children
      | _ => exprSequence st f r n.children
    | .conditionalOperator =>
      match n.children with
      | [c, a, b] =>
        let cond ← exprFlow st f r c
        let known := st.knownTruth 64 c
        let yes ← exprFlow st f (cond && known != some false) a
        let no ← exprFlow st f (cond && known != some true) b
        pure (cond && ((known != some false && yes) || (known != some true && no)))
      | _ => exprSequence st f r n.children
    | .unexposedExpr =>
      match n.converted, n.children with
      | false, [c, _, _, b] =>
        -- `c ?: b`
        let cond ← exprFlow st f r c
        let known := st.knownTruth 64 c
        let no ← exprFlow st f (cond && known != some true) b
        pure (cond && (known != some false || no))
      | _, _ => exprSequence st f r n.children
    | _ => exprSequence st f r n.children

/-- Walk a logical operator `&&` or `||` reached or not, giving whether it
ends true and whether it ends false. Each operand that is not itself a
logical operator (parentheses aside) is a branch of its own: the left
decides whether the right is reached when its truth is known, and the
right, or else the whole operator, decides which way it goes. -/
def logicalFlow (st : PState) : Nat → Bool → Built → FlowM (Bool × Bool)
  | 0, r, _ => pure (r, r)
  | f + 1, r, n =>
    match n.children with
    | [l, rhs] => do
      let orOp := st.operatorOf n == "||"
      let (lYes, lNo) ← branchFlow st f r l none
      let (rYes, rNo) ← branchFlow st f (if orOp then lNo else lYes) rhs (some n)
      if orOp then pure (lYes || rYes, rNo) else pure (rYes, lNo || rNo)
    | _ => do
      let done ← exprSequence st f r n.children
      pure (done, done)

/-- Walk an operand of a logical operator, or a whole condition, reached
or not, giving whether it ends true and whether it ends false: a logical
operator inside parentheses is walked as one; anything else goes the way
its known truth says, or else the way the truth of `whole` says. -/
def branchFlow (st : PState) : Nat → Bool → Built → Option Built → FlowM (Bool × Bool)
  | 0, r, _, _ => pure (r, r)
  | f + 1, r, c, whole => do
    let b := c.withoutParens
    let o := st.operatorOf b
    if b.kind == .binaryOperator && (o == "&&" || o == "||") then logicalFlow st f r b
    else
      let done ← exprFlow st f r c
      let known := match st.knownTruth 64 b with
        | some v => some v
        | none => whole.bind (st.knownTruth 64)
      pure (done && known != some false, done && known != some true)

/-- Walk the condition of an `if`, `while` or `for`, reached or not,
giving whether it ends true and whether it ends false: a logical operator,
parentheses aside, is walked operand by operand; any other condition goes
the way its known truth says. -/
def conditionFlow (st : PState) : Nat → Bool → Built → FlowM (Bool × Bool)
  | 0, r, _ => pure (r, r)
  | f + 1, r, c => do
    let b := c.withoutParens
    let o := st.operatorOf b
    if b.kind == .binaryOperator && (o == "&&" || o == "||") then logicalFlow st f r b
    else
      let done ← exprFlow st f r c
      let known := st.knownTruth 64 c
      pure (done && known != some false, done && known != some true)

/-- Walk operands evaluated one after the other. -/
def exprSequence (st : PState) : Nat → Bool → List Built → FlowM Bool
  | 0, r, _ => pure r
  | _, r, [] => pure r
  | f + 1, r, c :: cs => do
    let r' ← if c.isEvaluated then exprFlow st f r c else pure r
    exprSequence st f r' cs

/-- Walk a statement reached or not, giving whether the point after it
is reached. -/
def stmtFlow (st : PState) : Nat → Bool → Built → FlowM Bool
  | 0, r, _ => pure r
  | f + 1, r, n =>
    match n.kind with
    | .compoundStmt => stmtSequence st f r n.children
    | .declStmt => declFlow st f r n.children
    | .nullStmt | .asmStmt | .staticAssert => pure r
    | .returnStmt => do
      let done ← match n.children with
        | [e] => exprFlow st f r e
        | _ => pure r
      if done then modify fun s => { s with returns := true }
      pure false
    | .breakStmt => do
      if r then modify fun s => { s with breaks := true }
      pure false
    | .continueStmt => do
      if r then modify fun s => { s with continues := true }
      pure false
    | .gotoStmt => do
      if r then modify fun s => { s with gotos := n.children.map (·.spelling) ++ s.gotos }
      pure false
    | .indirectGotoStmt => do
      let done ← exprSequence st f r n.children
      if done then modify fun s => { s with indirect := true }
      pure false
    | .labelStmt => do
      let s ← get
      let byGoto := s.gotoBefore.contains n.spelling ||
        (s.indirectBefore && s.addressTaken.contains n.spelling)
      stmtSequence st f (r || byGoto) n.children
    | .caseStmt => do
      let s ← get
      let low := n.children.head?.bind (·.value)
      let high := match n.children with
        | [_, h, _] => h.value
        | _ => low
      let fromSwitch := match s.switch with
        | some sw =>
          sw.reached && (match sw.value, low, high with
            | some v, some a, some b => a ≤ v && v ≤ b
            | some _, _, _ => false
            | none, _, _ => true)
        | none => false
      match n.children.getLast? with
      | some body => stmtFlow st f (r || fromSwitch) body
      | none => pure (r || fromSwitch)
    | .defaultStmt => do
      let s ← get
      let fromSwitch := match s.switch with
        | some sw => sw.reached && !sw.matched && !sw.covered
        | none => false
      stmtSequence st f (r || fromSwitch) n.children
    | .ifStmt =>
      match n.children with
      | c :: yes :: rest => do
        let (toYes, toNo) ← conditionFlow st f r c
        let afterYes ← stmtFlow st f toYes yes
        let afterNo ← match rest with
          | no :: _ => stmtFlow st f toNo no
          | [] => pure toNo
        pure (afterYes || afterNo)
      | _ => stmtSequence st f r n.children
    | .whileStmt =>
      match n.children with
      | [c, body] => do
        let again := (← get).loopsBefore.contains n.first
        let condR := r || again
        let (toBody, toExit) ← conditionFlow st f condR c
        let (bodyEnd, broke, continued) ← loopBody st f toBody body
        if bodyEnd || continued then modify fun s => { s with loops := n.first :: s.loops }
        pure (toExit || broke)
      | _ => stmtSequence st f r n.children
    | .doStmt =>
      match n.children with
      | [body, c] => do
        let again := (← get).loopsBefore.contains n.first
        let (bodyEnd, broke, continued) ← loopBody st f (r || again) body
        let cond ← exprFlow st f (bodyEnd || continued) c
        let known := st.knownTruth 64 c
        if cond && known != some false then modify fun s => { s with loops := n.first :: s.loops }
        pure ((cond && known != some true) || broke)
      | _ => stmtSequence st f r n.children
    | .forStmt => do
      let (init, c, inc, body) := st.forParts n
      let initDone ← match init with
        | some i => if i.kind == .declStmt then declFlow st f r i.children else exprFlow st f r i
        | none => pure r
      let again := (← get).loopsBefore.contains n.first
      let condR := initDone || again
      let (toBody, toExit) ← match c with
        | some c => conditionFlow st f condR c
        | none => pure (condR, false)
      let (bodyEnd, broke, continued) ← loopBody st f toBody body
      let incDone ← match inc with
        | some i => exprFlow st f (bodyEnd || continued) i
        | none => pure (bodyEnd || continued)
      if incDone then modify fun s => { s with loops := n.first :: s.loops }
      pure (toExit || broke)
    | .switchStmt =>
      match n.children with
      | [c, body] => do
        let cond ← exprFlow st f r c
        let value := c.value
        let matched := match value with
          | some v => caseMatches v 256 body
          | none => false
        let covered := st.coveredSwitches.contains n.first
        let hasDefault := hasDefaultLabel 256 body
        let outer ← get
        set { outer with breaks := false, switch := some { reached := cond, value := value,
                                                           matched := matched, covered := covered } }
        let bodyEnd ← stmtFlow st f false body
        let broke := (← get).breaks
        modify fun s => { s with breaks := outer.breaks, switch := outer.switch }
        pure (bodyEnd || broke || (cond && !hasDefault && !matched && !covered))
      | _ => stmtSequence st f r n.children
    | .unexposedStmt => stmtSequence st f r n.children
    | _ =>
      if n.isStatement then stmtSequence st f r n.children
      else exprFlow st f r n

/-- Walk statements one after the other. -/
def stmtSequence (st : PState) : Nat → Bool → List Built → FlowM Bool
  | 0, r, _ => pure r
  | _, r, [] => pure r
  | f + 1, r, c :: cs => do
    let r' ← stmtFlow st f r c
    stmtSequence st f r' cs

/-- Walk the declarations of a declaration statement: their initializers
run in order. -/
def declFlow (st : PState) : Nat → Bool → List Built → FlowM Bool
  | 0, r, _ => pure r
  | _, r, [] => pure r
  | f + 1, r, d :: ds => do
    let r' ← if d.kind == .varDecl then exprSequence st f r d.children else pure r
    declFlow st f r' ds

/-- Walk a loop's body, giving whether its end, a `break` and a
`continue` of this loop are reached. -/
def loopBody (st : PState) : Nat → Bool → Built → FlowM (Bool × Bool × Bool)
  | 0, r, _ => pure (r, false, false)
  | f + 1, r, body => do
    let outer ← get
    set { outer with breaks := false, continues := false }
    let bodyEnd ← stmtFlow st f r body
    let inner ← get
    set { inner with breaks := outer.breaks, continues := outer.continues }
    pure (bodyEnd, inner.breaks, inner.continues)

/-- Whether the body of a switch has a `default` label of its own. -/
def hasDefaultLabel : Nat → Built → Bool
  | 0, _ => false
  | f + 1, n =>
    if n.kind == .switchStmt then false
    else n.kind == .defaultStmt || n.children.any (hasDefaultLabel f)

end

/-- The labels whose address an expression in the body takes. -/
def addressTakenLabels : Nat → Built → List String
  | 0, _ => []
  | f + 1, n =>
    (if n.kind == .addrLabelExpr then n.children.map (·.spelling) else []) ++
      n.children.flatMap (addressTakenLabels f)

/-- One round of the walk over a body, assuming what the previous round
found. -/
def flowRound (st : PState) (body : Built) (before : FlowState) : FlowState × Bool :=
  let start : FlowState := { gotoBefore := before.gotos, indirectBefore := before.indirect,
                             loopsBefore := before.loops, addressTaken := before.addressTaken }
  let (fallsOff, s) := (stmtFlow st 100000 true body).run start
  ({ s with returns := s.returns }, fallsOff)

/-- Repeat rounds until what they find stops growing. -/
def flowFixpoint (st : PState) (body : Built) : Nat → FlowState → FlowState × Bool
  | 0, s => flowRound st body s
  | f + 1, s =>
    let (s', falls) := flowRound st body s
    let same := s'.gotos.all s.gotos.contains && s'.loops.all s.loops.contains &&
      (s'.indirect == s.indirect)
    if same then (s', falls) else flowFixpoint st body f s'

/-- The flow of control through a function body. -/
def bodyFlow (st : PState) (body : Built) : FlowSummary :=
  let labels := addressTakenLabels 100000 body
  let (s, falls) := flowFixpoint st body (st.toks.size + 2) { addressTaken := labels }
  { fallsOff := falls, returns := s.returns, abnormal := s.abnormal, unreachable := s.unreachable }

end CInspect.Parse
