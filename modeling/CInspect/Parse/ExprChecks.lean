import CInspect.Parse.Typing
import CInspect.Parse.Sequencing
import CInspect.Parse.Fold
/-!
The checks the compiler makes on an expression once it is complete.

When a full expression is complete (an expression statement, a condition,
a returned value, an initializer), the compiler walks it looking at every
conversion it inserted: a constant that changes value when converted, a
floating literal that loses its fraction, a function or array whose address
is taken for a truth value, a constant stored into a bit-field too narrow
for it, a comparison whose result the types alone decide. The walk visits
a node, then its operands from the last to the first; a comparison and an
assignment visit their left operand and then their right one, and a
conditional expression checks each of its results against the type the
whole expression is converted to.

Some of these warnings are about what the program does when it runs; inside
a function they are kept until its body is complete (`warnLater`).

`unusedResult` is the check of an expression whose value is discarded, and
`checkCondition` the checks of an expression that decides a branch.
-/

namespace CInspect.Parse

open CInspect.Types CInspect.Source CInspect.Preprocess

/-- Whether an operator compares. -/
def isComparisonOperator (o : String) : Bool :=
  o == "==" || o == "!=" || o == "<" || o == ">" || o == "<=" || o == ">="

/-- The number of bits a natural number needs. -/
def activeBits (v : Nat) : Nat := if v == 0 then 0 else Nat.log2 v + 1

/-- The number of bits an integer needs in two's complement. -/
def signedBits (v : Int) : Nat :=
  if v < 0 then activeBits (-v - 1).toNat + 1 else activeBits v.toNat + 1

/-- Whether an expression is known to be 0 or 1: a `_Bool`, a comparison,
a logical operator, or one built from them. -/
def PState.knownBoolean (st : PState) : Nat → Built → Bool
  | 0, _ => false
  | f + 1, n =>
    let n := n.withoutParens
    let t := n.ty.getD .error
    if t.isBoolean then true
    else if !t.isInteger then false
    else
      let child (k : Nat) : Bool := match n.children[k]? with
        | some c => st.knownBoolean f c
        | none => false
      match n.kind with
      | .unaryOperator =>
        if n.isPostfix then false
        else
          let o := st.operatorOf n
          if o == "!" then true else if o == "+" then child 0 else false
      | .unexposedExpr => n.converted && child 0
      | .binaryOperator =>
        let o := st.operatorOf n
        if isComparisonOperator o || o == "&&" || o == "||" then true
        else if o == "&" || o == "^" || o == "|" then child 0 && child 1
        else if o == "," || o == "=" then child 1
        else false
      | .conditionalOperator =>
        match n.children with
        | [_, a, b] => st.knownBoolean f a && st.knownBoolean f b
        | [c, _, _, b] => st.knownBoolean f c && st.knownBoolean f b
        | _ => false
      | _ => false

/-- An expression written back as text, as the compiler prints one in a
message: names, member accesses, subscripts and operators. -/
def PState.printed (st : PState) : Nat → Built → String
  | 0, _ => ""
  | f + 1, n =>
    let child (k : Nat) : String := match n.children[k]? with
      | some c => st.printed f c
      | none => ""
    match n.kind with
    | .declRefExpr => n.spelling
    | .memberRefExpr =>
      let arrow := (st.tokAt (n.locTok - 1)).text == "->"
      child 0 ++ (if arrow then "->" else ".") ++ n.spelling
    | .parenExpr => "(" ++ child 0 ++ ")"
    | .arraySubscriptExpr => child 0 ++ "[" ++ child 1 ++ "]"
    | .unaryOperator =>
      if n.isPostfix then child 0 ++ st.operatorOf n else st.operatorOf n ++ child 0
    | _ =>
      if n.converted then child 0
      else " ".intercalate ((List.range (n.last + 1 - n.first)).map fun k => (st.tokAt (n.first + k)).text)

/-- Warn about an array, a function or an address used where only a null
pointer would be false: converted to a truth value (`compare` none), or
compared with a null pointer (`compare` says whether for equality). -/
def alwaysNonNull (e : Built) (compare : Option Bool) : P Unit := do
  let st ← get
  let e := e.withoutConversions
  let (addressOf, e) ←
    if e.kind == .unaryOperator then
      if !e.isPostfix && st.operatorOf e == "&" then
        match e.children with
        | c :: _ => pure (true, c)
        | [] => return
      else return
    else pure (false, e)
  if e.kind != .declRefExpr && e.kind != .memberRefExpr then return
  let t := e.ty.getD .error
  let isArray := t.isArray
  let isFunction := t.isFunction
  if addressOf && isFunction then return
  if !addressOf && !isFunction && !isArray then return
  let text := st.printed 64 e
  let at_ := (st.tokAt e.locTok).reportLoc
  match compare with
  | some equal =>
    let what := if addressOf then "address of" else if isFunction then "function" else "array"
    warn at_ (s!"comparison of {what} '{text}' " ++ (if equal then "" else "not ") ++
      "equal to a null pointer is always " ++ (if equal then "false" else "true"))
      "-Wtautological-pointer-compare"
  | none =>
    let what := if addressOf then "" else if isFunction then " function" else " array"
    warn at_ s!"address of{what} '{text}' will always evaluate to 'true'" "-Wpointer-bool-conversion"

/-- The width and signedness of the values of an integer type, for a
conversion into it. -/
def PState.intRange (st : PState) (t : CType) : Nat × Bool :=
  match st.basicOfType t with
  | some .bool => (1, true)
  | some b => (b.width, b.isUnsigned)
  | none => (64, false)

/-- Warn about a floating literal converted to an integer type that does not
hold it exactly. -/
def floatToInteger (e : Built) (target : CType) (source : Basic) : P Unit := do
  let st ← get
  let inner := e.bare
  let inner := if inner.kind == .unaryOperator && !inner.isPostfix &&
      (st.operatorOf inner == "-" || st.operatorOf inner == "+") then
      (match inner.children with
       | c :: _ => c.bare
       | [] => inner)
    else inner
  let literal := e.kind == .floatingLiteral || inner.kind == .floatingLiteral
  if !literal then return
  match e.real with
  | none => return
  | some value =>
    let isBool := target.isBoolean
    let (width, unsigned) := st.intRange target
    let lo : Int := if unsigned then 0 else -((Nat.pow 2 (width - 1) : Nat) : Int)
    let hi : Int := if unsigned then ((Nat.pow 2 width : Nat) : Int) - 1
      else ((Nat.pow 2 (width - 1) : Nat) : Int) - 1
    match value.truncate with
    | none => return
    | some (n, exact) =>
      let fits := lo ≤ n && n ≤ hi
      if exact && fits then return
      let src ← quoteType (e.ty.getD .error)
      let dst ← quoteType target.unqualified
      if !isBool && !fits then
        warn (st.tokAt e.locTok).reportLoc s!"implicit conversion of out of range value from {src} to {dst} is undefined"
          "-Wliteral-conversion"
        return
      let precision := match source.floatFormat? with
        | some fmt => (fmt.precision * 59 + 195) / 196
        | none => 16
      let shown := value.render precision
      let result := if isBool then (if value.isZero then "false" else "true") else toString n
      warn (st.tokAt e.locTok).reportLoc s!"implicit conversion from {src} to {dst} changes value from {shown} to {result}"
        "-Wliteral-conversion"

/-- Check the conversion of the expression `e`, stripped of parentheses and
inserted conversions, to the type `target` of the place it goes to. -/
def checkConversion (e : Built) (target : CType) : P Unit := do
  let st ← get
  let source := e.ty.getD .error
  let s := source.canonical.unqualified
  let t := target.canonical.unqualified
  if s == t then return
  if t.isBoolean then
    if e.kind == Tree.Kind.stringLiteral then return
    if s.isPointer || s.isArray || s.isFunction then alwaysNonNull e none
  match s, t with
  | .complex _ _, _ => return
  | _, .complex _ _ => return
  | _, _ => pure ()
  let builtin (u : CType) : Option Basic := match u with
    | .basic b _ => some b
    | _ => none
  match builtin s, builtin t with
  | some b, tb =>
    if b.isFloating then
      match tb with
      | some tb' => if !tb'.isFloating && tb'.isInteger then floatToInteger e target b
      | none => pure ()
      return
  | _, _ => pure ()
  match builtin s, builtin t with
  | some b, some tb =>
    match b.isInteger, tb.floatFormat?, e.value with
    | true, some fmt, some v =>
      let bits := if v < 0 then signedBits v else activeBits v.toNat
      if bits > fmt.precision then
        let (fv, exact) := fmt.ofInt v
        if !exact then
          warnLater e.locTok
            s!"implicit conversion from {← quoteType source} to {← quoteType target} changes value from {v} to {fv.render fmt.precision}"
            "-Wimplicit-const-int-float-conversion"
    | _, _, _ => pure ()
  | _, _ => pure ()
  if !s.isInteger || !t.isInteger then return
  if t.isBoolean then return
  match e.value.orElse (fun _ => st.foldAnyway e) with
  | some v =>
    let (tw, tu) := st.intRange t
    let (sw, su) := st.intRange s
    let (width, nonNegative) := if v < 0 then (signedBits v, false) else (activeBits (wrapBits sw su v).toNat, true)
    let changes := width > tw || (width == tw && !tu && nonNegative && !su)
    if changes then
      let shown := wrapBits tw tu v
      warnLater e.locTok
        s!"implicit conversion from {← quoteType source} to {← quoteType target} changes value from {v} to {shown}"
        "-Wconstant-conversion"
      return
  | none => pure ()
  -- an enumerator counts as a value of its enumeration
  let sourceEnum : Option Nat :=
    if e.kind == .declRefExpr then
      match e.referenced.bind (st.decls[·]?) with
      | some d => if d.kind == .enumerator then d.tag else none
      | none => none
    else none
  let sourceEnum := match sourceEnum, s with
    | some i, _ => some i
    | none, .tag i .enum _ => some i
    | none, _ => none
  match sourceEnum, t with
  | some i, .tag j .enum _ =>
    let named (k : Nat) : Bool := match st.tags[k]? with
      | some tag => tag.name.isSome || tag.typedefName.isSome
      | none => false
    if i != j && named i && named j then
      warn (st.tokAt e.locTok).reportLoc
        s!"implicit conversion from enumeration type {← quoteType (.tag i .enum {})} to different enumeration type {← quoteType target}"
        "-Wenum-conversion"
  | _, _ => pure ()

/-- Check a value used as a truth value. -/
def checkTruth (e : Built) : P Unit := checkConversion e.bare (.basic .bool {})

/-- The relations a constant has to the range of values of the other
operand of a comparison, as bits: below every value, at the lowest, inside,
at the highest, above every value, the only value, or in a hole of a range
that wraps around. -/
def rangeFlags (lo hi v : Int) (top : Int) : Nat :=
  let lt := 1
  let le := 2
  let gt := 4
  let ge := 8
  let eq := 16
  let ne := 32
  let inRange := 64
  if lo > hi then
    if v == 0 then le ||| inRange
    else if v == top then ge ||| inRange
    else if v ≥ lo || v ≤ hi then inRange
    else ne
  else if v < lo then le ||| lt ||| ne
  else if v == lo then (if lo == hi then le ||| ge ||| eq ||| inRange else le ||| inRange)
  else if v < hi then inRange
  else if v == hi then ge ||| inRange
  else ge ||| gt ||| ne

/-- The result a comparison always has, given how its constant stands to
the other operand's range, when the range decides it. -/
def comparisonOutcome (op : String) (flags : Nat) (constantOnRight : Bool) : Option String :=
  let (yes, no) : Nat × Nat :=
    if op == "==" then (16, 32)
    else if op == "!=" then (32, 16)
    else
      let (y, n) := if (op == "<" || op == ">=") != constantOnRight then (1, 8) else (4, 2)
      if op == ">=" || op == "<=" then (n, y) else (y, n)
  if flags &&& yes != 0 then some "true"
  else if flags &&& no != 0 then some "false"
  else none

/-- Warn about a comparison of an operand with a constant outside the range
of the operand's type, or of a truth value with a constant, whose result is
always the same. Gives whether it warned or would have. -/
def tautologicalComparison (e : Built) (constant other : Built) (value : Int)
    (constantOnRight : Bool) : P Bool := do
  let st ← get
  let constant := constant.bare
  let other := other.bare
  let otherTy := other.ty.getD .error
  let compared := ((e.children.head?.bind (·.ty)).getD .int)
  let (cw, cu) := st.intRange compared
  let isBool := otherTy.isBoolean
  let booleanDespiteType := !isBool && st.knownBoolean 64 other
  let (w, nonNegative) := if booleanDespiteType then (1, true) else st.intRange otherTy
  let pow (k : Nat) : Int := ((Nat.pow 2 k : Nat) : Int)
  let (lo, hi) : Int × Int :=
    if w == 0 then (0, 0)
    else if w ≥ cw && !cu then (-(pow (cw - 1)), pow (cw - 1) - 1)
    else
      let lo := if nonNegative then 0 else -(pow (w - 1))
      let hi := if nonNegative then pow w - 1 else pow (w - 1) - 1
      (wrapBits cw cu lo, wrapBits cw cu hi)
  let flags := rangeFlags lo hi value (pow cw - 1)
  match comparisonOutcome (st.operatorOf e) flags constantOnRight with
  | none => return false
  | some outcome =>
    let inRange := flags &&& 64 != 0
    let enumConstant := constant.kind == .declRefExpr &&
      (match constant.referenced.bind (st.decls[·]?) with
       | some d => d.kind == .enumerator
       | none => false)
    let fromMacro := (st.tokAt constant.first).origin.isSome
    if inRange && (enumConstant || fromMacro) then return false
    let shown := if enumConstant then s!"'{constant.spelling}' ({value})" else toString value
    if !inRange || st.knownBoolean 64 other then
      let typeText ← quoteType otherTy
      let with_ := if booleanDespiteType then "boolean expression"
        else s!"expression of type {typeText}"
      let option := if !inRange then "-Wtautological-constant-out-of-range-compare"
        else "-Wtautological-constant-compare"
      warnLater e.operatorTok
        s!"result of comparison of constant {shown} with {with_} is always {outcome}" option
    return true

/-- Check the constant stored by an assignment into a bit-field of `width`
bits (`signed` says whether it holds negative values), reported at the
assignment's operator. Gives whether it warned. -/
def bitFieldStore (width : Nat) (signed : Bool) (rhs : Built) (at_ : Nat) : P Bool := do
  let st ← get
  let init := rhs.bare
  match init.value.orElse (fun _ => st.foldAnyway init) with
  | none => return false
  | some v =>
    let srcTy := init.ty.getD .int
    let (sw, su) := st.intRange srcTy
    let negated := init.kind == .unaryOperator && !init.isPostfix &&
      (st.operatorOf init == "-" || st.operatorOf init == "~")
    let original := if (su || v < 0) && negated then signedBits (wrapBits sw false v) else sw
    if original ≤ width then return false
    let truncated := wrapBits width (!signed) v
    if truncated == v then return false
    if width == 1 && v == 1 then return false
    warn (st.tokAt at_).reportLoc
      s!"implicit truncation from {← quoteType srcTy} to bit-field changes value from {v} to {truncated}"
      "-Wbitfield-constant-conversion"
    return true

mutual

/-- Walk a completed expression, checking the conversions in it: the node
`orig` is converted (or not) to its own type from the expression under its
parentheses and inserted conversions. -/
def conversionWalk : Nat → Built → P Unit
  | 0, _ => pure ()
  | f + 1, orig => do
    let st ← get
    let e := orig.bare
    let context := orig.ty
    if e.kind == .unaryOperator && !e.isPostfix && st.operatorOf e == "~" then
      match e.children with
      | c :: _ =>
        if st.knownBoolean 64 c then
          let always := match context with
            | some t => if t.isBoolean then " always evaluates to 'true';" else ";"
            | none => ";"
          warn (st.tokAt e.first).reportLoc
            ("bitwise negation of a boolean expression" ++ always ++ " did you mean logical negation?")
            "-Wbool-operation"
      | [] => pure ()
    if e.kind == .conditionalOperator then
      conversionChoice f e context
      return
    match context with
    | some t => checkConversion e t
    | none => pure ()
    if e.kind == .cStyleCastExpr then
      match e.children.getLast? with
      | some c => conversionWalk f c.bare
      | none => pure ()
      return
    let o := st.operatorOf e
    if e.kind == .binaryOperator && isComparisonOperator o then
      conversionCompare f e
      return
    if e.kind == .binaryOperator && o == "=" then
      conversionStore f e
      return
    if e.kind == .compoundAssignmentOperator then
      for c in e.children do conversionWalk f c
      return
    if e.kind == .stmtExpr || e.kind == .unaryExpr then return
    let isAnd := e.kind == .binaryOperator && o == "&&"
    if e.kind == .binaryOperator && (isAnd || o == "||") then
      for c in e.children do
        if !(isAnd && c.bare.kind == .stringLiteral) then checkTruth c
    if e.kind == .unaryOperator && !e.isPostfix && o == "!" then
      match e.children with
      | c :: _ => checkTruth c
      | [] => pure ()
    for c in e.children.reverse do
      if !(isAnd && c.bare.kind == .stringLiteral) then conversionWalk f c

/-- Check a conversionChoice expression whose value goes to `context`: its
condition, then each result as if it went there directly. -/
def conversionChoice : Nat → Built → Option CType → P Unit
  | 0, _, _ => pure ()
  | f + 1, e, context => do
    match e.children with
    | [c, a, b] =>
      conversionWalk f c
      conversionResult f a context
      conversionResult f b context
    | [c, _, _, b] =>
      conversionResult f c context
      conversionResult f b context
    | _ => pure ()

/-- Check one result of a conversionChoice expression. -/
def conversionResult : Nat → Built → Option CType → P Unit
  | 0, _, _ => pure ()
  | f + 1, e, context => do
    let e := e.bare
    if e.kind == .conditionalOperator then
      conversionChoice f e context
      return
    conversionWalk f e
    match context with
    | some t => checkConversion e t
    | none => pure ()

/-- Check a conversionCompare: its result when the types decide it, then its
operands. -/
def conversionCompare : Nat → Built → P Unit
  | 0, _ => pure ()
  | f + 1, e => do
    match e.children with
    | [lhs, rhs] =>
      let lt := (lhs.ty.getD .error).canonical.unqualified
      let rt := (rhs.ty.getD .error).canonical.unqualified
      let both : P Unit := do
        conversionWalk f lhs
        conversionWalk f rhs
      if !(lt == rt) then
        both
        return
      if lt.isInteger then
        match lhs.value, rhs.value with
        | some _, some _ =>
          both
          return
        | none, some v =>
          if ← tautologicalComparison e rhs lhs v true then
            both
            return
        | some v, none =>
          if ← tautologicalComparison e lhs rhs v false then
            both
            return
        | none, none => pure ()
      let st ← get
      let unsigned := match st.basicOfType lt with
        | some b => b.isInteger && b.isUnsigned
        | none => false
      if !unsigned then
        both
        return
      conversionWalk f lhs.bare
      conversionWalk f rhs.bare
    | _ => pure ()

/-- Check an conversionStore: the place assigned to, then the value, which a
bit-field may not hold. -/
def conversionStore : Nat → Built → P Unit
  | 0, _ => pure ()
  | f + 1, e => do
    match e.children with
    | [lhs, rhs] =>
      conversionWalk f lhs
      match lhs.bare.bits with
      | some (width, signed) =>
        if !(lhs.ty.getD .error).isBoolean then
          if ← bitFieldStore width signed rhs e.operatorTok then
            conversionWalk f rhs.bare
            return
      | none => pure ()
      conversionWalk f rhs
    | _ => pure ()

end

/-- The attribute of the function a call calls directly that says its
result matters. -/
def PState.resultAttrOf (st : PState) (call : Built) : Option String :=
  match call.children.head?.map (·.bare) with
  | some c =>
    if c.kind == .declRefExpr then (c.referenced.bind (st.decls[·]?)).bind (·.resultAttr) else none
  | none => none

/-- Whether an expression may change something when evaluated: an
assignment, an increment or decrement, or a call. -/
def PState.hasSideEffects (st : PState) : Nat → Built → Bool
  | 0, _ => true
  | f + 1, n =>
    if n.kind == .callExpr || n.kind == .compoundAssignmentOperator then true
    else if n.kind == .binaryOperator && st.operatorOf n == "=" then true
    else if n.kind == .unaryOperator && (st.operatorOf n == "++" || st.operatorOf n == "--") then true
    else n.children.any (st.hasSideEffects f)

/-- Whether evaluating an expression certainly changes something: an
assignment, compound or plain, an increment or a decrement, or a
`__builtin_va_arg`, also within a statement expression. A call counts
only through its operands, an operand of `sizeof` not at all, a selection
through the alternative it selects, and an expression placed by a macro
never. -/
def PState.certainlyChanges (st : PState) : Nat → Built → Bool
  | 0, _ => false
  | f + 1, n =>
    let name := n.kind.name
    let statement := name.endsWith "_STMT" || name.endsWith "_DECL"
    let among (cs : List Built) : Bool := cs.any (st.certainlyChanges f)
    if !statement && (st.tokAt (st.exprLocTok 64 n)).origin.isSome then false
    else match n.kind with
    | .compoundAssignmentOperator => true
    | .binaryOperator => st.operatorOf n == "=" || among n.children
    | .unaryOperator => st.operatorOf n == "++" || st.operatorOf n == "--" || among n.children
    | .unaryExpr => false
    | .genericSelectionExpr => among ((n.selected.bind (n.children[·]?)).toList)
    | .unexposedExpr =>
      if n.converted then among n.children
      else if (st.tokAt n.first).text == "__builtin_va_arg" then true
      else match n.selected with
        | some k => among (n.children[k]?).toList
        | none => among n.children
    | _ => among n.children

/-- Warn that the operand of `sizeof`, `_Alignof` or the controlling
expression of a generic selection has an effect that is never brought
about, since it is not evaluated; the operand of a variable length array
type is evaluated. -/
def unevaluatedEffectsCheck (operand : Built) : P Unit := do
  let st ← get
  let vla := (operand.ty.map (·.isVariableArray)).getD false
  if !vla && st.certainlyChanges 256 operand then
    warn (st.tokAt (st.exprLocTok 64 operand)).reportLoc
      "expression with side effects has no effect in an unevaluated context" "-Wunevaluated-expression"

/-- Where a discarded value is reported as unused, if it is, with the
expression the report is about: none for an expression evaluated for its
effect. -/
def PState.unusedAt (st : PState) : Nat → Built → Option (Nat × Built)
  | 0, _ => none
  | f + 1, n =>
    let void := match n.ty with
      | some t => t.isVoid
      | none => true
    match n.kind with
    | .parenExpr => (n.children.head?).bind (st.unusedAt f)
    | .unaryOperator =>
      let o := st.operatorOf n
      if n.isPostfix || o == "++" || o == "--" then none else some (n.operatorTok, n)
    | .binaryOperator =>
      let o := st.operatorOf n
      if o == "," then
        match n.children with
        | [_, r] =>
          if r.withoutParens.kind == .integerLiteral && r.withoutParens.value == some 0 then none
          else st.unusedAt f r
        | _ => none
      else if o == "=" then none
      else if (o == "&&" || o == "||") && n.children.all (st.hasSideEffects 64) then none
      else some (n.operatorTok, n)
    | .compoundAssignmentOperator => none
    | .conditionalOperator =>
      match n.children with
      | [_, a, b] => (st.unusedAt f a).bind fun _ => st.unusedAt f b
      | [_, _, _, b] => st.unusedAt f b
      | _ => none
    | .memberRefExpr => some (n.locTok, n)
    | .arraySubscriptExpr => some (n.last, n)
    | .callExpr =>
      if (st.resultAttrOf n).isSome then some (n.first, n) else none
    | .cStyleCastExpr => if void then none else some (n.first, n)
    | .stmtExpr => if void then none else some (n.first, n)
    | .unexposedExpr =>
      if n.converted then
        match n.children with
        | c :: _ =>
          let volatileLoad := (c.ty.map fun t => t.canonical.quals.volatile).getD false
          if volatileLoad && !((c.ty.map (·.isArray)).getD false) then none else st.unusedAt f c
        | [] => none
      else if void then none else some (n.locTok, n)
    | _ => if void then none else some (n.locTok, n)

/-- Warn about an expression statement whose value is not used. -/
def unusedResult (e : Built) : P Unit := do
  let st ← get
  match st.unusedAt 256 e with
  | none => return
  | some (at_, warned) =>
    let top := e.withoutConversions
    let o := st.operatorOf top
    if top.kind == .binaryOperator && isComparisonOperator o then
      let t := st.tokAt top.operatorTok
      if (t.origin.map (!·.fromArgument)).getD false then return
      let kind := if o == "==" then "equality" else if o == "!=" then "inequality" else "relational"
      warn t.reportLoc s!"{kind} comparison result unused" "-Wunused-comparison"
      return
    let exprTok := st.tokAt e.bare.locTok
    let inMacro := (exprTok.origin.map (!·.fromArgument)).getD false
    let here := (st.tokAt at_).reportLoc
    if warned.kind == .callExpr then
      if (warned.ty.map (·.isVoid)).getD true then return
      match st.resultAttrOf warned with
      | some "warn_unused_result" =>
        warn here "ignoring return value of function declared with 'warn_unused_result' attribute"
          "-Wunused-result"
      | some a =>
        if !inMacro then
          warn here s!"ignoring return value of function declared with {a} attribute" "-Wunused-value"
      | none => pure ()
      return
    if inMacro then return
    if warned.kind == .cStyleCastExpr then
      match warned.ty with
      | some (.pointer (.basic .void q) pq) =>
        if q.isEmpty && pq.isEmpty then
          warn here "expression result unused; should this cast be to 'void'?" "-Wunused-value"
          return
      | _ => pure ()
    -- a value needed before the program runs is not said to be unused
    if st.constantEvaluated == 0 then warn here "expression result unused" "-Wunused-value"

/-- Whether an expression may be assigned to: a variable or parameter, a
member, an element or a dereferenced pointer, not const, not an array. -/
def PState.modifiable (st : PState) (n : Built) : Bool :=
  let t := n.ty.getD .error
  !t.isArray && !t.isFunction && !t.isConst &&
    match n.kind with
    | .declRefExpr =>
      match n.referenced.bind (st.decls[·]?) with
      | some d => d.kind == .variable || d.kind == .parameter
      | none => false
    | .memberRefExpr | .arraySubscriptExpr => true
    | .unaryOperator => !n.isPostfix && st.operatorOf n == "*"
    | _ => false

/-- The checks of a condition of `if`, `while`, `do` or `for` as written:
an assignment where a comparison may have been meant, and a comparison in
parentheses of its own. -/
def checkWrittenCondition (e : Built) : P Unit := do
  let st ← get
  let o := st.operatorOf e
  if (e.kind == .binaryOperator && o == "=") || (e.kind == .compoundAssignmentOperator && o == "|=") then
    warn (st.tokAt e.operatorTok).reportLoc "using the result of an assignment as a condition without parentheses"
      "-Wparentheses"
  if e.kind == .parenExpr && (st.tokAt e.first).origin.isNone then
    let inner := e.withoutParens
    if inner.kind == .binaryOperator && st.operatorOf inner == "==" then
      match inner.children with
      | lhs :: _ =>
        if st.modifiable lhs.bare then
          warn (st.tokAt inner.operatorTok).reportLoc "equality comparison with extraneous parentheses"
            "-Wparentheses-equality"
      | [] => pure ()

/-- Whether a binary operator is `&`, `^` or `|`. -/
def isBitwiseOperator (o : String) : Bool := o == "&" || o == "^" || o == "|"

/-- Warnings about operators whose precedence may surprise: a bitwise
operator beside a comparison, and an addition or subtraction inside a
shift. The operator `op` is at token `at_`; the operands are as written. -/
def precedenceChecks (op : String) (at_ : Nat) (lhs rhs : Built) : P Unit := do
  let st ← get
  let binary (n : Built) : Option String :=
    if n.kind == .binaryOperator then some (st.operatorOf n) else none
  if isBitwiseOperator op then
    let lc := ((binary lhs).map isComparisonOperator).getD false
    let rc := ((binary rhs).map isComparisonOperator).getD false
    let lb := ((binary lhs).map isBitwiseOperator).getD false
    let rb := ((binary rhs).map isBitwiseOperator).getD false
    if lc != rc && !lb && !rb then
      let other := ((if lc then binary lhs else binary rhs)).getD ""
      warn (st.tokAt at_).reportLoc s!"{op} has lower precedence than {other}; {other} will be evaluated first"
        "-Wparentheses"
  if (op == "<<" && (lhs.ty.getD .error).isInteger) || op == ">>" then
    if (st.tokAt at_).origin.isNone then
      for side in [lhs, rhs] do
        match binary side with
        | some o =>
          if o == "+" || o == "-" then
            warn (st.tokAt side.operatorTok).reportLoc
              s!"operator '{op}' has lower precedence than '{o}'; '{o}' will be evaluated first"
              "-Wshift-op-parentheses"
        | none => pure ()

/-- Warn about a conditional expression at token `q` whose condition is an
arithmetic operation ending in something that looks like a truth value, as
when `a + b ? c : d` was meant as `a + (b ? c : d)`. -/
def conditionalPrecedence (q : Nat) (cond : Built) : P Unit := do
  let st ← get
  let e := cond.withoutConversions
  if e.kind != .binaryOperator then return
  let o := st.operatorOf e
  let arithmetic := o == "+" || o == "-" || o == "*" || o == "/" || o == "%" || o == "<<" ||
    o == ">>" || o == "&" || o == "|"
  if !arithmetic then return
  match e.children with
  | [_, r] =>
    let r := r.bare
    let rt := r.ty.getD .error
    let looksBoolean := rt.isBoolean || rt.isPointer ||
      (r.kind == .binaryOperator && (isComparisonOperator (st.operatorOf r) ||
        st.operatorOf r == "&&" || st.operatorOf r == "||")) ||
      (r.kind == .unaryOperator && !r.isPostfix && st.operatorOf r == "!")
    if looksBoolean then
      let option := if o == "&" || o == "|" then "-Wbitwise-conditional-parentheses" else "-Wparentheses"
      warn (st.tokAt q).reportLoc s!"operator '?:' has lower precedence than '{o}'; '{o}' will be evaluated first"
        option
  | _ => pure ()

/-- Warn about `&&` or `||` at token `at_` whose right operand is an
integer constant other than 0 and 1, where a bitwise operator may have been
meant. -/
def logicalConstantOperand (op : String) (at_ : Nat) (lhs rhs : TExpr) : P Unit := do
  let st ← get
  let enumConstant (e : TExpr) : Bool :=
    let n := e.node
    n.kind == .declRefExpr &&
      (match n.referenced.bind (st.decls[·]?) with
       | some d => d.kind == .enumerator && d.value != 0 && d.value != 1
       | none => false)
  if enumConstant lhs || enumConstant rhs then return
  if !lhs.ty.isInteger || lhs.ty.isBoolean || !rhs.ty.isInteger then return
  if (st.tokAt at_).origin.isSome then return
  match rhs.value with
  | some v =>
    if v != 0 && v != 1 then
      warn (st.tokAt at_).reportLoc s!"use of logical '{op}' with constant operand" "-Wconstant-logical-operand"
  | none => pure ()

/-- Warn about `!x` compared with (or, for `&`, combined with) something
that is not a truth value, where `!(x == y)` may have been meant. -/
def logicalNotOnLeft (bitwise : Bool) (lhs rhs : Built) : P Unit := do
  let st ← get
  let l := lhs.withoutConversions
  if l.kind != .unaryOperator || l.isPostfix || st.operatorOf l != "!" then return
  if st.knownBoolean 64 rhs then return
  match l.children with
  | sub :: _ =>
    if st.knownBoolean 64 sub.withoutConversions then return
    let what := if bitwise then "bitwise operator" else "comparison"
    warn (st.tokAt l.first).reportLoc s!"logical not is only applied to the left hand side of this {what}"
      "-Wlogical-not-parentheses"
  | [] => pure ()

/-- How an inserted conversion changes its operand, as far as telling two
operands apart goes: reading the object it designates (0), an array (1) or
a function (2) becoming a pointer, or converting a value (3). -/
def PState.conversionKind (st : PState) (n : Built) : Nat :=
  match n.children.head? with
  | some c =>
    let t := c.ty.getD .error
    if t.isArray then 1 else if t.isFunction then 2 else if st.designatesObject c then 0 else 3
  | none => 3

mutual

/-- Whether two operands of comparisons are the same: the same enumerator,
or, under the same inserted conversions, the same variable, the same
element of the same array, or the same chain of members. -/
def PState.sameOperand (st : PState) : Nat → Built → Built → Bool
  | 0, _, _ => false
  | f + 1, a, b =>
    let a := a.withoutParens
    let b := b.withoutParens
    if a.kind == .declRefExpr && b.kind == .declRefExpr then
      a.referenced.isSome && a.referenced == b.referenced &&
        match a.referenced.bind (st.decls[·]?) with
        | some d => d.kind == .enumerator
        | none => false
    else if a.converted && b.converted then st.sameConverted f a b
    else false

/-- Whether two inserted conversions are of one kind and lead, through
more conversions of equal kinds, to the same designated object. -/
def PState.sameConverted (st : PState) : Nat → Built → Built → Bool
  | 0, _, _ => false
  | f + 1, a, b =>
    let k := st.conversionKind a
    if k != st.conversionKind b then false
    else
      match a.children.head?, b.children.head? with
      | some x, some y =>
        let x := x.withoutParens
        let y := y.withoutParens
        if k == 3 then x.converted && y.converted && st.sameConverted f x y
        else st.sameDesignated f x y
      | _, _ => false

/-- Whether two expressions designate the same object: one variable, the
same element of one array, or one chain of members. -/
def PState.sameDesignated (st : PState) : Nat → Built → Built → Bool
  | 0, _, _ => false
  | f + 1, a, b =>
    if a.kind == .declRefExpr && b.kind == .declRefExpr then
      a.referenced.isSome && a.referenced == b.referenced
    else if a.kind == .arraySubscriptExpr && b.kind == .arraySubscriptExpr then
      match a.children, b.children with
      | [a1, a2], [b1, b2] =>
        let pointerFirst (x : Built) : Bool := (x.ty.map (·.isPointer)).getD false
        let (ab, ai) := if pointerFirst a1 then (a1, a2) else (a2, a1)
        let (bb, bi) := if pointerFirst b1 then (b1, b2) else (b2, b1)
        st.sameOperand f ab bb &&
          if ai.kind == .integerLiteral && bi.kind == .integerLiteral then ai.value == bi.value
          else st.sameOperand f ai bi
      | _, _ => false
    else if a.kind == .memberRefExpr && b.kind == .memberRefExpr then
      a.referenced.isSome && a.referenced == b.referenced &&
        match a.children.head?, b.children.head? with
        | some x, some y =>
          let x := x.bare
          let y := y.bare
          if x.kind == .memberRefExpr && y.kind == .memberRefExpr then st.sameDesignated f x y
          else
            -- the chain ends in a variable or a member on each side
            let named (z : Built) : Bool := z.kind == .declRefExpr || z.kind == .memberRefExpr
            named x && named y && x.referenced.isSome && x.referenced == y.referenced
        | _, _ => false
    else false

end


/-- The checks of a comparison at token `at_` whose result its operands
decide: an object compared with itself, two arrays compared, and a string
literal compared with anything but a null pointer. The operands are
converted to their values. -/
def comparisonChecks (op : String) (at_ : Nat) (lhs rhs : TExpr) : P Unit := do
  let st ← get
  let here := (st.tokAt at_).reportLoc
  if lhs.ty.isFloating then return
  let l := lhs.node
  let r := rhs.node
  let fromMacro (n : Built) : Bool := (st.tokAt n.first).origin.isSome
  if !fromMacro l && !fromMacro r then
    let outcome (same : Bool) : String :=
      if same then
        (if op == "==" || op == "<=" || op == ">=" then "true" else "false")
      else (if op == "==" then "false" else if op == "!=" then "true" else "a constant")
    let isArray (n : Built) : Bool :=
      let n := n.bare
      n.kind == .declRefExpr && (n.ty.map (·.isArray)).getD false
    if st.sameOperand 64 l r then
      warn here s!"self-comparison always evaluates to {outcome true}" "-Wtautological-compare"
    else if isArray l && isArray r then
      warn here s!"array comparison always evaluates to {outcome false}" "-Wtautological-compare"
  let stripped (n : Built) : Built :=
    let n := n.bare
    n.stripWhile (fun m => m.kind == .parenExpr || m.converted || m.kind == .cStyleCastExpr) 256
  let literal (n : Built) : Bool := (stripped n).kind == .stringLiteral
  if (literal l && !rhs.nullPointer) || (literal r && !lhs.nullPointer) then
    warn here "result of comparison against a string literal is unspecified (use an explicit string comparison function instead)"
      "-Wstring-compare"

/-- Warn about a string literal added to an integer at token `at_`, which
does not append to the string; and about a character added to a string
pointer. -/
def stringPlusChecks (at_ : Nat) (lhs rhs : TExpr) : P Unit := do
  let st ← get
  let here := (st.tokAt at_).reportLoc
  let isString (e : TExpr) : Bool := e.node.withoutConversions.kind == .stringLiteral
  let (str, index) := if isString lhs then (some lhs, rhs) else if isString rhs then (some rhs, lhs) else (none, rhs)
  match str with
  | some _ =>
    if index.ty.isInteger then
      let t := index.node.withoutConversions.ty.getD index.ty
      warn here s!"adding {← quoteType t} to a string does not append to the string" "-Wstring-plus-int"
  | none =>
    let isChar (e : TExpr) : Bool := e.node.withoutConversions.kind == .characterLiteral
    let (ch, other) := if isChar rhs then (some rhs, lhs) else if isChar lhs then (some lhs, rhs) else (none, rhs)
    match ch with
    | some c =>
      match other.ty.canonical with
      | .pointer p _ =>
        let charLike := match p.canonical with
          | .basic b _ => b == .char || b == .schar || b == .uchar
          | _ => false
        if charLike = true then
          let small := match c.value with
            | some v => 0 ≤ v && v < 256
            | none => false
          let shown ← if c.ty.isInteger && small then quoteType CType.char else quoteType c.ty
          warn here s!"adding {shown} to a string pointer does not append to the string" "-Wstring-plus-char"
      | _ => pure ()
    | none => pure ()

/-- Warn about `sizeof p / sizeof p[0]` at token `at_` where `p` is a
pointer, not an array. -/
def sizeofDivision (at_ : Nat) (lhs rhs : Built) : P Unit := do
  let st ← get
  if lhs.kind != .unaryExpr || rhs.kind != .unaryExpr then return
  if (st.tokAt lhs.first).text != "sizeof" || (st.tokAt rhs.first).text != "sizeof" then return
  -- the left operand is an expression, not a type name
  match lhs.children with
  | [la] =>
    if la.kind == .typeRef || la.kind == .compoundLiteralExpr then return
    let lt := (la.withoutParens.ty.getD .error)
    let rt := rhs.argType.getD .error
    match lt.canonical with
    | .pointer p _ =>
      if !rt.isPointer && p.canonical.unqualified == rt.canonical.unqualified then
        let shown := "sizeof " ++ st.printed 64 la
        warn (st.tokAt at_).reportLoc s!"'{shown}' will return the size of the pointer, not the array itself"
          "-Wsizeof-pointer-div"
    | _ => pure ()
  | _ => pure ()

/-- Warn about a division or remainder at token `at_` by a divisor that
folds to zero, which is undefined when the program runs. -/
def divisionByZero (division : Bool) (at_ : Nat) (rhs : TExpr) : P Unit := do
  if rhs.value == some 0 || (← get).foldInteger rhs.node == some 0 then
    let what := if division then "division" else "remainder"
    warnLater at_ s!"{what} by zero is undefined" "-Wdivision-by-zero"

/-- A non-negative integer written in upper-case hexadecimal with the
prefix `0x`. -/
def hexLiteral (v : Int) : String :=
  "0x" ++ String.ofList ((Nat.toDigits 16 v.toNat).map Char.toUpper)

/-- Check a shift at token `at_` by a constant count. A negative count, or
one not less than the width of the type of `lhs`, is undefined when the
program runs; so is a left shift of a negative constant. A left shift of
a non-negative signed constant that needs more bits than its type has is
reported at once, unless only the sign bit is lost. `promoted` is the
type of the left operand after promotion, which gives the result's type;
the width is that of `lhs` as given, the operand as written in a compound
assignment. -/
def shiftChecks (left : Bool) (at_ : Nat) (lhs : TExpr) (promoted : CType) (rhs : TExpr) : P Unit := do
  let some count := rhs.value | return
  if count < 0 then
    warnLater at_ "shift count is negative" "-Wshift-count-negative"
    return
  let st ← get
  let some b := st.basicOfType lhs.ty | return
  if count ≥ b.width then
    warnLater at_ "shift count >= width of type" "-Wshift-count-overflow"
    return
  if !left then return
  let some pb := st.basicOfType promoted | return
  if pb.isUnsigned || pb == .bool then return
  let some x := lhs.value | return
  if x < 0 then
    warnLater at_ "shifting a negative signed value is undefined" "-Wshift-negative-value"
    return
  let needed := count.toNat + signedBits x
  if b.width + 1 ≥ needed then return
  let result := x * Int.pow 2 count.toNat
  warn (st.tokAt at_).reportLoc
    s!"signed shift result ({hexLiteral result}) requires {signedBits result} bits to represent, but {← quoteType promoted} only has {pb.width} bits"
    "-Wshift-overflow"

/-- The operations on constants that overflow, in the order an evaluation
of `n` meets them: a signed addition, subtraction, multiplication or
negation whose value its type cannot hold. The evaluation goes through
operators, parentheses, casts and the operand of a conditional expression
its condition chooses; the right operand of `&&` or `||` is skipped when
the left one decides the result. -/
def PState.overflowsIn (st : PState) : Nat → Built → List Built
  | 0, _ => []
  | f + 1, n =>
    let own := if n.overflowed then [n] else []
    match n.kind, n.children with
    | .parenExpr, cs | .cStyleCastExpr, cs | .unaryOperator, cs => cs.flatMap (st.overflowsIn f) ++ own
    | .unexposedExpr, cs => if n.converted then cs.flatMap (st.overflowsIn f) else []
    | .binaryOperator, [a, b] | .compoundAssignmentOperator, [a, b] =>
      let o := st.operatorOf n
      let decided := match a.value with
        | some v => (o == "&&" && v == 0) || (o == "||" && v != 0)
        | none => false
      st.overflowsIn f a ++ (if decided then [] else st.overflowsIn f b) ++ own
    | .conditionalOperator, [c, a, b] =>
      st.overflowsIn f c ++ (match c.value with
        | some 0 => st.overflowsIn f b
        | some _ => st.overflowsIn f a
        | none => [])
    | .conditionalOperator, [c, _, _, b] =>
      st.overflowsIn f c ++ (if c.value == some 0 then st.overflowsIn f b else [])
    | _, _ => []

/-- The overflows found in a completed expression: in it when it is a
binary operator under parentheses and casts; else in the elements of an
initializer list or the arguments of a call, the last first. -/
def PState.overflowsOf (st : PState) : Nat → Built → List Built
  | 0, _ => []
  | f + 1, n =>
    let e := n.stripWhile (fun m => m.kind == .parenExpr || m.converted || m.kind == .cStyleCastExpr) 256
    if e.kind == .binaryOperator || e.kind == .compoundAssignmentOperator then st.overflowsIn 256 e
    else if n.kind == .initListExpr then n.children.reverse.flatMap (st.overflowsOf f)
    else if e.kind == .callExpr then (e.children.drop 1).reverse.flatMap (st.overflowsOf f)
    else []

/-- Warn about the overflows in a completed expression. -/
def overflowChecks (e : Built) : P Unit := do
  let st ← get
  for n in st.overflowsOf 256 e do
    let at_ := if n.kind == .unaryOperator then n.first else n.operatorTok
    warn (st.tokAt at_).reportLoc
      s!"overflow in expression; result is {n.value.getD 0} with type {← quoteType (n.ty.getD .int)}"
      "-Winteger-overflow"

/-- The checks of a completed expression: its conversions, the order of
its side effects, and the overflows of its constant operations. -/
def checkCompleted (e : Built) : P Unit := do
  conversionWalk 256 e
  let st ← get
  for (at_, text) in unsequencedReports st e do
    warnLater at_ text "-Wunsequenced"
  overflowChecks e

end CInspect.Parse
