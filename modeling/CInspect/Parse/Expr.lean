import CInspect.Parse.BuiltinCall
import CInspect.Parse.FormatCheck
import CInspect.Types.Layout
/-!
Expressions.

An expression is read by precedence: a cast expression (a unary
expression, possibly after casts), then binary operators, each taking as
its right operand everything that binds more tightly; assignment and the
conditional operator group from the right. As each operator is read its
operands are checked and converted (`Parse.Typing`) and its node is built,
with the type of its value.

Names are looked up in the scopes: an object, function or enumerator
gives a reference; a name never declared is an error unless it is called,
in which case it is declared implicitly as a function returning `int`,
or with its library type when the compiler knows the function.

Type names, which casts, `sizeof` and compound literals hold, and
initializer lists are read by the declaration parser, reached through
`Hooks`.
-/

namespace CInspect.Parse

open CInspect.Types CInspect.Lex CInspect.Preprocess CInspect.Source

/-- A type name as written in a cast, `sizeof` or a compound literal: its
type, the nodes written in it, and its tokens. -/
structure TypeName where
  ty : CType
  refs : List Built
  first : Nat
  last : Nat
deriving Inhabited

/-- What expressions need of the declaration parser. -/
structure Hooks where
  typeName : P TypeName
  /-- An initializer list for an object of the given type, with the type
  it completes (an array of unknown size takes its size from the list). -/
  initializer : CType → P (Built × CType)
  /-- The braces of a statement expression, `({ ... })`, with the value of
  its last statement when that is an expression. -/
  statementExpression : P (Built × Option TExpr)

/-- A node for the single token `i`. -/
def leafNode (kind : Tree.Kind) (i : Nat) (ty : CType) (spelling : String := "") : Built :=
  { kind := kind, spelling := spelling, locTok := i, first := i, last := i, ty := some ty }

/-- The precedence of a binary operator (assignment 2, conditional 3, up to
multiplication 13). -/
def binaryPrecedence (t : PpToken) : Option Nat :=
  if t.kind != .punctuator then none
  else match t.text with
    | "=" | "*=" | "/=" | "%=" | "+=" | "-=" | "<<=" | ">>=" | "&=" | "^=" | "|=" => some 2
    | "?" => some 3
    | "||" => some 4
    | "&&" => some 5
    | "|" => some 6
    | "^" => some 7
    | "&" => some 8
    | "==" | "!=" => some 9
    | "<" | ">" | "<=" | ">=" => some 10
    | "<<" | ">>" => some 11
    | "+" | "-" => some 12
    | "*" | "/" | "%" => some 13
    | _ => none

/-- A string literal's prefix and the text between its quotes. -/
def splitStringToken (text : String) : String × List Char :=
  let cs := text.toList
  let pre := cs.takeWhile (· != '"')
  let body := (cs.drop (pre.length + 1)).dropLast
  (String.ofList pre, body)

/-- Report what reading a literal found: an error stops. -/
def reportLiteralIssue (t : PpToken) (i : LiteralIssue) : P Unit := do
  let at_ := t.charLoc i.offset
  if i.error then failAt at_ i.text
  else remark ⟨.warning, some at_, i.text, i.option⟩

/-- Adjacent string literals, joined: tokens `i` to `j`. A prefixed
literal gives its kind to the plain ones beside it; two different
prefixes may not be joined. -/
def stringLiteral (i j : Nat) : P TExpr := do
  let st ← get
  let toks := (List.range (j + 1 - i)).map (fun k => st.tokAt (i + k))
  let mut kind : LiteralKind := .plain
  for t in toks do
    let k := LiteralKind.ofPrefix (splitStringToken t.text).1
    if k != kind && k != .plain then
      if kind == .plain then kind := k
      else failTok t "unsupported non-standard concatenation of string literals"
  let mut gathered : Array Nat := #[]
  for t in toks do
    let (us, issues, _) := stringUnits t.text kind
    for issue in issues do
      reportLiteralIssue t issue
    gathered := gathered ++ us.toArray
  let units := gathered.toList
  let elem : CType := match kind with
    | .wide => .int
    | .utf32 => .basic .uint {}
    | .utf16 => .basic .ushort {}
    | _ => .char
  let ty : CType := .array elem (.fixed (units.length + 1))
  let text := stringLiteralText kind units
  let values : List Int := if elem == .char then units.map (fun (u : Nat) => if u ≥ 128 then (u : Int) - 256 else u)
    else units.map (fun (u : Nat) => (u : Int))
  return { node := { kind := .stringLiteral, spelling := text, locTok := i, first := i, last := j,
                     ty := some ty, units := values }
           ty := ty, lvalue := true, stringLit := true, units := values }

/-- An imaginary constant over the real constant `e` at token `i`. -/
def imaginaryOf (e : TExpr) (i : Nat) (elem : Basic) : TExpr :=
  let ty : CType := .complex elem {}
  { node := { kind := .imaginaryLiteral, locTok := i, first := i, last := i, ty := some ty,
              children := [e.node] }
    ty := ty }

/-- A numeric constant at token `i`. A floating constant too large for its
type, or so small that it is zero, is reported with the type's limit. -/
def numberLiteral (i : Nat) (t : PpToken) : P TExpr := do
  match classifyNumber t.text with
  | .integer lit =>
    let b ← match literalType lit with
      | some b => pure b
      | none =>
        warn t.reportLoc
          "integer literal is too large to be represented in a signed integer type, interpreting as unsigned"
          "-Wimplicitly-unsigned-literal"
        pure Basic.ulonglong
    let ty : CType := .basic b {}
    let v : Int := wrapBits b.width b.isUnsigned lit.value
    let e : TExpr := { node := { leafNode .integerLiteral i ty with value := some v }, ty := ty, value := some v,
                       nullPointer := v == 0 }
    return if lit.imaginary then imaginaryOf e i b else e
  | .floating w d imaginary =>
    let b : Basic := match w with
      | .single => .float
      | .double => .double
      | .extended => .longDouble
      | .quad => .float128
    let fmt := b.floatFormat?.getD .double
    let ty : CType := .basic b {}
    let (real, tooLarge, tooSmall) := floatConstantValue d fmt
    if tooLarge then
      warn t.reportLoc
        s!"magnitude of floating-point constant too large for type {← quoteType ty}; maximum is {fmt.largest.render 0 fmt.precision}"
        "-Wliteral-range"
    if tooSmall then
      warn t.reportLoc
        s!"magnitude of floating-point constant too small for type {← quoteType ty}; minimum is {fmt.smallest.render 0 fmt.precision}"
        "-Wliteral-range"
    let e : TExpr := { node := { leafNode .floatingLiteral i ty with real := some real }, ty := ty,
                       real := some real }
    return if imaginary then imaginaryOf e i b else e
  | .invalid text off => failAt (t.charLoc off) text

/-- A character constant at token `i`. -/
def charLiteral (i : Nat) (t : PpToken) : P TExpr := do
  let c := charConstant t.text
  for issue in c.issues do
    reportLiteralIssue t issue
  let ty : CType := match c.kind with
    | .utf16 => .basic .ushort {}
    | .utf32 => .basic .uint {}
    | _ => .int
  let v := c.value
  return { node := { leafNode .characterLiteral i ty with value := some v }, ty := ty, value := some v,
           nullPointer := v == 0 }

/-- Declare a function the compiler knows by name at its first use, when
it can give the function its type: a library function with a warning
that names the type. It is declared for the whole unit. -/
def declareBuiltin (i : Nat) (t : PpToken) : P (Option Nat) := do
  match Language.findBuiltin? t.text with
  | none => return none
  | some b =>
    match ← typeOfBuiltin b with
    | .error _ => return none
    | .ok ty =>
      if b.isLibrary then
        warn t.reportLoc s!"implicitly declaring library function '{t.text}' with type {← quoteType ty}"
          "-Wimplicit-function-declaration"
        if let some hdr := b.header then
          note t.reportLoc s!"include the header <{hdr}> or explicitly provide a declaration for '{t.text}'"
      let id ← declare { kind := .function, name := t.text, ty := ty, nameTok := i, builtin := true,
                         resultAttr := b.resultAttr? } true
      return some id

/-- Declare a function implicitly, for a call of a name never declared: a
function returning `int` whose parameters are not given. A name that
starts like the compiler's own functions and is none of them is an error,
and a library function whose type needs a header's type not declared is
reported as needing the header. In a system header the unknown name is
declared like any other. -/
def declareImplicitly (i : Nat) (t : PpToken) : P Nat := do
  if t.text.startsWith "__builtin_" && !(← inSystemHeader t.reportLoc) then
    failWithOption t.reportLoc s!"use of unknown builtin '{t.text}'" "-Wimplicit-function-declaration"
  warn t.reportLoc s!"implicit declaration of function '{t.text}' is invalid in C99"
    "-Wimplicit-function-declaration"
  if let some b := Language.findBuiltin? t.text then
    if let .error (.missing hdr) ← typeOfBuiltin b then
      warn t.reportLoc s!"declaration of built-in function '{t.text}' requires inclusion of the header <{hdr}>"
        "-Wbuiltin-requires-header"
  declare { kind := .function, name := t.text, ty := .function .int [] false false false, nameTok := i }

/-- A function type without its parameters, as if none were declared. -/
def withoutPrototype : CType → CType
  | .function r _ _ _ nr => .function r [] false false nr
  | .typedef _ t _ => withoutPrototype t
  | t => t

/-- A reference to the declaration `id` at token `i`. -/
def referenceTo (i : Nat) (id : Nat) : P TExpr := do
  let d ← declOf id
  let node : Built := { kind := .declRefExpr, spelling := d.name, locTok := i, first := i, last := i,
                        ty := some (if d.kind == .enumerator then .int else d.ty), referenced := some id }
  match d.kind with
  | .enumerator => return { node := node, ty := .int, value := some d.value, nullPointer := d.value == 0 }
  | .function =>
    -- a function that only this unit can define must be defined once used
    if !d.defined && (d.static || d.inlined) then
      modify fun st =>
        if st.unevaluated > 0 || st.undefinedUses.any (·.1 == d.name) then st
        else { st with undefinedUses := st.undefinedUses.push (d.name, i) }
    if d.callOnly then
      return { node := { node with ty := some (builtinFunctionType d.ty) }, ty := d.ty }
    -- a function defined with only the names of its parameters is referred
    -- to without its parameter types, which serve only to check its definition
    if !d.prototypeWritten then
      let ty := withoutPrototype d.ty
      return { node := { node with ty := some ty }, ty := ty }
    return { node := node, ty := d.ty }
  | _ => return { node := { node with shown := d.shown }, ty := d.ty, lvalue := true,
                  registerObject := d.register }

/-- Check that an expression may be assigned to, reporting at the
operator token `op`. -/
def requireAssignable (e : TExpr) (op : PpToken) : P Unit := do
  if e.ty.isArray then failTok op s!"array type {← quoteType e.ty} is not assignable"
  if !e.lvalue then failTok op "expression is not assignable"
  if e.ty.isConst then
    if e.node.kind == .declRefExpr then
      failTok op s!"cannot assign to variable '{e.node.spelling}' with const-qualified type {← quoteType e.ty}"
    else failTok op "read-only variable is not assignable"

/-- The expression inside any parentheses around it. -/
def Built.throughParens : Built → Nat → Built
  | n, 0 => n
  | n, f + 1 =>
    if n.kind == .parenExpr then
      match n.children.head? with
      | some c => c.throughParens f
      | none => n
    else n

/-- Check a pointer that arithmetic steps over: what it points to must
be complete, unless it is `void` or a function, which the compiler
accepts as an extension. -/
def steppedPointer (p : TExpr) (op : PpToken) : P Unit := do
  let pointee := (p.ty.canonical.pointee?).getD .error
  if !pointee.isVoid && !pointee.isFunction && !(← isComplete pointee) then
    failTok op s!"arithmetic on a pointer to an incomplete type {← quoteType pointee}"

/-- Check the operand of `++` or `--` at the operator `op`: a number or
a pointer that arithmetic may step, and a place that may be assigned to. -/
def stepOperand (e : TExpr) (op : PpToken) : P Unit := do
  if e.ty.isPointer then steppedPointer e op
  else if !e.ty.isArithmetic then
    let verb := if op.text == "++" then "increment" else "decrement"
    failTok op s!"cannot {verb} value of type {← quoteType e.ty}"
  requireAssignable e op

/-- The message for operands an operator does not take. -/
def invalidOperands (a b : TExpr) (op : PpToken) : P α := do
  failTok op s!"invalid operands to binary expression ({← quoteType a.ty} and {← quoteType b.ty})"

/-- A binary node over two operands. -/
def binaryNode (kind : Tree.Kind) (a b : TExpr) (ty : CType) : Built :=
  { kind := kind, locTok := a.node.first, first := a.node.first, last := b.node.last,
    ty := some ty, children := [a.node, b.node] }

/-- Warn about a pointer compared with a null character constant, `'\0'`
or a zero cast to `char`, at the operator token `at_`: a null pointer was
likely meant. The message names `NULL` when that macro is defined. -/
def nullCharacterCompare (at_ : Nat) (e pointer : TExpr) : P Unit := do
  if !pointer.ty.isPointer || e.ty.isPointer || !e.nullPointer then return
  let n := e.node
  let charCast := n.kind == .cStyleCastExpr &&
    (n.ty.map (fun t => t.canonical.unqualified == CType.char)).getD false
  if n.kind == .characterLiteral || charCast then
    let st ← get
    let meant := if st.nullDefinedAt at_ then "NULL" else "(void *)0"
    warn (st.tokAt n.locTok).reportLoc
      s!"comparing a pointer to a null character constant; did you mean to compare to {meant}?" "-Wpointer-compare"

/-- Build a binary operator (not an assignment, comma or conditional) over
operands already read. -/
def combineBinary (op : PpToken) (a b : TExpr) : P TExpr := do
  let o := op.text
  let opAt := a.node.last + 1
  precedenceChecks o opAt a.node b.node
  if o == "&&" || o == "||" then
    logicalConstantOperand o opAt a.rvalue b.rvalue
    let a ← promote a
    let b ← promote b
    if !a.ty.isScalar || !b.ty.isScalar then invalidOperands a b op
    let v : Option Int := match a.truth, b.truth with
      | some x, some y => some (if (if o == "&&" then x && y else x || y) then 1 else 0)
      | some false, none => if o == "&&" then some 0 else none
      | some true, none => if o == "||" then some 1 else none
      | _, _ => none
    return { node := binaryNode .binaryOperator a b .int, ty := .int, value := v, nullPointer := v == some 0 }
  if isComparison o then
    let a' ← a.load
    let b' ← b.load
    logicalNotOnLeft false a'.node b'.node
    comparisonChecks o opAt a' b'
    nullCharacterCompare opAt a' b'
    nullCharacterCompare opAt b' a'
    if a'.ty.isArithmetic && b'.ty.isArithmetic then
      let (a, b, _) ← arithmeticConversions a b false
      let v := match a.value, b.value with
        | some x, some y => some (foldComparison o x y)
        | _, _ =>
          match a.real, b.real with
          | some x, some y => (x.compare y).map fun c =>
              foldComparison o (match c with | .lt => -1 | .eq => 0 | .gt => 1) 0
          | _, _ => none
      return { node := binaryNode .binaryOperator a b .int, ty := .int, value := v, nullPointer := v == some 0 }
    let (a, b) ← comparePointers o a' b'
    return { node := binaryNode .binaryOperator a b .int, ty := .int }
  if o == "<<" || o == ">>" then
    let a ← promote a
    let b ← promote b
    if !a.ty.isInteger || !b.ty.isInteger then invalidOperands a b op
    shiftChecks (o == "<<") opAt a a.ty b
    let v := match a.value, b.value, (← basicOf a.ty) with
      | some x, some y, some bt => foldArithmetic o bt x y
      | _, _, _ => none
    return { node := binaryNode .binaryOperator a b a.ty, ty := a.ty, value := v, nullPointer := v == some 0 }
  -- + - * / % & | ^
  let a' ← a.load
  let b' ← b.load
  if o == "+" then stringPlusChecks opAt a' b'
  if o == "&" then logicalNotOnLeft true a'.node b'.node
  if a'.ty.isArithmetic && b'.ty.isArithmetic then
    let (a, b, ty) ← arithmeticConversions a b false
    if (o == "%" || o == "&" || o == "|" || o == "^") && !ty.isInteger then invalidOperands a b op
    if o == "/" || o == "%" then
      divisionByZero (o == "/") opAt b
      if o == "/" then sizeofDivision opAt a.node.withoutConversions b.node.withoutConversions
    let bt ← basicOf ty
    let v := match a.value, b.value, bt with
      | some x, some y, some bt => foldArithmetic o bt x y
      | _, _, _ => none
    let r := match a.real, b.real, bt.bind Basic.floatFormat? with
      | some x, some y, some fmt => foldFloating o fmt x y
      | _, _, _ => none
    let overflowed := match a.value, b.value, bt with
      | some x, some y, some bt => signedOverflow o bt x y
      | _, _, _ => false
    return { node := { binaryNode .binaryOperator a b ty with overflowed := overflowed }, ty := ty, value := v,
             real := r, nullPointer := v == some 0 }
  if o == "+" || o == "-" then
    let (a, b, _) ← arithmeticConversions a b false
    if a.ty.isPointer && b.ty.isInteger then
      steppedPointer a op
      return { node := { binaryNode .binaryOperator a b a.ty with shown := a.node.shown }, ty := a.ty }
    if o == "+" && a.ty.isInteger && b.ty.isPointer then
      steppedPointer b op
      return { node := { binaryNode .binaryOperator a b b.ty with shown := b.node.shown }, ty := b.ty }
    if o == "-" && a.ty.isPointer && b.ty.isPointer then
      let pa := (a.ty.canonical.pointee?).getD .error
      let pb := (b.ty.canonical.pointee?).getD .error
      if !(pa.canonical.unqualified == pb.canonical.unqualified) && !compatiblePointees pa pb then
        failTok op s!"{← quoteType a.ty} and {← quoteType b.ty} are not pointers to compatible types"
      if !pa.isVoid && !pb.isVoid then
        steppedPointer a op
        steppedPointer b op
      let ty : CType := .basic .long {}
      return { node := binaryNode .binaryOperator a b ty, ty := ty }
    invalidOperands a b op
  invalidOperands a' b' op
where
  /-- Convert the operands of a comparison that involves pointers. -/
  comparePointers (o : String) (a b : TExpr) : P (TExpr × TExpr) := do
    if a.ty.isPointer && b.ty.isPointer then
      let pa := (a.ty.canonical.pointee?).getD .error
      let pb := (b.ty.canonical.pointee?).getD .error
      if pa.canonical == pb.canonical then return (a, b)
      if !(compatiblePointees pa pb || pa.isVoid || pb.isVoid) then
        warn op.reportLoc s!"comparison of distinct pointer types ({← quoteType a.ty} and {← quoteType b.ty})"
          "-Wcompare-distinct-pointer-types"
      if o == "==" || o == "!=" then
        if b.nullPointer && !a.nullPointer then alwaysNonNull a.node (some (o == "=="))
        else if a.nullPointer && !b.nullPointer then alwaysNonNull b.node (some (o == "=="))
      if a.nullPointer && !b.nullPointer then return (← castTo a b.ty, b)
      return (a, ← castTo b a.ty)
    if a.ty.isPointer && b.ty.isInteger then
      if !b.nullPointer then
        warn op.reportLoc s!"comparison between pointer and integer ({← quoteType a.ty} and {← quoteType b.ty})"
          "-Wpointer-integer-compare"
      else if o == "==" || o == "!=" then alwaysNonNull a.node (some (o == "=="))
      return (a, ← castTo b a.ty)
    if a.ty.isInteger && b.ty.isPointer then
      if !a.nullPointer then
        warn op.reportLoc s!"comparison between pointer and integer ({← quoteType a.ty} and {← quoteType b.ty})"
          "-Wpointer-integer-compare"
      else if o == "==" || o == "!=" then alwaysNonNull b.node (some (o == "=="))
      return (← castTo a b.ty, b)
    invalidOperands a b op

/-- Build an assignment or compound assignment. -/
def combineAssignment (op : PpToken) (a b : TExpr) : P TExpr := do
  requireAssignable a op
  let ty := a.ty.unqualified
  if op.text == "=" then
    let b ← convertFor .assigning b a.ty (some op.reportLoc)
    return { node := binaryNode .binaryOperator a b ty, ty := ty }
  let o := String.ofList op.text.toList.dropLast
  if o == "<<" || o == ">>" then
    let b ← promote b
    if !a.ty.isInteger || !b.ty.isInteger then invalidOperands a b op
    -- the width is that of the operand as written, before promotion
    shiftChecks (o == "<<") (a.node.last + 1) a (← promote a).ty b
    return { node := binaryNode .compoundAssignmentOperator a b ty, ty := ty }
  if a.ty.isArithmetic && b.rvalue.ty.isArithmetic then
    let (a, b, common) ← arithmeticConversions a b true
    if (o == "%" || o == "&" || o == "|" || o == "^") && !common.isInteger then invalidOperands a b op
    if o == "/" || o == "%" then divisionByZero (o == "/") (a.node.last + 1) b
    return { node := binaryNode .compoundAssignmentOperator a b ty, ty := ty }
  if (o == "+" || o == "-") && a.ty.isPointer then
    let b ← promote b
    if b.ty.isInteger then
      steppedPointer a op
      return { node := binaryNode .compoundAssignmentOperator a b ty, ty := ty }
  invalidOperands a b.rvalue op

/-- The last two operands of a conditional expression converted to their
common type, and that type. -/
def conditionalOperands (q : PpToken) (a b : TExpr) : P (TExpr × TExpr × CType) := do
  let a' ← a.load
  let b' ← b.load
  if a'.ty.isArithmetic && b'.ty.isArithmetic then arithmeticConversions a b false
  else if a'.ty.isVoid && b'.ty.isVoid then pure (a', b', CType.void)
  else if a'.ty.isPointer && b'.nullPointer && b'.ty.isInteger then
    pure (a', ← castTo b' a'.ty, a'.ty)
  else if b'.ty.isPointer && a'.nullPointer && a'.ty.isInteger then
    pure (← castTo a' b'.ty, b', b'.ty)
  else if a'.ty.isPointer && b'.ty.isPointer then
    let pa := (a'.ty.canonical.pointee?).getD .error
    let pb := (b'.ty.canonical.pointee?).getD .error
    if pa.canonical == pb.canonical then pure (a', b', a'.ty)
    else if pa.isVoid || pb.isVoid then
      let v : CType := .pointer (CType.void.addQuals (pa.canonical.quals.union pb.canonical.quals)) {}
      pure (← castTo a' v, ← castTo b' v, v)
    else pure (a', b', a'.ty)
  else if a'.ty.canonical.unqualified == b'.ty.canonical.unqualified then pure (a', b', a'.ty.unqualified)
  else if (a'.ty.isPointer && b'.ty.isInteger) || (a'.ty.isInteger && b'.ty.isPointer) then
    -- the integer is taken as an address, with a warning
    let left ← quoteType a'.ty
    let right ← quoteType b'.ty
    warn q.reportLoc s!"pointer/integer type mismatch in conditional expression ({left} and {right})"
      "-Wconditional-type-mismatch"
    if a'.ty.isPointer then pure (a', ← castTo b' a'.ty, a'.ty)
    else pure (← castTo a' b'.ty, b', b'.ty)
  else
    let left ← quoteType a'.ty
    let right ← quoteType b'.ty
    failTok q s!"incompatible operand types ({left} and {right})"

/-- The condition of a conditional expression, converted: it must be a
number or a pointer. -/
def conditionOperand (c : TExpr) : P TExpr := do
  let c ← promote c
  if !c.ty.isScalar then
    failAt (← exprLoc c) s!"used type {← quoteType c.ty} where arithmetic or pointer type is required"
  return c

/-- Build a conditional expression. -/
def combineConditional (q : PpToken) (c a b : TExpr) : P TExpr := do
  conditionalPrecedence (c.node.last + 1) c.node
  let c ← conditionOperand c
  let (a, b, ty) ← conditionalOperands q a b
  let chosen := c.truth.map fun x => if x then a else b
  let v := chosen.bind (·.value)
  let r := chosen.bind (·.real)
  return { node := { kind := .conditionalOperator, locTok := c.node.first, first := c.node.first,
                     last := b.node.last, ty := some ty, children := [c.node, a.node, b.node] }
           ty := ty, value := v, real := r, nullPointer := v == some 0 && ty.isInteger }

/-- Build a conditional expression whose middle operand is left out,
`c ?: b`: the condition, converted once, is also the value when it is not
zero. The node holds the condition, then the value it holds as the test
and as the middle operand (each a node over the condition's own
children), then the last operand. -/
def combineShortConditional (q : PpToken) (c b : TExpr) : P TExpr := do
  let common ← conditionOperand c
  let n := common.node
  let held : TExpr := { common with
    node := { kind := .unexposedExpr, locTok := n.first, first := n.first, last := n.last,
              ty := some common.ty, children := n.children } }
  let (a, b, ty) ← conditionalOperands q held b
  let v := match common.value, a.value, b.value with
    | some x, some y, some z => some (if x != 0 then y else z)
    | _, _, _ => none
  return { node := { kind := .unexposedExpr, locTok := n.first, first := n.first, last := b.node.last,
                     ty := some ty, children := [n, held.node, a.node, b.node] }
           ty := ty, value := v, nullPointer := v == some 0 && ty.isInteger }

/-- The size and alignment of a type in bytes, if it is complete. A
typedef name declared with an `aligned` attribute has that alignment; an
enumeration has the size of the integer type that holds its values; a
structure or union is laid out by `recordLayout`, a flexible array member
taking no room. -/
def sizeAlign (fuel : Nat) (t : CType) : P (Option (Nat × Nat)) := do
  match fuel with
  | 0 => return none
  | f + 1 =>
    match t with
    | .typedef name inner _ =>
      let inside ← sizeAlign f inner
      let aligned ← do
        match ← lookupName name with
        | some id =>
          let d ← declOf id
          pure (if d.kind == .typedef then d.align else none)
        | none => pure none
      return match inside, aligned with
        | some (s, _), some a => some (s, a)
        | r, _ => r
    | _ => pure ()
    match t.canonical with
    | .basic b _ =>
      if b == .void then return some (1, 1)
      let s := b.width / 8
      return some (s, s)
    | .complex b _ => return some (2 * (b.width / 8), b.width / 8)
    | .pointer _ _ => return some (8, 8)
    | .array e (.fixed n) =>
      match ← sizeAlign f e with
      | some (s, a) => return some (n * s, a)
      | none => return none
    | .array _ _ => return none
    | .function _ _ _ _ _ => return some (1, 1)
    | .tag i k _ =>
      let tag ← tagOf i
      if !tag.complete then return none
      if k == .enum then
        let s := tag.underlying.width / 8
        return some (s, s)
      let mut fields : Array FieldShape := #[]
      for m in tag.members do
        let measured ← match m.ty.canonical with
          | .array e .unknown => do pure ((← sizeAlign f e).map fun (_, a) => (0, a))
          | _ => sizeAlign f m.ty
        match measured with
        | some (s, a) =>
          fields := fields.push { size := s, align := a, bits := m.bits, named := !m.name.isEmpty,
                                  packed := m.packed, explicit := m.align }
        | none => pure ()
      let shape : RecordShape := { union := k == .union, packed := tag.packed, align := tag.align,
                                   maxFieldAlign := tag.maxFieldAlign }
      return some (recordLayout shape fields.toList)
    | _ => return none

/-- Whether a member access names the last member of a structure: an
array of one element there often stands for a flexible array member. -/
def namesLastMember (n : Built) : P Bool := do
  match n.children, n.referenced with
  | [b], some id =>
    let t := b.ty.getD .error
    let record := (t.canonical.pointee?).getD t
    match record.record? with
    | some tid =>
      let tag ← tagOf tid
      return tag.kind == .struct && (tag.members.getLast?.map (·.decl)) == some id
    | none => return false
  | _, _ => return false

/-- Check a subscript `n` whose index is a constant and whose base is an
array of known size (through parentheses and casts): an index past the
end, or before the beginning, is undefined when the program runs. One
past the end is allowed when `onePastEnd` (the element's address is
taken). When the base is cast to a pointer to a smaller element, the
size counts those smaller elements. An array of one element that ends a
structure is not checked. -/
def subscriptBounds (n : Built) (onePastEnd : Bool) : P Unit := do
  let some b := n.children.find? (fun c => (c.ty.map (·.isPointer)).getD false) | return
  let some i := n.children.find? (fun c => !(c.ty.map (·.isPointer)).getD false) | return
  let some index := i.value | return
  let effective := (b.ty.bind (·.canonical.pointee?)).getD .error
  let array := b.stripWhile (fun m => m.kind == .parenExpr || m.converted || m.kind == .cStyleCastExpr) 256
  let some (CType.array elem (.fixed size)) := array.ty.map (·.canonical) | return
  let at_ := array.first
  if index < 0 then
    warnLater at_ s!"array index {index} is before the beginning of the array" "-Warray-bounds"
    return
  let some (elemSize, _) ← sizeAlign 64 elem | return
  if size == 0 then return
  let size ← do
    if effective.canonical.unqualified == elem.canonical.unqualified then pure size
    else
      let stepSize := ((← sizeAlign 64 effective).map (·.1)).getD 1
      let stepSize := if stepSize == 0 then 1 else stepSize
      pure (if elemSize % stepSize == 0 then size * (elemSize / stepSize) else size)
  if (if onePastEnd then index.toNat ≤ size else index.toNat < size) then return
  if size == 1 && array.kind == .memberRefExpr && (← namesLastMember array) then return
  let plural := if size == 1 then "" else "s"
  warnLater at_ s!"array index {index} is past the end of the array (which contains {size} element{plural})"
    "-Warray-bounds"

/-- Check the subscripts an operand designates: through parentheses and
inserted conversions, member access, `&` (under which one past the end
is allowed), `*`, and both results of a conditional expression. -/
def arrayAccessCheck (e : Built) : P Unit := walk 64 0 e
where
  walk : Nat → Int → Built → P Unit
  | 0, _, _ => pure ()
  | f + 1, under, n => do
    let n := n.stripWhile (fun m => m.kind == .parenExpr || m.converted) 256
    match n.kind with
    | .arraySubscriptExpr =>
      subscriptBounds n (under > 0)
      match n.children.find? (fun c => (c.ty.map (·.isPointer)).getD false) with
      | some b => walk f under b
      | none => pure ()
    | .memberRefExpr =>
      match n.children with
      | [b] => walk f under b
      | _ => pure ()
    | .unaryOperator =>
      let o := (← get).operatorOf n
      match n.children with
      | [c] =>
        if n.isPostfix then pure ()
        else if o == "&" then walk f (under + 1) c
        else if o == "*" then walk f (under - 1) c
        else pure ()
      | _ => pure ()
    | .conditionalOperator =>
      match n.children with
      | [_, a, b] =>
        walk f 0 a
        walk f 0 b
      | _ => pure ()
    | _ => pure ()

/-- The byte at which each member of a complete structure or union starts. -/
def memberStarts (fuel : Nat) (id : Nat) : P (List (Member × Nat)) := do
  let tag ← tagOf id
  let mut fields : Array (Member × FieldShape) := #[]
  for m in tag.members do
    let measured ← match m.ty.canonical with
      | .array e .unknown => do pure ((← sizeAlign fuel e).map fun (_, a) => (0, a))
      | _ => sizeAlign fuel m.ty
    match measured with
    | some (s, a) =>
      fields := fields.push (m, { size := s, align := a, bits := m.bits, named := !m.name.isEmpty,
                                  packed := m.packed, explicit := m.align })
    | none => pure ()
  let shape : RecordShape := { union := tag.kind == .union, packed := tag.packed, align := tag.align,
                               maxFieldAlign := tag.maxFieldAlign }
  return (fields.toList.map (·.1)).zip (memberOffsets shape (fields.toList.map (·.2)))

/-- A member of a structure or union by name, through anonymous members,
with the byte it starts at. -/
def locateMember (fuel : Nat) (id : Nat) (name : String) : P (Option (Member × Nat)) := do
  match fuel with
  | 0 => return none
  | f + 1 =>
    let starts ← memberStarts 64 id
    match starts.find? (·.1.name == name) with
    | some found => return some found
    | none =>
      for (m, start) in starts do
        if m.name.isEmpty then
          if let some inner := m.ty.record? then
            if let some (found, at_) ← locateMember f inner name then
              return some (found, start + at_)
      return none

/-- The text `__PRETTY_FUNCTION__` gives inside a function: its result
type, name and parameter types, as a prototype without parameter names. -/
def prettyFunctionText (name : String) (ty : CType) : P String := do
  match ty with
  | .function r ps va pr _ =>
    let params ← ps.mapM spellType
    let inside :=
      if !pr then ""
      else if ps.isEmpty && !va then "void"
      else ", ".intercalate (params ++ (if va then ["..."] else []))
    return s!"{← spellType r} {name}({inside})"
  | _ => return name

/-- The members of a structure or union, through anonymous members. -/
def findMember (fuel : Nat) (tag : Nat) (name : String) : P (Option Member) := do
  match fuel with
  | 0 => return none
  | f + 1 =>
    let t ← tagOf tag
    match t.members.find? (·.name == name) with
    | some m => return some m
    | none =>
      for m in t.members do
        if m.name.isEmpty then
          match m.ty.record? with
          | some inner =>
            match ← findMember f inner name with
            | some found => return some found
            | none => pure ()
          | none => pure ()
      return none

/-- The last of a run of string literal tokens that starts at `i`, which
has been read. -/
def stringRunFrom (fuel : Nat) (i : Nat) : P Nat := do
  match fuel with
  | 0 => return i
  | f + 1 =>
    let t ← cur
    if t.kind == .stringLit then
      let j ← advance
      stringRunFrom f j
    else return i

/-- The run of string literals that starts at token `i`. -/
def stringRun (i : Nat) : P Nat := do
  let st ← get
  stringRunFrom (st.toks.size - st.pos) i

/-- What an explicit cast at `lp` between pointers and other scalars
draws: a floating value and a pointer do not convert into each other; a
pointer cast to a narrower integer type, or an integer that is not a
constant widened into a pointer, is warned about. -/
def castWarnings (lp : Nat) (ty : CType) (e : TExpr) : P Unit := do
  let at_ := ((← get).tokAt lp).reportLoc
  let exprAt := ((← get).tokAt e.node.locTok).reportLoc
  if ty.isPointer && e.ty.isArithmetic && !e.ty.isInteger then
    failAt exprAt s!"operand of type {← quoteType e.ty} cannot be cast to a pointer type"
  if e.ty.isPointer && ty.isArithmetic && !ty.isInteger then
    failAt exprAt s!"pointer cannot be cast to type {← quoteType ty}"
  let width (t : CType) : P Nat := do return ((← basicOf t).map Basic.width).getD 64
  let isEnum (t : CType) : Bool := match t.canonical with
    | .tag _ .enum _ => true
    | _ => false
  let isBool (t : CType) : Bool := match t.canonical with
    | .basic .bool _ => true
    | _ => false
  let voidPointer (t : CType) : Bool := match t.canonical with
    | .pointer p _ => p.isVoid
    | _ => false
  if ty.isInteger && e.ty.isPointer && !isBool ty && (← width ty) < 64 then
    let option := match voidPointer e.ty, isEnum ty with
      | true, true => "-Wvoid-pointer-to-enum-cast"
      | true, false => "-Wvoid-pointer-to-int-cast"
      | false, true => "-Wpointer-to-enum-cast"
      | false, false => "-Wpointer-to-int-cast"
    warn at_ s!"cast to smaller integer type {← quoteType ty} from {← quoteType e.ty}" option
  if ty.isPointer && e.ty.isInteger && !isBool e.ty && !isEnum e.ty && e.value.isNone &&
      (← width e.ty) < 64 then
    let option := if voidPointer ty then "-Wint-to-void-pointer-cast" else "-Wint-to-pointer-cast"
    warn at_ s!"cast to {← quoteType ty} from smaller integer type {← quoteType e.ty}" option

/-- An explicit cast of an operand to the type named between the
parentheses at tokens `lp` and `rp`. -/
def makeCast (lp : Nat) (tn : TypeName) (operand : TExpr) : P TExpr := do
  let e ← operand.load
  let ty := tn.ty
  if !ty.isVoid then
    if !ty.isScalar && !(ty.canonical.unqualified == e.ty.canonical.unqualified) then
      failTok ((← get).tokAt lp) s!"used type {← quoteType ty} where arithmetic or pointer type is required"
    if !e.ty.isScalar && !(ty.canonical.unqualified == e.ty.canonical.unqualified) then
      failAt (← exprLoc e) s!"operand of type {← quoteType e.ty} where arithmetic or pointer type is required"
  castWarnings lp ty e
  let (value, real) ← do
    match ← basicOf ty with
    | some b => pure (convertConstant b e.value e.real)
    | none => pure (if ty.isPointer then e.value else none, none)
  let voidPointer := match ty.canonical with
    | .pointer (.basic .void q) _ => q.isEmpty
    | _ => false
  let null := e.ty.isInteger && e.value == some 0 && (voidPointer || ty.isInteger)
  return { node := { kind := .cStyleCastExpr, locTok := lp, first := lp, last := e.node.last,
                     ty := some ty, children := tn.refs ++ [e.node] }
           ty := ty, value := value, real := real, nullPointer := null }

/-- Where an lvalue lies in the object it belongs to, when that object is
known without running the program: the object's size in bytes and the
byte the lvalue starts at. The object is a variable or a literal; an
lvalue reached through a pointer belongs to no known object. -/
def placeInObject : Nat → Built → P (Option (Int × Int))
  | 0, _ => return none
  | f + 1, n => do
    let measure (t : Option CType) : P (Option (Int × Int)) := do
      match t with
      | some t => return (← sizeAlign 64 t).map fun (s, _) => ((s : Int), 0)
      | none => return none
    match n.kind, n.children with
    | .parenExpr, [c] => placeInObject f c
    | .declRefExpr, _ =>
      match n.referenced with
      | some id =>
        let d ← declOf id
        if d.kind == .variable then measure (some d.ty) else return none
      | none => return none
    | .stringLiteral, _ => measure n.ty
    | .compoundLiteralExpr, _ => measure n.ty
    | .memberRefExpr, [b] =>
      -- only a member reached with '.' lies in the object of its base
      match (b.ty.getD .error).record? with
      | some tagId =>
        match ← placeInObject f b with
        | some (size, off) =>
          match ← locateMember 16 tagId n.spelling with
          | some (_, start) => return some (size, off + start)
          | none => return none
        | none => return none
      | none => return none
    | .arraySubscriptExpr, [a, i] =>
      let arr := a.withoutConversions
      match arr.ty, i.value with
      | some at_, some k =>
        match at_.canonical with
        | .array e _ =>
          match ← placeInObject f arr, ← sizeAlign 64 e with
          | some (size, off), some (es, _) => return some (size, off + k * es)
          | _, _ => return none
        | _ => return none
      | _, _ => return none
    | _, _ => return none

/-- How many bytes of its object follow the place a pointer expression
points to, when that is known without running the program: the pointer is
an array that gave way to its first element, the address of a known lvalue,
either of these converted to another pointer type, or one of these moved by
a constant number of elements. A pointer past the end has no bytes left. -/
def bytesAfter : Nat → Built → P (Option Int)
  | 0, _ => return none
  | f + 1, n => do
    let rest (p : Option (Int × Int)) : Option Int := p.map fun (s, o) => max 0 (s - o)
    match n.kind, n.children with
    | .parenExpr, [c] => bytesAfter f c
    | .unexposedExpr, [c] =>
      if !n.converted then return none
      let ct := c.ty.getD .error
      if ct.isArray then return rest (← placeInObject f c)
      else if ct.isPointer then bytesAfter f c
      else return none
    | .cStyleCastExpr, [c] =>
      if (c.ty.getD .error).isPointer || (c.ty.getD .error).isArray then bytesAfter f c else return none
    | .unaryOperator, [c] =>
      if (← get).operatorOf n == "&" then return rest (← placeInObject f c) else return none
    | .binaryOperator, [a, b] =>
      let o := (← get).operatorOf n
      if o != "+" && o != "-" then return none
      let (p, k) := if (a.ty.getD .error).isPointer then (a, b) else (b, a)
      let some pt := p.ty | return none
      let some e := pt.pointee? | return none
      let some steps := k.value | return none
      let some (es, _) ← sizeAlign 64 e | return none
      let moved := if o == "+" then steps * es else -(steps * es)
      return (← bytesAfter f p).map fun left => max 0 (left - moved)
    | _, _ => return none

/-- The check of a call of one of the library's memory and bounded string
functions: a size argument known without running the program that is larger
than what is known to be left of the destination is reported at the call.
For the functions that copy or set exactly that many bytes the call always
overflows; for the bounded string functions the bound is too large. -/
def fortifyCheck (d : DeclEntry) (first : Nat) (args : List Built) : P Unit := do
  if !d.builtin then return
  let name := if d.name.startsWith "__builtin_" then (d.name.drop 10).toString else d.name
  let last := args.length - 1
  let some (sizeIndex, always) := (match name with
    | "memcpy" | "memmove" | "memset" | "mempcpy" => some (last, true)
    | "strncat" | "strncpy" | "stpncpy" => some (last, false)
    | "snprintf" | "vsnprintf" => some (1, false)
    | _ => none) | return
  let some dest := args[0]? | return
  let some size := args[sizeIndex]? | return
  let some used := size.value | return
  let some left ← bytesAfter 64 dest | return
  if used ≤ left then return
  let text := if always then s!"'{name}' will always overflow; destination buffer has size {left}, but size argument is {used}"
    else s!"'{name}' size argument is too large; destination buffer has size {left}, but size argument is {used}"
  warnLater first text "-Wfortify-source"

/-- Whether two expressions are written alike: the same kinds of node,
types, operators, values and declarations named, all the way down. -/
def PState.sameExpression (st : PState) : Nat → Built → Built → Bool
  | 0, _, _ => false
  | f + 1, a, b =>
    a.kind == b.kind && a.spelling == b.spelling && a.referenced == b.referenced && a.value == b.value &&
      a.converted == b.converted && (a.ty.map (·.canonical)) == (b.ty.map (·.canonical)) &&
      st.operatorOf a == st.operatorOf b && a.children.length == b.children.length &&
      (a.children.zip b.children).all fun (x, y) => st.sameExpression f x y

/-- The memory function a function of the library stands for, by name:
its compiler spelling and checked variant count as the function. -/
def memoryFunction (name : String) : Option String :=
  let n := if name.startsWith "__builtin_" then (name.drop 10).toString else name
  let n := if n.startsWith "__" && n.endsWith "_chk" then String.ofList ((n.toList.drop 2).take (n.length - 6)) else n
  if ["memset", "memcpy", "mempcpy", "memmove", "memcmp", "bcmp", "strncpy", "strncmp", "strncasecmp",
      "strndup", "bzero"].contains n then some n else none

/-- Whether an expression computes a size: a `sizeof`, or a sum or
product with one among its terms. -/
def computesSize (st : PState) : Nat → Built → Bool
  | 0, _ => false
  | f + 1, n =>
    let n := n.bare
    if n.kind == .unaryExpr then (st.tokAt n.first).text == "sizeof"
    else if n.kind == .binaryOperator && (st.operatorOf n == "*" || st.operatorOf n == "+") then
      n.children.any (computesSize st f)
    else false

/-- The checks of a call, named `name`, of one of the library's memory
functions with its arguments converted: a size that is a comparison; a
`memset` or `bzero` of zero bytes, or a `memset` whose value looks like the
size; and a size measured with `sizeof` on the pointer given as
destination or source rather than on what it points to. -/
def memoryAccessChecks (name : String) (args : List Built) : P Unit := do
  let some kind := memoryFunction name | return
  let expected := if kind == "strndup" || kind == "bzero" then 2 else 3
  if args.length < expected then return
  let lastArg := if kind == "memset" || kind == "bzero" || kind == "strndup" then 1 else 2
  let lenArg := if kind == "bzero" || kind == "strndup" then 1 else 2
  let st ← get
  let some lenArgNode := args[lenArg]? | return
  let len := lenArgNode.bare
  if len.kind == .binaryOperator then
    let o := st.operatorOf len
    if isComparison o || o == "&&" || o == "||" then
      warn (st.tokAt len.operatorTok).reportLoc s!"size argument in '{name}' call is a comparison"
        "-Wmemsize-comparison"
      return
  let zeroLiteral (n : Built) : Bool :=
    let n := n.withoutConversions
    n.kind == .integerLiteral && n.value == some 0
  if kind == "memset" || kind == "bzero" then
    let sizeArg := (args[if kind == "memset" then 2 else 1]?).getD default
    if zeroLiteral sizeArg then
      let at_ := (st.tokAt sizeArg.withoutConversions.locTok).reportLoc
      if kind == "bzero" then warn at_ "'size' argument to bzero is '0'" "-Wsuspicious-bzero"
      else if !zeroLiteral ((args[1]?).getD default) then
        warn at_ "'size' argument to memset is '0'; did you mean to transpose the last two arguments?"
          "-Wmemset-transposed-args"
    else if kind == "memset" && computesSize st 16 ((args[1]?).getD default) &&
        !computesSize st 16 ((args[2]?).getD default) then
      warn (st.tokAt ((args[1]?).getD default).bare.locTok).reportLoc
        "setting buffer to a 'sizeof' expression; did you mean to transpose the last two arguments?"
        "-Wmemset-transposed-args"
  let isSizeof := len.kind == .unaryExpr && (st.tokAt len.first).text == "sizeof"
  let sizeofArg : Option Built := if isSizeof && !len.typeOperand then (len.children.head?.map (·.bare)) else none
  let sizeofType : Option CType := if isSizeof then len.argType else none
  for k in List.range lastArg do
    let some a := args[k]? | continue
    let dest := a.bare
    let some destTy := dest.ty | continue
    match destTy.canonical with
    | .pointer pointee _ =>
      if pointee.isVoid then continue
      if let some s := sizeofArg then
        if st.sameExpression 64 dest s then
          warnLater s.locTok
            s!"'{name}' call operates on objects of type {← quoteType ((destTy.pointee?).getD pointee)} while the size is based on a different type {← quoteType destTy}"
            "-Wsizeof-pointer-memaccess"
          break
      if let some t := sizeofType then
        if pointee.record?.isSome && t.canonical.unqualified == destTy.canonical.unqualified then
          let which := if k == 0 then "destination" else "source"
          warnLater len.locTok
            s!"argument to 'sizeof' in '{name}' call is the same pointer type {← quoteType t} as the {which}; expected {← quoteType ((destTy.pointee?).getD pointee)} or an explicit length"
            "-Wsizeof-pointer-memaccess"
          break
    | _ => pure ()

/-- A call of `fn` with arguments read, between parentheses at tokens `lp`
and `rp`. -/
def makeCall (lp rp : Nat) (fn : TExpr) (args : List TExpr) : P TExpr := do
  let callee ← fn.load
  let parts := (callee.ty.pointee?).bind (·.functionParts?)
  match parts with
  | none =>
    failTok ((← get).tokAt lp)
      s!"called object type {← quoteType callee.ty} is not a function or function pointer"
  | some (ret, ps, variadic, prototyped) =>
    let decl ← do
      if fn.node.kind == .declRefExpr then
        match fn.node.referenced with
        | some id => pure (some (← declOf id))
        | none => pure none
      else pure none
    let names := (decl.map (·.paramNames)).getD []
    let known := if (decl.map (·.builtin)).getD false then
        (decl.bind fun d => Language.findBuiltin? d.name) else none
    if let some b := known then
      if let some call ← ruledCall b callee rp args ret.unqualified then return call
    let single := match ps, names with
      | [_], [n] => if n.isEmpty then none else some n
      | _, _ => none
    if prototyped then
      if args.length < ps.length then
        failTok ((← get).tokAt rp) (argumentCountMessage true ps.length args.length variadic single)
      if args.length > ps.length && !variadic then
        let extra := (args.drop ps.length).head?.map (·.node.first)
        failTok ((← get).tokAt (extra.getD rp)) (argumentCountMessage false ps.length args.length false single)
    -- a function defined with only the names of its parameters is called
    -- with the parameter types of its definition, which it should match in number
    let (ps, prototyped) ← match decl, fn.node.referenced with
      | some d, some id =>
        match d.prototypeWritten, d.ty.functionParts? with
        | false, some (_, defined, _, _) =>
          if d.defined && (← get).functionDecl != some id && args.length != defined.length then
            let which := if args.length < defined.length then "few" else "many"
            warnAlways ((← get).tokAt rp).reportLoc s!"too {which} arguments in call to '{d.name}'"
          pure (defined, true)
        | _, _ => pure (ps, prototyped)
      | _, _ => pure (ps, prototyped)
    let mut converted : Array TExpr := #[]
    let mut k := 0
    for a in args do
      let c ← match ps[k]? with
        | some p => if prototyped then convertFor .passing a p else promoteArgument a
        | none => promoteArgument a
      -- a conversion to a parameter written as an array or a function
      -- shows the type as written
      let shownParam := ((decl.map (·.paramShown)).bind (·[k]?)).join
      let c := match shownParam, ps[k]? with
        | some t, some p =>
          if prototyped && a.rvalue.ty.canonical != p.canonical then
            { c with node := { c.node with shown := some t } }
          else c
        | _, _ => c
      if prototyped && k < ps.length then arrayAccessCheck c.node
      converted := converted.push c
      k := k + 1
    -- the arguments given for `...` are checked once all are promoted
    if prototyped then
      for c in converted.toList.drop ps.length do arrayAccessCheck c.node
    if let some d := decl then
      formatCheck d rp args converted.toList
      absoluteValueCheck d fn.node.first (converted.toList.map (·.node))
      nonnullCheck d rp args (ps.map (·.isPointer))
      allocAlignCheck d converted.toList
      memoryAccessChecks d.name (converted.toList.map (·.node))
      fortifyCheck d fn.node.first (converted.toList.map (·.node))
    let ty := ret.unqualified
    return { node := { kind := .callExpr, spelling := callee.node.nameForConversion, locTok := fn.node.first,
                       first := fn.node.first, last := rp, ty := some ty,
                       children := callee.node :: (converted.toList.map (·.node)) }
             ty := ty }

/-- A character constant as the compiler prints it, after the prefix
(`L`, `u8`, `u`, `U`) of its kind: the character between quotes, or an
escape for one that does not print. A plain constant whose value is a
sign-extended byte is printed as that byte. -/
def charConstantText (lead : String) (v : Int) : String :=
  let n := (v % Int.pow 2 32).toNat
  let n := if lead.isEmpty && n ≥ 0xFFFFFF00 then n % 256 else n
  let hex (width : Nat) (n : Nat) : String :=
    String.ofList ((List.range width).reverse.map fun i =>
      "0123456789abcdef".toList.getD (n / Nat.pow 16 i % 16) '0')
  let body := match n with
    | 92 => "\\\\"
    | 39 => "\\'"
    | 7 => "\\a"
    | 8 => "\\b"
    | 12 => "\\f"
    | 10 => "\\n"
    | 13 => "\\r"
    | 9 => "\\t"
    | 11 => "\\v"
    | _ =>
      if 32 ≤ n && n < 127 then (Char.ofNat n).toString
      else if n < 256 then "\\x" ++ hex 2 n
      else if n ≤ 0xFFFF then "\\u" ++ hex 4 n
      else "\\U" ++ hex 8 n
  lead ++ "'" ++ body ++ "'"

/-- The suffix a floating constant of a type is printed with. -/
def floatingSuffix : Basic → String
  | .float => "F"
  | .longDouble => "L"
  | .float128 => "Q"
  | _ => ""

/-- The suffix an integer constant of a type is printed with. -/
def integerSuffix : Basic → String
  | .uint => "U"
  | .long => "L"
  | .ulong => "UL"
  | .longlong => "LL"
  | .ulonglong => "ULL"
  | _ => ""

/-- How the compiler prints an expression, as in the name of a `typeof`
type or the failed requirement of a static assertion: operators between
spaces, operands of calls, subscripts and member accesses right after
them, implicit conversions not shown, integer constants in decimal with
their type's suffix, floating constants in the digits that read back.
With `canonical`, the types written in it are printed with their typedef
names replaced. -/
def exprTextWith (canonical : Bool) : Nat → Built → P String
  | 0, _ => return ""
  | f + 1, n => do
    let st ← get
    let tokText (i : Nat) : String := (st.tokAt i).text
    let typeText (t : CType) : P String :=
      -- a structure or union without a name is written as itself, not as
      -- it was referred to
      if canonical then pure (t.canonical.spell (tagSpelling true st.tags)) else spellType t
    let child (k : Nat) : P String := match n.children[k]? with
      | some c => exprTextWith canonical f c
      | none => pure ""
    let lastChild : P String := match n.children.getLast? with
      | some c => exprTextWith canonical f c
      | none => pure ""
    let basicOf (t : Option CType) : Option Basic := t.bind fun t => match t.canonical with
      | .basic b _ => some b
      | _ => none
    match n.kind with
    | .parenExpr => return "(" ++ (← child 0) ++ ")"
    | .declRefExpr => return n.spelling
    | .stringLiteral => return n.spelling
    | .integerLiteral =>
      return toString (n.value.getD 0) ++ integerSuffix ((basicOf n.ty).getD .int)
    | .characterLiteral =>
      let lead := String.ofList ((tokText n.first).toList.takeWhile (· != '\''))
      return charConstantText lead (n.value.getD 0)
    | .floatingLiteral =>
      let b := (basicOf n.ty).getD .double
      let bits := ((Basic.floatFormat? b).map (·.precision)).getD 53
      match n.real with
      | some v =>
        let text := v.render 0 bits
        let text := if text.all (fun c => c.isDigit || c == '-') then text ++ "." else text
        return text ++ floatingSuffix b
      | none => return tokText n.first
    | .memberRefExpr =>
      let op := if tokText (n.locTok - 1) == "->" then "->" else "."
      return (← child 0) ++ op ++ n.spelling
    | .arraySubscriptExpr => return (← child 0) ++ "[" ++ (← child 1) ++ "]"
    | .callExpr =>
      let args ← n.children.drop 1 |>.mapM (exprTextWith canonical f)
      return (← child 0) ++ "(" ++ ", ".intercalate args ++ ")"
    | .unaryOperator =>
      if n.isPostfix then return (← child 0) ++ tokText n.last
      else
        let op := tokText n.first
        let op := if op == "__real__" then "__real" else if op == "__imag__" then "__imag" else op
        -- a space after a word, and between two signs that would join
        let spaced := op == "__real" || op == "__imag" || op == "__extension__" ||
          ((op == "+" || op == "-") && (n.children.head?.map (·.kind == .unaryOperator)).getD false)
        return op ++ (if spaced then " " else "") ++ (← child 0)
    | .binaryOperator | .compoundAssignmentOperator =>
      match n.children with
      | [a, b] =>
        return (← exprTextWith canonical f a) ++ " " ++ tokText (a.last + 1) ++ " " ++
          (← exprTextWith canonical f b)
      | _ => return ""
    | .conditionalOperator =>
      let parts ← n.children.mapM (exprTextWith canonical f)
      match parts with
      | [c, a, b] => return c ++ " ? " ++ a ++ " : " ++ b
      | [c, b] => return c ++ " ?: " ++ b
      | _ => return ""
    | .cStyleCastExpr =>
      let ty ← match n.ty with
        | some t => typeText t
        | none => pure ""
      return "(" ++ ty ++ ")" ++ (← lastChild)
    | .compoundLiteralExpr =>
      let ty ← match n.ty with
        | some t => typeText t
        | none => pure ""
      return "(" ++ ty ++ ")" ++ (← lastChild)
    | .initListExpr =>
      let parts ← n.children.mapM (exprTextWith canonical f)
      return "\x7b" ++ ", ".intercalate parts ++ "\x7d"
    | .unaryExpr =>
      let kw := tokText n.first
      let word := if kw == "sizeof" then "sizeof" else if kw == "_Alignof" then "_Alignof" else "__alignof"
      let typeOperand := match n.children.getLast? with
        | some c => [Tree.Kind.typeRef, .structDecl, .unionDecl, .enumDecl, .memberRef].contains c.kind
        | none => true
      match n.children.getLast?, typeOperand with
      | some c, false => return word ++ " " ++ (← exprTextWith canonical f c)
      | _, _ => return word ++ "(" ++ (← typeText (n.argType.getD .error)) ++ ")"
    | _ =>
      if n.converted then child 0
      else if tokText n.first == "__builtin_offsetof" then
        -- the members after the first are joined by dots, and array
        -- elements are in brackets
        let parts ← n.children.filterMapM fun c => do
          if c.kind == .memberRef then return some (true, c.spelling)
          else if c.kind == .typeRef || c.kind == .structDecl || c.kind == .unionDecl || c.kind == .enumDecl then
            return none
          else return some (false, "[" ++ (← exprTextWith canonical f c) ++ "]")
        let (path, _) := parts.foldl (fun (acc : String × Bool) (member, text) =>
          if member then (acc.1 ++ (if acc.2 then "." else "") ++ text, true)
          else (acc.1 ++ text, true)) ("", false)
        return "__builtin_offsetof(" ++ (← typeText (n.argType.getD .error)) ++ ", " ++ path ++ ")"
      else
        let toks := (List.range (n.last + 1 - n.first)).map fun k => tokText (n.first + k)
        return " ".intercalate toks

/-- How the compiler prints an expression, its types as written. -/
def exprText : Nat → Built → P String := exprTextWith false

mutual

/-- An expression: assignment expressions separated by commas. -/
def expression (h : Hooks) : Nat → P TExpr
  | 0 => throw .exhausted
  | f + 1 => do
    let e ← assignment h f
    commaRest h f e

/-- The commas after a first operand. -/
def commaRest (h : Hooks) : Nat → TExpr → P TExpr
  | 0, _ => throw .exhausted
  | f + 1, lhs => do
    if ← isPunct "," then
      let _ ← advance
      let rhs ← assignment h f
      let a := lhs.rvalue
      if (← get).unevaluated == 0 then unusedResult a.node
      let b ← rhs.load
      let e : TExpr := { node := binaryNode .binaryOperator a b b.ty, ty := b.ty }
      arrayAccessCheck a.node
      arrayAccessCheck b.node
      commaRest h f e
    else return lhs

/-- An assignment expression. -/
def assignment (h : Hooks) : Nat → P TExpr
  | 0 => throw .exhausted
  | f + 1 => do
    let lhs := (← castExpression h f).sealed
    binaryRest h f 2 lhs

/-- The operators after a left operand, of precedence at least `minPrec`. -/
def binaryRest (h : Hooks) : Nat → Nat → TExpr → P TExpr
  | 0, _, _ => throw .exhausted
  | f + 1, minPrec, lhs => do
    let op ← cur
    match binaryPrecedence op with
    | none => return lhs
    | some prec =>
      if prec < minPrec then return lhs
      let _ ← advance
      let middle : Option (Option TExpr) ← if prec == 3 then do
          if (← eatPunct ":").isSome then pure (some none)
          else
            let m ← expression h f
            let _ ← expectPunct ":" "expected ':'"
            pure (some (some m))
        else pure none
      let rhs := (← castExpression h f).sealed
      let rhs ← absorbTighter h f prec rhs
      let combined ←
        match middle with
        | some (some m) => combineConditional op lhs m rhs
        | some none => combineShortConditional op lhs rhs
        | none => if prec == 2 then combineAssignment op lhs rhs else combineBinary op lhs rhs
      if middle.isNone then
        for c in combined.node.children do arrayAccessCheck c
      binaryRest h f minPrec combined.sealed

/-- Let the operators after a right operand that bind more tightly than the
operator of precedence `prec` (or as tightly, for the right-grouping
ones) take it as their left operand. -/
def absorbTighter (h : Hooks) : Nat → Nat → TExpr → P TExpr
  | 0, _, _ => throw .exhausted
  | f + 1, prec, rhs => do
    match binaryPrecedence (← cur) with
    | some next =>
      let rightAssoc := prec == 2 || prec == 3
      if prec < next || (prec == next && rightAssoc) then
        binaryRest h f (if rightAssoc then prec else prec + 1) rhs
      else return rhs
    | none => return rhs

/-- A cast expression: casts before a unary expression. -/
def castExpression (h : Hooks) : Nat → P TExpr
  | 0 => throw .exhausted
  | f + 1 => do
    if ← isPunct "(" then
      let next ← peekAt 1
      let saved ← get
      set { saved with pos := saved.pos + 1 }
      let isType ← startsTypeName
      set { (← get) with pos := saved.pos }
      let _ := next
      if isType then
        let lp ← openBracket "("
        let tn ← h.typeName
        let _ ← closeBracket ")"
        if ← isPunct "\x7b" then
          let lit ← compoundLiteral h f lp tn
          return ← suffixes h f lit
        let operand := (← castExpression h f).sealed
        return ← makeCast lp tn operand
    unary h f

/-- A compound literal after its type name in parentheses. -/
def compoundLiteral (h : Hooks) : Nat → Nat → TypeName → P TExpr
  | 0, _, _ => throw .exhausted
  | _ + 1, lp, tn => do
    let (init, ty) ← h.initializer tn.ty
    return { node := { kind := .compoundLiteralExpr, locTok := lp, first := lp, last := init.last,
                       ty := some ty, children := tn.refs ++ [init] }
             ty := ty, lvalue := true }

/-- Warn when the two tokens that open or close a statement expression,
`what` names them, do not come from the same macro expansion: one from an
expansion and the other not, or from two expansions. -/
def splitPair (a b : PpToken) (what : String) : P Unit := do
  let split := match a.origin, b.origin with
    | none, none => false
    | some x, some y => !(x.start == y.start && x.stop == y.stop && x.fromArgument == y.fromArgument)
    | _, _ => true
  if split then
    warn a.reportLoc s!"{what} appear in different macro expansion contexts" "-Wcompound-token-split-by-macro"

/-- A unary expression. -/
def unary (h : Hooks) : Nat → P TExpr
  | 0 => throw .exhausted
  | f + 1 => do
    let t ← cur
    if t.kind == .punctuator then
      match t.text with
      | "++" | "--" =>
        let i ← advance
        let e := (← unary h f).sealed
        stepOperand e t
        arrayAccessCheck e.node
        let ty := valueType e.ty
        return { node := { kind := .unaryOperator, locTok := i, first := i, last := e.node.last,
                           ty := some ty, children := [e.node] }, ty := ty }
      | "&" =>
        let i ← advance
        let e := (← castExpression h f).sealed
        if !e.lvalue && !e.ty.isFunction then
          failTok t s!"cannot take the address of an rvalue of type {← quoteType e.ty}"
        if e.bitField then failTok t "address of bit-field requested"
        if e.registerObject then failTok t "address of register variable requested"
        let ty : CType := .pointer e.ty {}
        return { node := { kind := .unaryOperator, locTok := i, first := i, last := e.node.last,
                           ty := some ty, children := [e.node] }, ty := ty }
      | "*" =>
        let i ← advance
        let e := (← castExpression h f).sealed
        let e ← e.load
        match e.ty.canonical.pointee? with
        | some _ =>
          let ty := (e.ty.pointee?).getD .error
          return { node := { kind := .unaryOperator, locTok := i, first := i, last := e.node.last,
                             ty := some ty, children := [e.node] }, ty := ty, lvalue := !ty.isFunction }
        | none => failTok t s!"indirection requires pointer operand ({← quoteType e.ty} invalid)"
      | "+" | "-" | "~" =>
        let i ← advance
        let e := (← castExpression h f).sealed
        let e ← promote e
        if !(if t.text == "~" then e.ty.isInteger else e.ty.isArithmetic) then
          failTok t s!"invalid argument type {← quoteType e.ty} to unary expression"
        let v := match e.value, (← basicOf e.ty) with
          | some x, some b =>
            if t.text == "-" then wrapTo b (-x) else if t.text == "~" then wrapTo b (-x - 1) else some x
          | _, _ => none
        let r := e.real.map fun x => if t.text == "-" then x.neg else x
        let overflowed := match e.value, (← basicOf e.ty) with
          | some x, some b => t.text == "-" && signedOverflow "-" b 0 x
          | _, _ => false
        arrayAccessCheck e.node
        return { node := { kind := .unaryOperator, locTok := i, first := i, last := e.node.last,
                           ty := some e.ty, children := [e.node], overflowed := overflowed }
                 ty := e.ty, value := v, real := r, nullPointer := v == some 0 }
      | "&&" =>
        let i ← advance
        let lt ← cur
        if lt.kind != .identifier then failHere "expected identifier"
        let li ← advance
        modify fun st => { st with labelsUsed := st.labelsUsed ++ [(lt.text, li)] }
        let ty : CType := .pointer CType.void {}
        let label : Built := { kind := .labelRef, spelling := lt.text, locTok := li, first := li, last := li }
        return { node := { kind := .addrLabelExpr, locTok := i, first := i, last := li, ty := some ty,
                           children := [label] }
                 ty := ty }
      | "!" =>
        let i ← advance
        let e := (← castExpression h f).sealed
        let e ← e.load
        if !e.ty.isScalar then
          failTok t s!"invalid argument type {← quoteType e.ty} to unary expression"
        let v := e.truth.map (fun x => if x then 0 else 1)
        arrayAccessCheck e.node
        return { node := { kind := .unaryOperator, locTok := i, first := i, last := e.node.last,
                           ty := some .int, children := [e.node] }
                 ty := .int, value := v, nullPointer := v == some 0 }
      | _ => suffixed h f
    else if t.kind == .identifier then
      match t.text with
      | "sizeof" | "_Alignof" | "__alignof" | "__alignof__" =>
        let i ← advance
        sizeofRest h f i (t.text == "sizeof")
      | "__extension__" =>
        let _ ← advance
        castExpression h f
      | "__real__" | "__real" | "__imag__" | "__imag" =>
        let i ← advance
        let e := (← castExpression h f).sealed
        -- the part of a complex number, or an arithmetic value itself
        let ty ← match e.ty.canonical with
          | .complex b _ => pure (CType.basic b {})
          | _ =>
            if e.ty.isArithmetic then pure e.ty
            else
              let operatorName := if t.text.startsWith "__real" then "__real" else "__imag"
              failTok t s!"invalid type {← quoteType e.ty} to {operatorName} operator"
        return { node := { kind := .unaryOperator, locTok := i, first := i, last := e.node.last,
                           ty := some ty, children := [e.node] }
                 ty := ty, lvalue := e.lvalue }
      | _ => suffixed h f
    else suffixed h f

/-- Warn about `sizeof` applied to what is a pointer although it looks
like an array: a parameter written with an array type, or an operation
on an array that has become a pointer to its first element. -/
def sizeofDecayChecks (operand : Built) : P Unit := do
  let n := operand.withoutParens
  let st ← get
  if n.kind == .declRefExpr then
    match n.referenced.bind (st.decls[·]?) with
    | some d =>
      match d.kind, d.shown with
      | .parameter, some written =>
        if written.isArray then
          warn (st.tokAt n.locTok).reportLoc
            s!"sizeof on array function parameter will return size of {← quoteType d.ty} instead of {← quoteType written}"
            "-Wsizeof-array-argument"
      | _, _ => pure ()
    | none => pure ()
  if n.kind == .binaryOperator then
    for side in n.children do
      match side.converted, side.children, side.ty, n.ty with
      | true, [inner], some pt, some t =>
        if (inner.ty.map (·.isArray)).getD false && pt.isPointer && pt.canonical == t.canonical then
          warn (st.tokAt n.operatorTok).reportLoc
            s!"sizeof on pointer operation will return size of {← quoteType pt} instead of {← quoteType (inner.ty.getD .error)}"
            "-Wsizeof-array-decay"
      | _, _, _, _ => pure ()

/-- The operand of `sizeof` or `_Alignof` at token `i`. -/
def sizeofRest (h : Hooks) : Nat → Nat → Bool → P TExpr
  | 0, _, _ => throw .exhausted
  | f + 1, i, isSize => do
    let parenType ← do
      if ← isPunct "(" then
        let saved ← get
        set { saved with pos := saved.pos + 1 }
        let r ← startsTypeName
        set { (← get) with pos := saved.pos }
        pure r
      else pure false
    let (ty, children, last) ← unevaluatedOperand do
      if parenType then
        let _ ← openBracket "("
        let tn ← h.typeName
        let rp ← closeBracket ")"
        if ← isPunct "\x7b" then
          let lit ← compoundLiteral h f rp tn
          let lit ← suffixes h f lit
          unevaluatedEffectsCheck lit.node
          pure (lit.ty, [lit.node], lit.node.last)
        else pure (tn.ty, tn.refs, rp)
      else
        let e ← unary h f
        if e.bitField then
          let operatorName := if isSize then "sizeof" else "alignof"
          let at_ := if isSize then e.node.first else (e.node.throughParens 64).locTok
          failTok ((← get).tokAt at_) s!"invalid application of '{operatorName}' to bit-field"
        if isSize then
          unevaluatedEffectsCheck e.node
          sizeofDecayChecks e.node
        else if (e.node.throughParens 64).kind != .memberRefExpr then
          unevaluatedEffectsCheck (e.node.throughParens 64)
        pure (e.ty, [e.node], e.node.last)
    let measured ← sizeAlign 64 ty
    let v : Option Int := measured.map (fun (s, a) => if isSize then s else a)
    if v.isNone && !ty.isArray then
      let operatorName := if isSize then "sizeof" else "alignof"
      failTok ((← get).tokAt i)
        s!"invalid application of '{operatorName}' to an incomplete type {← quoteType ty}"
    return { node := { kind := .unaryExpr, locTok := i, first := i, last := last,
                       ty := some CType.size, argType := some ty, children := children, value := v,
                       typeOperand := parenType && !(children.any (·.kind == .compoundLiteralExpr)) }
             ty := CType.size, value := v, nullPointer := v == some 0 }

/-- A primary expression and its postfix operators. -/
def suffixed (h : Hooks) : Nat → P TExpr
  | 0 => throw .exhausted
  | f + 1 => do
    let e ← primary h f
    suffixes h f e

/-- The postfix operators after an operand: subscripts, calls, member
access, increments. -/
def suffixes (h : Hooks) : Nat → TExpr → P TExpr
  | 0, _ => throw .exhausted
  | f + 1, e => do
    let t ← cur
    if t.kind != .punctuator then return e
    match t.text with
    | "[" =>
      let lb ← openBracket "["
      let idx ← expression h f
      let rb ← closeBracket "]"
      let a ← e.load
      let b ← idx.load
      let lbTok := (← get).tokAt lb
      let (base, index) ← do
        if a.ty.isPointer then pure (a, b)
        else if b.ty.isPointer then pure (b, a)
        else failTok lbTok "subscripted value is not an array, pointer, or vector"
      if !index.ty.isInteger then failTok lbTok "array subscript is not an integer"
      let elem := (base.ty.pointee?).getD .error
      if elem.isFunction then
        failTok ((← get).tokAt base.node.first) s!"subscript of pointer to function type {← quoteType elem}"
      if !elem.isVoid && !(← isComplete elem) then
        failTok lbTok s!"subscript of pointer to incomplete type {← quoteType elem}"
      let (str, pos) := if e.stringLit then (e, idx.value) else (idx, e.value)
      let v : Option Int := match str.stringLit, pos with
        | true, some k => if k ≥ 0 && k.toNat ≤ str.units.length then some (str.units.getD k.toNat 0) else none
        | _, _ => none
      let r : TExpr := { node := { kind := .arraySubscriptExpr, locTok := a.node.first, first := a.node.first,
                                   last := rb, ty := some elem, children := [a.node, b.node] }
                         ty := elem, lvalue := true, value := v }
      suffixes h f r
    | "(" =>
      let lp ← openBracket "("
      let args ← arguments h f []
      let rp ← closeBracket ")"
      let r ← makeCall lp rp e args
      suffixes h f r
    | "." | "->" =>
      let _ ← advance
      let nameTok ← cur
      if nameTok.kind != .identifier then failHere "expected identifier"
      let ni ← advance
      let arrow := t.text == "->"
      let base ← if arrow then e.load else pure e
      let record ← do
        if arrow then
          match base.ty.canonical.pointee? with
          | some p =>
            match p.record? with
            | some r => pure (r, p.canonical.quals)
            | none => failTok t s!"member reference base type {← quoteType p} is not a structure or union"
          | none =>
            match base.ty.record? with
            | some _ => failTok t s!"member reference type {← quoteType base.ty} is not a pointer; did you mean to use '.'?"
            | none => failTok t s!"member reference type {← quoteType base.ty} is not a pointer"
        else
          match base.ty.record? with
          | some r => pure (r, base.ty.canonical.quals)
          | none =>
            match base.ty.canonical.pointee? with
            | some p =>
              if p.record?.isSome then
                failTok t s!"member reference type {← quoteType base.ty} is a pointer; did you mean to use '->'?"
              else failTok t s!"member reference base type {← quoteType base.ty} is not a structure or union"
            | none => failTok t s!"member reference base type {← quoteType base.ty} is not a structure or union"
      let (tagId, quals) := record
      let tag ← tagOf tagId
      if !tag.complete then
        failTok t s!"incomplete definition of type {← quoteType (.tag tagId tag.kind {})}"
      match ← findMember 16 tagId nameTok.text with
      | some m =>
        let ty := m.ty.addQuals quals
        let signed := match ← basicOf m.ty with
          | some b => !b.isUnsigned
          | none => true
        let r : TExpr := { node := { kind := .memberRefExpr, spelling := m.name, locTok := ni,
                                     first := base.node.first, last := ni, ty := some ty,
                                     referenced := some m.decl, bits := m.bits.map (·, signed),
                                     children := [base.node] }
                           ty := ty, lvalue := arrow || e.lvalue, bitField := m.bits.isSome,
                           registerObject := !arrow && e.registerObject }
        suffixes h f r
      | none =>
        failTok nameTok s!"no member named '{nameTok.text}' in {← quoteType (.tag tagId tag.kind {})}"
    | "++" | "--" =>
      let i ← advance
      stepOperand e t
      arrayAccessCheck e.node
      let ty := valueType e.ty
      let r : TExpr := { node := { kind := .unaryOperator, locTok := e.node.first, first := e.node.first,
                                   last := i, ty := some ty, children := [e.node] }, ty := ty }
      suffixes h f r
    | _ => return e

/-- The arguments of a call, up to its closing parenthesis. -/
def arguments (h : Hooks) : Nat → List TExpr → P (List TExpr)
  | 0, _ => throw .exhausted
  | f + 1, acc => do
    if acc.isEmpty && (← isPunct ")") then return []
    let a ← assignment h f
    if ← isPunct "," then
      let _ ← advance
      arguments h f (acc ++ [a])
    else return acc ++ [a]

/-- A primary expression: a name, a constant, a string literal or an
expression in parentheses. -/
def primary (h : Hooks) : Nat → P TExpr
  | 0 => throw .exhausted
  | f + 1 => do
    let t ← cur
    match t.kind with
    | .identifier =>
      if reservedWords.contains t.text && !(t.text == "__extension__") && t.text != "_Generic" then
        failHere "expected expression"
      match t.text with
      | "__builtin_va_arg" => return ← vaArg h f
      | "_Generic" => return ← genericSelection h f
      | "__builtin_offsetof" => return ← offsetOf h f
      | "__builtin_choose_expr" => return ← chooseExpression h f
      | "__builtin_types_compatible_p" => return ← typesCompatible h f
      | "__builtin_LINE" | "__builtin_COLUMN" | "__builtin_FILE" | "__builtin_FUNCTION" =>
        return ← sourcePlace t
      | _ => pure ()
      let i ← advance
      match ← lookupName t.text with
      | some id =>
        let d ← declOf id
        if d.kind == .typedef then
          failTok t s!"unexpected type name '{t.text}': expected expression"
        if d.callOnly && !(← isPunct "(") then failTok t "builtin functions must be directly called"
        checkAvailability t d
        referenceTo i id
      | none =>
        if t.text == "__func__" || t.text == "__FUNCTION__" || t.text == "__PRETTY_FUNCTION__" then
          let name := ((← get).function.map (·.2)).getD ""
          let text ← if t.text == "__PRETTY_FUNCTION__" then
              match (← get).functionDecl with
              | some id => prettyFunctionText name (← declOf id).ty
              | none => pure name
            else pure name
          let ty : CType := .array (.basic .char { const := true }) (.fixed (text.utf8ByteSize + 1))
          let quoted := "\"" ++ text ++ "\""
          let literal := leafNode .stringLiteral i ty quoted
          return { node := { leafNode .unexposedExpr i ty with children := [literal] }, ty := ty,
                   lvalue := true }
        if let some id ← declareBuiltin i t then
          if (← declOf id).callOnly && !(← isPunct "(") then
            failTok t "builtin functions must be directly called"
          return ← referenceTo i id
        if ← isPunct "(" then
          let id ← declareImplicitly i t
          referenceTo i id
        else failTok t s!"use of undeclared identifier '{t.text}'"
    | .number =>
      let i ← advance
      numberLiteral i t
    | .charConst =>
      let i ← advance
      charLiteral i t
    | .stringLit =>
      let i ← advance
      let j ← stringRun i
      stringLiteral i j
    | .punctuator =>
      if t.text == "(" && (← peekAt 1).isPunct "\x7b" then
        splitPair t (← peekAt 1) "'(' and '\x7b' tokens introducing statement expression"
        if (← get).function.isNone then failHere "statement expression not allowed at file scope"
        let lp ← openBracket "("
        let (body, value) ← h.statementExpression
        if ← isPunct ")" then
          let st ← get
          splitPair (st.tokAt (st.pos - 1)) (st.tokAt st.pos) "'\x7d' and ')' tokens terminating statement expression"
        let rp ← closeBracket ")"
        let ty := (value.map (·.ty)).getD CType.void
        return { node := { kind := .stmtExpr, locTok := lp, first := lp, last := rp, ty := some ty,
                           children := [body] }
                 ty := ty }
      if t.text == "(" then
        let lp ← openBracket "("
        let e ← expression h f
        let rp ← closeBracket ")"
        return { e with node := { kind := .parenExpr, spelling := "", locTok := lp, first := lp, last := rp,
                                  ty := some e.ty, children := [e.node] } }
      else failHere "expected expression"
    | _ => failHere "expected expression"

/-- Expect the `(` after a word that reads like a function, `word`. -/
def openAfter (word : String) : P Nat := do
  if !(← isPunct "(") then failHere s!"expected '(' after '{word}'"
  openBracket "("

/-- `__builtin_LINE()`, `__builtin_COLUMN()`, `__builtin_FILE()` or
`__builtin_FUNCTION()` at token `t`: the line or column where it stands,
as an `unsigned int`, or the name of its file or function. -/
def sourcePlace (t : PpToken) : P TExpr := do
  let i ← advance
  let _ ← openAfter t.text
  if !(← isPunct ")") then failHere "expected ')'"
  let rp ← closeBracket ")"
  let st ← get
  let l := t.reportLoc
  let pos := (st.files[l.file]?).map (·.pos l.offset)
  let numeric := t.text == "__builtin_LINE" || t.text == "__builtin_COLUMN"
  let ty : CType := if numeric then .basic .uint {} else .pointer (.basic .char { const := true }) {}
  let v : Option Int := match pos with
    | some p => if t.text == "__builtin_LINE" then some p.line
      else if t.text == "__builtin_COLUMN" then some p.col else none
    | none => none
  return { node := { kind := .unexposedExpr, locTok := i, first := i, last := rp, ty := some ty, value := v }
           ty := ty, value := v }

/-- `_Generic(controlling, type: value, ..., default: value)`: the value
whose type is compatible with the controlling expression's, after that
expression gives way to its value; no two types may be compatible. -/
def genericSelection (h : Hooks) : Nat → P TExpr
  | 0 => throw .exhausted
  | f + 1 => do
    let i ← advance
    let _ ← openAfter "_Generic"
    let c ← unevaluatedOperand (assignment h f)
    let _ ← expectPunct "," "expected ','"
    let mut assocs : Array (Option TypeName × TExpr) := #[]
    let mut defaultSeen := false
    let bound := (← get).toks.size
    for _ in [0:bound] do
      let mut ty? : Option TypeName := none
      if ← isWord "default" then
        if defaultSeen then failHere "duplicate default generic association"
        defaultSeen := true
        let _ ← advance
      else
        ty? := some (← h.typeName)
      let _ ← expectPunct ":" "expected ':'"
      let e ← assignment h f
      assocs := assocs.push (ty?, e)
      if (← eatPunct ",").isNone then break
    let rp ← closeBracket ")"
    let c ← c.load
    unevaluatedEffectsCheck c.node
    let typed := assocs.toList.filterMap (·.1)
    let st ← get
    for (tn, k) in typed.zipIdx do
      let at_ := (st.tokAt tn.first).reportLoc
      if !tn.ty.isFunction && !(← isComplete tn.ty) then
        failAt at_ s!"type {← quoteType tn.ty} in generic association incomplete"
      if tn.ty.isFunction then
        failAt at_ s!"type {← quoteType tn.ty} in generic association not an object type"
      for later in typed.drop (k + 1) do
        if later.ty.compatible tn.ty then
          failAt (st.tokAt later.first).reportLoc
            s!"type {← quoteType later.ty} in generic association compatible with previously specified type {← quoteType tn.ty}"
    let chosen := assocs.toList.find? fun (ty?, _) =>
      match ty? with
      | some tn => c.ty.compatible tn.ty
      | none => false
    let chosenAt := (assocs.toList.findIdx? fun (ty?, _) =>
      match ty? with
      | some tn => c.ty.compatible tn.ty
      | none => false).orElse fun _ => assocs.toList.findIdx? (·.1.isNone)
    let chosen ← match chosen, assocs.toList.find? (·.1.isNone) with
      | some (_, e), _ => pure e
      | none, some (_, e) => pure e
      | none, none =>
        failAt (st.tokAt c.node.withoutParens.first).reportLoc
          s!"controlling expression type {← quoteType c.ty} not compatible with any generic association type"
    return { chosen with
             node := { kind := .genericSelectionExpr, locTok := i, first := i, last := rp, ty := some chosen.ty,
                       value := chosen.value, real := chosen.real, selected := chosenAt.map (· + 1),
                       children := c.node :: assocs.toList.map (·.2.node) } }

/-- `__builtin_offsetof(type, member)`: the byte at which a member starts
in a structure or union, reached through members (`.name`) and array
elements (`[index]`), as a `size_t`; a constant when every index is. -/
def offsetOf (h : Hooks) : Nat → P TExpr
  | 0 => throw .exhausted
  | f + 1 => do
    let kw ← cur
    let i ← advance
    let _ ← openAfter "__builtin_offsetof"
    let tn ← h.typeName
    let _ ← expectPunct "," "expected ','"
    if (← cur).kind != .identifier then failHere "expected identifier"
    let mut parts : Array Built := #[]
    let mut current := tn.ty
    let mut offset : Option Int := some 0
    let mut leading := true
    let bound := (← get).toks.size
    for _ in [0:bound] do
      let field ← if leading then pure true else isPunct "."
      if field then
        if !leading then
          let _ ← advance
          if (← cur).kind != .identifier then failHere "expected identifier"
        let nt ← cur
        let ni ← advance
        match current.record? with
        | some id =>
          if !(← isComplete current) then failTok kw s!"offsetof of incomplete type {← quoteType current}"
          match ← locateMember 16 id nt.text with
          | some (m, start) =>
            if m.bits.isSome then failTok nt s!"cannot compute offset of bit-field '{nt.text}'"
            parts := parts.push { kind := .memberRef, spelling := m.name, locTok := ni, first := ni, last := ni,
                                  ty := some m.ty, referenced := some m.decl }
            offset := offset.map (· + start)
            current := m.ty
          | none => failTok kw s!"no member named '{nt.text}' in {← quoteType current}"
        | none =>
          failTok nt s!"offsetof requires struct, union, or class type, {← quoteType current} invalid"
      else if ← isPunct "[" then
        let _ ← openBracket "["
        let e ← expression h f
        let rb ← closeBracket "]"
        if !current.isArray then
          failTok ((← get).tokAt rb) s!"offsetof requires array type, {← quoteType current} invalid"
        if !e.ty.isInteger then failAt (← exprLoc e) "array subscript is not an integer"
        let elem := arrayElement current
        let size := (← sizeAlign 64 elem).map (·.1)
        offset := match offset, e.value, size with
          | some o, some v, some s => some (o + v * s)
          | _, _, _ => none
        parts := parts.push e.node
        current := elem
      else break
      leading := false
    let rp ← closeBracket ")"
    let v := offset.map fun o => o % Int.pow 2 64
    return { node := { kind := .unexposedExpr, locTok := i, first := i, last := rp, ty := some CType.size,
                       value := v, argType := some tn.ty, children := tn.refs ++ parts.toList }
             ty := CType.size, value := v, nullPointer := v == some 0 }

/-- `__builtin_choose_expr(condition, a, b)`: `a` when the integer
constant `condition` is not zero, else `b`, as it is, neither converted. -/
def chooseExpression (h : Hooks) : Nat → P TExpr
  | 0 => throw .exhausted
  | f + 1 => do
    let i ← advance
    let _ ← openAfter "__builtin_choose_expr"
    let c ← assignment h f
    let _ ← expectPunct "," "expected ','"
    let a ← assignment h f
    let _ ← expectPunct "," "expected ','"
    let b ← assignment h f
    let rp ← closeBracket ")"
    let v ← match c.value with
      | some v => pure v
      | none => failAt (← exprLoc c) "'__builtin_choose_expr' requires a constant expression"
    let chosen := if v != 0 then a else b
    return { chosen with
             node := { kind := .unexposedExpr, locTok := i, first := i, last := rp, ty := some chosen.ty,
                       value := chosen.value, real := chosen.real, selected := some (if v != 0 then 1 else 2),
                       children := [c.node, a.node, b.node] } }

/-- `__builtin_types_compatible_p(type, type)`: 1 when the two types are
compatible once their outermost qualifiers are left out, else 0. -/
def typesCompatible (h : Hooks) : Nat → P TExpr
  | 0 => throw .exhausted
  | _ + 1 => do
    let kw ← cur
    let i ← advance
    let _ ← openAfter "__builtin_types_compatible_p"
    let a ← h.typeName
    if ← isPunct ")" then failTok kw "type trait requires 2 arguments; have 1 argument"
    let _ ← expectPunct "," "expected ','"
    let b ← h.typeName
    let rp ← closeBracket ")"
    let v : Int := if a.ty.compatibleUnqualified b.ty then 1 else 0
    return { node := { kind := .unexposedExpr, locTok := i, first := i, last := rp, ty := some .int,
                       value := some v, children := a.refs ++ b.refs }
             ty := .int, value := some v, nullPointer := v == 0 }

/-- `__builtin_va_arg(list, type)`. -/
def vaArg (h : Hooks) : Nat → P TExpr
  | 0 => throw .exhausted
  | f + 1 => do
    let i ← advance
    let _ ← if ← isPunct "(" then openBracket "(" else failHere "expected '(' after '__builtin_va_arg'"
    let ap ← assignment h f
    let _ ← expectPunct "," "expected ','"
    let tn ← h.typeName
    let rp ← closeBracket ")"
    let ap ← ap.load
    return { node := { kind := .unexposedExpr, locTok := i, first := i, last := rp, ty := some tn.ty,
                       children := ap.node :: tn.refs }
             ty := tn.ty }

end

end CInspect.Parse
