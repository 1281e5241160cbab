import CInspect.Parse.ExprChecks
import CInspect.Parse.Words
/-!
Calls of the functions the compiler knows by name.

Most of them are checked like any function, by the type the compiler gives
them. Some the compiler checks by rules of its own, since no C type says
what they accept:

* the `__sync` operations take a pointer to an integer or a pointer and at
  least the values the operation needs, converted to the pointed-to type,
  and give a value of that type (a truth value for a comparing swap,
  nothing for a lock release);
* the `__atomic` and `__c11_atomic` operations take exactly the arguments
  of their form, a pointer first, and warn about a memory order the
  operation does not allow;
* `va_start` takes the list and the last named parameter of the variadic
  function it is in;
* the comparisons that tolerate NaN take two floating values, and the
  classifications one, after integer arguments for `fpclassify`;
* `__builtin_constant_p` and `__builtin_classify_type` take one argument
  of any type, and the overflow checks two integers and a pointer to one.

A call of a library function that computes an absolute value is also
checked against its argument: an unsigned argument makes it pointless, a
pointer suspicious, a wider one truncated, another kind the wrong
function.
-/

namespace CInspect.Parse

open CInspect.Types

/-- The message for a call with too few or too many arguments. -/
def argumentCountMessage (few : Bool) (expected given : Nat) (variadic : Bool)
    (single : Option String) : String :=
  let kind := if few then "too few" else "too many"
  let bound := if variadic then (if few then "at least " else "at most ") else ""
  match single with
  | some name =>
    if few then
      if variadic then s!"{kind} arguments to function call, at least argument '{name}' must be specified"
      else s!"{kind} arguments to function call, single argument '{name}' was not specified"
    else s!"{kind} arguments to function call, expected single argument '{name}', have {given} arguments"
  | none => s!"{kind} arguments to function call, expected {bound}{expected}, have {given}"

/-- Whether a declaration is of a function of the compiler that is not a
library function: such a function has no address and may only be called. -/
def DeclEntry.callOnly (d : DeclEntry) : Bool :=
  d.builtin && d.kind == .function && !(((Language.findBuiltin? d.name).map (·.isLibrary)).getD true)

/-- The type a reference to a function of the compiler shows: it has none
of its own until it is called. -/
def builtinFunctionType (ty : CType) : CType :=
  let spelling := "<builtin fn type>"
  .typedef spelling ty {}

/-! ### The rules -/

/-- What a `__sync` operation gives. -/
inductive SyncResult where
  /-- The value of the object's type. -/
  | value
  /-- Whether the swap happened. -/
  | truth
  /-- Nothing. -/
  | nothing
deriving DecidableEq, Inhabited

/-- The arguments an atomic operation takes after its pointer, by form. -/
inductive AtomicForm where
  /-- A value to initialize with. -/
  | init
  /-- A memory order. -/
  | load
  /-- A place for the result and a memory order. -/
  | loadCopy
  /-- A value, or its address, and a memory order. -/
  | copy
  /-- An operand and a memory order. -/
  | arithmetic
  /-- A new value and a memory order. -/
  | exchange
  /-- The addresses of a new value and of a place for the old one, and a
  memory order. -/
  | exchangeCopy
  /-- An expected and a desired value and two memory orders. -/
  | compareExchange
  /-- The same with a flag for a weak comparison between the values and
  the orders. -/
  | compareExchangeFlagged
deriving DecidableEq, Inhabited

/-- The number of arguments of a form, the pointer included. -/
def AtomicForm.arguments : AtomicForm → Nat
  | .init => 2
  | .load => 2
  | .loadCopy => 3
  | .copy => 3
  | .arithmetic => 3
  | .exchange => 3
  | .exchangeCopy => 4
  | .compareExchange => 5
  | .compareExchangeFlagged => 6

/-- The number of value arguments of a form after the pointer. -/
def AtomicForm.values : AtomicForm → Nat
  | .init => 1
  | .load => 0
  | .exchangeCopy => 2
  | .compareExchange => 2
  | .compareExchangeFlagged => 3
  | _ => 1

/-- The positions, among the arguments as written, of the operands the
operation keeps in its own order: the pointer, the memory order, the
first value, the order on failure, the second value and the flag. -/
def AtomicForm.operandOrder : AtomicForm → List Nat
  | .init => [0, 1]
  | .load => [0, 1]
  | .loadCopy | .copy | .arithmetic | .exchange => [0, 2, 1]
  | .exchangeCopy => [0, 3, 1, 2]
  | .compareExchange => [0, 3, 1, 4, 2]
  | .compareExchangeFlagged => [0, 4, 1, 5, 2, 3]

/-- Which memory orders an atomic operation allows. -/
inductive OrderRule where
  /-- Not a release. -/
  | loading
  /-- Not an acquire. -/
  | storing
  /-- Any. -/
  | any
deriving DecidableEq, Inhabited

/-- Whether a memory order is allowed: relaxed 0, consume 1, acquire 2,
release 3, acquire-release 4, sequentially consistent 5. -/
def OrderRule.allows (r : OrderRule) (v : Int) : Bool :=
  0 ≤ v && v ≤ 5 &&
    match r with
    | .loading => v != 3 && v != 4
    | .storing => v != 1 && v != 2 && v != 4
    | .any => true

/-- An operation of the `__atomic` or `__c11_atomic` family. -/
structure AtomicOperation where
  form : AtomicForm
  /-- Whether it works on `_Atomic` objects (`__c11_atomic`). -/
  standard : Bool
  /-- Whether it takes its values themselves rather than their addresses
  (the `_n` forms and `__c11_atomic`). -/
  byValue : Bool
  /-- Whether it adds or subtracts, which floating objects allow too. -/
  addsOrSubtracts : Bool
  ordering : OrderRule
deriving Inhabited

/-- How the compiler checks a call of one of its functions. -/
inductive CallRule where
  /-- A `__sync` operation with its number of values after the pointer. -/
  | sync (values : Nat) (result : SyncResult) (nand : Bool)
  | atomic (op : AtomicOperation)
  | variadicStart
  | orderedComparison
  /-- A classification with its number of arguments. -/
  | classification (arguments : Nat)
  | constantTest
  | typeClass
  | overflow
  /-- By its type. -/
  | typed
deriving Inhabited

/-- The `__sync` operation of a name without its size suffix. -/
def syncRule (operation : String) : CallRule :=
  let arithmetic := ["add", "sub", "or", "and", "xor", "nand"]
  if arithmetic.any (fun o => operation == "fetch_and_" ++ o || operation == o ++ "_and_fetch") then
    .sync 1 .value (operation.endsWith "nand" || operation.startsWith "nand")
  else if operation == "val_compare_and_swap" then .sync 2 .value false
  else if operation == "bool_compare_and_swap" then .sync 2 .truth false
  else if operation == "lock_release" then .sync 0 .nothing false
  else .sync 1 .value false

/-- The name of a `__sync` operation without the size suffix. -/
def syncOperation (name : String) : String :=
  let rest := (name.drop 7).toString
  let sizes := ["_1", "_2", "_4", "_8", "_16"]
  match sizes.find? (rest.endsWith ·) with
  | some s => (rest.dropEnd s.length).toString
  | none => rest

/-- The atomic operation of a name of the `__atomic` or `__c11_atomic`
family. -/
def atomicRule (name : String) : Option AtomicOperation :=
  let standard := name.startsWith "__c11_atomic_"
  let op := if standard then (name.drop 13).toString else (name.drop 9).toString
  let byValue := standard || op.endsWith "_n"
  let base := if op.endsWith "_n" then (op.dropEnd 2).toString else op
  let make (form : AtomicForm) (ordering : OrderRule) : Option AtomicOperation :=
    some { form := form, standard := standard, byValue := byValue,
           addsOrSubtracts := ["fetch_add", "fetch_sub", "add_fetch", "sub_fetch"].contains base,
           ordering := ordering }
  let arithmetic := ["fetch_add", "fetch_sub", "fetch_and", "fetch_or", "fetch_xor", "fetch_nand",
    "fetch_min", "fetch_max", "add_fetch", "sub_fetch", "and_fetch", "or_fetch", "xor_fetch",
    "nand_fetch", "min_fetch", "max_fetch"]
  if base == "init" then make .init .any
  else if base == "load" then make (if standard || op.endsWith "_n" then .load else .loadCopy) .loading
  else if base == "store" then make .copy .storing
  else if arithmetic.contains base then make .arithmetic .any
  else if base == "exchange" then make (if standard || op.endsWith "_n" then .exchange else .exchangeCopy) .any
  else if base == "compare_exchange_strong" || base == "compare_exchange_weak" then
    make .compareExchange .any
  else if base == "compare_exchange" then make .compareExchangeFlagged .any
  else none

/-- The rule a call of a function of the compiler is checked by. -/
def callRule (b : Language.Builtin) : CallRule :=
  let n := b.name
  let plain := if n.startsWith "__builtin_" then (n.drop 10).toString else n
  if !b.customChecked then .typed
  else if n.startsWith "__sync_" then syncRule (syncOperation n)
  else if n.startsWith "__atomic_" || n.startsWith "__c11_atomic_" then
    match atomicRule n with
    | some op => .atomic op
    | none => .typed
  else if plain == "va_start" || plain == "stdarg_start" then .variadicStart
  else if ["isgreater", "isgreaterequal", "isless", "islessequal", "islessgreater",
      "isunordered"].contains plain then .orderedComparison
  else if plain == "fpclassify" then .classification 6
  else if ["isfinite", "isinf", "isinf_sign", "isnan", "isnormal", "signbit"].contains plain then
    .classification 1
  else if plain == "constant_p" then .constantTest
  else if plain == "classify_type" then .typeClass
  else if ["add_overflow", "sub_overflow", "mul_overflow"].contains plain then .overflow
  else .typed

/-! ### Checking a call by its rule -/

/-- The node of a call of `callee`, a loaded reference, with arguments
`args`, up to token `rp`. -/
def builtinCallNode (callee : TExpr) (args : List Built) (rp : Nat) (ty : CType) (name : String) :
    TExpr :=
  { node := { kind := .callExpr, spelling := name, locTok := callee.node.first,
              first := callee.node.first, last := rp, ty := some ty,
              children := callee.node :: args }
    ty := ty }

/-- Require exactly `n` arguments: too few is reported at the closing
parenthesis, too many at the first one too many. -/
def requireArguments (rp : Nat) (args : List TExpr) (n : Nat) : P Unit := do
  if args.length < n then
    failTok ((← get).tokAt rp) (argumentCountMessage true n args.length false none)
  if args.length > n then
    let at_ := ((args.drop n).head?.map (·.node.first)).getD rp
    failTok ((← get).tokAt at_) (argumentCountMessage false n args.length false none)

/-- The byte size of an integer or pointer type. -/
def scalarBytes (t : CType) : P Nat := do
  if t.isPointer then return 8
  match ← basicOf t with
  | some b => return b.width / 8
  | none => return 0

/-- A `__sync` operation: a pointer to a non-const integer or pointer,
then its values converted to the pointed-to type. The call is made to
the form of the operation for the object's size. -/
def syncCall (name : String) (values : Nat) (result : SyncResult) (nand : Bool) (callee : TExpr)
    (rp : Nat) (args : List TExpr) : P TExpr := do
  let nameTok := (← get).tokAt callee.node.first
  let closing := (← get).tokAt rp
  let (first, rest) ← match args with
    | a :: more => pure (a, more)
    | [] => failTok closing (argumentCountMessage true 1 0 true none)
  let p ← first.load
  let pointee ← match p.ty.canonical.pointee? with
    | some t => pure t
    | none => failTok nameTok s!"address argument to atomic builtin must be a pointer ({← quoteType p.ty} invalid)"
  if !pointee.isInteger && !pointee.isPointer then
    failTok nameTok
      s!"address argument to atomic builtin must be a pointer to integer or pointer ({← quoteType p.ty} invalid)"
  if pointee.isConst then
    failTok nameTok s!"address argument to atomic builtin cannot be const-qualified ({← quoteType p.ty} invalid)"
  let valueType := pointee.unqualified
  if args.length < 1 + values then
    failTok closing (argumentCountMessage true (1 + values) args.length true none)
  if nand then
    warn closing.reportLoc
      "the semantics of this intrinsic changed with GCC version 4.4 - the newer semantics are provided here"
      "-Wsync-fetch-and-nand-semantics-changed"
  let mut converted : Array Built := #[p.node]
  for a in rest.take values do
    converted := converted.push (← convertFor .passing a valueType).node
  for a in rest.drop values do
    converted := converted.push a.node
  let ty : CType := match result with
    | .value => valueType
    | .truth => .basic .bool {}
    | .nothing => .basic .void {}
  -- the call goes to the form of the operation for the object's size
  let sized := s!"{name}_{← scalarBytes valueType}"
  let callee ← do
    if name.endsWith "_1" || name.endsWith "_2" || name.endsWith "_4" || name.endsWith "_8" ||
        name.endsWith "_16" then pure callee
    else
      match Language.findBuiltin? sized with
      | some b =>
        match ← typeOfBuiltin b with
        | .ok t =>
          let shown := some (builtinFunctionType t)
          let reference : Built :=
            { callee.node.withoutConversions with spelling := sized, ty := shown, referenced := none }
          pure (TExpr.wrap { node := reference, ty := t } (.pointer t {}) none)
        | .error _ => pure callee
      | none => pure callee
  return builtinCallNode callee converted.toList rp ty callee.node.nameForConversion

/-- An operation of the `__atomic` or `__c11_atomic` family. -/
def atomicCall (op : AtomicOperation) (callee : TExpr) (rp : Nat) (args : List TExpr) : P TExpr := do
  let callTok := (← get).tokAt callee.node.first
  let form := op.form
  requireArguments rp args form.arguments
  let (first, rest) ← match args with
    | a :: more => pure (a, more)
    | [] => failTok callTok "expected arguments"
  let p ← first.load
  let shown ← quoteType p.ty
  let pointee ← match p.ty.canonical.pointee? with
    | some t => pure t
    | none => failTok callTok s!"address argument to atomic builtin must be a pointer ({shown} invalid)"
  let atomicWord := if op.standard then "atomic " else ""
  if op.standard then
    failTok callTok s!"address argument to atomic operation must be a pointer to _Atomic type ({shown} invalid)"
  if form != .load && form != .loadCopy && pointee.isConst then
    failTok callTok s!"address argument to atomic operation must be a pointer to non-const type ({shown} invalid)"
  -- an `_Atomic` object is none of these to the operations that do not
  -- expect one
  let atomicObject := !op.standard && pointee.isAtomic
  let integer := !atomicObject && pointee.isInteger
  let pointer := !atomicObject && pointee.isPointer
  if form == .arithmetic then
    let floating := !atomicObject && match pointee.canonical with
      | .basic b _ => b.isFloating && b != .longDouble
      | _ => false
    if op.addsOrSubtracts && !integer && !pointer && !floating then
      failTok callTok
        s!"address argument to atomic operation must be a pointer to {atomicWord}integer, pointer or supported floating point type ({shown} invalid)"
    if !op.addsOrSubtracts && !integer then
      failTok callTok
        s!"address argument to atomic operation must be a pointer to {atomicWord}integer ({shown} invalid)"
  else if op.byValue && !integer && !pointer then
    failTok callTok
      s!"address argument to atomic operation must be a pointer to {atomicWord}integer or pointer ({shown} invalid)"
  if atomicObject || (!pointee.isScalar && (pointee.isVoid || pointee.isFunction || !(← isComplete pointee))) then
    failTok callTok
      s!"address argument to atomic operation must be a pointer to a trivially-copyable type ({shown} invalid)"
  let valueType := pointee.unqualified
  let byValue := if op.byValue then valueType else p.ty
  -- the type each argument after the pointer is converted to
  let mut converted : Array TExpr := #[p]
  let mut i := 1
  for a in rest do
    let target : CType :=
      if i < form.values + 1 then
        if i == 1 then
          if form == .arithmetic && valueType.isPointer then .basic .long {}
          else if form == .init || form == .arithmetic then valueType
          else if form == .copy || form == .exchange then byValue
          else .pointer valueType {}
        else if i == 2 then byValue
        else .basic .bool {}
      else .int
    converted := converted.push (← convertFor .passing a target)
    i := i + 1
  let operands := form.operandOrder.filterMap (converted[·]?)
  if form != .init then
    if let some order := operands[1]? then
      if let some v := order.value then
        if !op.ordering.allows v then
          warn ((← get).tokAt order.node.first).reportLoc
            "memory order argument to atomic operation is invalid" "-Watomic-memory-ordering"
  let ty : CType := match form with
    | .copy | .loadCopy | .exchangeCopy | .init => .basic .void {}
    | .compareExchange | .compareExchangeFlagged => .basic .bool {}
    | _ => valueType
  return { node := { kind := .unexposedExpr, locTok := callee.node.first, first := callee.node.first,
                     last := rp, ty := some ty, children := operands.map (·.node) }
           ty := ty }

/-- The last parameter of the function being defined, if it takes
variable arguments: `none` outside a function, `some none` in one that
does not. -/
def variadicParameter : P (Option (Option (Option String))) := do
  let st ← get
  match st.functionDecl.bind (st.decls[·]?) with
  | none => return none
  | some d =>
    match d.ty.functionParts? with
    | some (_, _, true, _) => return some (some d.paramNames.getLast?)
    | _ => return some none

/-- `va_start`: the list, converted to the parameter type, and the last
named parameter of the variadic function the call is in. -/
def variadicStartCall (callee : TExpr) (rp : Nat) (args : List TExpr) : P TExpr := do
  let callTok := (← get).tokAt callee.node.first
  requireArguments rp args 2
  let (list, last) ← match args with
    | [a, b] => pure (a, b)
    | _ => failTok callTok "expected two arguments"
  let listType := (callee.ty.pointee?.bind (·.functionParts?)).bind (·.2.1.head?)
  let list ← match listType with
    | some t => convertFor .passing list t
    | none => list.load
  let lastName ← match ← variadicParameter with
    | none => failTok callTok "'va_start' cannot be used outside a function"
    | some none => failTok callTok "'va_start' used in function with fixed args"
    | some (some n) => pure n
  let st ← get
  let named := last.node.withoutCasts 64
  let param := if named.kind == .declRefExpr then named.referenced.bind (st.decls[·]?) else none
  match param with
  | some d =>
    if d.kind == .parameter && some d.name == lastName then
      let promotable := match d.ty.canonical with
        | .basic b _ => b == .float || (b.isInteger && b.rank < 3)
        | .tag i .enum _ => (st.enumBasic i).rank < 3
        | _ => false
      if d.register || promotable then
        let what := if d.register then "a parameter declared with the 'register' keyword"
          else "an object that undergoes default argument promotion"
        warn (st.tokAt named.first).reportLoc s!"passing {what} to 'va_start' has undefined behavior"
          "-Wvarargs"
    else
      warn (st.tokAt last.node.first).reportLoc "second argument to 'va_start' is not the last named parameter"
        "-Wvarargs"
  | none =>
    warn (st.tokAt last.node.first).reportLoc "second argument to 'va_start' is not the last named parameter"
      "-Wvarargs"
  return builtinCallNode callee [list.node, last.node] rp (.basic .void {}) callee.node.nameForConversion

/-- A comparison that tolerates NaN: two arguments brought to a common
floating type. -/
def orderedComparisonCall (callee : TExpr) (rp : Nat) (args : List TExpr) (ty : CType) : P TExpr := do
  requireArguments rp args 2
  let (a, b) ← match args with
    | [a, b] => pure (a, b)
    | _ => failTok ((← get).tokAt rp) "expected two arguments"
  let (a, b, common) ← arithmeticConversions a b false
  if !common.isFloating || !a.ty.isArithmetic || !b.ty.isArithmetic then
    failTok ((← get).tokAt a.node.first)
      s!"ordered compare requires two args of floating point type ({← quoteType a.ty} and {← quoteType b.ty})"
  return builtinCallNode callee [a.node, b.node] rp ty callee.node.nameForConversion

/-- A classification of a floating value, after `n - 1` integer
arguments. -/
def classificationCall (n : Nat) (callee : TExpr) (rp : Nat) (args : List TExpr) (ty : CType) :
    P TExpr := do
  requireArguments rp args n
  let mut converted : Array Built := #[]
  for a in args.take (n - 1) do
    converted := converted.push (← convertFor .passing a .int).node
  match args.drop (n - 1) with
  | [x] =>
    let x ← x.load
    if !x.ty.isFloating then
      failTok ((← get).tokAt x.node.first)
        s!"floating point classification requires argument of floating point type (passed in {← quoteType x.ty})"
    return builtinCallNode callee (converted.toList ++ [x.node]) rp ty callee.node.nameForConversion
  | _ => failTok ((← get).tokAt rp) "expected an argument"

/-- An arithmetic check for overflow: two integers and a pointer to a
non-const integer for the result. -/
def overflowCall (callee : TExpr) (rp : Nat) (args : List TExpr) : P TExpr := do
  requireArguments rp args 3
  let mut loaded : Array TExpr := #[]
  for a in args do
    loaded := loaded.push (← a.load)
  let st ← get
  for a in loaded.toList.take 2 do
    if !a.ty.isInteger then
      failTok (st.tokAt a.node.first)
        s!"operand argument to overflow builtin must be an integer ({← quoteType a.ty} invalid)"
  if let some r := loaded[2]? then
    let ok := match r.ty.canonical.pointee? with
      | some t => t.isInteger && !t.isConst
      | none => false
    if !ok then
      failTok (st.tokAt r.node.first)
        s!"result argument to overflow builtin must be a pointer to a non-const integer ({← quoteType r.ty} invalid)"
  return builtinCallNode callee (loaded.toList.map (·.node)) rp (.basic .bool {}) callee.node.nameForConversion

/-- A call of a function of the compiler checked by its own rule, if it
has one: `callee` is the loaded reference to it and `ret` the result its
type gives. -/
def ruledCall (b : Language.Builtin) (callee : TExpr) (rp : Nat) (args : List TExpr) (ret : CType) :
    P (Option TExpr) := do
  let name := callee.node.nameForConversion
  match callRule b with
  | .typed => return none
  | .sync values result nand => return some (← syncCall b.name values result nand callee rp args)
  | .atomic op => return some (← atomicCall op callee rp args)
  | .variadicStart => return some (← variadicStartCall callee rp args)
  | .orderedComparison => return some (← orderedComparisonCall callee rp args ret)
  | .classification n => return some (← classificationCall n callee rp args ret)
  | .constantTest =>
    requireArguments rp args 1
    let mut loaded : List Built := []
    for a in args do
      loaded := loaded ++ [(← a.load).node]
    return some (builtinCallNode callee loaded rp .int name)
  | .typeClass =>
    requireArguments rp args 1
    return some (builtinCallNode callee (args.map (·.node)) rp .int name)
  | .overflow => return some (← overflowCall callee rp args)

/-! ### Absolute values -/

/-- The kinds of value an absolute value is taken of. -/
inductive MagnitudeKind where
  | integer
  | floating
  | complex
deriving DecidableEq, Inhabited

/-- The word a message uses for a kind. -/
def MagnitudeKind.word : MagnitudeKind → String
  | .integer => "integer"
  | .floating => "floating point"
  | .complex => "complex"

/-- The kind of value a function computing an absolute value takes, if
the name is one of them (with or without the `__builtin_` prefix). -/
def absoluteValueKind (name : String) : Option MagnitudeKind :=
  let base := if name.startsWith "__builtin_" then (name.drop 10).toString else name
  if ["abs", "labs", "llabs"].contains base then some .integer
  else if ["fabsf", "fabs", "fabsl"].contains base then some .floating
  else if ["cabsf", "cabs", "cabsl"].contains base then some .complex
  else none

/-- The kind and width in bits of an arithmetic type. -/
def magnitudeOf (t : CType) : P (Option (MagnitudeKind × Nat)) := do
  match t.canonical with
  | .complex b _ => return some (.complex, 2 * b.width)
  | _ =>
    match ← basicOf t with
    | some b =>
      if b.isFloating then return some (.floating, b.width)
      else if b.isInteger then return some (.integer, b.width)
      else return none
    | none => return none

/-- The check of a call of a function whose parameters must not be given a
null pointer: a null pointer constant given for one is reported at the
call's closing parenthesis, once for each such argument. -/
def nonnullCheck (d : DeclEntry) (rp : Nat) (args : List TExpr) (pointers : List Bool) : P Unit := do
  let some positions := d.nonnull | return
  let guarded (k : Nat) : Bool :=
    if positions.isEmpty then pointers.getD k false else positions.contains (k + 1)
  for (a, k) in args.zipIdx do
    if guarded k && a.nullPointer then
      warnLater rp "null passed to a callee that requires a non-null argument" "-Wnonnull"

/-- The largest alignment the compiler takes, in bytes. -/
def maximumAlignment : Nat := Nat.pow 2 29

/-- The check of a call of a function whose result is aligned as one of
its arguments says: that argument, when it folds to a constant, must be a
power of 2 no larger than the largest alignment. -/
def allocAlignCheck (d : DeclEntry) (args : List TExpr) : P Unit := do
  let some k := d.allocAlign | return
  let some a := args[k - 1]? | return
  let st ← get
  let some v := st.foldInteger a.node | return
  let loc := (st.tokAt (st.exprLocTok 256 a.node)).reportLoc
  -- the argument is a size, so the value is read without a sign
  let n := (v % Int.pow 2 64).toNat
  if n == 0 || (n &&& (n - 1)) != 0 then
    warn loc "requested alignment is not a power of 2" "-Wnon-power-of-two-alignment"
  if n > maximumAlignment then
    warn loc s!"requested alignment must be {maximumAlignment} bytes or smaller; maximum alignment assumed"
      "-Wbuiltin-assume-aligned-alignment"

/-- Check a call of a function computing an absolute value against its
one argument, at the call's first token `at_`. -/
def absoluteValueCheck (d : DeclEntry) (at_ : Nat) (args : List Built) : P Unit := do
  if !d.builtin then return
  let some kind := absoluteValueKind d.name | return
  let [arg] := args | return
  let some argType := arg.bare.ty | return
  let some paramType := arg.ty | return
  let loc := ((← get).tokAt at_).reportLoc
  let unsigned := match ← basicOf argType with
    | some b => b.isInteger && b.isUnsigned
    | none => false
  if unsigned then
    warn loc s!"taking the absolute value of unsigned type {← quoteType argType} has no effect"
      "-Wabsolute-value"
    return
  if argType.isPointer || argType.isArray || argType.isFunction then
    let what := if argType.isFunction then "function" else if argType.isArray then "array" else "pointer"
    warn loc s!"taking the absolute value of {what} type {← quoteType argType} is suspicious"
      "-Wabsolute-value"
    return
  let some (argKind, argWidth) ← magnitudeOf argType | return
  let some (_, paramWidth) ← magnitudeOf paramType | return
  if argKind == kind then
    if argWidth ≤ paramWidth then return
    warn loc
      s!"absolute value function '{d.name}' given an argument of type {← quoteType argType} but has parameter of type {← quoteType paramType} which may cause truncation of value"
      "-Wabsolute-value"
  else
    -- no function of the right kind is wide enough for an integer wider
    -- than 64 bits
    if argKind == .integer && argWidth > 64 then return
    warn loc
      s!"using {kind.word} absolute value function '{d.name}' when argument is of {argKind.word} type"
      "-Wabsolute-value"

end CInspect.Parse
