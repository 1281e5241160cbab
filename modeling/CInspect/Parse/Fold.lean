import CInspect.Parse.Typing
/-!
Constant folding: the value the compiler finds for an expression by
evaluating it before the program runs, which reaches further than the
integer constant expressions of the language.

Folding reads a variable whose type is `const` and not `volatile` through
the value its own initializer folds to (`DeclEntry.folded`); it converts
floating values to integers; and it computes addresses of objects,
functions and literals with constant offsets. It stops at anything else
read from memory, at a call, an assignment or an increment, and at a
division by zero. An operand whose value is not used (the left of a comma,
the left of `&&` or `||` when the right decides) may fail to fold; that is
noted as a side effect. A signed operation whose result its type cannot
hold is noted as undefined, its value wrapped around.

Three questions are asked of folding, each the way the compiler asks it:
`PState.foldInteger` (an integer, with no side effect and nothing
undefined), `PState.foldTruth` (the truth of a condition, side effects
allowed) and `PState.isEvaluatable` (a constant with no side effect, whose
addresses are of things that last as long as the program).
`PState.nonConstantPart` finds the part of an initializer that keeps it
from being a constant, the way the compiler checks the initializer of an
object that lasts as long as the program.
-/

namespace CInspect.Parse

open CInspect.Types

/-- The basic type an integer or floating type behaves as, enumerations
as their integer type. -/
def PState.basicOfType (st : PState) (t : CType) : Option Basic :=
  arithmeticBasic st.enumBasic t.canonical

/-- The value of an arithmetic operator on constants of a basic type. -/
def foldArithmetic (op : String) (b : Basic) (x y : Int) : Option Int :=
  let r : Option Int := match op with
    | "+" => some (x + y)
    | "-" => some (x - y)
    | "*" => some (x * y)
    | "/" => if y == 0 then none else some (x.tdiv y)
    | "%" => if y == 0 then none else some (x.tmod y)
    | "&" => some (Int.ofNat ((bitsOf x) &&& (bitsOf y)))
    | "|" => some (Int.ofNat ((bitsOf x) ||| (bitsOf y)))
    | "^" => some (Int.ofNat ((bitsOf x) ^^^ (bitsOf y)))
    | "<<" => if y < 0 then none else some (x * ((Nat.pow 2 y.toNat : Nat) : Int))
    | ">>" => if y < 0 then none else some (x / ((Nat.pow 2 y.toNat : Nat) : Int))
    | _ => none
  r.bind (wrapTo b)
where
  /-- The 128 bits of a value in two's complement. -/
  bitsOf (v : Int) : Nat := (v % ((Nat.pow 2 128 : Nat) : Int)).toNat

/-- Whether an addition, subtraction or multiplication of constants of a
signed integer type gives a value the type cannot hold. -/
def signedOverflow (op : String) (b : Basic) (x y : Int) : Bool :=
  let exact : Option Int := match op with
    | "+" => some (x + y)
    | "-" => some (x - y)
    | "*" => some (x * y)
    | _ => none
  match exact with
  | some v => b.isInteger && !b.isUnsigned && b != .bool && wrapTo b v != some v
  | none => false

/-- The value of an arithmetic operator on floating constants of a format. -/
def foldFloating (op : String) (fmt : FloatFormat) (x y : FloatValue) : Option FloatValue :=
  match op with
  | "+" => x.add fmt y
  | "-" => x.add fmt y.neg
  | "*" => x.mul fmt y
  | "/" => x.div fmt y
  | _ => none

/-- The value of a comparison of constants. -/
def foldComparison (op : String) (x y : Int) : Int :=
  let r := match op with
    | "==" => x == y
    | "!=" => x != y
    | "<" => x < y
    | ">" => x > y
    | "<=" => x ≤ y
    | _ => x ≥ y
  if r then 1 else 0

/-- Whether an operator is a comparison. -/
def isComparison (op : String) : Bool :=
  op == "==" || op == "!=" || op == "<" || op == ">" || op == "<=" || op == ">="

/-- A shift of a constant of a basic type the way the compiler folds one:
a negative count shifts the other way, and a count past the width is cut
to one less than the width. -/
def foldShift (left : Bool) (b : Basic) (x y : Int) : Option Int :=
  let (left, count) := if y < 0 then (!left, -y) else (left, y)
  let count := min count ((b.width : Int) - 1)
  foldArithmetic (if left then "<<" else ">>") b x (max count 0)

/-- What folding noted on its way. -/
structure FoldNotes where
  /-- An operand whose value is not used could not be folded. -/
  sideEffect : Bool := false
  /-- A signed operation gave a value its type cannot hold. -/
  undefined : Bool := false
deriving Inhabited

/-- The notes of two folds together. -/
def FoldNotes.join (a b : FoldNotes) : FoldNotes :=
  ⟨a.sideEffect || b.sideEffect, a.undefined || b.undefined⟩

/-- The truth of a folded value: a nonzero number, or an address that is
not null; the address of a declared thing or of a literal never is. -/
def Folded.truth : Folded → Option Bool
  | .int v => some (v != 0)
  | .real r => some (!r.isZero)
  | .address .absolute (some o) => some (o != 0)
  | .address .absolute none => none
  | .address _ _ => some true

/-- A truth value as the integer a comparison or logical operator gives. -/
def Folded.ofTruth (b : Bool) : Folded := .int (if b then 1 else 0)

/-- A floating value converted to an integer type: its integer part when
the type holds it; else the nearer end of the type's range, or zero for
not a number, and the conversion is undefined, as the second part says. -/
def saturatedInteger (b : Basic) (r : FloatValue) : Folded × Bool :=
  let lo : Int := if b.isUnsigned then 0 else -(Int.pow 2 (b.width - 1))
  let hi : Int := if b.isUnsigned then Int.pow 2 b.width - 1 else Int.pow 2 (b.width - 1) - 1
  match r with
  | .nan => (.int 0, true)
  | .infinite neg => (.int (if neg then lo else hi), true)
  | .finite .. =>
    match r.truncate with
    | some (x, _) => if lo ≤ x && x ≤ hi then (.int x, false) else (.int (if x < 0 then lo else hi), true)
    | none => (.int 0, true)

/-- A folded value converted to a type: to `_Bool` by its truth, between
integer and floating types by their rules (`saturatedInteger` for a
floating value going to an integer type), an address kept in an integer
as wide as a pointer, and a number turned into an address. The second
part tells whether the conversion was undefined. -/
def PState.convertFolded (st : PState) (v : Folded) (t : CType) : Option (Folded × Bool) :=
  if t.isBoolean then v.truth.map fun b => (Folded.ofTruth b, false)
  else if t.isPointer then
    match v with
    | .int x => some (.address .absolute (some (wrapBits 64 true x)), false)
    | .address _ _ => some (v, false)
    | .real _ => none
  else
    match st.basicOfType t with
    | none => none
    | some b =>
      match b.floatFormat? with
      | some fmt =>
        match v with
        | .int x => some (.real (fmt.ofInt x).1, false)
        | .real r => some (.real (r.convert fmt), false)
        | .address _ _ => none
      | none =>
        match v with
        | .int x => some (.int (wrapBits b.width b.isUnsigned x), false)
        | .real r => some (saturatedInteger b r)
        | .address .absolute (some o) => some (.int (wrapBits b.width b.isUnsigned o), false)
        | .address base o => if b.width == 64 then some (.address base o, false) else none

/-- Fold a conversion of a folded value, noting when it is undefined. -/
def PState.convertNoted (st : PState) (v : Folded) (notes : FoldNotes) (t : CType) :
    Option (Folded × FoldNotes) :=
  (st.convertFolded v t).map fun (r, undefined) => (r, { notes with undefined := notes.undefined || undefined })

/-- Whether a node designates an object: a variable, a member, an element,
the object a pointer points to, or a compound literal. -/
def PState.designatesObject (st : PState) (n : Built) : Bool :=
  let n := n.withoutParens
  match n.kind with
  | .declRefExpr =>
    match n.referenced.bind (st.decls[·]?) with
    | some d => d.kind == .variable || d.kind == .parameter
    | none => false
  | .memberRefExpr | .arraySubscriptExpr | .compoundLiteralExpr => true
  | .unaryOperator => !n.isPostfix && st.operatorOf n == "*"
  | _ => false

/-- The size in bytes of the objects a pointer steps over, when it is an
arithmetic type, a pointer, or `void` (whose step is one byte). -/
def PState.stepSize (st : PState) (t : CType) : Option Nat :=
  if t.isPointer then some 8
  else if t.isVoid then some 1
  else
    match st.basicOfType t with
    | some .bool => some 1
    | some .longDouble => some 16
    | some b => if b.width % 8 == 0 && b.width > 0 then some (b.width / 8) else none
    | none => none

/-- An address moved by `k` steps of objects of type `t`; the offset
becomes unknown when their size is. -/
def PState.stepAddress (st : PState) (t : CType) (base : AddressBase) (offset : Option Int) (k : Int) :
    Folded :=
  .address base (match offset, st.stepSize t with
    | some o, some s => some (o + k * (s : Int))
    | _, _ => none)

/-- The result of comparing two addresses, when it is known: of one place,
by their offsets; of two different declared things, or of a declared
thing or a literal and a null pointer, unequal. -/
def compareAddresses (op : String) : Folded → Folded → Option Bool
  | .address a (some x), .address b (some y) =>
    if a == b then some (foldComparison op x y == 1)
    else
      let distinct := match a, b with
        | .decl i, .decl j => i != j
        | .absolute, _ => x == 0
        | _, .absolute => y == 0
        | _, _ => false
      if distinct && (op == "==" || op == "!=") then some (op == "!=") else none
  | _, _ => none

/-- The value of a comparison of two folded values converted to one type. -/
def foldCompare (op : String) (a b : Folded) : Option Folded :=
  match a, b with
  | .int x, .int y => some (.int (foldComparison op x y))
  | .real x, .real y =>
    match x.compare y with
    | some c => some (.int (foldComparison op (match c with | .lt => -1 | .eq => 0 | .gt => 1) 0))
    | none => some (Folded.ofTruth (op == "!="))
  | .int x, .address _ _ => compareAddresses op (.address .absolute (some x)) b |>.map Folded.ofTruth
  | .address _ _, .int y => compareAddresses op a (.address .absolute (some y)) |>.map Folded.ofTruth
  | _, _ => (compareAddresses op a b).map Folded.ofTruth

/-- The fuel folding walks an expression with: enough for any expression
the parser accepts. -/
def foldFuel : Nat := 100000

mutual

/-- Fold an expression node: its value, and what was noted on the way. An
expression that designates an object folds to that object's address; the
conversion that reads the object reads the value its initializer folded
to. -/
def PState.foldNode (st : PState) : Nat → Built → Option (Folded × FoldNotes)
  | 0, _ => none
  | f + 1, n =>
    match n.value, n.real with
    | some v, _ =>
      let v : Folded := if (n.ty.map (·.isPointer)).getD false then .address .absolute (some v) else .int v
      some (v, { undefined := n.overflowed })
    | none, some r => some (.real r, {})
    | none, none =>
      match n.kind with
      | .parenExpr => (n.children.head?).bind (st.foldNode f)
      | .declRefExpr =>
        match n.referenced with
        | some id =>
          match st.decls[id]? with
          | some d =>
            if d.kind == .enumerator then some (.int d.value, {})
            else if d.kind == .variable || d.kind == .parameter || d.kind == .function then
              some (.address (.decl id) (some 0), {})
            else none
          | none => none
        | none => none
      | .stringLiteral =>
        let unit := ((n.ty.bind (·.element?)).bind st.stepSize).getD 1
        some (.address (.text n.first n.units unit) (some 0), {})
      | .addrLabelExpr => some (.address (.literal n.first true) (some 0), {})
      | .compoundLiteralExpr => some (.address (.literal n.first st.function.isNone) (some 0), {})
      | .initListExpr =>
        -- a scalar initialized from braces takes its one element
        match n.children, n.ty with
        | [c], some t => if t.isScalar then st.foldValue f c else none
        | _, _ => none
      | .unexposedExpr => if n.converted then st.foldConversion f n else none
      | .cStyleCastExpr => st.foldCast f n
      | .unaryOperator => st.foldUnary f n
      | .binaryOperator => st.foldBinary f n
      | .conditionalOperator =>
        match n.children with
        | [c, a, b] =>
          (st.foldNode f c).bind fun (vc, nc) =>
            vc.truth.bind fun t =>
              (st.foldNode f (if t then a else b)).map fun (v, ns) => (v, nc.join ns)
        | [c, b] =>
          (st.foldNode f c).bind fun (vc, nc) =>
            vc.truth.bind fun t =>
              if t then some (vc, nc) else (st.foldNode f b).map fun (v, ns) => (v, nc.join ns)
        | _ => none
      | .arraySubscriptExpr =>
        match n.children with
        | [x, y] =>
          let (p, i) := if (x.ty.map (·.isPointer)).getD false then (x, y) else (y, x)
          match st.foldNode f p, st.foldNode f i with
          | some (.address b off, np), some (.int k, ni) =>
            some (st.stepAddress (n.ty.getD .error) b off k, np.join ni)
          | _, _ => none
        | _ => none
      | .memberRefExpr =>
        -- the member lies somewhere in the object: its offset is not kept
        match n.children.head? with
        | some c =>
          match st.foldNode f c with
          | some (.address b _, nc) => some (.address b none, nc)
          | _ => none
        | none => none
      | _ => none

/-- Fold an expression for its value: an expression that designates an
object is read. -/
def PState.foldValue (st : PState) : Nat → Built → Option (Folded × FoldNotes)
  | 0, _ => none
  | f + 1, n =>
    let t := n.ty.getD .error
    if st.designatesObject n && !t.isArray && !t.isFunction then st.readObject f n
    else st.foldNode f n

/-- Read the object an expression designates: a variable whose type is
`const` and not `volatile`, through the value its initializer folded to. -/
def PState.readObject (st : PState) : Nat → Built → Option (Folded × FoldNotes)
  | 0, _ => none
  | f + 1, n =>
    match st.foldNode f n with
    | some (.address (.decl id) (some 0), notes) =>
      match st.decls[id]? with
      | some d => d.folded.map (·, notes)
      | none => none
    | some (.address (.text _ units unit) (some o), notes) =>
      -- an element of a string literal, or its terminating zero
      if unit == 0 || o < 0 || o % (unit : Int) != 0 then none
      else
        let k := (o / (unit : Int)).toNat
        if k < units.length then some (.int (units.getD k 0), notes)
        else if k == units.length then some (.int 0, notes)
        else none
    -- an element whose value the parser already knew
    | some (.int v, notes) => some (.int v, notes)
    | some (.real v, notes) => some (.real v, notes)
    | _ => none

/-- Fold a conversion the compiler inserted: an array or function gives
its address, an object designator is read, any other value is converted. -/
def PState.foldConversion (st : PState) : Nat → Built → Option (Folded × FoldNotes)
  | 0, _ => none
  | f + 1, n =>
    match n.children, n.ty with
    | [c], some t =>
      let src := c.ty.getD .error
      if src.isArray || src.isFunction then st.foldNode f c
      else if st.designatesObject c then st.readObject f c
      else (st.foldNode f c).bind fun (v, notes) => st.convertNoted v notes t
    | _, _ => none

/-- Fold an explicit cast: to `void` the value is dropped, so that an
operand that does not fold is only a side effect. -/
def PState.foldCast (st : PState) : Nat → Built → Option (Folded × FoldNotes)
  | 0, _ => none
  | f + 1, n =>
    match n.children.getLast?, n.ty with
    | some c, some t =>
      if t.isVoid then
        match st.foldNode f c with
        | some (_, notes) => some (.int 0, notes)
        | none => some (.int 0, { sideEffect := true })
      else (st.foldNode f c).bind fun (v, notes) => st.convertNoted v notes t
    | _, _ => none

/-- Fold a unary operator. -/
def PState.foldUnary (st : PState) : Nat → Built → Option (Folded × FoldNotes)
  | 0, _ => none
  | f + 1, n =>
    let o := st.operatorOf n
    match n.children with
    | [c] =>
      if o == "&" || o == "*" then
        -- the address of a designated object, or the object an address
        -- designates: the same address either way
        match st.foldNode f c with
        | some (.address b off, notes) => some (.address b off, notes)
        | _ => none
      else if o == "__extension__" then st.foldNode f c
      else if n.isPostfix || o == "++" || o == "--" then none
      else
        (st.foldNode f c).bind fun (v, notes) =>
          let bt := st.basicOfType (n.ty.getD .error)
          match o, v, bt with
          | "!", _, _ => v.truth.map fun b => (Folded.ofTruth !b, notes)
          | "+", .int _, _ => some (v, notes)
          | "+", .real _, _ => some (v, notes)
          | "-", .int x, some b =>
            (wrapTo b (-x)).map fun r => (.int r, { notes with undefined := notes.undefined || r != -x })
          | "-", .real r, _ => some (.real r.neg, notes)
          | "~", .int x, some b => (wrapTo b (-x - 1)).map fun r => (.int r, notes)
          | _, _, _ => none
    | _ => none

/-- Fold a binary operator: a comma, a logical operator, a comparison, or
arithmetic on numbers and addresses. -/
def PState.foldBinary (st : PState) : Nat → Built → Option (Folded × FoldNotes)
  | 0, _ => none
  | f + 1, n =>
    let o := st.operatorOf n
    match n.children with
    | [a, b] =>
      if o == "," then
        let left : FoldNotes := match st.foldNode f a with
          | some (_, ns) => ns
          | none => { sideEffect := true }
        (st.foldNode f b).map fun (v, ns) => (v, left.join ns)
      else if o == "&&" || o == "||" then
        let orOp := o == "||"
        match (st.foldNode f a).bind (fun (v, ns) => v.truth.map (·, ns)) with
        | some (ta, na) =>
          if ta == orOp then some (Folded.ofTruth ta, na)
          else (st.foldNode f b).bind fun (vb, nb) => vb.truth.map fun tb => (Folded.ofTruth tb, na.join nb)
        | none =>
          -- the left may have had side effects; the right may still decide
          (st.foldNode f b).bind fun (vb, nb) =>
            vb.truth.bind fun tb =>
              if tb == orOp then some (Folded.ofTruth tb, { nb with sideEffect := true }) else none
      else if isComparison o then
        match st.foldNode f a, st.foldNode f b with
        | some (va, na), some (vb, nb) => (foldCompare o va vb).map (·, na.join nb)
        | _, _ => none
      else
        match st.foldNode f a, st.foldNode f b with
        | some (va, na), some (vb, nb) =>
          let notes := na.join nb
          let t := n.ty.getD .error
          match va, vb with
          | .int x, .int y =>
            match st.basicOfType t with
            | some bt =>
              if o == "<<" || o == ">>" then (foldShift (o == "<<") bt x y).map (.int ·, notes)
              else
                let overflow := signedOverflow o bt x y ||
                  ((o == "/" || o == "%") && !bt.isUnsigned && y == -1 && wrapTo bt (-x) != some (-x))
                (foldArithmetic o bt x y).map fun r => (.int r, { notes with undefined := notes.undefined || overflow })
            | none => none
          | .real x, .real y =>
            match (st.basicOfType t).bind Basic.floatFormat? with
            | some fmt =>
              (foldFloating o fmt x y).map fun r =>
                (.real r, { notes with undefined := notes.undefined || r == .nan })
            | none => none
          | .address base off, .int k =>
            if o != "+" && o != "-" then none
            else
              let k := if o == "-" then -k else k
              if t.isPointer then some (st.stepAddress ((t.pointee?).getD .error) base off k, notes)
              else some (.address base (off.map (· + k)), notes)
          | .int k, .address base off =>
            if o != "+" then none
            else if t.isPointer then some (st.stepAddress ((t.pointee?).getD .error) base off k, notes)
            else some (.address base (off.map (· + k)), notes)
          | .address ba (some x), .address bb (some y) =>
            -- the distance between two addresses of one place
            let pointee := ((a.ty.bind (·.pointee?))).getD .error
            match st.stepSize pointee with
            | some s => if o == "-" && ba == bb && s > 0 then some (.int ((x - y) / (s : Int)), notes) else none
            | none => none
          | _, _ => none
        | _, _ => none
    | _ => none

end

/-- The value the compiler folds an integer expression to, when folding
gives one with no side effect and nothing undefined. -/
def PState.foldInteger (st : PState) (n : Built) : Option Int :=
  if !(n.ty.map (·.isInteger)).getD false then none
  else
    match st.foldValue foldFuel n with
    | some (.int v, notes) => if notes.sideEffect || notes.undefined then none else some v
    | _ => none

/-- The value the compiler folds an integer expression to where it
accepts a folded value in place of an integer constant expression (a case
label, an array designator, an enumerator's value, a bit-field's width):
an undefined operation does not keep it from one. -/
def PState.foldConstant (st : PState) (n : Built) : Option Int :=
  if !(n.ty.map (·.isInteger)).getD false then none
  else
    match st.foldValue foldFuel n with
    | some (.int v, notes) => if notes.sideEffect then none else some v
    | _ => none

/-- The value the compiler folds an integer expression to when it checks
what a conversion does to a value: side effects and undefined operations
allowed. -/
def PState.foldAnyway (st : PState) (n : Built) : Option Int :=
  if !(n.ty.map (·.isInteger)).getD false then none
  else
    match st.foldValue foldFuel n with
    | some (.int v, _) => some v
    | _ => none

/-- The value of an integer constant expression, or else the value it
folds to. -/
def foldedConstant (e : TExpr) : P (Option Int) := do
  match e.value with
  | some v => pure (some v)
  | none => pure ((← get).foldConstant e.node)

/-- Whether a folded value may stand in a constant: an address must be of
a function, of an object that lasts as long as the program, or of a
literal that does. -/
def PState.lasting (st : PState) : Folded → Bool
  | .address (.decl id) _ =>
    match st.decls[id]? with
    | some d => d.kind == .function || d.fileScope || d.static
    | none => false
  | .address (.literal _ lasting) _ => lasting
  | .address (.text _ _ _) _ => true
  | _ => true

/-- The truth the compiler folds a condition to; side effects do not keep
it from one, but an address must be one that lasts. -/
def PState.foldTruth (st : PState) (n : Built) : Option Bool :=
  (st.foldValue foldFuel n).bind fun (v, _) => if st.lasting v then v.truth else none

/-- Whether an expression folds to a constant: with no side effect, an
undefined operation allowed, and every address one that lasts. -/
def PState.isEvaluatable (st : PState) (n : Built) : Bool :=
  match st.foldValue foldFuel n with
  | some (v, notes) => !notes.sideEffect && st.lasting v
  | none => false

/-- The token a message about an expression points at, as the compiler
places it: the operator of a unary or binary operation, the member of a
member access, the base of a subscript; else the first token. -/
def PState.exprLocTok (st : PState) : Nat → Built → Nat
  | 0, n => n.first
  | f + 1, n =>
    match n.kind with
    | .binaryOperator | .compoundAssignmentOperator | .unaryOperator => n.operatorTok
    | .memberRefExpr => n.locTok
    | .arraySubscriptExpr =>
      match n.children with
      | [x, y] => st.exprLocTok f (if (x.ty.map (·.isPointer)).getD false then x else y)
      | _ => n.first
    | _ => n.first

/-- Whether two types differ at most in qualifiers, at the top or of what
a pointer points to: a conversion between them changes nothing. -/
def sameButQualifiers (a b : CType) : Bool :=
  let a := a.canonical.unqualified
  let b := b.canonical.unqualified
  a == b ||
    match a, b with
    | .pointer p _, .pointer q _ => p.canonical.unqualified == q.canonical.unqualified
    | _, _ => false

/-- Whether a conversion or cast only reads the object its operand
designates or changes nothing but qualifiers; a constant initializer
looks through it. -/
def PState.isPlainConversion (st : PState) (n : Built) : Bool :=
  match n.children.getLast?, n.ty with
  | some c, some t =>
    let src := c.ty.getD .error
    if src.isArray || src.isFunction then false
    else if n.converted && st.designatesObject c then true
    else sameButQualifiers src t
  | _, _ => false

/-- The token where an initializer of an object that lasts as long as the
program stops being a constant, if it does: string literals are
constants; braces, compound literals, parentheses, `__extension__` and
conversions that change nothing are looked through; anything else must
fold to a constant. -/
def PState.nonConstantPart (st : PState) : Nat → Built → Option Nat
  | 0, n => some n.first
  | f + 1, n =>
    let aggregate := (n.ty.map fun t => t.isArray || t.record?.isSome).getD false
    match n.kind with
    | .stringLiteral => none
    | .compoundLiteralExpr => (n.children.getLast?).bind (st.nonConstantPart f)
    | .initListExpr =>
      if aggregate then n.children.findSome? (st.nonConstantPart f)
      else if st.isEvaluatable n then none else some n.first
    | .parenExpr => (n.children.head?).bind (st.nonConstantPart f)
    | _ =>
      let extension := n.kind == .unaryOperator && st.operatorOf n == "__extension__"
      let plain := (n.converted || n.kind == .cStyleCastExpr) && st.isPlainConversion n
      if extension || plain then
        match n.children.getLast? with
        | some c => st.nonConstantPart f c
        | none => none
      else if st.isEvaluatable n then none
      else some (st.exprLocTok 256 n)

end CInspect.Parse
