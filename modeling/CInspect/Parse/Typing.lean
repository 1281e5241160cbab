import CInspect.Parse.Node
import CInspect.Types.Compatible
import CInspect.Lex.Escape
/-!
The types of expressions and the conversions the compiler inserts.

When an expression's value is used, an object designator gives way to the
value it holds, unqualified; an array gives way to a pointer to its first
element and a function to a pointer to it (`TExpr.rvalue`). Integer
operands narrower than `int` are promoted (`promote`); two arithmetic
operands are converted to their common type (`arithmeticConversions`);
a value stored, passed or returned is converted to the type of its
destination (`convertFor`). Each conversion is a node of its own, of kind
`UNEXPOSED_EXPR`, standing over the expression it converts and
spanning the same tokens.

Integer constants keep their value through these conversions, wrapped to
the width of the type they reach, so that array sizes, enumerators and
case labels can be computed.
-/

namespace CInspect.Parse

open CInspect.Types CInspect.Lex

/-- The integer type an enumeration behaves as. -/
def PState.enumBasic (st : PState) (i : Nat) : Basic :=
  match st.tags[i]? with
  | some t => if t.complete then t.underlying else .int
  | none => .int

/-- The basic type an arithmetic type behaves as. -/
def basicOf (t : CType) : P (Option Basic) := do
  let st ← get
  return arithmeticBasic st.enumBasic t.canonical

/-- A value brought into the range of an integer type of `bits` bits. -/
def wrapBits (bits : Nat) (unsigned : Bool) (v : Int) : Int :=
  if bits = 0 then v
  else
    let m := v % ((Nat.pow 2 bits : Nat) : Int)
    if unsigned then m else if m ≥ ((Nat.pow 2 (bits - 1) : Nat) : Int) then m - ((Nat.pow 2 bits : Nat) : Int) else m

/-- A constant converted to a basic type. -/
def wrapTo (b : Basic) (v : Int) : Option Int :=
  if b == .bool then some (if v != 0 then 1 else 0)
  else if b.isInteger then some (wrapBits b.width b.isUnsigned v)
  else none

/-- A constant, integer or floating, converted to a basic type: a floating
value goes to an integer type by dropping its fraction, when the integer
part fits, and to `_Bool` by whether it is zero. -/
def convertConstant (b : Basic) (value : Option Int) (real : Option FloatValue) :
    Option Int × Option FloatValue :=
  match b.floatFormat?, value, real with
  | some fmt, some v, _ => (none, some (fmt.ofInt v).1)
  | some fmt, none, some r => (none, some (r.convert fmt))
  | none, some v, _ => (wrapTo b v, none)
  | none, none, some r =>
    if b == .bool then (some (if r.isZero then 0 else 1), none)
    else if !b.isInteger then (none, none)
    else
      match r.truncate with
      | some (v, _) => (if wrapBits b.width b.isUnsigned v == v then some v else none, none)
      | none => (none, none)
  | _, none, none => (none, none)

/-- Whether a constant is nonzero, when it is a constant. -/
def TExpr.truth (e : TExpr) : Option Bool :=
  match e.value, e.real with
  | some v, _ => some (v != 0)
  | none, some r => some (!r.isZero)
  | none, none => none

/-- The name a conversion node takes from the expression it converts: the
declaration that expression names, if any. -/
def Built.nameForConversion (n : Built) : String :=
  if n.kind == .declRefExpr || n.kind == .memberRefExpr || n.kind == .callExpr ||
      n.kind == .unexposedExpr then n.spelling
  else ""

/-- An expression wrapped in an implicit conversion to `t`. -/
def TExpr.wrap (e : TExpr) (t : CType) (value : Option Int) (real : Option FloatValue := none) : TExpr :=
  let n := e.node
  { node := { kind := .unexposedExpr, spelling := n.nameForConversion, locTok := n.locTok,
              first := n.first, last := n.last, ty := some t, value := value, real := real,
              converted := true, children := [n] }
    ty := t, value := value, real := real, nullPointer := e.nullPointer && value == some 0 }

/-- The expression with its constant value written on its node, where the
checks of a completed expression find it. -/
def TExpr.sealed (e : TExpr) : TExpr :=
  { e with node := { e.node with value := e.value, real := e.real } }

/-- Whether a node is an inserted conversion of an integer value to an
integer type of another width or signedness. -/
def Built.integerConversion (n : Built) : Bool :=
  n.converted &&
    match n.children, n.ty with
    | [c], some t =>
      match c.ty with
      | some s =>
        s.isInteger && !s.isAtomic && t.widensAsInteger && !t.isAtomic &&
          !(s.canonical.unqualified == t.canonical.unqualified)
      | none => false
    | _, _ => false

/-- The expression converted to `t`, with no node added when the two types
are the same once typedef names are resolved. An integer conversion of a
value that an integer conversion just gave is folded into that one: the
compiler retypes the conversion it inserted rather than add another. -/
def castTo (e : TExpr) (t : CType) : P TExpr := do
  if e.ty.canonical == t.canonical then return e
  let (value, real) := match ← basicOf t with
    | some b => convertConstant b e.value e.real
    | none => (if t.isPointer then e.value else none, none)
  if e.node.integerConversion && e.ty.isInteger && t.widensAsInteger then
    return { e with node := { e.node with ty := some t, value := value, real := real },
                    ty := t, value := value, real := real, nullPointer := e.nullPointer && value == some 0 }
  return e.wrap t value real

/-- The element type of an array type, with the array's qualifiers. -/
def arrayElement (t : CType) : CType := (t.element?).getD .error

/-- The type of the value an object of type `t` holds: the type without
qualifiers, and without `_Atomic`. -/
def valueType (t : CType) : CType :=
  if t.isAtomic then t.withoutAtomic.unqualified else t.unqualified

/-- The value of an expression: an object gives way to its unqualified
value, an array to a pointer to its first element, a function to a pointer
to it. -/
def TExpr.rvalue (e : TExpr) : TExpr :=
  if e.ty.isFunction then e.wrap (.pointer e.ty {}) none
  else if e.ty.isArray then e.wrap (.pointer (arrayElement e.ty) {}) none
  else if e.lvalue then
    if e.ty.isAtomic then
      -- the value read keeps the atomic type, then gives it up
      let read := { e.wrap e.ty.unqualified none with nullPointer := false }
      { read.wrap (valueType e.ty) none with nullPointer := false }
    else
      let read := e.wrap e.ty.unqualified e.value e.real
      { read with node := { read.node with shown := e.node.shown }, nullPointer := false }
  else e

/-- Warn about reading the object a null pointer constant points to
(`*(int *)0`), which the compiler may delete rather than let trap; a
volatile object is read. The same read is reported once. -/
def nullDereference (n : Built) : P Unit := do
  let st ← get
  let castless (m : Built) : Built :=
    m.stripWhile (fun k => k.kind == .parenExpr || k.converted || k.kind == .cStyleCastExpr) 256
  let u := castless n
  if u.kind != .unaryOperator || u.isPostfix || st.operatorOf u != "*" then return
  if (u.ty.map (·.canonical.quals.volatile)).getD false then return
  let some c := u.children.head? | return
  let z := castless c
  if z.value != some 0 || !(z.ty.map (·.isInteger)).getD false then return
  let text := "indirection of non-volatile null pointer will be deleted, not trap"
  if st.pending.any (fun (d, k) => k == u.first && d.text == text) then return
  warnLater u.first text "-Wnull-dereference"

/-- The value of an operand, as `TExpr.rvalue` gives it; the name of an
array declared `register` may not become a pointer to its first element. -/
def TExpr.load (e : TExpr) : P TExpr := do
  if e.ty.isArray && e.registerObject && e.node.kind == .declRefExpr then
    failTok ((← get).tokAt e.node.first) "address of register variable requested"
  if e.lvalue && !e.ty.isArray && !e.ty.isFunction then nullDereference e.node
  return e.rvalue

/-- Whether a type is complete: not `void`, not an array of unknown size,
not a structure, union or enumeration that has not been defined. -/
def isComplete (t : CType) : P Bool := do
  match t.canonical with
  | .basic .void _ => return false
  | .array _ .unknown => return false
  | .tag i _ _ => return (← tagOf i).complete
  | _ => return true

/-- The width and signedness of the bit-field an expression reads, if it
reads one: through parentheses and loads, the member itself, the left
side of an assignment, the right side of a comma, the operand of a prefix
`++` or `--`. -/
def PState.sourceBitField (st : PState) : Nat → Built → Option (Nat × Bool)
  | 0, _ => none
  | f + 1, n =>
    if n.kind == .parenExpr || n.converted then
      match n.children with
      | [c] =>
        if n.kind == .parenExpr || (n.ty.map (·.canonical.unqualified)) == (c.ty.map (·.canonical.unqualified))
        then st.sourceBitField f c else none
      | _ => none
    else if n.kind == .memberRefExpr then n.bits
    else if n.kind == .compoundAssignmentOperator then
      match n.children with
      | l :: _ => st.sourceBitField f l
      | [] => none
    else if n.kind == .binaryOperator then
      match n.children with
      | [l, r] =>
        let o := (st.tokAt (l.last + 1)).text
        if o == "=" then st.sourceBitField f l
        else if o == "," then st.sourceBitField f r
        else none
      | _ => none
    else if n.kind == .unaryOperator then
      let o := (st.tokAt n.first).text
      if o == "++" || o == "--" then
        match n.children with
        | [c] => st.sourceBitField f c
        | _ => none
      else none
    else none

/-- The integer promotions: a bit-field narrower than `int` becomes `int`,
one as wide keeps its signedness in an `int` or `unsigned int`; an
integer type of rank below `int` becomes `int`, an enumeration its
promoted type. -/
def promote (e : TExpr) : P TExpr := do
  let e ← e.load
  let st ← get
  let field := if e.ty.isInteger then st.sourceBitField 64 e.node else none
  match field with
  | some (w, signed) =>
    if w < 32 then return ← castTo e .int
    if w == 32 then return ← castTo e (if signed then .int else .basic .uint {})
  | none => pure ()
  match e.ty.canonical with
  | .basic b _ =>
    if b.isInteger && b.rank < 3 then castTo e .int else return e
  | .tag i .enum _ =>
    castTo e (.basic (st.enumBasic i).promote {})
  | _ => return e

/-- The promotions of an argument passed where no parameter type is known:
the integer promotions, and `float` to `double`. -/
def promoteArgument (e : TExpr) : P TExpr := do
  let e ← promote e
  match e.ty.canonical with
  | .basic .float _ => castTo e (.basic .double {})
  | _ => return e

/-- A value converted to the complex type of element `elem`: a complex
value directly, a real one first to the element type. -/
def toComplex (e : TExpr) (elem : Basic) : P TExpr := do
  match e.ty.canonical with
  | .complex _ _ => castTo e (.complex elem {})
  | _ => castTo (← castTo e (.basic elem {})) (.complex elem {})

/-- The common type of operands one of which is complex, `x` and `y`
being their element or basic types, and the operands converted to it. A
complex floating operand meets an integer by converting it to its
element type and then to itself; otherwise the operand of the lower
floating rank is raised to the higher rank, within the real or the
complex types. -/
def complexConversions (a b : TExpr) (compound : Bool) (x y : Basic) (ca cb : Bool) :
    P (TExpr × TExpr × CType) := do
  if x.isFloating || y.isFloating then
    if ca && x.isFloating && !y.isFloating then
      -- the other operand is an integer, real or complex
      return (a, ← toComplex b x, .complex x {})
    if cb && y.isFloating && !x.isFloating then
      let a ← if compound then pure a else toComplex a y
      return (a, b, .complex y {})
    if !x.isFloating then
      -- a complex or real integer beside a real floating operand
      let a ← if compound then pure a else toComplex a y
      return (a, ← castTo b (.complex y {}), .complex y {})
    if !y.isFloating then
      return (← castTo a (.complex x {}), ← toComplex b x, .complex x {})
    if x.floatOrder ≥ y.floatOrder then
      let b ← if x.floatOrder == y.floatOrder then pure b
        else if cb then castTo b (.complex x {}) else castTo b (.basic x {})
      return (a, b, .complex x {})
    let a ← if compound then pure a
      else if ca then castTo a (.complex y {}) else castTo a (.basic y {})
    return (a, b, .complex y {})
  let c := Basic.common x y
  let a ← if compound then pure a else if ca then castTo a (.complex c {})
    else castTo (← castTo a (.basic c {})) (.complex c {})
  let b ← if cb then castTo b (.complex c {}) else castTo (← castTo b (.basic c {})) (.complex c {})
  return (a, b, .complex c {})

/-- The common type of two arithmetic operands and the operands converted
to it. For a compound assignment the left operand stays as it is and its
promoted type takes part in the choice. -/
def arithmeticConversions (a b : TExpr) (compound : Bool) :
    P (TExpr × TExpr × CType) := do
  let a ← if compound then pure a else promote a
  let b ← promote b
  match a.ty.canonical, b.ty.canonical with
  | .complex x _, .complex y _ =>
    if x == y then return (a, b, .complex x {}) else complexConversions a b compound x y true true
  | .complex x _, _ =>
    match ← basicOf b.ty with
    | some y => complexConversions a b compound x y true false
    | none => return (a, b, a.ty.canonical.unqualified)
  | _, .complex y _ =>
    match ← basicOf a.ty with
    | some x => complexConversions a b compound x y false true
    | none => return (a, b, a.ty.canonical.unqualified)
  | _, _ =>
  let ba ← basicOf a.ty
  let bb ← basicOf b.ty
  match ba, bb with
  | some x, some y =>
    let x := if compound then x.promote else x
    let c := Basic.common x y
    let ct : CType := .basic c {}
    let a ← if compound then pure a else castTo a ct
    let b ← castTo b ct
    return (a, b, ct)
  | _, _ => return (a, b, a.ty.canonical.unqualified)

/-- A type with the qualifiers of every level removed, typedef names
resolved. -/
def stripQuals : CType → CType
  | .basic b _ => .basic b {}
  | .complex b _ => .complex b {}
  | .pointer p _ => .pointer (stripQuals p) {}
  | .array e s => .array (stripQuals e) s
  | .tag i k _ => .tag i k {}
  | .typedef _ t _ => stripQuals t
  | t => t

/-- Whether two pointee types are compatible, qualifiers aside. -/
def compatiblePointees (a b : CType) : Bool :=
  stripQuals a.canonical == stripQuals b.canonical

/-- Whether the pointee `to` has every qualifier `from` has. -/
def keepsQualifiers (src dst : CType) : Bool :=
  let q := src.canonical.quals
  let q' := dst.canonical.quals
  (!q.const || q'.const) && (!q.volatile || q'.volatile)

/-- Where a converted value goes, which words the messages about it use. -/
inductive Destination where
  | assigning
  | initializing
  | returning
  | passing
deriving DecidableEq, Inhabited

/-- The message for a value of type `src` that cannot go to `dst`. -/
def Destination.incompatible (d : Destination) (dst src : String) : String :=
  match d with
  | .assigning => s!"assigning to {dst} from incompatible type {src}"
  | .initializing => s!"initializing {dst} with an expression of incompatible type {src}"
  | .returning => s!"returning {src} from a function with incompatible result type {dst}"
  | .passing => s!"passing {src} to parameter of incompatible type {dst}"

/-- The words of a warning about a conversion between `dst` and `src`. -/
def Destination.phrase (d : Destination) (dst src : String) : String :=
  match d with
  | .assigning => s!"assigning to {dst} from {src}"
  | .initializing => s!"initializing {dst} with an expression of type {src}"
  | .returning => s!"returning {src} from a function with result type {dst}"
  | .passing => s!"passing {src} to parameter of type {dst}"

/-- The location an expression is reported at. -/
def exprLoc (e : TExpr) : P Source.Loc := do
  return ((← get).tokAt e.node.first).reportLoc

/-- The change a message about a conversion between a pointer and
another type suggests, from the expression as written and its type `src`:
dereferencing a pointer whose pointee is the destination type (or
dropping the `&` that made it), or taking the address of an object whose
address has the destination type (or dropping the `*` that reached it). -/
def conversionHint (e : TExpr) (src dst : CType) : P String := do
  let src := src.canonical
  let dst := dst.canonical
  let first := (← get).tokAt e.node.first
  let unaryWith (p : String) := e.node.kind == .unaryOperator && first.isPunct p
  let sameAs (a b : CType) : Bool :=
    b.quals.includes a.quals && a.unqualified == b.unqualified
  -- the pointee of `src` is what `dst` is, or points to what `dst` points to
  let reaches (a b : CType) : Bool :=
    b.quals.includes a.quals &&
      match a, b with
      | .pointer p _, .pointer p' _ => sameAs p.canonical p'.canonical
      | _, _ => a.unqualified == b.unqualified
  match src with
  | .pointer p _ =>
    if reaches p.canonical dst then
      return if e.nullPointer then "" else if unaryWith "&" then "; remove &" else "; dereference with *"
  | _ => pure ()
  match dst with
  | .pointer p _ =>
    if e.lvalue && sameAs src p.canonical then
      return if unaryWith "*" then "; remove *" else "; take the address with &"
    return ""
  | _ => return ""

/-- Convert a value to the type of the place it goes to, as an assignment
does. Incompatible types stop with an error; integers and pointers mixed,
and pointers to incompatible types, give a warning. The messages name the
type of the expression as written, before arrays and functions give way to
pointers, and are reported at `at_`, or at the expression when none is
given. -/
def convertPlain (d : Destination) (e : TExpr) (dst : CType) (at_ : Option Source.Loc := none)
    (shown : CType := dst) : P TExpr := do
  let target := dst.unqualified
  let written := e
  let e ← e.load
  if e.ty.canonical.unqualified == target.canonical.unqualified then return e
  let dstText ← quoteType shown
  let srcText ← quoteType written.ty
  let loc ← match at_ with
    | some l => pure l
    | none => exprLoc e
  if target.isArithmetic && e.ty.isArithmetic then
    match target.canonical, e.ty.canonical with
    | .complex elem _, .basic _ _ => castTo (← castTo e (.basic elem {})) target
    | .basic _ _, .complex elem _ => castTo (← castTo e (.basic elem {})) target
    | _, _ => castTo e target
  else if target.isPointer then
    if e.ty.isInteger && e.nullPointer then castTo e target
    else if e.ty.isPointer then
      let p := (e.ty.canonical.pointee?).getD .error
      let p' := (target.canonical.pointee?).getD .error
      let phrase := d.phrase dstText srcText
      match pointerConversion p' p with
      | .fine => pure ()
      | .discardsQualifiers =>
        warn loc (phrase ++ " discards qualifiers") "-Wincompatible-pointer-types-discards-qualifiers"
      | .nestedQualifiers =>
        warn loc (phrase ++ " discards qualifiers in nested pointer types")
          "-Wincompatible-pointer-types-discards-qualifiers"
      | .sign =>
        let plain (t : CType) := match t.canonical with
          | .basic .char _ => true
          | _ => false
        let how := if plain p' || plain p then
            "where one is of the unique plain 'char' type and the other is not"
          else "with different sign"
        warn loc (phrase ++ " converts between pointers to integer types " ++ how) "-Wpointer-sign"
      | .functionPointer =>
        warn loc ("incompatible function pointer types " ++ phrase ++
          (← conversionHint written written.ty dst)) "-Wincompatible-function-pointer-types"
      | .incompatible =>
        warn loc ("incompatible pointer types " ++ phrase ++ (← conversionHint written written.ty dst))
          "-Wincompatible-pointer-types"
      castTo e target
    else if e.ty.isInteger then
      warn loc ("incompatible integer to pointer conversion " ++ d.phrase dstText srcText ++
        (← conversionHint written written.ty dst)) "-Wint-conversion"
      castTo e target
    else failAt loc (d.incompatible dstText srcText)
  else if target.isInteger && e.ty.isPointer then
    match target.canonical with
    | .basic .bool _ => castTo e target
    | _ =>
      warn loc ("incompatible pointer to integer conversion " ++ d.phrase dstText srcText ++
        (← conversionHint written written.ty dst)) "-Wint-conversion"
      castTo e target
  else failAt loc (d.incompatible dstText srcText)

/-- Whether a value converts to a type as an assignment does without a
message: arithmetic to arithmetic, a pointer to a pointer whose pointee it
may point to, a pointer to `_Bool`, or to the same structure or union. -/
def assignsQuietly (target : CType) (e : TExpr) : Bool :=
  if target.isArithmetic && e.ty.isArithmetic then true
  else if target.isPointer && e.ty.isPointer then
    let p := (e.ty.canonical.pointee?).getD .error
    let p' := (target.canonical.pointee?).getD .error
    match pointerConversion p' p with
    | .fine => true
    | _ => false
  else if e.ty.isPointer then
    match target.canonical with
    | .basic .bool _ => true
    | _ => false
  else e.ty.canonical.unqualified == target.canonical.unqualified

/-- Convert a value to the type of the place it goes to, as an assignment
does (`convertPlain`). A value going to an atomic object is first converted
to the type inside `_Atomic` and then made atomic; when that first
conversion draws a message, the message names the atomic type and a single
conversion takes the value there, a null pointer constant counting as an
integer. -/
def convertFor (d : Destination) (e : TExpr) (dst : CType) (at_ : Option Source.Loc := none) :
    P TExpr := do
  let target := dst.unqualified
  if !target.isAtomic then return ← convertPlain d e dst at_
  let value := target.withoutAtomic.unqualified
  let loaded ← e.load
  if loaded.ty.canonical.unqualified == value.canonical.unqualified then return loaded.wrap target none
  if assignsQuietly value loaded then
    let inner ← convertPlain d e value at_
    return inner.wrap target none
  let inner ← convertPlain d { e with nullPointer := false } value at_ dst
  return { inner with ty := target, node := { inner.node with ty := some target } }

/-- The value of a floating constant in a format, with whether it is too
large for the format and whether it is too small, giving zero. A
constant far outside every format is settled without computing it. -/
def floatConstantValue (d : FloatDigits) (fmt : FloatFormat) : FloatValue × Bool × Bool :=
  if d.digits == 0 then (.finite false 0 0, false, false)
  else
    let size : Int := if d.binary then (Nat.log2 d.digits + 1 : Nat) else (toString d.digits).length
    let scale := size + d.exponent
    let limit : Int := if d.binary then 17000 else 5200
    if scale > limit then (.infinite false, true, false)
    else if scale < -limit then (.finite false 0 0, false, true)
    else
      let base := if d.binary then 2 else 10
      let (num, den) :=
        if d.exponent ≥ 0 then (d.digits * Nat.pow base d.exponent.toNat, 1)
        else (d.digits, Nat.pow base (-d.exponent).toNat)
      let (v, _) := fmt.round false num den
      match v with
      | .infinite _ => (v, true, false)
      | .finite _ m _ => (v, false, m == 0)
      | .nan => (v, false, false)

/-- The type of an integer constant: the first of the types its suffix and
base allow that holds its value. -/
def literalType (lit : IntLiteral) : Option Basic :=
  let fitsSigned (b : Basic) := lit.value < Nat.pow 2 (b.width - 1)
  let fitsUnsigned (b : Basic) := lit.value < Nat.pow 2 b.width
  let allowUnsigned := lit.unsigned || !lit.decimal
  let candidates : List Basic :=
    (if lit.longs = 0 then [.int] else []) ++ (if lit.longs ≤ 1 then [.long] else []) ++ [.longlong]
  let pick (b : Basic) : Option Basic :=
    if !lit.unsigned && fitsSigned b then some b
    else if allowUnsigned && fitsUnsigned b then some b.toUnsigned
    else none
  candidates.findSome? pick

/-- The text a string literal is shown as: its prefix, then its code
units between quotes. A pair of UTF-16 surrogates is joined into one code
point; a code point above `0xFF` is written `\u` or `\U00` and four or
six hexadecimal digits, or `\x` and its digits in a wide literal or when
it is not a valid code point; a hexadecimal digit right after a `\x`
escape is split off by `""`; other characters that cannot be shown are
escaped. -/
def stringLiteralText (kind : LiteralKind) (units : List Nat) : String :=
  let lead := match kind with
    | .plain => ""
    | .wide => "L"
    | .utf8 => "u8"
    | .utf16 => "u"
    | .utf32 => "U"
  lead ++ "\"" ++ go units.length units false "" ++ "\""
where
  /-- The text of the remaining units; `afterHex` when the last thing
  written was a `\x` escape. -/
  go : Nat → List Nat → Bool → String → String
    | 0, _, _, out => out
    | _, [], _, out => out
    | f + 1, c :: rest, afterHex, out =>
      let hex := "0123456789ABCDEF".toList
      let hexDigit (n : Nat) : Char := hex.getD (n % 16) '0'
      let (c, rest) := match kind, rest with
        | .utf16, t :: more =>
          if 0xD800 ≤ c && c ≤ 0xDBFF && 0xDC00 ≤ t && t ≤ 0xDFFF then
            (0x10000 + (c - 0xD800) * 1024 + (t - 0xDC00), more)
          else (c, rest)
        | _, _ => (c, rest)
      if c > 0xFF then
        if kind == .wide || (0xD800 ≤ c && c ≤ 0xDFFF) || c ≥ 0x110000 then
          let digits := String.ofList ((Nat.toDigits 16 c).map Char.toUpper)
          go f rest true (out ++ "\\x" ++ digits)
        else if c > 0xFFFF then
          go f rest false (out ++ "\\U00" ++ String.ofList [hexDigit (c / 1048576), hexDigit (c / 65536),
            hexDigit (c / 4096), hexDigit (c / 256), hexDigit (c / 16), hexDigit c])
        else
          go f rest false (out ++ "\\u" ++ String.ofList [hexDigit (c / 4096), hexDigit (c / 256),
            hexDigit (c / 16), hexDigit c])
      else
        let isHexChar := (48 ≤ c && c ≤ 57) || (97 ≤ c && c ≤ 102) || (65 ≤ c && c ≤ 70)
        let out := if afterHex && isHexChar then out ++ "\"\"" else out
        let piece := match c with
          | 92 => "\\\\"
          | 34 => "\\\""
          | 7 => "\\a"
          | 8 => "\\b"
          | 12 => "\\f"
          | 10 => "\\n"
          | 13 => "\\r"
          | 9 => "\\t"
          | 11 => "\\v"
          | _ =>
            if 0x20 ≤ c ∧ c ≤ 0x7e then (Char.ofNat c).toString
            else String.ofList ['\\', Char.ofNat (48 + c / 64 % 8), Char.ofNat (48 + c / 8 % 8),
              Char.ofNat (48 + c % 8)]
        go f rest false (out ++ piece)

end CInspect.Parse
