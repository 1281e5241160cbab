import CInspect.Parse.Expr
import CInspect.Parse.Attribute
/-!
Declarations.

A declaration is a list of declaration specifiers (storage class,
qualifiers, and one type: basic words, a structure, union or enumeration,
or a typedef name) followed by declarators separated by commas. A
declarator wraps a name in pointers, arrays and function parameter lists;
its `Shape` lists those levels from the outside in, and applying it to the
specifiers' type gives the declared type, in the reverse order: the level
nearest the name is the outermost type.

The nodes written in a type, references to typedef names and tags,
structure definitions, parameters and array sizes, come in the order the
compiler visits them: the element before the size of an array, the result
before the parameters of a function (`Shape.apply`).

A tag declared by a specifier stands as a declaration of its own before
the declarators, and a definition is also a child of each declarator it
is written in. Initializer lists are matched against the object they
initialize element by element, with braces left out where the elements
are themselves aggregates.
-/

namespace CInspect.Parse

open CInspect.Types CInspect.Lex CInspect.Preprocess CInspect.Source CInspect.Language

/-- The storage classes. -/
inductive Storage where
  | none
  | typedef
  | external
  | static
  | auto
  | register
deriving DecidableEq, Inhabited

/-- Where a declaration stands. -/
inductive Place where
  | file
  | block
  | forInit
  | member
  | parameter
  | typeName
deriving DecidableEq, Inhabited

/-- The integer type of a width and signedness, as a machine mode names
it. -/
def modeBasic (bits : Nat) (unsigned : Bool) : Option Basic :=
  match bits with
  | 8 => some (if unsigned then .uchar else .schar)
  | 16 => some (if unsigned then .ushort else .short)
  | 32 => some (if unsigned then .uint else .int)
  | 64 => some (if unsigned then .ulong else .long)
  | 128 => some (if unsigned then .uint128 else .int128)
  | _ => none

/-- A type changed by a `mode` attribute: an integer type becomes the
integer type of the mode's width, of the same signedness; a floating mode
names a floating type. -/
def applyMode (attrs : List Attr) (t : CType) : CType :=
  match attrs.find? (·.name == "mode") with
  | none => t
  | some a =>
    let mode := attributeName (a.word.getD "")
    let q := t.quals
    let floating : Option Basic := match mode with
      | "SF" => some .float
      | "DF" => some .double
      | "XF" => some .longDouble
      | "TF" => some .float128
      | _ => none
    let bits : Option Nat := match mode with
      | "QI" | "byte" => some 8
      | "HI" => some 16
      | "SI" => some 32
      | "DI" | "word" | "pointer" => some 64
      | "TI" => some 128
      | _ => none
    match floating, bits, t.canonical with
    | some b, _, _ => .basic b q
    | none, some n, .basic b _ =>
      if b.isInteger then ((modeBasic n b.isUnsigned).map (CType.basic · q)).getD t else t
    | _, _, _ => t

/-- A declared type with the `noreturn` attribute applied when one of the
attributes asks for it. -/
def applyNoreturn (attrs : List Attr) (t : CType) : CType :=
  if attrs.any (·.name == "noreturn") then t.markNoreturn else t

/-- What declaration specifiers say. -/
structure Specs where
  storage : Storage := .none
  ty : CType := .int
  /-- The node the type specifier gives each declarator's type: a
  reference or a tag definition. -/
  refs : List Built := []
  /-- Tags declared by the specifiers, declarations of their own. -/
  tags : List Built := []
  first : Nat
  /-- The last token of the type specifier. -/
  typeLast : Nat
  /-- Whether no type was written, so that the type is `int`. -/
  implicitInt : Bool := false
  /-- The attributes written among the specifiers. -/
  attrs : List Attr := []
  /-- The tokens of the storage class, `inline` and `_Noreturn`, if written. -/
  storageTok : Option Nat := none
  inlineTok : Option Nat := none
  noreturnTok : Option Nat := none
  /-- The first token of the type specifier, if one was written. -/
  typeFirst : Option Nat := none
  /-- Whether the type is `__auto_type`, to be taken from the initializer. -/
  deduced : Bool := false
deriving Inhabited

/-- A parameter of a function declarator. -/
structure Param where
  node : Built
  ty : CType
  name : Option String
  nameTok : Nat
  decl : Nat
deriving Inhabited

/-- The levels of a declarator, from the outside in. -/
inductive Shape where
  | leaf
  | pointer (q : Quals) (star : Nat) (inner : Shape)
  /-- An array level, with its brackets' tokens. -/
  | array (size : ArraySize) (sizeExpr : Option Built) (opening close : Nat) (inner : Shape)
  /-- A function level, with its parentheses' tokens. -/
  | function (params : List Param) (variadic prototyped : Bool) (opening close : Nat) (inner : Shape)
  /-- A function level that lists only the names of its parameters, each
  with its token; their types come from the declarations of a definition. -/
  | identifiers (names : List (String × Nat)) (opening close : Nat) (inner : Shape)
  | paren (close : Nat) (inner : Shape)
deriving Inhabited

/-- The type a declarator gives to the type `t` of the specifiers, and the
nodes written in it, after the nodes `cs` of the specifiers. -/
def Shape.apply : Shape → CType → List Built → CType × List Built
  | .leaf, t, cs => (t, cs)
  | .pointer q _ inner, t, cs => inner.apply (.pointer t q) cs
  | .array s e _ _ inner, t, cs => inner.apply (.array t s) (cs ++ e.toList)
  | .function ps va pr _ _ inner, t, cs =>
    inner.apply (.function t (ps.map (·.ty)) va pr false) (cs ++ ps.map (·.node))
  | .identifiers _ _ _ inner, t, cs => inner.apply (.function t [] false false false) cs
  | .paren _ inner, t, cs => inner.apply t cs

/-- Whether each level of a shape is a pointer, from the outside in. -/
def Shape.pointerLevels : Shape → List Bool
  | .leaf => []
  | .pointer _ _ i => true :: i.pointerLevels
  | .array _ _ _ _ i => false :: i.pointerLevels
  | .function _ _ _ _ _ i => false :: i.pointerLevels
  | .identifiers _ _ _ i => false :: i.pointerLevels
  | .paren _ i => false :: i.pointerLevels

/-- Whether the declared type has a level after the name (an array, a
function or parentheses) once its pointers are passed: the extent of such
a declaration runs to the end of its declarator. -/
def Shape.isPostfix (s : Shape) : Bool :=
  !(s.pointerLevels.reverse.dropWhile (· == true)).isEmpty

/-- Whether a shape has nothing but parentheses. -/
def Shape.onlyParens : Shape → Bool
  | .leaf => true
  | .paren _ i => Shape.onlyParens i
  | _ => false

/-- Whether a declarator has a function level, at any depth. -/
def Shape.hasFunction : Shape → Bool
  | .leaf => false
  | .pointer _ _ inner | .array _ _ _ _ inner | .paren _ inner => inner.hasFunction
  | .function .. | .identifiers .. => true

/-- Whether a function type is reached from a type through pointers,
arrays and typedef names: an attribute of function types written with a
declarator that has no function level applies to it. -/
def reachesFunction : Nat → CType → Bool
  | 0, _ => false
  | f + 1, t =>
    match t.canonical with
    | .function .. => true
    | .pointer p _ => reachesFunction f p
    | .array e _ => reachesFunction f e
    | _ => false

/-- The parameters of the function level nearest the name, if that level
(parentheses aside) is a function. -/
def Shape.nearestParams : Shape → Option (List Param)
  | .leaf => none
  | .pointer _ _ i => i.nearestParams.orElse (fun _ => none)
  | .array _ _ _ _ i => i.nearestParams
  | .function ps _ _ _ _ i =>
    match i.nearestParams with
    | some p => some p
    | none => if Shape.onlyParens i then some ps else none
  | .identifiers _ _ _ i =>
    match i.nearestParams with
    | some p => some p
    | none => if Shape.onlyParens i then some [] else none
  | .paren _ i => i.nearestParams

/-- The names a function level nearest the name lists, when that level
lists only names. -/
def Shape.nearestIdentifiers? : Shape → Option (List (String × Nat))
  | .leaf => none
  | .pointer _ _ i => i.nearestIdentifiers?
  | .array _ _ _ _ i => i.nearestIdentifiers?
  | .function _ _ _ _ _ i => if Shape.onlyParens i then none else i.nearestIdentifiers?
  | .identifiers ns _ _ i =>
    match i.nearestIdentifiers? with
    | some found => some found
    | none => if Shape.onlyParens i then some ns else none
  | .paren _ i => i.nearestIdentifiers?

/-- The token of the first name of a level that lists only names, anywhere
in a shape. -/
def Shape.identifierListTok? : Shape → Option Nat
  | .leaf => none
  | .pointer _ _ i => i.identifierListTok?
  | .array _ _ _ _ i => i.identifierListTok?
  | .function _ _ _ _ _ i => i.identifierListTok?
  | .identifiers ns _ _ i => i.identifierListTok?.orElse fun _ => ns.head?.map (·.2)
  | .paren _ i => i.identifierListTok?

/-- The shape with the level nearest the name that lists only names given
the parameters a definition declares, with a prototype. -/
def Shape.withParams (params : List Param) : Shape → Shape
  | .leaf => .leaf
  | .pointer q t i => .pointer q t (i.withParams params)
  | .array s e o c i => .array s e o c (i.withParams params)
  | .function ps va pr o c i => .function ps va pr o c (i.withParams params)
  | .identifiers ns o c i =>
    if Shape.onlyParens i then .function params false true o c i else .identifiers ns o c (i.withParams params)
  | .paren c i => .paren c (i.withParams params)

/-- Check the type a declarator builds, level by level from the type of
the specifiers outwards, as the compiler builds it: the elements of an
array are neither functions nor of incomplete type (reported at the
array's `[`), and a function returns neither an array nor a function
(reported at its `(`) and does not take `...` alone. -/
def Shape.check (name : Option String) (overloadable : Bool) : Nat → Shape → CType → P Unit
  | 0, _, _ => pure ()
  | _ + 1, .leaf, _ => pure ()
  | f + 1, .pointer q _ inner, t => Shape.check name overloadable f inner (.pointer t q)
  | f + 1, .array s _ o _ inner, t => do
    let at_ := (← get).tokAt o
    if t.isFunction then
      let shownName := name.getD "type name"
      failTok at_ s!"'{shownName}' declared as array of functions of type {← quoteType t}"
    if !(← isComplete t) then failTok at_ s!"array has incomplete element type {← quoteType t}"
    Shape.check name overloadable f inner (.array t s)
  | f + 1, .function ps va pr o c inner, t => do
    if t.isArray || t.isFunction then
      let what := if t.isFunction then "function" else "array"
      failTok ((← get).tokAt o) s!"function cannot return {what} type {← quoteType t}"
    if ps.isEmpty && va && !overloadable then
      failTok ((← get).tokAt (c - 1)) "ISO C requires a named parameter before '...'"
    Shape.check name overloadable f inner (.function t (ps.map (·.ty)) va pr false)
  | f + 1, .identifiers _ o _ inner, t => do
    if t.isArray || t.isFunction then
      let what := if t.isFunction then "function" else "array"
      failTok ((← get).tokAt o) s!"function cannot return {what} type {← quoteType t}"
    Shape.check name overloadable f inner (.function t [] false false false)
  | f + 1, .paren _ inner, t => Shape.check name overloadable f inner t

/-- A declarator read. -/
structure Declarator where
  shape : Shape := .leaf
  name : Option String := none
  /-- The name's token, or where a name would stand. -/
  locTok : Nat
  /-- The last token of the declarator, if it has any. -/
  last : Option Nat := none
  /-- The attributes written in and after the declarator. -/
  attrs : List Attr := []
deriving Inhabited

/-- A structure, union or enumeration specifier read. -/
structure TagSpec where
  ty : CType
  /-- The node it gives a declarator's type. -/
  ref : Built
  /-- The declaration it makes, if any. -/
  decl : Option Built
  last : Nat
deriving Inhabited

/-- The start of a function definition: the function's node without its
body, and what the body needs. -/
structure FunctionHead where
  node : Built
  decl : Nat
  params : List Param
  ret : CType
  name : String
deriving Inhabited

/-- What reading a declaration gave. -/
inductive DeclResult where
  /-- Declarations ending at the semicolon `last`; `nonLocal` is the name
  token of the first object declared `static` or `extern`. -/
  | done (nodes : List Built) (first last : Nat) (nonLocal : Option Nat)
  /-- Declarations, then a function definition whose body follows. -/
  | function (nodes : List Built) (head : FunctionHead)
deriving Inhabited

/-- A position in an aggregate being initialized. -/
structure Frame where
  ty : CType
  next : Nat := 0
  most : Nat := 0
deriving Inhabited

/-- The basic type named by type specifier words. -/
def basicOfWords (ws : List String) : Option Basic :=
  let c (w : String) := ws.count w
  let longs := c "long"
  let signed := c "signed" + c "__signed" + c "__signed__"
  let unsigned := c "unsigned"
  if c "void" > 0 then some .void
  else if c "_Bool" > 0 then some .bool
  else if c "char" > 0 then some (if unsigned > 0 then .uchar else if signed > 0 then .schar else .char)
  else if c "short" > 0 then some (if unsigned > 0 then .ushort else .short)
  else if c "float" > 0 then some .float
  else if c "double" > 0 then some (if longs > 0 then .longDouble else .double)
  else if c "__float128" > 0 then some .float128
  else if c "__int128" > 0 then some (if unsigned > 0 then .uint128 else .int128)
  else if longs ≥ 2 then some (if unsigned > 0 then .ulonglong else .longlong)
  else if longs = 1 then some (if unsigned > 0 then .ulong else .long)
  else if unsigned > 0 then some .uint
  else if ws.isEmpty then none
  else some .int

/-- The words of basic types. -/
def basicWords : List String :=
  ["void", "char", "short", "int", "long", "float", "double", "signed", "unsigned", "_Bool",
   "__int128", "__float128", "__signed", "__signed__"]

/-- What a basic type word sets in a type specifier. -/
inductive WordRole where
  | sign
  | width
  | type
deriving DecidableEq, Inhabited

/-- The part of a type specifier a basic type word sets. -/
def wordRole (w : String) : WordRole :=
  if w == "signed" || w == "__signed" || w == "__signed__" || w == "unsigned" then .sign
  else if w == "short" || w == "long" then .width
  else .type

/-- The spelling of a basic type word in messages. -/
def specifierSpelling (w : String) : String :=
  if w == "__signed" || w == "__signed__" then "signed" else w

/-- The width words give: `short`, `long` or `long long`. -/
def widthOf (ws : List String) : Option String :=
  let longs := ws.count "long"
  if ws.contains "short" then some "short"
  else if longs ≥ 2 then some "long long"
  else if longs == 1 then some "long"
  else none

/-- How a word clashes with the specifier read before it. -/
inductive SpecifierClash where
  /-- It cannot follow the earlier specifier, which the message names. -/
  | conflict (previous : String)
  /-- It repeats a sign or `short`, which is allowed with a warning. -/
  | repeated (word : String)
deriving Inhabited

/-- How a basic type word clashes with the type specifier `spec` (the
type word or the named type read so far) and the sign and width words
`ws`: a second type, a second sign or width that differs, or a third
`long`. -/
def specifierClash (spec : Option String) (ws : List String) (w : String) : Option SpecifierClash :=
  match wordRole w with
  | .type => spec.map .conflict
  | .sign =>
    match ws.find? (wordRole · == .sign) with
    | some prev =>
      if specifierSpelling prev == specifierSpelling w then some (.repeated (specifierSpelling w))
      else some (.conflict (specifierSpelling prev))
    | none => none
  | .width =>
    match widthOf ws with
    | none => none
    | some prev =>
      if w == "long" && prev == "long" then none
      else if w == "short" && prev == "short" then some (.repeated "short")
      else some (.conflict prev)

/-- The error a complete type specifier gives, with the index among the
words of the word it is reported at: a sign on a type other than `char`,
`int` and `__int128`; `short` or `long long` on a type other than `int`;
`long` on one other than `int` and `double`. -/
def specifierMismatch (spec : Option String) (ws : List String) : Option (Nat × String) :=
  let signAt := ws.findIdx? (wordRole · == .sign)
  let widthAt := ws.findIdx? (wordRole · == .width)
  match spec with
  | none => none
  | some t =>
    match signAt with
    | some i =>
      if ["int", "char", "__int128"].contains t then widthCheck t widthAt
      else some (i, s!"'{t}' cannot be signed or unsigned")
    | none => widthCheck t widthAt
where
  /-- The width word against the type. -/
  widthCheck (t : String) (widthAt : Option Nat) : Option (Nat × String) :=
    match widthAt, widthOf ws with
    | some i, some width =>
      let fits := t == "int" || (width == "long" && t == "double")
      if fits then none else some (i, s!"'{width} {t}' is invalid")
    | _, _ => none

/-- The type of `__builtin_va_list`: an array of one `struct __va_list_tag`,
the tag the table starts with. -/
def vaListType : CType :=
  CType.typedef "__builtin_va_list" (.array (.tag 0 .struct {}) (.fixed 1)) {}

/-- Skip a parenthesized group that starts at the current token, with the
groups nested in it. -/
def skipGroup : P Nat := do
  let mut depth := 0
  let mut last ← curIndex
  let bound := (← get).toks.size
  for _ in [0:bound] do
    if ← atEnd then break
    let t ← cur
    last ← advance
    if t.isPunct "(" then depth := depth + 1
    else if t.isPunct ")" then
      depth := depth - 1
      if depth == 0 then break
  return last

/-- Qualifiers after a `*`, added to `q`; they stop at anything else,
an attribute among them. -/
def pointerQualifiers (q : Quals) : P Quals := do
  let mut q := q
  let bound := (← get).toks.size
  for _ in [0:bound] do
    let t ← cur
    if t.isIdent "const" || t.isIdent "__const" || t.isIdent "__const__" then
      q := { q with const := true }
      let _ ← advance
    else if t.isIdent "volatile" || t.isIdent "__volatile" || t.isIdent "__volatile__" then
      q := { q with volatile := true }
      let _ ← advance
    else if t.isIdent "restrict" || t.isIdent "__restrict" || t.isIdent "__restrict__" then
      q := { q with restrict := true }
      let _ ← advance
    else if t.isIdent "_Atomic" then
      q := { q with atomic := true }
      let _ ← advance
    else break
  return q

/-- A structure, union or enumeration type, with the tag's number. -/
def tagType (id : Nat) (k : TagKind) : CType := .tag id k {}

/-- A reference to a tag at token `i`. -/
def tagRef (i : Nat) (id : Nat) (t : TagEntry) : Built :=
  { kind := .typeRef, spelling := t.kind.keyword ++ " " ++ (t.name.getD ""), locTok := i, first := i,
    last := i, ty := some (tagType id t.kind) }

/-- The cursor kind of a tag declaration. -/
def tagDeclKind : TagKind → Tree.Kind
  | .struct => .structDecl
  | .union => .unionDecl
  | .enum => .enumDecl

/-- Where the keyword of a tag without a name stands, `file:line:col`,
which is how such a tag is named. -/
def tagPlace (kw : Nat) : P String := do
  let st ← get
  let l := (st.tokAt kw).loc
  match st.files[l.file]? with
  | some f =>
    let p := f.pos l.offset
    return s!"{f.name}:{p.line}:{p.col}"
  | none => return ""

/-- The number of elements an aggregate has (none for an array of unknown
size) and the type of element `k`. -/
def aggregateElement (ty : CType) (k : Nat) : P (Option Nat × CType) := do
  match ty.canonical with
  | .array _ (.fixed n) => return (some n, arrayElement ty)
  | .array _ _ => return (none, arrayElement ty)
  | .tag i .struct _ =>
    let t ← tagOf i
    let named := t.initialized
    return (some named.length, (named[k]?.map (·.ty)).getD .error)
  | .tag i .union _ =>
    let t ← tagOf i
    return (some (min 1 t.initialized.length), (t.initialized.head?.map (·.ty)).getD .error)
  | _ => return (some 0, .error)

/-- The member of a structure or union the innermost frame stands at. -/
def frameMember (frames : List Frame) : P (Option Member) := do
  match frames with
  | top :: _ =>
    match top.ty.canonical with
    | .tag i .struct _ => return (← tagOf i).initialized[top.next]?
    | .tag i .union _ => return (← tagOf i).initialized.head?
    | _ => return none
  | [] => return none

/-- Whether a type is an aggregate: an array, structure or union. -/
def isAggregate (ty : CType) : Bool :=
  ty.isArray || ty.record?.isSome

/-- Whether a type is an array of characters, which a string literal may
initialize. -/
def isCharArray (ty : CType) : Bool :=
  match ty.canonical with
  | .array e _ =>
    match e.canonical with
    | .basic b _ => b == .char || b == .schar || b == .uchar
    | _ => false
  | _ => false

/-- Leave the exhausted frames of elements whose braces were left out. -/
def popExhausted (frames : List Frame) : P (List Frame) := do
  let mut fs := frames
  for _ in [0:frames.length] do
    match fs with
    | top :: parent :: rest =>
      let (count, _) ← aggregateElement top.ty top.next
      match count with
      | some n =>
        if top.next ≥ n then
          let nx := parent.next + 1
          fs := { parent with next := nx, most := max parent.most nx } :: rest
        else break
      | none => break
    | _ => break
  return fs

/-- Move to the next element. -/
def advanceFrames (frames : List Frame) : P (List Frame) := do
  match frames with
  | top :: rest =>
    let nx := top.next + 1
    popExhausted ({ top with next := nx, most := max top.most nx } :: rest)
  | [] => return []

/-- The element a value initializes: entering aggregates whose braces were
left out, unless the value initializes the aggregate as a whole. Gives
none past the last element. -/
def descendFor (e : TExpr) (frames : List Frame) : P (List Frame × Option CType) := do
  let mut fs := frames
  for _ in [0:64] do
    match fs with
    | top :: _ =>
      let (count, et) ← aggregateElement top.ty top.next
      let inside := match count with
        | some n => decide (top.next < n)
        | none => true
      if !inside then return (fs, none)
      let whole := (e.stringLit && isCharArray et) ||
        (et.record?.isSome && et.canonical.unqualified == e.ty.canonical.unqualified)
      if isAggregate et && !whole then fs := { ty := et } :: fs
      else return (fs, some et)
    | [] => return (fs, none)
  return (fs, none)

/-- A string literal initializing a character array: the array completed
from the literal's length when its size is unknown. -/
def stringInitType (ty : CType) (e : TExpr) : CType :=
  match ty.canonical, e.ty with
  | .array _ .unknown, .array _ s => .array (arrayElement ty) s
  | _, _ => ty

/-- A string literal, inside parentheses or `__extension__`, given the type
of the array it initializes. -/
def Built.retypeString (t : CType) : Nat → Built → Built
  | 0, n => n
  | f + 1, n =>
    let n := { n with ty := some t }
    if n.kind == .parenExpr || n.kind == .unaryOperator then
      match n.children with
      | c :: more => { n with children := Built.retypeString t f c :: more }
      | [] => n
    else n

/-- A string literal initializing a character array of type `et`: it takes
the type of the array, its size completed from the literal's length. -/
def stringInit (e : TExpr) (et : CType) : TExpr :=
  let t := stringInitType et e
  { e with node := Built.retypeString t 16 e.node }

/-- Convert a value that initializes an element or object of type `et`;
what is wrong with it is reported at `at_`, the name of the object it
initializes, or else at the value. -/
def initValue (e : TExpr) (et : CType) (at_ : Option Source.Loc := none) : P TExpr := do
  if e.stringLit && isCharArray et then return stringInit e et
  if et.isArray then failAt (at_.getD (← exprLoc e)) "array initializer must be an initializer list"
  convertFor .initializing e et at_

/-- Check that a name may be declared in the innermost scope. -/
def checkRedeclaration (name : String) (at_ : Nat) (kind : DeclKind) : P Unit := do
  match ← lookupNameHere name with
  | some id =>
    let d ← declOf id
    if d.kind != kind then
      failTok ((← get).tokAt at_) s!"redefinition of '{name}' as different kind of symbol"
    if kind == .enumerator then failTok ((← get).tokAt at_) s!"redefinition of enumerator '{name}'"
  | none => pure ()

/-- Whether an alignment asked for is a power of two; zero asks for
none and passes. -/
def isPowerOfTwo (v : Int) : Bool := v ≤ 0 || (v.toNat &&& (v.toNat - 1)) == 0

/-- The integer type that holds the values of an enumeration: the
smallest of `int`, `long` that holds every value when one is negative,
else of `unsigned int`, `unsigned long`; a packed enumeration may also
take a character or short type. -/
def enumUnderlying (packed : Bool) (values : List Int) : Basic :=
  let posBits := values.foldl (fun acc v => if v ≥ 0 then max acc (activeBits v.toNat) else acc) 0
  let negBits := values.foldl (fun acc v => if v < 0 then max acc (activeBits (-v - 1).toNat + 1) else acc) 0
  if negBits > 0 then
    if packed && negBits ≤ 8 && posBits < 8 then .schar
    else if packed && negBits ≤ 16 && posBits < 16 then .short
    else if negBits ≤ 32 && posBits < 32 then .int
    else .long
  else
    if packed && posBits ≤ 8 then .uchar
    else if packed && posBits ≤ 16 then .ushort
    else if posBits ≤ 32 then .uint
    else .ulong

/-- Fix the integer type of an enumeration once its enumerators are read. -/
def settleEnumeration (id : Nat) (packed : Bool) : P Unit :=
  updateTag id fun t => { t with underlying := enumUnderlying packed (t.enumerators.map (·.2)) }

/-- Whether attributes mark a function `overloadable`. -/
def hasOverloadable (attrs : List Attr) : Bool := attrs.any (·.name == "overloadable")

/-- The type of a member, at whose name token `tok` a run-time size may
not stand: the compiler folds each such size it can to a constant, with a
warning; otherwise the member is an error. -/
def memberType (tok : PpToken) (ty : CType) : P CType := do
  if !ty.variablyModified then return ty
  match ty.foldSizes with
  | some fixed =>
    warn tok.reportLoc "variable length array folded to constant array as an extension" "-Wgnu-folding-constant"
    return fixed
  | none =>
    if ty.foldsNegative then failTok tok "array size is negative"
    failTok tok "fields must have a constant size: 'variable length array in structure' extension will never be supported"

/-- The checks made on the members of a structure or union once its body
is read: no member is a function, a member of incomplete array type is
the last of a structure with another named member, and every other
member has a complete type. -/
def checkMembers (id : Nat) (kind : TagKind) : P Unit := do
  let t ← tagOf id
  let ms := t.members
  let mut named := 0
  let mut i := 0
  for m in ms do
    i := i + 1
    let d ← declOf m.decl
    let tok := (← get).tokAt d.nameTok
    if m.ty.isFunction then failTok tok s!"field '{m.name}' declared as a function"
    match m.ty.canonical with
    | .array _ .unknown =>
      if kind != .union && i < ms.length then
        failTok tok
          s!"flexible array member '{m.name}' with type {← quoteType m.ty} is not at the end of {kind.keyword}"
      if kind == .union then failTok tok s!"flexible array member '{m.name}' in a union is not allowed"
      if named == 0 then
        failTok tok s!"flexible array member '{m.name}' not allowed in otherwise empty {kind.keyword}"
    | _ =>
      if !(← isComplete m.ty) then failTok tok s!"field has incomplete type {← quoteType m.ty}"
    if !m.name.isEmpty then named := named + 1

/-- Check the width of a bit-field against its type and give it in bits. -/
def bitFieldWidth (name : String) (tok : PpToken) (ty : CType) (e : TExpr) : P Nat := do
  if !ty.isInteger then
    if !(← isComplete ty) then failTok tok s!"field has incomplete type {← quoteType ty}"
    if name.isEmpty then failTok tok s!"anonymous bit-field has non-integral type {← quoteType ty}"
    failTok tok s!"bit-field '{name}' has non-integral type {← quoteType ty}"
  if !e.ty.isInteger then
    failAt (← exprLoc e) s!"integer constant expression must have integer type, not {← quoteType e.ty}"
  let v ← match ← foldedConstant e with
    | some v => pure v
    | none => failAt (← exprLoc e) "expression is not an integer constant expression"
  if v == 0 && !name.isEmpty then failTok tok s!"named bit-field '{name}' has zero width"
  if v < 0 then
    if name.isEmpty then failTok tok s!"anonymous bit-field has negative width ({v})"
    failTok tok s!"bit-field '{name}' has negative width ({v})"
  let width ← match ← basicOf ty with
    | some b => pure (if b == .bool then 1 else b.width)
    | none => pure 32
  if v > width then
    let unit := if width == 1 then "bit" else "bits"
    if name.isEmpty then
      failTok tok s!"width of anonymous bit-field ({v} bits) exceeds the width of its type ({width} {unit})"
    failTok tok s!"width of bit-field '{name}' ({v} bits) exceeds the width of its type ({width} {unit})"
  return v.toNat

/-- The expression inside parentheses and implicit conversions. -/
def Built.asWritten : Built → Nat → Built
  | n, 0 => n
  | n, f + 1 =>
    if n.kind == .parenExpr || (n.kind == .unexposedExpr && n.children.length == 1) || n.converted then
      match n.children.head? with
      | some c => c.asWritten f
      | none => n
    else n

/-- The terms of a condition joined by `&&`, in order. -/
def PState.conjunctionTerms (st : PState) : Nat → Built → List Built
  | 0, n => [n]
  | f + 1, n =>
    let w := n.asWritten 64
    match w.kind, w.children with
    | .binaryOperator, [a, b] =>
      if st.operatorOf w == "&&" then st.conjunctionTerms f a ++ st.conjunctionTerms f b else [n]
    | _, _ => [n]

/-- The check of a static assertion once it is read: its condition, taken
as a truth value, must be an integer constant, and not zero. The first
term of a conjunction found false is quoted, as the compiler prints it,
unless it is a plain integer literal. -/
def checkStaticAssertion (kw : PpToken) (cond : TExpr) (message : Option TExpr) : P Unit := do
  -- an array or a function is taken by its address
  if !(cond.ty.isScalar || cond.ty.isArray || cond.ty.isFunction) then
    failAt (← exprLoc cond) s!"integer constant expression must have integer type, not {← quoteType cond.ty}"
  let constant := if cond.ty.isInteger then cond.value else none
  match constant with
  | none => failAt (← exprLoc cond) "static_assert expression is not an integral constant expression"
  | some v =>
    if v == 0 then
      let msg := match message with
        | some m => " " ++ m.node.spelling
        | none => ""
      let terms := (← get).conjunctionTerms 64 cond.node
      let failed := terms.find? fun t =>
        (t.asWritten 64).kind != .integerLiteral && t.value == some 0
      let written := (failed.getD cond.node).asWritten 64
      if written.kind == .integerLiteral then failTok kw ("static_assert failed" ++ msg)
      let text ← exprTextWith true 256 written
      failTok kw (s!"static_assert failed due to requirement '{text}'" ++ msg)

/-- The type a parameter declared with a type has: an array becomes a
pointer to its first element, a function a pointer to it. -/
def parameterType (ty : CType) : CType :=
  if ty.isArray then .pointer (arrayElement ty) {}
  else if ty.isFunction then .pointer ty {}
  else ty

/-- The type a parameter declared apart from its function's head has in the
function's type: integers narrower than `int` become `int`, `float`
becomes `double`. -/
def promotedParameterType (ty : CType) : CType :=
  match ty.canonical with
  | .basic b _ =>
    if b.isInteger && b.rank < 3 then .int
    else if b == .float then .basic .double {}
    else ty
  | _ => ty

/-- Whether the parameters after a `(` are only names: a name that is not
a type, followed by `,` or `)`. -/
def startsIdentifierList : P Bool := do
  let t ← cur
  if t.kind != .identifier || reservedWords.contains t.text then return false
  if ← startsTypeName then return false
  let n ← peekAt 1
  return n.isPunct "," || n.isPunct ")"

/-- The names of a parameter list of names only, each with its token. -/
def identifierList : P (List (String × Nat)) := do
  let mut names : Array (String × Nat) := #[]
  let bound := (← get).toks.size
  for _ in [0:bound] do
    let t ← cur
    if t.kind != .identifier || reservedWords.contains t.text then failHere "expected identifier"
    if ← startsTypeName then failHere s!"unexpected type name '{t.text}': expected identifier"
    if names.any (·.1 == t.text) then failHere s!"redefinition of parameter '{t.text}'"
    let i ← advance
    names := names.push (t.text, i)
    if (← eatPunct ",").isNone then break
  return names.toList

/-- Stop at a parameter list of names only where no definition follows. -/
def rejectIdentifierList (d : Declarator) : P Unit := do
  if let some i := d.shape.identifierListTok? then
    failTok ((← get).tokAt i) "a parameter list without types is only allowed in a function definition"

mutual

/-- A static assertion, `_Static_assert(condition, "message");`, the
keyword current. Its node holds the condition and the message. -/
def staticAssertion (h : Hooks) : Nat → P Built
  | 0 => throw .exhausted
  | f + 1 => do
    let kwTok ← cur
    let kw ← advance
    let _ ← expectPunct "(" "expected '('"
    let cond ← constantOperand (conditional h f)
    let message ← do
      if ← isPunct ")" then
        warn (← cur).reportLoc "'_Static_assert' with no message is a C2x extension" "-Wc2x-extensions"
        pure none
      else
        let _ ← expectPunct "," "expected ','"
        let t ← cur
        if t.kind != .stringLit then failHere "expected string literal for diagnostic message in static_assert"
        let i ← advance
        let j ← stringRun i
        pure (some (← stringLiteral i j))
    let rp ← closeBracket ")"
    let _ ← expectPunct ";" "expected ';' after static_assert"
    checkStaticAssertion kwTok cond message
    -- the condition is kept converted to a truth value
    let truth ← castTo (← cond.load) (.basic .bool {})
    return { kind := .staticAssert, locTok := kw, first := kw, last := rp,
             children := truth.node :: (message.map (·.node)).toList }

/-- GNU attribute lists and assembler names, as many as are written in a
row. An attribute the compiler does not know is ignored with a warning;
the argument of `aligned` is a constant expression (none asks for the
largest alignment, 16), that of `mode` a name. -/
def attributes (h : Hooks) : Nat → P (List Attr)
  | 0 => throw .exhausted
  | f + 1 => do
    let mut out : Array Attr := #[]
    let bound := (← get).toks.size
    for _ in [0:bound] do
      let t ← cur
      if t.isIdent "__attribute__" || t.isIdent "__attribute" then
        let _ ← advance
        let _ ← expectPunct "(" "expected '(' after 'attribute'"
        let _ ← expectPunct "(" "expected '(' after '('"
        for _ in [0:bound] do
          if ← isPunct ")" then break
          if (← eatPunct ",").isSome then continue
          let nt ← cur
          if nt.kind != .identifier then failHere "expected identifier"
          let ni ← advance
          let name := attributeName nt.text
          let mut a : Attr := { name := name, tok := ni, last := ni }
          if ← isPunct "(" then
            if name == "aligned" then
              let _ ← openBracket "("
              if !(← isPunct ")") then
                let e ← constantOperand (conditional h f)
                match e.value with
                | some v =>
                  if !isPowerOfTwo v then
                    failAt (← exprLoc e) "requested alignment is not a power of 2"
                  a := { a with value := some v }
                | none => failAt (← exprLoc e) "expression is not an integer constant expression"
              else a := { a with value := some 16 }
              let rp ← closeBracket ")"
              a := { a with last := rp }
            else if name == "nonnull" || name == "format" || name == "alloc_align" then
              -- a format's kind, then positions; nonnull's positions only
              let _ ← openBracket "("
              if name == "format" then
                let w ← cur
                let _ ← advance
                a := { a with word := some (attributeName w.text) }
                let _ ← eatPunct ","
              let mut values : Array Int := #[]
              for _ in [0:bound] do
                if ← isPunct ")" then break
                let e ← constantOperand (conditional h f)
                values := values.push (e.value.getD 0)
                if (← eatPunct ",").isNone then break
              let rp ← closeBracket ")"
              a := { a with values := values.toList, last := rp }
            else if name == "mode" || name == "visibility" then
              let _ ← openBracket "("
              let w ← cur
              let wi ← advance
              if name == "visibility" && w.kind != .stringLit then
                failTok w s!"'{nt.text}' attribute requires a string"
              let rp ← closeBracket ")"
              let word := if w.kind == .stringLit then String.ofList ((w.text.toList.drop 1).dropLast) else w.text
              a := { a with word := some word, last := rp, argTok := some wi }
            else if name == "deprecated" || name == "unavailable" || name == "annotate" then
              -- the message is the string literals written first
              let lp ← curIndex
              let rp ← skipGroup
              let st ← get
              let inner := (List.range (rp - lp - 1)).map fun k => st.tokAt (lp + 1 + k)
              let message := String.join ((inner.takeWhile (·.kind == .stringLit)).map fun w =>
                String.ofList ((w.text.toList.drop 1).dropLast))
              a := { a with word := some message, last := rp }
            else
              let lp ← curIndex
              let rp ← skipGroup
              if rp > lp + 1 && argumentlessAttributes.contains name then
                failTok nt s!"'{nt.text}' attribute takes no arguments"
              a := { a with last := rp }
          else if name == "aligned" then a := { a with value := some 16 }
          if isKnownAttribute name then out := out.push a
          else warn nt.reportLoc s!"unknown attribute '{nt.text}' ignored" "-Wunknown-attributes"
        let _ ← closeBracket ")"
        let _ ← expectPunct ")" "expected ')'"
      else if t.isIdent "__asm__" || t.isIdent "__asm" || t.isIdent "asm" then
        let kw ← advance
        if ← isPunct "(" then
          -- the name is the text of the string literals within
          let lp ← curIndex
          let rp ← skipGroup
          let st ← get
          let inner := (List.range (rp - lp - 1)).map fun k => (lp + 1 + k, st.tokAt (lp + 1 + k))
          let strings := inner.filter (·.2.kind == .stringLit)
          let label := String.join (strings.map fun (_, w) => String.ofList ((w.text.toList.drop 1).dropLast))
          let at_ := ((strings.head?.map (·.1)).getD kw)
          out := out.push { name := "asm", tok := at_, last := rp, word := some label }
      else break
    return out.toList

/-- Declaration specifiers. -/
def declSpecifiers (h : Hooks) : Nat → Place → P Specs
  | 0, _ => throw .exhausted
  | f + 1, place => do
    let first ← curIndex
    let mut storage := Storage.none
    let mut quals : Quals := {}
    let mut words : List String := []
    let mut complex := false
    let mut complexTok := first
    let mut named : Option CType := none
    let mut refs : List Built := []
    let mut tags : List Built := []
    let mut typeLast := first
    let mut attrs : Array Attr := #[]
    let mut storageTok : Option Nat := none
    let mut inlineTok : Option Nat := none
    let mut noreturnTok : Option Nat := none
    let mut typeFirst : Option Nat := none
    -- how the type specifier read so far is named in a message about another
    let mut namedSpec : String := ""
    let mut wordToks : List Nat := []
    let mut deduced := false
    let bound := (← get).toks.size
    for _ in [0:bound] do
      let t ← cur
      if t.kind != .identifier then break
      let w := t.text
      let here ← curIndex
      if w == "typedef" || w == "extern" || w == "static" || w == "auto" || w == "register" then
        storageTok := some here
      if w == "inline" || w == "__inline" || w == "__inline__" then inlineTok := some here
      if w == "_Noreturn" then noreturnTok := some here
      if typeFirst.isNone && (basicWords.contains w || w == "struct" || w == "union" || w == "enum" ||
          w == "_Complex" || w == "__complex__" || w == "__builtin_va_list" || w == "typeof" || w == "__auto_type" ||
          w == "__typeof" || w == "__typeof__" || (w == "_Atomic" && (← peekAt 1).isPunct "(") ||
          (named.isNone && words.isEmpty && !complex && (← isTypedefName w))) then
        typeFirst := some here
      if w == "typedef" then storage := .typedef; let _ ← advance
      else if w == "extern" then storage := .external; let _ ← advance
      else if w == "static" then storage := .static; let _ ← advance
      else if w == "auto" then storage := .auto; let _ ← advance
      else if w == "register" then storage := .register; let _ ← advance
      else if w == "const" || w == "__const" || w == "__const__" then
        quals := { quals with const := true }; let _ ← advance
      else if w == "volatile" || w == "__volatile" || w == "__volatile__" then
        quals := { quals with volatile := true }; let _ ← advance
      else if w == "restrict" || w == "__restrict" || w == "__restrict__" then
        quals := { quals with restrict := true }; let _ ← advance
      else if w == "_Atomic" && (← peekAt 1).isPunct "(" then
        -- `_Atomic(type)` names the atomic version of a type
        if named.isSome then
          failTok t s!"cannot combine with previous '{namedSpec}' declaration specifier"
        let kw ← advance
        let _ ← openBracket "("
        let tn ← typeName h f
        typeLast ← closeBracket ")"
        let what ← do
          if tn.ty.isArray then pure (some "array ")
          else if tn.ty.isFunction then pure (some "function ")
          else if tn.ty.isAtomic then pure (some "atomic ")
          else if !tn.ty.canonical.quals.isEmpty then pure (some "qualified ")
          else if !tn.ty.isVoid && !(← isComplete tn.ty) then pure (some "incomplete ")
          else if tn.ty.isVoid then pure (some "incomplete ")
          else pure none
        if let some what := what then
          failTok ((← get).tokAt kw) s!"_Atomic cannot be applied to {what}type {← quoteType tn.ty}"
        named := some (tn.ty.addQuals { atomic := true })
        namedSpec := "_Atomic"
        refs := tn.refs
      else if w == "_Atomic" then
        quals := { quals with atomic := true }; let _ ← advance
      else if w == "inline" || w == "__inline" || w == "__inline__" || w == "_Noreturn" ||
          w == "__extension__" || w == "_Thread_local" || w == "__thread" then
        let _ ← advance
      else if w == "__attribute__" || w == "__attribute" then
        attrs := attrs ++ (← attributes h f).toArray
      else if w == "_Alignas" then
        let kw ← advance
        let _ ← openBracket "("
        let v ← do
          if ← startsTypeName then
            let tn ← typeName h f
            pure ((← sizeAlign 64 tn.ty).map (fun (_, a) => (a : Int)))
          else
            let e ← constantOperand (conditional h f)
            match e.value with
            | some v =>
              if !isPowerOfTwo v then
                failAt (← exprLoc e) "requested alignment is not a power of 2"
              pure (some v)
            | none => failAt (← exprLoc e) "expression is not an integer constant expression"
        let rp ← closeBracket ")"
        attrs := attrs.push { name := "aligned", tok := kw, last := rp, value := v }
      else if w == "_Decimal32" || w == "_Decimal64" || w == "_Decimal128" then
        failTok t "GNU decimal type extension not supported"
      else if w == "_Accum" || w == "_Fract" || w == "_Sat" then
        failTok t "compile with '-ffixed-point' to enable fixed point types"
      else if w == "_Complex" || w == "__complex__" then
        complex := true; complexTok := (← get).pos; typeLast ← advance
      else if basicWords.contains w then
        let spec := if named.isSome then some namedSpec
          else (words.find? (wordRole · == .type)).map specifierSpelling
        match specifierClash spec words w with
        | some (.conflict prev) => failTok t s!"cannot combine with previous '{prev}' declaration specifier"
        | some (.repeated word) =>
          warn t.reportLoc s!"duplicate '{word}' declaration specifier" "-Wduplicate-decl-specifier"
        | none =>
          words := words ++ [w]
          wordToks := wordToks ++ [here]
        typeLast ← advance
      else if w == "struct" || w == "union" || w == "enum" then
        if named.isSome then
          failTok t s!"cannot combine with previous '{namedSpec}' declaration specifier"
        if let some prev := words.find? (wordRole · == .type) then
          failTok t s!"cannot combine with previous '{specifierSpelling prev}' declaration specifier"
        let r ← tagSpecifier h f place
        named := some r.ty
        namedSpec := w
        refs := [r.ref]
        tags := r.decl.toList
        typeLast := r.last
      else if w == "__builtin_va_list" then
        named := some vaListType; namedSpec := "type-name"; typeLast ← advance
      else if w == "__auto_type" then
        if named.isSome then
          failTok t s!"cannot combine with previous '{namedSpec}' declaration specifier"
        named := some .int; namedSpec := "__auto_type"; deduced := true; typeLast ← advance
      else if w == "typeof" || w == "__typeof" || w == "__typeof__" then
        -- `typeof(type)` or `typeof expression`: the type under a name
        -- that says how it was written
        let _ ← advance
        let typeForm ← do
          if ← isPunct "(" then
            let saved ← get
            set { saved with pos := saved.pos + 1 }
            let r ← startsTypeName
            set { (← get) with pos := saved.pos }
            pure r
          else pure false
        if typeForm then
          let _ ← openBracket "("
          let tn ← typeName h f
          typeLast ← closeBracket ")"
          named := some (.typedef ("typeof(" ++ (← spellType tn.ty) ++ ")") tn.ty {})
          refs := tn.refs
        else
          let e ← unevaluatedOperand (unary h f)
          typeLast := e.node.last
          named := some (.typedef ("typeof " ++ (← exprText 256 e.node)) e.ty {})
          refs := [e.node]
        namedSpec := "typeof"
      else if named.isNone && words.isEmpty && !complex && (← isTypedefName w) then
        let i ← advance
        match ← lookupName w with
        | some id =>
          let d ← declOf id
          checkAvailability ((← get).tokAt i) d
          let ty : CType := .typedef w d.ty {}
          named := some ty
          namedSpec := "type-name"
          refs := [{ kind := .typeRef, spelling := w, locTok := i, first := i, last := i, ty := some ty,
                     referenced := some id }]
          typeLast := i
        | none => break
      else
        -- a word that names no type before any type specifier is the
        -- declared name when a declarator may go on after it; in a type
        -- name it can only be a type
        if !reservedWords.contains w && named.isNone && words.isEmpty && !complex &&
            (place == .typeName || !mayFollowDeclaredName (← peekAt 1)) then
          rejectTypeWord t
        break
    let spec := if named.isSome then some namedSpec
      else (words.find? (wordRole · == .type)).map specifierSpelling
    if let some (i, text) := specifierMismatch spec words then
      failTok ((← get).tokAt (wordToks.getD i first)) text
    if complex && named.isNone && words.isEmpty then
      warnAlways ((← get).tokAt complexTok).reportLoc
        "plain '_Complex' requires a type specifier; assuming '_Complex double'"
    let (base, implicitInt) : CType × Bool :=
      match named with
      | some t => (t, false)
      | none =>
        match basicOfWords words with
        | some b => (if complex then .complex b {} else .basic b {}, false)
        | none => (if complex then .complex .double {} else .int, !complex)
    return { storage := storage, ty := applyMode attrs.toList (base.addQuals quals), refs := refs,
             tags := tags, first := first, typeLast := typeLast, implicitInt := implicitInt,
             attrs := attrs.toList, storageTok := storageTok, inlineTok := inlineTok,
             noreturnTok := noreturnTok, typeFirst := typeFirst, deduced := deduced }

/-- Warn that a tag declared in a parameter list is known only there. -/
def hiddenInPrototype (nameTok : PpToken) (id : Nat) (kind : TagKind) : P Unit := do
  warn nameTok.reportLoc
    s!"declaration of {← quoteType (tagType id kind)} will not be visible outside of this function"
    "-Wvisibility"

/-- After the body of a structure, union or enumeration comes what may
follow a type specifier, or else the `;` that ends its declaration was
left out. A structure or union in a type name is not checked. -/
def expectAfterTagBody (kind : TagKind) (place : Place) : P Unit := do
  if kind != .enum && place == .typeName then return
  if !(← followsTypeSpecifier (kind == .enum && place == .member)) then
    let _ ← expectPunct ";" s!"expected ';' after {kind.keyword}"

/-- A structure, union or enumeration specifier; the keyword is current. -/
def tagSpecifier (h : Hooks) : Nat → Place → P TagSpec
  | 0, _ => throw .exhausted
  | f + 1, place => do
    let kwTok ← cur
    let kw ← advance
    let kind : TagKind := if kwTok.text == "struct" then .struct else if kwTok.text == "union" then .union else .enum
    let leading ← attributes h f
    let nameTok ← cur
    let name? ← if nameTok.kind == .identifier && !reservedWords.contains nameTok.text then
        pure (some (nameTok.text, ← advance)) else pure none
    let isDef ← isPunct "\x7b"
    match name? with
    | none =>
      if !isDef then
        if kind == .enum then failHere "expected identifier or '\x7b'"
        failTok kwTok ("declaration of anonymous " ++ kind.keyword ++ " must be a definition")
      let spot ← tagPlace kw
      let id ← declareTag { kind := kind, name := none, locTok := kw, place := spot }
      let node ← tagBody h f id kind kw kw leading
      expectAfterTagBody kind place
      return { ty := tagType id kind, ref := node, decl := some node, last := node.last }
    | some (name, ni) =>
      if isDef then
        let id ← match ← lookupTagHere name with
          | some id =>
            let t ← tagOf id
            if t.kind != kind then
              failTok nameTok s!"use of '{name}' with tag type that does not match previous declaration"
            if t.complete then failTok nameTok s!"redefinition of '{name}'"
            pure id
          | none => do
            let id ← declareTag { kind := kind, name := some name, locTok := ni }
            if place == .parameter then hiddenInPrototype nameTok id kind
            pure id
        let node ← tagBody h f id kind kw ni leading
        expectAfterTagBody kind place
        return { ty := tagType id kind, ref := node, decl := some node, last := node.last }
      -- a line that cannot go on with this declaration begins the next one
      if place != .typeName && (← get).startsLine (← curIndex) && !(← isPunct ";") &&
          !(← followsTypeSpecifier (kind == .enum && place == .member)) then
        let _ ← expectPunct ";" s!"expected ';' after {kind.keyword}"
      let alone ← isPunct ";"
      let declaring := alone && place != .parameter && place != .typeName
      let found ← if declaring then lookupTagHere name else lookupTag name
      match found with
      | some id =>
        let t ← tagOf id
        if t.kind != kind then
          failTok nameTok s!"use of '{name}' with tag type that does not match previous declaration"
        let ref := tagRef ni id t
        let decl : Option Built := if declaring then
            some { kind := tagDeclKind kind, spelling := name, locTok := ni, first := kw, last := ni,
                   ty := some (tagType id kind) }
          else none
        return { ty := tagType id kind, ref := ref, decl := decl, last := ni }
      | none =>
        let id ← declareTag { kind := kind, name := some name, locTok := ni }
        if place == .parameter then hiddenInPrototype nameTok id kind
        let t ← tagOf id
        let decl : Built := { kind := tagDeclKind kind, spelling := name, locTok := ni, first := kw,
                              last := ni, ty := some (tagType id kind) }
        return { ty := tagType id kind, ref := tagRef ni id t, decl := some decl, last := ni }

/-- The body of a tag definition; `{` is current. Completes the tag and
gives its node, from the keyword `kw`, located at `loc`. -/
def tagBody (h : Hooks) : Nat → Nat → TagKind → Nat → Nat → List Attr → P Built
  | 0, _, _, _, _, _ => throw .exhausted
  | f + 1, id, kind, kw, loc, leading => do
    let bearer : Bearer := if kind == .enum then .enumeration else .record
    let leading ← keptAttributes bearer kw loc leading
    let lb ← openBracket "\x7b"
    let limit := (← get).packAt lb
    updateTag id fun t => { t with maxFieldAlign := limit }
    let children ← if kind == .enum then enumBody h f id else memberDeclarations h f id
    let rb ← closeBracket "\x7d"
    let trailing ← keptAttributes bearer kw loc (← attributes h f)
    let attrs := leading ++ trailing
    updateTag id fun t => { t with packed := hasPacked attrs, align := alignedBy attrs }
    if kind == .enum then settleEnumeration id (hasPacked attrs)
    else checkMembers id kind
    updateTag id fun t => { t with complete := true }
    let st ← get
    let name := ((st.tags[id]?).bind (·.name)).getD ""
    return { kind := tagDeclKind kind, spelling := name, locTok := loc, first := kw, last := rb,
             ty := some (tagType id kind), children := attributeNodes attrs ++ children }

/-- The enumerators of an enumeration, up to its closing brace. -/
def enumBody (h : Hooks) : Nat → Nat → P (List Built)
  | 0, _ => throw .exhausted
  | f + 1, id => do
    let mut nodes : Array Built := #[]
    let mut next : Int := 0
    let mut negative := false
    let mut named : Array (String × Int) := #[]
    let bound := (← get).toks.size
    for _ in [0:bound] do
      if ← isPunct "\x7d" then break
      let t ← cur
      if t.kind != .identifier || reservedWords.contains t.text then failHere "expected identifier"
      let ni ← advance
      let (value, init) ← do
        if (← eatPunct "=").isSome then
          let e ← constantOperand (conditional h f)
          match ← foldedConstant e with
          | some v =>
            let e ← if e.ty.canonical == CType.int then pure e else castTo e .int
            pure (v, some e.node)
          | none => failAt (← exprLoc e) "expression is not an integer constant expression"
        else pure (next, none)
      if value < 0 then negative := true
      let _ ← checkRedeclaration t.text ni .enumerator
      let did ← declare { kind := .enumerator, name := t.text, ty := .int, nameTok := ni, value := value,
                          tag := some id }
      nodes := nodes.push { kind := .enumConstantDecl, spelling := t.text, locTok := ni, first := ni,
                            last := (init.map (·.last)).getD ni, ty := some .int, key := did,
                            children := init.toList }
      named := named.push (t.text, value)
      next := value + 1
      if (← eatPunct ",").isNone then break
    updateTag id fun t => { t with negative := negative, enumerators := named.toList }
    return nodes.toList

/-- The member declarations of a structure or union, up to its closing
brace. -/
def memberDeclarations (h : Hooks) : Nat → Nat → P (List Built)
  | 0, _ => throw .exhausted
  | f + 1, id => do
    let mut nodes : Array Built := #[]
    let mut members : Array Member := #[]
    let bound := (← get).toks.size
    for _ in [0:bound] do
      if ← isPunct "\x7d" then break
      if ← atEnd then break
      if (← eatPunct ";").isSome then continue
      if ← isWord "_Static_assert" then
        nodes := nodes.push (← staticAssertion h f)
        continue
      if !(← startsDeclaration) then
        let t ← cur
        if t.kind == .identifier && !reservedWords.contains t.text && !mayFollowDeclaredName (← peekAt 1) then
          rejectTypeWord t
        failHere "type name requires a specifier or qualifier"
      let specs ← declSpecifiers h f .member
      nodes := nodes ++ specs.tags.toArray
      if ← isPunct ";" then
        let _ ← advance
        match specs.ty.record?, specs.tags with
        | some inner, [tagNode] =>
          if ((← tagOf inner).name).isNone then
            updateTag inner fun t => { t with anonymousMember := true }
            let did ← record { kind := .field, name := "", ty := specs.ty, nameTok := tagNode.locTok }
            members := members.push { name := "", ty := specs.ty, decl := did }
        | _, _ => pure ()
        continue
      for _ in [0:bound] do
        let d ← if ← isPunct ":" then do pure { locTok := specs.first } else declarator h f false
        rejectIdentifierList d
        let (ty, children) := d.shape.apply specs.ty specs.refs
        let ty := applyMode d.attrs ty
        let name := d.name.getD ""
        let widthExpr ← if (← eatPunct ":").isSome then some <$> constantOperand (conditional h f) else pure none
        d.shape.check d.name (hasOverloadable (specs.attrs ++ d.attrs)) 64 specs.ty
        let ty ← memberType ((← get).tokAt d.locTok) ty
        let width ← match widthExpr with
          | some e => do
            let bits ← bitFieldWidth name ((← get).tokAt d.locTok) ty e
            pure (some (e.node, bits))
          | none => pure none
        if !name.isEmpty && members.any (·.name == name) then
          failTok ((← get).tokAt d.locTok) s!"duplicate member '{name}'"
        functionTypeAttributeChecks (d.shape.hasFunction || reachesFunction 16 specs.ty) ty (specs.attrs ++ d.attrs)
        let attrs ← keptAttributes (.field width.isSome ty) specs.first d.locTok (specs.attrs ++ d.attrs)
        let did ← record { kind := .field, name := name, ty := ty, nameTok := d.locTok }
        members := members.push { name := name, ty := ty, decl := did, bits := width.map (·.2),
                                  packed := hasPacked attrs, align := alignedBy attrs }
        let width := width.map (·.1)
        let last := match width with
          | some w => w.last
          | none => if d.name.isNone || d.shape.isPostfix then d.last.getD specs.typeLast else d.locTok
        nodes := nodes.push { kind := .fieldDecl, spelling := name, locTok := d.locTok, first := specs.first,
                              last := last, ty := some ty, key := did,
                              children := attributeNodes attrs ++ children ++ width.toList }
        if (← eatPunct ",").isNone then break
      let _ ← expectPunct ";" "expected ';' at end of declaration list"
    updateTag id fun t => { t with members := members.toList }
    return nodes.toList

/-- A declarator; `abstract` when the name may be left out. -/
def declarator (h : Hooks) : Nat → Bool → P Declarator
  | 0, _ => throw .exhausted
  | f + 1, abstract => do
    if ← isPunct "*" then
      let star ← advance
      -- qualifiers and attributes in any order; the attributes are the
      -- declaration's, before those written after the name
      let mut q : Quals := {}
      let mut levelAttrs : List Attr := []
      let bound := (← get).toks.size
      for _ in [0:bound] do
        let at_ ← curIndex
        q ← pointerQualifiers q
        levelAttrs := levelAttrs ++ (← attributes h f)
        if (← curIndex) == at_ then break
      let inner ← declarator h f abstract
      return { inner with shape := .pointer q star inner.shape, last := inner.last.orElse (fun _ => some star),
                          attrs := levelAttrs ++ inner.attrs }
    let before ← attributes h f
    let t ← cur
    let start : Declarator ← do
      if t.kind == .identifier && !reservedWords.contains t.text then
        let i ← advance
        pure { name := some t.text, locTok := i, last := some i }
      else if t.isPunct "(" then
        let grouping ← do
          if !abstract then pure true
          else
            let saved ← get
            set { saved with pos := saved.pos + 1 }
            let fn := (← isPunct ")") || (← startsDeclaration) || (← isPunct "...")
            set { (← get) with pos := saved.pos }
            pure !fn
        if grouping then
          let _ ← openBracket "("
          let inner ← declarator h f abstract
          let rp ← closeBracket ")"
          pure { inner with shape := .paren rp inner.shape, last := some rp }
        -- the parameters of an abstract function level: the name would
        -- stand after the parenthesis
        else pure { locTok := (← curIndex) + 1 }
      else if abstract then pure { locTok := ← curIndex }
      else failHere "expected identifier or '('"
    declaratorSuffixes h f { start with attrs := before ++ start.attrs }

/-- The array and function levels after a declarator's name. -/
def declaratorSuffixes (h : Hooks) : Nat → Declarator → P Declarator
  | 0, _ => throw .exhausted
  | f + 1, d => do
    let more ← attributes h f
    let d := { d with attrs := d.attrs ++ more }
    if ← isPunct "[" then
      let lb ← openBracket "["
      let bound := (← get).toks.size
      for _ in [0:bound] do
        let t ← cur
        if t.isIdent "static" || qualifierWords.contains t.text then let _ ← advance else break
      let (size, sizeExpr) ← do
        if ← isPunct "]" then pure (ArraySize.unknown, none)
        else if (← isPunct "*") && (← peekAt 1).isPunct "]" then
          let _ ← advance
          pure (ArraySize.variable "*" none (← curIndex), none)
        else
          let e ← constantOperand (assignment h f)
          if !e.ty.isInteger then
            failAt (← exprLoc e) s!"size of array has non-integer type {← quoteType e.ty}"
          match e.value with
          | some v =>
            if v < 0 then
              let name := d.name.getD ""
              failAt (← exprLoc e) s!"'{name}' declared as an array with a negative size"
            pure (ArraySize.fixed v.toNat, some e.node)
          | none =>
            let st ← get
            pure (ArraySize.variable (← exprText 100000 e.node) (st.foldInteger e.node) e.node.first, some e.node)
      let rb ← closeBracket "]"
      declaratorSuffixes h f { d with shape := .array size sizeExpr lb rb d.shape, last := some rb }
    else if ← isPunct "(" then
      let lp ← openBracket "("
      if ← startsIdentifierList then
        let names ← identifierList
        let rp ← closeBracket ")"
        return ← declaratorSuffixes h f { d with shape := .identifiers names lp rp d.shape, last := some rp }
      -- the tags a parameter list declares belong to it alone
      pushScope
      let (params, variadic, prototyped) ← parameterList h f
      popScope
      let rp ← closeBracket ")"
      declaratorSuffixes h f
        { d with shape := .function params variadic prototyped lp rp d.shape, last := some rp }
    else return d

/-- The parameters of a function declarator, after its `(`. -/
def parameterList (h : Hooks) : Nat → P (List Param × Bool × Bool)
  | 0 => throw .exhausted
  | f + 1 => do
    if ← isPunct ")" then return ([], false, false)
    if (← isWord "void") && (← peekAt 1).isPunct ")" then
      let _ ← advance
      return ([], false, true)
    let mut params : Array Param := #[]
    let mut variadic := false
    let bound := (← get).toks.size
    for _ in [0:bound] do
      if ← isPunct "..." then
        let _ ← advance
        variadic := true
        break
      if !(← startsDeclaration) then
        -- without specifiers, a parameter is still a declarator, its type
        -- left out, when it starts like one
        let t ← cur
        let word := t.kind == .identifier && !reservedWords.contains t.text
        if word && !mayFollowDeclaredName (← peekAt 1) then rejectTypeWord t
        if !word && !t.isPunct "(" && !t.isPunct "*" then failHere "expected parameter declarator"
      let p ← parameter h f
      params := params.push p
      if (← eatPunct ",").isNone then break
    -- `void` stands alone, unnamed, for a list of no parameters
    for p in params do
      if p.ty.isVoid then
        let at_ := (← get).tokAt p.nameTok
        if params.size != 1 || variadic then failTok at_ "'void' must be the first and only parameter if specified"
        if p.name.isSome then failTok at_ "argument may not have 'void' type"
        if !p.ty.canonical.quals.isEmpty then failTok at_ "'void' as parameter must not have type qualifiers"
        return ([], false, true)
    return (params.toList, variadic, true)

/-- One parameter declaration. -/
def parameter (h : Hooks) : Nat → P Param
  | 0 => throw .exhausted
  | f + 1 => do
    let specs ← declSpecifiers h f .parameter
    let d ← declarator h f true
    rejectIdentifierList d
    if specs.implicitInt then
      warn ((← get).tokAt d.locTok).reportLoc "type specifier missing, defaults to 'int'" "-Wimplicit-int"
    let (ty, children) := d.shape.apply specs.ty specs.refs
    d.shape.check d.name (hasOverloadable (specs.attrs ++ d.attrs)) 64 specs.ty
    let ty := applyMode d.attrs ty
    functionTypeAttributeChecks (d.shape.hasFunction || reachesFunction 16 specs.ty) ty (specs.attrs ++ d.attrs)
    let adjusted := parameterType ty
    let attrs ← keptAttributes (.parameter adjusted) specs.first d.locTok (specs.attrs ++ d.attrs)
    let children := attributeNodes attrs ++ children
    let shown := if ty.isArray || ty.isFunction then some ty else none
    let entry : DeclEntry := { kind := .parameter, name := d.name.getD "", ty := adjusted,
                               nameTok := d.locTok, register := specs.storage == .register, shown := shown }
    -- a named parameter is visible to the parameters after it
    let id ← if d.name.isSome then declare entry else record entry
    let last := if d.name.isNone || d.shape.isPostfix then d.last.getD specs.typeLast else d.locTok
    let node : Built := { kind := .parmDecl, spelling := d.name.getD "", locTok := d.locTok,
                          first := specs.first, last := last, ty := some adjusted, key := id,
                          shown := shown, children := children }
    return { node := node, ty := adjusted, name := d.name, nameTok := d.locTok, decl := id }

/-- A type name: specifiers and an abstract declarator. -/
def typeName (h : Hooks) : Nat → P TypeName
  | 0 => throw .exhausted
  | f + 1 => do
    let first ← curIndex
    if !(← startsTypeName) then failHere "expected a type"
    let specs ← declSpecifiers h f .typeName
    let d ← declarator h f true
    rejectIdentifierList d
    let (ty, children) := d.shape.apply specs.ty specs.refs
    d.shape.check none false 64 specs.ty
    return { ty := ty, refs := children, first := first, last := d.last.getD specs.typeLast }

/-- A conditional expression, as a constant expression is written. -/
def conditional (h : Hooks) : Nat → P TExpr
  | 0 => throw .exhausted
  | f + 1 => do
    let e ← castExpression h f
    binaryRest h f 3 e

/-- An initializer list for an object of type `ty`; `{` is current. -/
def initList (h : Hooks) : Nat → CType → P (Built × CType)
  | 0, _ => throw .exhausted
  | f + 1, ty => do
    let lb ← openBracket "\x7b"
    let mut frames : List Frame := [{ ty := ty }]
    let mut elems : Array Built := #[]
    let scalar := !isAggregate ty
    let bound := (← get).toks.size
    for _ in [0:bound] do
      if ← isPunct "\x7d" then break
      if ← atEnd then break
      -- `name:` is the older way of writing `.name =`
      let oldStyle := (← cur).kind == .identifier && (← peekAt 1).isPunct ":"
      if oldStyle then
        warn (← cur).reportLoc "use of GNU old-style field designator extension" "-Wgnu-designator"
      let designated ← do
        if (← isPunct ".") || (← isPunct "[") || oldStyle then pure true else pure false
      let mut desigNodes : Array Built := #[]
      let mut desigFirst := 0
      let mut arrayOnly := true
      if designated then
        desigFirst ← curIndex
        frames := [{ (frames.getLast?.getD { ty := ty }) with next := 0 }]
        for k in [0:bound] do
          let field ← if k == 0 && oldStyle then pure true else isPunct "."
          if field then
            arrayOnly := false
            if !(k == 0 && oldStyle) then
              let _ ← advance
            let nt ← cur
            if nt.kind != .identifier then failHere "expected a field designator, such as '.field = 4'"
            let ni ← advance
            match frames with
            | top :: rest =>
              match top.ty.record? with
              | some tid =>
                let tag ← tagOf tid
                match tag.initialized.findIdx? (·.name == nt.text) with
                | some idx =>
                  let m := tag.initialized[idx]?.getD default
                  desigNodes := desigNodes.push { kind := .memberRef, spelling := nt.text, locTok := ni,
                                                  first := ni, last := ni, ty := some m.ty, referenced := some m.decl }
                  frames := { top with next := idx } :: rest
                | none => failTok nt s!"field designator '{nt.text}' does not refer to any field in type {← quoteType top.ty}"
              | none => failTok nt s!"field designator cannot initialize a non-struct, non-union type {← quoteType top.ty}"
            | [] => pure ()
          else if ← isPunct "[" then
            let _ ← openBracket "["
            let e ← constantOperand (conditional h f)
            -- `[low ... high]` designates a range of elements
            let high ← if (← eatPunct "...").isSome then some <$> constantOperand (conditional h f) else pure none
            let _ ← closeBracket "]"
            desigNodes := desigNodes.push e.node
            if let some hi := high then desigNodes := desigNodes.push hi.node
            let low ← foldedConstant e
            let highValue ← match high with
              | some hi => foldedConstant hi
              | none => pure none
            match frames, low with
            | top :: rest, some v =>
              let last := highValue.getD v
              frames := { top with next := last.toNat } :: rest
            | _, _ => failAt (← exprLoc e) "expression is not an integer constant expression"
          else break
          if (← isPunct ".") || (← isPunct "[") then
            match frames with
            | top :: _ =>
              let (_, et) ← aggregateElement top.ty top.next
              frames := { ty := et } :: frames
            | [] => pure ()
          let _ := k
        if oldStyle then
          let _ ← advance
        else if (← isPunct "=") || !(arrayOnly && desigNodes.size ≤ 2) then
          let _ ← expectPunct "=" "expected '=' or another designator"
        else
          warn (← cur).reportLoc "use of GNU 'missing =' extension in designator" "-Wgnu-designator"
      let elem ← do
        if ← isPunct "\x7b" then
          let et ← match frames with
            | top :: _ =>
              let (count, et) ← aggregateElement top.ty top.next
              let inside := match count with
                | some n => decide (top.next < n)
                | none => true
              pure (if scalar then ty else if inside then et else .error)
            | [] => pure .error
          let (node, _) ← initList h f et
          frames ← advanceFrames frames
          pure node
        else
          let e ← assignment h f
          if scalar then
            if elems.isEmpty then
              let c ← initValue e ty
              pure c.node
            else
              warn (← exprLoc e) "excess elements in scalar initializer" "-Wexcess-initializers"
              pure e.node
          else
            let (fs, et?) ← descendFor e frames
            match et? with
            | some et =>
              let c ← initValue e et
              if let some m ← frameMember fs then
                if let some width := m.bits then
                  let signed := match ← basicOf m.ty with
                    | some b => !b.isUnsigned
                    | none => true
                  let _ ← bitFieldStore width signed c.node e.node.first
              frames ← advanceFrames fs
              pure c.node
            | none =>
              let what := if ty.isArray then "array" else if (ty.record?.isSome) then
                (if (match ty.canonical with | .tag _ .union _ => true | _ => false) then "union" else "struct")
                else "scalar"
              warn (← exprLoc e) s!"excess elements in {what} initializer" "-Wexcess-initializers"
              frames := fs
              pure e.rvalue.node
      -- a designated initializer has no value of its own, so its type is void
      if designated then
        elems := elems.push { kind := .unexposedExpr, locTok := desigFirst, first := desigFirst,
                              last := elem.last, ty := some CType.void, children := desigNodes.toList ++ [elem] }
      else elems := elems.push elem
      if (← eatPunct ",").isNone then break
    let rb ← closeBracket "\x7d"
    let most := (frames.getLast?.map (·.most)).getD 0
    let completed : CType := match ty.canonical with
      | .array _ .unknown => .array (arrayElement ty) (.fixed most)
      | _ => ty
    return ({ kind := .initListExpr, locTok := lb, first := lb, last := rb, ty := some completed,
              children := elems.toList }, completed)

end

end CInspect.Parse
