import CInspect.Parse.Node
import CInspect.Types.Convert
import CInspect.Language.Builtins
/-!
The reserved words of C as the compiler reads it (C17 with the GNU
extensions), and the library functions it knows the types of.

A word that begins a type name is a type specifier, a qualifier or a
name that `typedef` declared; a word that begins a declaration may also be
a storage class or a function specifier. A library function called
without a declaration in scope is declared with its library type, after a
warning that names its header.
-/

namespace CInspect.Parse

open CInspect.Types

/-- The words that name a basic type or begin a structure, union or
enumeration. -/
def typeSpecifierWords : List String :=
  ["void", "char", "short", "int", "long", "float", "double", "signed", "unsigned",
   "_Bool", "_Complex", "__complex__", "__int128", "__float128", "__signed", "__signed__",
   "struct", "union", "enum", "typeof", "__typeof", "__typeof__", "__builtin_va_list", "__auto_type",
   "_Decimal32", "_Decimal64", "_Decimal128", "_Accum", "_Fract", "_Sat"]

/-- The type qualifiers. -/
def qualifierWords : List String :=
  ["const", "volatile", "restrict", "__restrict", "__restrict__", "__const", "__const__",
   "__volatile", "__volatile__", "_Atomic"]

/-- The storage classes and function specifiers. -/
def storageWords : List String :=
  ["typedef", "extern", "static", "auto", "register", "inline", "__inline", "__inline__",
   "_Noreturn", "_Thread_local", "__thread", "__extension__", "_Alignas", "__attribute__",
   "__attribute"]

/-- All reserved words. -/
def reservedWords : List String :=
  typeSpecifierWords ++ qualifierWords ++ storageWords ++
  ["break", "case", "continue", "default", "do", "else", "for", "goto", "if", "return",
   "sizeof", "switch", "while", "_Alignof", "__alignof", "__alignof__", "_Generic",
   "_Static_assert", "asm", "__asm", "__asm__"]

/-- Whether the current token begins a type name: a type specifier or
qualifier, or a typedef name that no inner declaration hides. -/
def startsTypeName : P Bool := do
  let t ← cur
  if t.kind != .identifier then return false
  if typeSpecifierWords.contains t.text || qualifierWords.contains t.text then return true
  if t.text == "__attribute__" then return true
  if t.text == "__extension__" then
    -- only before a word that begins a type name: before anything else it
    -- marks an expression
    let n ← peekAt 1
    if n.kind != .identifier then return false
    if typeSpecifierWords.contains n.text || qualifierWords.contains n.text || n.text == "__attribute__" then
      return true
    return ← isTypedefName n.text
  isTypedefName t.text

/-- Whether the current token begins a declaration. -/
def startsDeclaration : P Bool := do
  let t ← cur
  if t.kind != .identifier then return false
  if storageWords.contains t.text || t.text == "_Static_assert" then return true
  startsTypeName

/-- Whether a token may follow the name in a declarator. A word that
names no type, met where a declaration's type is still to come, is taken
for the declared name with its type left out when such a token follows
it, and otherwise for a type name that is misspelt or never declared. -/
def mayFollowDeclaredName (t : Preprocess.PpToken) : Bool :=
  ["[", "(", ")", ";", ",", "=", "\x7b", ":"].any t.isPunct ||
    t.isIdent "asm" || t.isIdent "__asm" || t.isIdent "__asm__"

/-- Whether the current token may follow a type specifier, going on with
the declaration it begins. A qualifier, storage class or `inline` counts
only when no type keyword follows it: with one, it more likely begins the
next declaration. A `:` counts for the width of a member, when
`bitfield`. -/
def followsTypeSpecifier (bitfield : Bool) : P Bool := do
  let t ← cur
  if [";", "*", "&", "&&", ")", "(", ",", "[", "...", "\x7d"].any t.isPunct then return true
  if t.isPunct ":" then return bitfield
  if t.kind != .identifier then return false
  if t.text == "__attribute__" || t.text == "__attribute" then return true
  if qualifierWords.contains t.text ||
      ["inline", "__inline", "__inline__", "static", "extern", "typedef", "register", "auto"].contains t.text then
    let n ← peekAt 1
    let typeWord := n.kind == .identifier && typeSpecifierWords.contains n.text &&
      !(["typeof", "__typeof", "__typeof__", "__builtin_va_list"].contains n.text)
    return !typeWord
  return !reservedWords.contains t.text

/-- The keyword of the structure, union or enumeration tag a name refers
to in scope, if it is one. -/
def tagKeywordOf? (name : String) : P (Option String) := do
  match ← lookupTag name with
  | some id => return ((← get).tags[id]?).map (·.kind.keyword)
  | none => return none

/-- Reject token `t`, a word that names no type, where a type is wanted:
a tag written without its keyword is told apart from a name that was never
declared. -/
def rejectTypeWord {α : Type} (t : Preprocess.PpToken) : P α := do
  match ← tagKeywordOf? t.text with
  | some keyword => failTok t s!"must use '{keyword}' tag to refer to type '{t.text}'"
  | none => failTok t s!"unknown type name '{t.text}'"

/-- A `va_list` parameter: a pointer to the structure that
`__builtin_va_list` arrays hold, the tag every unit starts with. -/
def vaListParam : CType := .pointer (.tag 0 .struct {}) {}

/-- Why the type of a function the compiler knows cannot be formed. -/
inductive BuiltinTypeGap where
  /-- It is known by name only. -/
  | untyped
  /-- It needs a type that a header declares and none is in scope: the
  header. -/
  | missing (header : String)
  /-- It needs a type that is not declared, and may be declared with any
  type. -/
  | lenient
deriving DecidableEq, Inhabited

/-- The types of the library a builtin's type may need: `FILE`,
`jmp_buf`, `sigjmp_buf` and `ucontext_t`, where typedefs declare them. -/
structure LibraryTypes where
  file : Option CType := none
  jumpBuffer : Option CType := none
  signalJumpBuffer : Option CType := none
  context : Option CType := none
deriving Inhabited

/-- The integer type of a letter after its prefixes: how many `L`s and
whether `U` or `S` came first. -/
def integerOfCode (base : Char) (howLong : Nat) (unsigned signed : Bool) : Basic :=
  match base with
  | 'c' => if unsigned then .uchar else if signed then .schar else .char
  | 's' => if unsigned then .ushort else .short
  | _ =>
    match howLong with
    | 0 => if unsigned then .uint else .int
    | 1 => if unsigned then .ulong else .long
    | 2 => if unsigned then .ulonglong else .longlong
    | _ => if unsigned then .uint128 else .int128

/-- Read the prefixes of one type in a builtin's code: the number of `L`s,
`U`, `S`, and the rest of the code. -/
def readPrefixes : Nat → List Char → Nat → Bool → Bool → Nat × Bool × Bool × List Char
  | 0, cs, l, u, s => (l, u, s, cs)
  | f + 1, c :: cs, l, u, s =>
    match c with
    | 'L' => readPrefixes f cs (l + 1) u s
    | 'U' => readPrefixes f cs l true s
    | 'S' => readPrefixes f cs l u true
    | 'I' => readPrefixes f cs l u s
    | 'N' | 'Z' => readPrefixes f cs l u s
    | 'W' => readPrefixes f cs 1 u s
    | 'O' => readPrefixes f cs 2 u s
    | _ => (l, u, s, c :: cs)
  | _, [], l, u, s => (l, u, s, [])

/-- Apply the suffixes of one type in a builtin's code: pointers (with an
address space number, ignored), references (taken as pointers), and
qualifiers. -/
def readSuffixes : Nat → CType → List Char → CType × List Char
  | 0, t, cs => (t, cs)
  | f + 1, t, c :: cs =>
    match c with
    | '*' | '&' => readSuffixes f (.pointer t {}) (cs.dropWhile Char.isDigit)
    | 'C' => readSuffixes f (t.addQuals { const := true }) cs
    | 'D' => readSuffixes f (t.addQuals { volatile := true }) cs
    | 'R' => readSuffixes f (t.addQuals { restrict := true }) cs
    | _ => (t, c :: cs)
  | _, t, [] => (t, [])

/-- Read one type from a builtin's code, giving it and the rest of the
code. -/
def readBuiltinType (env : LibraryTypes) : Nat → List Char → Except BuiltinTypeGap (CType × List Char)
  | 0, _ => .error .untyped
  | f + 1, cs => do
    let (howLong, unsigned, signed, rest) := readPrefixes 16 cs 0 false false
    match rest with
    | [] => .error .untyped
    | c :: rest =>
      let basic (b : Basic) : Except BuiltinTypeGap (CType × List Char) := pure (.basic b {}, rest)
      let (t, rest) ← match c with
        | 'v' => basic .void
        | 'b' => basic .bool
        | 'c' | 's' | 'i' => basic (integerOfCode c howLong unsigned signed)
        | 'h' | 'x' | 'y' | 'f' => basic .float
        | 'd' => basic (if howLong == 1 then .longDouble else if howLong == 2 then .float128 else .double)
        | 'z' => basic .ulong
        | 'Y' => basic .long
        | 'w' | 'p' => basic .int
        | 'a' | 'A' => pure (vaListParam, rest)
        | 'P' =>
          match env.file with
          | some t => pure (t, rest)
          | none => .error (.missing "stdio.h")
        | 'J' =>
          match (if signed then env.signalJumpBuffer else env.jumpBuffer) with
          | some t => pure (t, rest)
          | none => .error .lenient
        | 'K' =>
          match env.context with
          | some t => pure (t, rest)
          | none => .error .lenient
        | 'X' => do
          let (e, rest) ← readBuiltinType env f rest
          match e with
          | .basic b _ => pure (.complex b {}, rest)
          | _ => .error .untyped
        | _ => .error .untyped
      pure (readSuffixes 16 t rest)

/-- Read the parameters of a builtin's code up to its end or `.`. -/
def readBuiltinParams (env : LibraryTypes) : Nat → List Char → Except BuiltinTypeGap (List CType × Bool)
  | 0, _ => .error .untyped
  | _, [] => pure ([], false)
  | _, ['.'] => pure ([], true)
  | f + 1, cs => do
    let (t, rest) ← readBuiltinType env 16 cs
    -- arrays are passed as pointers to their first element
    let t := match t.canonical with
      | .array e _ => .pointer e {}
      | _ => t
    let (ts, variadic) ← readBuiltinParams env f rest
    pure (t :: ts, variadic)

/-- The function type a builtin's code gives: without parameters but
taking more arguments it has no prototype. -/
def builtinType (b : Language.Builtin) (env : LibraryTypes) : Except BuiltinTypeGap CType := do
  let cs := b.signature.toList
  if cs.isEmpty then .error .untyped
  let (ret, rest) ← readBuiltinType env 16 cs
  let (params, variadic) ← readBuiltinParams env 64 rest
  if params.isEmpty && variadic then pure (.function ret [] false false b.neverReturns)
  else pure (.function ret params variadic true b.neverReturns)

/-- The library types in scope, each where a typedef of its name is. -/
def libraryTypes : P LibraryTypes := do
  let find (name : String) : P (Option CType) := do
    match ← lookupName name with
    | some id =>
      let e ← declOf id
      if e.kind == .typedef then return some (.typedef name e.ty {}) else return none
    | none => return none
  return { file := ← find "FILE", jumpBuffer := ← find "jmp_buf",
           signalJumpBuffer := ← find "sigjmp_buf", context := ← find "ucontext_t" }

/-- The type a function the compiler knows has in this unit, or why it
has none. -/
def typeOfBuiltin (b : Language.Builtin) : P (Except BuiltinTypeGap CType) := do
  let env ← libraryTypes
  return match builtinType b env with
    | .error .lenient => if b.attributes.contains 'T' then .error .lenient else .error .untyped
    | r => r

end CInspect.Parse
