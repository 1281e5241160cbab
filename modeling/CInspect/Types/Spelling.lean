import CInspect.Types.Basic
/-!
How types are written.

A type is written the way a declaration of nothing would declare it: the
base type first, then the declarator with an empty name, so that `int *`
is a pointer to `int`, `int [3]` an array of three, `int (*)(int)` a
pointer to a function, and `int (void)` a function without parameters.
Qualifiers of a basic, tag or typedef type come before it
(`const char *`); those of a pointer come after its star (`char *const`).

A tag is written by the namer the caller gives, since its name can depend
on the whole translation unit.
-/

namespace CInspect.Types

/-- The name of a basic type. -/
def Basic.name : Basic → String
  | .void => "void"
  | .bool => "_Bool"
  | .char => "char"
  | .schar => "signed char"
  | .uchar => "unsigned char"
  | .short => "short"
  | .ushort => "unsigned short"
  | .int => "int"
  | .uint => "unsigned int"
  | .long => "long"
  | .ulong => "unsigned long"
  | .longlong => "long long"
  | .ulonglong => "unsigned long long"
  | .int128 => "__int128"
  | .uint128 => "unsigned __int128"
  | .float => "float"
  | .double => "double"
  | .longDouble => "long double"
  | .float128 => "__float128"

/-- The words of a set of qualifiers. -/
def Quals.words (q : Quals) : List String :=
  (if q.const then ["const"] else []) ++ (if q.volatile then ["volatile"] else []) ++
    (if q.restrict then ["restrict"] else [])

/-- The text of a set of qualifiers. -/
def Quals.text (q : Quals) : String := " ".intercalate q.words

/-- A name with qualifiers before it. -/
def withQuals (q : Quals) (name : String) : String :=
  if q.isEmpty then name else q.text ++ " " ++ name

/-- A base type's name, inside `_Atomic(...)` when the qualifiers make it
atomic. -/
def atomicText (q : Quals) (name : String) : String :=
  if q.atomic then "_Atomic(" ++ name ++ ")" else name

/-- A base type followed by a declarator, with a space between them when
the declarator is not empty. -/
def joinDeclarator (base inner : String) : String :=
  if inner.isEmpty then base else base ++ " " ++ inner

/-- The text of an array size. -/
def ArraySize.text : ArraySize → String
  | .fixed n => toString n
  | .variable t _ _ => t
  | .unknown => ""

mutual

/-- The text of type `t` around the declarator `inner`. An atomic type is
written `_Atomic(...)`, after its other qualifiers. -/
def spellAround (tags : Nat → String) : CType → String → String
  | .basic b q, inner => joinDeclarator (withQuals q.withoutAtomic (atomicText q b.name)) inner
  | .complex b q, inner =>
    joinDeclarator (withQuals q.withoutAtomic (atomicText q ("_Complex " ++ b.name))) inner
  | .tag i _ q, inner => joinDeclarator (withQuals q.withoutAtomic (atomicText q (tags i))) inner
  | .typedef n _ q, inner => joinDeclarator (withQuals q.withoutAtomic (atomicText q n)) inner
  | .error, inner => joinDeclarator "int" inner
  | .pointer p q, inner =>
    if q.atomic then
      let pointer := match p with
        | .array _ _ => spellAround tags p "(*)"
        | .function _ _ _ _ _ => spellAround tags p "(*)"
        | _ => spellAround tags p "*"
      joinDeclarator (withQuals q.withoutAtomic ("_Atomic(" ++ pointer ++ ")")) inner
    else
      let core := "*" ++ (if q.isEmpty then inner
        else q.text ++ (if inner.isEmpty then "" else " " ++ inner))
      match p with
      | .array _ _ => spellAround tags p ("(" ++ core ++ ")")
      | .function _ _ _ _ _ => spellAround tags p ("(" ++ core ++ ")")
      | _ => spellAround tags p core
  | .array e s, inner => spellAround tags e (inner ++ "[" ++ s.text ++ "]")
  | .function r ps va pr nr, inner =>
    let written := spellParams tags ps
    let params :=
      if written.isEmpty then (if va then "..." else if pr then "void" else "")
      else ", ".intercalate written ++ (if va then ", ..." else "")
    let attrs := if nr then " __attribute__((noreturn))" else ""
    spellAround tags r (inner ++ "(" ++ params ++ ")" ++ attrs)

/-- The texts of parameter types. -/
def spellParams (tags : Nat → String) : List CType → List String
  | [] => []
  | t :: ts => spellAround tags t "" :: spellParams tags ts

end

/-- The text of a type. -/
def CType.spell (tags : Nat → String) (t : CType) : String :=
  spellAround tags t ""

/-- A type in quotes as a message gives it, followed by what its typedef
names stand for, `'size_t' (aka 'unsigned long')`, when that reads
differently. -/
def CType.quotedWithAka (tags : Nat → String) (t : CType) : String :=
  let written := t.spell tags
  let meant := t.desugared.spell tags
  if meant == written then "'" ++ written ++ "'" else "'" ++ written ++ "' (aka '" ++ meant ++ "')"

end CInspect.Types
