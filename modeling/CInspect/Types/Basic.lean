/-!
The types of C.

A type is a basic arithmetic type or `void`, a pointer, an array, a
function, a structure, union or enumeration (a tag, known by its number
in the table of tags), or a name given by `typedef`, which keeps the type
it names. Pointers, basic types, tags and typedef names carry qualifiers;
an array's qualifiers belong to its elements.

`CType.canonical` removes the typedef names, moving their qualifiers to
the type they name. The integer types have ranks and widths, which decide
the integer promotions and the usual arithmetic conversions
(`Types.Convert`).
-/

namespace CInspect.Types

/-- The qualifiers of a type. -/
structure Quals where
  const : Bool := false
  volatile : Bool := false
  restrict : Bool := false
  /-- Whether the type is atomic: unlike the others, this makes a type of
  its own, which a value read from such an object no longer has. -/
  atomic : Bool := false
deriving DecidableEq, Repr, Inhabited

/-- No qualifiers. -/
def Quals.none : Quals := {}

/-- Qualifiers together. -/
def Quals.union (a b : Quals) : Quals :=
  ⟨a.const || b.const, a.volatile || b.volatile, a.restrict || b.restrict, a.atomic || b.atomic⟩

/-- Whether there are no qualifiers. -/
def Quals.isEmpty (q : Quals) : Bool := !q.const && !q.volatile && !q.restrict && !q.atomic

/-- The qualifiers other than atomic. -/
def Quals.withoutAtomic (q : Quals) : Quals := { q with atomic := false }

/-- Only the atomic qualifier, if present. -/
def Quals.onlyAtomic (q : Quals) : Quals := { atomic := q.atomic }

/-- The basic types. -/
inductive Basic where
  | void
  | bool
  | char
  | schar
  | uchar
  | short
  | ushort
  | int
  | uint
  | long
  | ulong
  | longlong
  | ulonglong
  | int128
  | uint128
  | float
  | double
  | longDouble
  | float128
deriving DecidableEq, Repr, Inhabited

/-- The kinds of tag. -/
inductive TagKind where
  | struct
  | union
  | enum
deriving DecidableEq, Repr, Inhabited

/-- The keyword of a tag kind. -/
def TagKind.keyword : TagKind → String
  | .struct => "struct"
  | .union => "union"
  | .enum => "enum"

/-- The size of an array. -/
inductive ArraySize where
  | fixed (n : Nat)
  /-- A size computed when the program runs, written as this text, with
  the value constant folding finds for it, if any, and the token where it
  is written: each such size written makes a type of its own, so two
  sizes are one only when written at one place. -/
  | variable (text : String) (folded : Option Int) (at_ : Nat)
  | unknown
deriving DecidableEq, Repr, Inhabited

/-- A C type. -/
inductive CType where
  | basic (b : Basic) (q : Quals)
  | complex (b : Basic) (q : Quals)
  | pointer (pointee : CType) (q : Quals)
  | array (elem : CType) (size : ArraySize)
  /-- A function type: whether it takes variable arguments, whether its
  parameters are declared, and whether it never returns. -/
  | function (ret : CType) (params : List CType) (variadic : Bool) (prototyped : Bool) (noreturn : Bool)
  | tag (id : Nat) (kind : TagKind) (q : Quals)
  | typedef (name : String) (target : CType) (q : Quals)
  /-- The type of an expression that has none, after an error. -/
  | error
deriving Repr, Inhabited

namespace CType

mutual

/-- Whether two types are written alike: the same constructors, names,
qualifiers and sizes. -/
def same : CType → CType → Bool
  | .basic b q, .basic b' q' => b == b' && q == q'
  | .complex b q, .complex b' q' => b == b' && q == q'
  | .pointer p q, .pointer p' q' => same p p' && q == q'
  | .array e s, .array e' s' => same e e' && s == s'
  | .function r ps va pr nr, .function r' ps' va' pr' nr' =>
    same r r' && sameList ps ps' && va == va' && pr == pr' && nr == nr'
  | .tag i k q, .tag i' k' q' => i == i' && k == k' && q == q'
  | .typedef n t q, .typedef n' t' q' => n == n' && same t t' && q == q'
  | .error, .error => true
  | _, _ => false

/-- Whether two lists of types are written alike, element by element. -/
def sameList : List CType → List CType → Bool
  | [], [] => true
  | t :: ts, t' :: ts' => same t t' && sameList ts ts'
  | _, _ => false

end

instance : BEq CType := ⟨same⟩

/-- The type `int`. -/
def int : CType := .basic .int {}

/-- The type `char`. -/
def char : CType := .basic .char {}

/-- The type `void`. -/
def void : CType := .basic .void {}

/-- The type of sizes, `unsigned long`. -/
def size : CType := .basic .ulong {}

/-- The qualifiers written on a type itself. -/
def quals : CType → Quals
  | .basic _ q => q
  | .complex _ q => q
  | .pointer _ q => q
  | .tag _ _ q => q
  | .typedef _ _ q => q
  | _ => {}

/-- A type with more qualifiers. An array passes them to its elements; a
function takes none. -/
def addQuals (q : Quals) : CType → CType
  | .basic b q' => .basic b (q'.union q)
  | .complex b q' => .complex b (q'.union q)
  | .pointer p q' => .pointer p (q'.union q)
  | .array e s => .array (addQuals q e) s
  | .tag i k q' => .tag i k (q'.union q)
  | .typedef n t q' => .typedef n t (q'.union q)
  | t => t

/-- The type without qualifiers at its top, except that an atomic type stays
atomic. A typedef name whose type is qualified gives way to that type,
unqualified. -/
def unqualified : CType → CType
  | .basic b q => .basic b q.onlyAtomic
  | .complex b q => .complex b q.onlyAtomic
  | .pointer p q => .pointer p q.onlyAtomic
  | .tag i k q => .tag i k q.onlyAtomic
  | .typedef n t q =>
    if (topQuals t).withoutAtomic.isEmpty then .typedef n t q.onlyAtomic else addQuals q.onlyAtomic (unqualified t)
  | t => t
where
  /-- The qualifiers at the top of a type, through typedef names. -/
  topQuals : CType → Quals
    | .typedef _ t q => q.union (topQuals t)
    | t => t.quals

mutual

/-- The type with every typedef name replaced by the type it names. -/
def canonical : CType → CType
  | .typedef _ t q => addQuals q (canonical t)
  | .pointer p q => .pointer (canonical p) q
  | .array e s => .array (canonical e) s
  | .function r ps va pr nr => .function (canonical r) (canonicalList ps) va pr nr
  | t => t

/-- Each type of a list with its typedef names replaced. -/
def canonicalList : List CType → List CType
  | [] => []
  | t :: ts => canonical t :: canonicalList ts

end

mutual

/-- The type a message explains a typedef name by: the typedef names at its
top and under its pointers, and in the result and parameter types of a
function type, replaced by what they name; `__builtin_va_list` stays as it
is written, and so do the elements of an array. -/
def desugared : CType → CType
  | .typedef n t q => if n == "__builtin_va_list" then .typedef n t q else addQuals q (desugared t)
  | .pointer p q => .pointer (desugared p) q
  | .function r ps va pr nr => .function (desugared r) (desugaredList ps) va pr nr
  | t => t

/-- Each type of a list explained as `desugared` explains it. -/
def desugaredList : List CType → List CType
  | [] => []
  | t :: ts => desugared t :: desugaredList ts

end

/-- Whether a type is atomic, its typedef names resolved. -/
def isAtomic (t : CType) : Bool := (canonical t).quals.atomic

/-- The type a value read from an atomic object has: the type inside
`_Atomic`, as written there when the atomic qualifier is on a typedef name
itself, else with typedef names resolved. -/
def withoutAtomic : CType → CType
  | .typedef n t q => if q.atomic then .typedef n t q.withoutAtomic else atTop (canonical t)
  | t => atTop t
where
  /-- The type without the atomic qualifier at its top. -/
  atTop : CType → CType
    | .basic b q => .basic b q.withoutAtomic
    | .complex b q => .complex b q.withoutAtomic
    | .pointer p q => .pointer p q.withoutAtomic
    | .tag i k q => .tag i k q.withoutAtomic
    | .typedef n t q => .typedef n t q.withoutAtomic
    | t => t

/-- Whether a type without typedef names is const; an array is const when
its elements are. -/
def constOfCanonical : CType → Bool
  | .array e _ => constOfCanonical e
  | t => t.quals.const

/-- Whether a type is const, its typedef names resolved. -/
def isConst (t : CType) : Bool := constOfCanonical (canonical t)

end CType

end CInspect.Types
