import CInspect.Types.Basic
/-!
Integer ranks, promotions and the usual arithmetic conversions.

On the target every `int` is 32 bits, every `long` 64, and `char` is signed.
An integer type narrower than `int` (or `_Bool`) promotes to `int`; an
enumeration behaves as the integer type that holds its values. Two arithmetic operands
meet at the wider floating type when either is floating; otherwise both
are promoted and the one of lower rank converts to the other, an unsigned
type winning a tie of rank, and a signed type of greater rank that cannot
hold every value of the unsigned one giving way to its unsigned partner.

`enumBasic` is asked of the caller, since the integer type of an
enumeration is known only from the table of tags.
-/

namespace CInspect.Types

/-- Whether a basic type is an integer type. -/
def Basic.isInteger : Basic → Bool
  | .void | .float | .double | .longDouble | .float128 => false
  | _ => true

/-- Whether a basic type is a floating type. -/
def Basic.isFloating : Basic → Bool
  | .float | .double | .longDouble | .float128 => true
  | _ => false

/-- Whether a basic integer type is unsigned. -/
def Basic.isUnsigned : Basic → Bool
  | .bool | .uchar | .ushort | .uint | .ulong | .ulonglong | .uint128 => true
  | _ => false

/-- The rank of a basic integer type. -/
def Basic.rank : Basic → Nat
  | .bool => 0
  | .char | .schar | .uchar => 1
  | .short | .ushort => 2
  | .int | .uint => 3
  | .long | .ulong => 4
  | .longlong | .ulonglong => 5
  | .int128 | .uint128 => 6
  | _ => 0

/-- The width in bits of a basic type. -/
def Basic.width : Basic → Nat
  | .bool | .char | .schar | .uchar => 8
  | .short | .ushort => 16
  | .int | .uint | .float => 32
  | .long | .ulong | .longlong | .ulonglong | .double => 64
  | .int128 | .uint128 | .longDouble | .float128 => 128
  | .void => 0

/-- The unsigned type of the same rank. -/
def Basic.toUnsigned : Basic → Basic
  | .char | .schar => .uchar
  | .short => .ushort
  | .int => .uint
  | .long => .ulong
  | .longlong => .ulonglong
  | .int128 => .uint128
  | b => b

/-- The order of the floating types. -/
def Basic.floatOrder : Basic → Nat
  | .float => 1
  | .double => 2
  | .longDouble => 3
  | .float128 => 4
  | _ => 0

/-- The integer type a type behaves as in arithmetic: a basic integer type,
or `int`/`unsigned int` for an enumeration. -/
def arithmeticBasic (enumBasic : Nat → Basic) : CType → Option Basic
  | .basic b _ => some b
  | .tag i .enum _ => some (enumBasic i)
  | .typedef _ t _ => arithmeticBasic enumBasic t
  | _ => none

/-- The promoted type of a basic integer type. -/
def Basic.promote (b : Basic) : Basic :=
  if b.isInteger && b.rank < 3 then .int else b

/-- The common type of two basic arithmetic types. -/
def Basic.common (a b : Basic) : Basic :=
  if a.isFloating || b.isFloating then
    if a.floatOrder ≥ b.floatOrder then a else b
  else
    let a := a.promote
    let b := b.promote
    if a == b then a
    else if a.isUnsigned == b.isUnsigned then
      if a.rank ≥ b.rank then a else b
    else
      let (u, s) := if a.isUnsigned then (a, b) else (b, a)
      if u.rank ≥ s.rank then u
      else if s.width > u.width then s
      else s.toUnsigned

/-- Whether a type is an integer type (an enumeration counts). -/
def CType.isInteger (t : CType) : Bool :=
  match t.canonical with
  | .basic b _ => b.isInteger
  | .tag _ .enum _ => true
  | _ => false

/-- Whether a type is arithmetic. -/
def CType.isArithmetic (t : CType) : Bool :=
  match t.canonical with
  | .basic b _ => b != .void
  | .complex _ _ => true
  | .tag _ .enum _ => true
  | _ => false

/-- Whether a type is a pointer. -/
def CType.isPointer (t : CType) : Bool :=
  match t.canonical with
  | .pointer _ _ => true
  | _ => false

/-- Whether a type is scalar: arithmetic or a pointer. -/
def CType.isScalar (t : CType) : Bool := t.isArithmetic || t.isPointer

/-- Whether a type is `void`. -/
def CType.isVoid (t : CType) : Bool :=
  match t.canonical with
  | .basic .void _ => true
  | _ => false

/-- Whether a type is floating. -/
def CType.isFloating (t : CType) : Bool :=
  match t.canonical with
  | .basic b _ => b.isFloating
  | _ => false

/-- Whether a type is an array. -/
def CType.isArray (t : CType) : Bool :=
  match t.canonical with
  | .array _ _ => true
  | _ => false

/-- Whether a type is `_Bool`. -/
def CType.isBoolean (t : CType) : Bool :=
  match t.canonical with
  | .basic .bool _ => true
  | _ => false

/-- Whether a type is an integer type other than `_Bool`: a conversion
between two such types changes only the integer's width or signedness. -/
def CType.widensAsInteger (t : CType) : Bool := t.isInteger && !t.isBoolean

/-- Whether a type is a function. -/
def CType.isFunction (t : CType) : Bool :=
  match t.canonical with
  | .function _ _ _ _ _ => true
  | _ => false

/-- The pointee of a pointer type, typedef names resolved at the top only. -/
def CType.pointee? : CType → Option CType
  | .pointer p _ => some p
  | .typedef _ t _ => pointee? t
  | _ => none

/-- The element of an array type, with the array's qualifiers. -/
def CType.element? : CType → Option CType
  | .array e _ => some e
  | .typedef _ t q => (element? t).map (CType.addQuals q)
  | _ => none

/-- The parts of a function type, typedef names resolved at the top. -/
def CType.functionParts? : CType → Option (CType × List CType × Bool × Bool)
  | .function r ps va pr _ => some (r, ps, va, pr)
  | .typedef _ t _ => functionParts? t
  | _ => none

/-- A function type marked as never returning; a pointer to a function has
its pointee marked. Any other type is left as it is. -/
def CType.markNoreturn : CType → CType
  | .function r ps va pr _ => .function r ps va pr true
  | .pointer p q => .pointer (markNoreturn p) q
  | t => t

/-- Whether a type is variably modified: an array of run-time size, or a
type built from one. -/
def CType.variablyModified : CType → Bool
  | .array e s => (match s with | .variable _ _ _ => true | _ => false) || variablyModified e
  | .pointer p _ => variablyModified p
  | .typedef _ t _ => variablyModified t
  | _ => false

/-- The type with each run-time array size replaced by the value constant
folding finds for it, through pointers and array elements, when every such
size on the way has one and none is negative. Only an array of run-time
size or a pointer leading to one is replaced; a typedef name is kept as
it is, so a type that reaches its run-time size through one gives none. -/
def CType.foldSizes : CType → Option CType
  | .pointer p q => (foldSizes p).map (.pointer · q)
  | .array e (.variable _ (some v) _) =>
    if v < 0 then none
    else
      let e' := if e.variablyModified then foldSizes e else some e
      e'.map (.array · (.fixed v.toNat))
  | _ => none

/-- Whether folding the run-time sizes of a type (`CType.foldSizes`) stops
at a size that folds to a negative value: the elements' sizes are folded
before the array's own. -/
def CType.foldsNegative : CType → Bool
  | .pointer p _ => foldsNegative p
  | .array e (.variable _ v _) =>
    if e.variablyModified && (foldSizes e).isNone then foldsNegative e
    else
      match v with
      | some v => v < 0
      | none => false
  | _ => false

/-- Whether a type, typedef names resolved, is an array of run-time size. -/
def CType.isVariableArray (t : CType) : Bool :=
  match t.canonical with
  | .array _ (.variable _ _ _) => true
  | _ => false

/-- The tag a structure or union type names. -/
def CType.record? : CType → Option Nat
  | .tag i .struct _ => some i
  | .tag i .union _ => some i
  | .typedef _ t _ => record? t
  | _ => none

end CInspect.Types
