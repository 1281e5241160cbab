import CInspect.Types.Convert
/-!
Compatible types, and what converting one pointer to another means.

Two types are compatible when they could be the types of one object
declared twice: the same basic type with the same qualifiers, pointers to
compatible types, arrays of compatible elements whose sizes do not
disagree, structures, unions and enumerations that are the same tag, and
functions whose results are compatible and whose parameters agree. A
function declared without a prototype agrees with a prototype whose
parameters are not changed by the default argument promotions and that
takes no variable arguments. The types are compared with their typedef
names resolved.

`pointerConversion` classifies a value of one pointer type stored into an
object of another, the cases the compiler tells apart: the pointee loses
qualifiers, the pointees differ only in the signedness of an integer
type, qualifiers are lost one pointer level down, the pointees are
incompatible functions, or they are incompatible otherwise.
-/

namespace CInspect.Types

/-- Whether two array sizes may belong to compatible array types: they do
unless both are known and differ. -/
def ArraySize.agrees : ArraySize → ArraySize → Bool
  | .fixed n, .fixed m => n == m
  | _, _ => true

/-- Whether a parameter type is left as it is by the default argument
promotions: no integer type narrower than `int`, and not `float`. -/
def CType.promotionInvariant (t : CType) : Bool :=
  match t with
  | .basic b _ => !(b.isInteger && b.rank < 3) && b != .float
  | _ => true

mutual

/-- Whether two types without typedef names are compatible; `loose`
ignores the qualifiers at their top, as parameters are compared. -/
def CType.compatibleWith (loose : Bool) : CType → CType → Bool
  | .basic b q, .basic b' q' => b == b' && (q == q' || (loose && q.atomic == q'.atomic))
  | .complex b q, .complex b' q' => b == b' && (q == q' || (loose && q.atomic == q'.atomic))
  | .pointer p q, .pointer p' q' => (q == q' || (loose && q.atomic == q'.atomic)) && CType.compatibleWith false p p'
  | .array e s, .array e' s' => CType.compatibleWith false e e' && s.agrees s'
  | .function r ps va pr _, .function r' ps' va' pr' _ =>
    CType.compatibleWith false r r' &&
      (if pr && pr' then va == va' && compatibleParams ps ps'
       else if pr then !va && ps.all CType.promotionInvariant
       else if pr' then !va' && ps'.all CType.promotionInvariant
       else true)
  | .tag i k q, .tag i' k' q' => i == i' && k == k' && (q == q' || (loose && q.atomic == q'.atomic))
  | .error, _ => true
  | _, .error => true
  | _, _ => false

/-- Whether two parameter lists have compatible types, place by place. -/
def compatibleParams : List CType → List CType → Bool
  | [], [] => true
  | p :: ps, p' :: ps' => CType.compatibleWith true p p' && compatibleParams ps ps'
  | _, _ => false

end

/-- Whether two types are compatible, typedef names resolved. -/
def CType.compatible (a b : CType) : Bool := CType.compatibleWith false a.canonical b.canonical

/-- Whether two types are compatible once the qualifiers at their top are
left out. -/
def CType.compatibleUnqualified (a b : CType) : Bool :=
  CType.compatibleWith true a.canonical b.canonical

/-- Whether the qualifiers `q'` include every qualifier of `q`. -/
def Quals.includes (q' q : Quals) : Bool :=
  (!q.const || q'.const) && (!q.volatile || q'.volatile) && (!q.restrict || q'.restrict)

/-- What storing a pointer of one type into a pointer object of another
means. -/
inductive PointerConversion where
  /-- Nothing to report. -/
  | fine
  /-- The pointee loses qualifiers. -/
  | discardsQualifiers
  /-- The pointees are integer types that differ only in signedness. -/
  | sign
  /-- The pointers agree except that a level below the first loses
  qualifiers. -/
  | nestedQualifiers
  /-- The pointees are incompatible function types. -/
  | functionPointer
  /-- The pointees are incompatible. -/
  | incompatible
deriving DecidableEq, Repr, Inhabited

/-- The unsigned type an integer type is compared as when signedness is
ignored: the character types are all `unsigned char`. -/
def Basic.signless (b : Basic) : Basic :=
  if b == .char || b == .schar || b == .uchar then .uchar
  else if b.isInteger then b.toUnsigned
  else b

/-- The pointer levels below two pointee types, while both are pointers:
the innermost pointees reached. -/
def innermostPointees : Nat → CType → CType → CType × CType
  | 0, a, b => (a, b)
  | n + 1, a, b =>
    match a, b with
    | .pointer p _, .pointer p' _ => innermostPointees n p p'
    | _, _ => (a, b)

/-- What converting a pointer to `src` (the pointee) into a pointer to
`dst` means, both without typedef names. -/
def pointerConversion (dst src : CType) : PointerConversion :=
  let dst := dst.canonical
  let src := src.canonical
  let quals := if dst.quals.includes src.quals then PointerConversion.fine else .discardsQualifiers
  if dst.isVoid || src.isVoid then quals
  else if CType.compatibleWith true dst src then
    quals
  else
    let same := match dst, src with
      | .basic b _, .basic b' _ => b.isInteger && b'.isInteger && b.signless == b'.signless
      | _, _ => false
    if same then (if quals == .fine then .sign else quals)
    else
      let nested := match dst, src with
        | .pointer _ _, .pointer _ _ =>
          let (a, b) := innermostPointees 64 dst src
          a.unqualified == b.unqualified
        | _, _ => false
      if nested then .nestedQualifiers
      else if dst.isFunction && src.isFunction then .functionPointer
      else .incompatible

end CInspect.Types
