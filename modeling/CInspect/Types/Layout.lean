import CInspect.Types.Basic
/-!
The layout of a structure or union: where each member goes, and the size
and alignment of the whole.

Members are placed in order, each at the next offset its alignment allows
(a union puts every member at offset zero). Counting is in bits, since a
bit-field may start inside a byte:

* A member that is not a bit-field starts on a byte. Its alignment is
  that of its type, or one byte when it or the record is packed, raised to
  an alignment an attribute asks for, then lowered to the limit of a
  `#pragma pack` in force.
* A bit-field goes at the next free bit when it fits in a storage unit of
  its type aligned on the type's alignment, and otherwise at the start of
  the next such unit. A packed bit-field has an alignment of one bit. Under
  a `#pragma pack` no padding is inserted before a bit-field, and a
  bit-field of width zero always moves to the next unit of its type.
* A bit-field without a name does not raise the record's alignment.

The record's alignment is the largest of its members' and of one an
attribute asks for; its size is the end of its last member rounded up to
that alignment.
-/

namespace CInspect.Types

/-- What placing a member needs to know of it: the size and alignment of
its type in bytes (for a flexible array member, zero and the alignment of
its element), its width when it is a bit-field, whether it has a name and
is packed, and the alignment in bytes an attribute asks for. -/
structure FieldShape where
  size : Nat
  align : Nat
  bits : Option Nat := none
  named : Bool := true
  packed : Bool := false
  explicit : Option Nat := none
deriving Inhabited, Repr

/-- What the layout needs to know of the record itself: whether it is a
union and packed, the alignment an attribute asks for and the limit of a
`#pragma pack`, both in bytes. -/
structure RecordShape where
  union : Bool := false
  packed : Bool := false
  align : Option Nat := none
  maxFieldAlign : Option Nat := none
deriving Inhabited, Repr

/-- The layout so far: the bits taken, of which the last `unfilled` are
left free by a bit-field, and the alignment in bytes. The bits taken are
always a whole number of bytes. -/
structure LayoutState where
  dataBits : Nat := 0
  unfilled : Nat := 0
  align : Nat := 1
deriving Inhabited, Repr

/-- `n` rounded up to a multiple of `a`; unchanged when `a` is zero. -/
def roundUp (n a : Nat) : Nat := if a = 0 then n else (n + a - 1) / a * a

/-- The alignment in bytes of a member that is not a bit-field: its type's
or the one an attribute asks for, whichever is larger, or only the latter
when packed; a `#pragma pack` limit caps both. -/
def wholeAlign (r : RecordShape) (f : FieldShape) : Nat :=
  let explicit := f.explicit.getD 0
  let unpacked := max f.align explicit
  let packedAlign := max 1 explicit
  let (unpacked, packedAlign) := match r.maxFieldAlign with
    | some m => (min unpacked m, min packedAlign m)
    | none => (unpacked, packedAlign)
  if r.packed || f.packed then packedAlign else unpacked

/-- Place a member that is not a bit-field. -/
def placeWhole (r : RecordShape) (s : LayoutState) (f : FieldShape) : LayoutState :=
  let fieldAlign := wholeAlign r f
  let dataBytes := s.dataBits / 8
  let endBytes := if r.union then max dataBytes f.size else roundUp dataBytes fieldAlign + f.size
  { dataBits := endBytes * 8, unfilled := 0, align := max s.align fieldAlign }

/-- Place a bit-field of `width` bits. -/
def placeBits (r : RecordShape) (s : LayoutState) (f : FieldShape) (width : Nat) : LayoutState :=
  let packed := r.packed || f.packed
  let storage := f.size * 8
  let explicit := (f.explicit.getD 0) * 8
  let natural := f.align * 8
  let fieldAlign := if packed && width != 0 then 1 else natural
  let fieldAlign := if explicit != 0 then max fieldAlign explicit else fieldAlign
  let unpacked := if explicit != 0 then max natural explicit else natural
  let fieldAlign := match r.maxFieldAlign with
    | some m =>
      if width != 0 then (if packed then min unpacked (m * 8) else min fieldAlign (m * 8))
      else fieldAlign
    | none => fieldAlign
  let start := if r.union then 0 else s.dataBits - s.unfilled
  let limitBits := (r.maxFieldAlign.getD 0) * 8
  let offset :=
    if width == 0 || (r.maxFieldAlign.isNone && start % fieldAlign + width > storage) then
      roundUp start fieldAlign
    else if explicit != 0 && (limitBits == 0 || explicit ≤ limitBits) then roundUp start explicit
    else start
  let fieldAlign := if f.named then fieldAlign else 1
  if r.union then
    { s with dataBits := max s.dataBits (roundUp width 8), align := max s.align (fieldAlign / 8) }
  else
    let endBits := offset + width
    let dataBits := roundUp endBits 8
    { dataBits := dataBits, unfilled := dataBits - endBits, align := max s.align (fieldAlign / 8) }

/-- Place one member. -/
def placeField (r : RecordShape) (s : LayoutState) (f : FieldShape) : LayoutState :=
  match f.bits with
  | none => placeWhole r s f
  | some w => placeBits r s f w

/-- The byte at which a member starts when placed after the layout so far:
every member of a union starts at zero, a bit-field in the byte its first
bit falls in. -/
def startOf (r : RecordShape) (s : LayoutState) (f : FieldShape) : Nat :=
  if r.union then 0
  else match f.bits with
    | none => roundUp (s.dataBits / 8) (wholeAlign r f)
    | some _ => (s.dataBits - s.unfilled) / 8

/-- The bytes at which the members of a record start, in order. -/
def memberOffsets (r : RecordShape) (fields : List FieldShape) : List Nat :=
  (fields.foldl (fun (acc : LayoutState × Array Nat) f =>
      (placeField r acc.1 f, acc.2.push (startOf r acc.1 f)))
    ({ align := max 1 (r.align.getD 1) }, #[])).2.toList

/-- The size and alignment in bytes of a record with these members. -/
def recordLayout (r : RecordShape) (fields : List FieldShape) : Nat × Nat :=
  let s := fields.foldl (placeField r) { align := max 1 (r.align.getD 1) }
  (roundUp (s.dataBits / 8) s.align, s.align)

end CInspect.Types
