import CInspect.Tree.Basic
/-!
Source files as the compiler reads them.

A `SourceFile` is a name and its bytes. Positions in it are byte offsets;
`SourceFile.pos` turns an offset into a 1-based line and a 1-based byte
column. A line ends at a line feed, at a carriage return, or at the pair
carriage return, line feed, which ends one line only.

A `Loc` names a byte of one of the files of a translation unit, by the
file's index in the unit's file list.
-/

namespace CInspect.Source

open CInspect.Tree

/-- A place in one of the files of a translation unit: the file's index and
a byte offset. -/
structure Loc where
  file : Nat
  offset : Nat
deriving DecidableEq, Repr, Inhabited, BEq

/-- The loc `n` bytes further on in the same file. -/
def Loc.shift (l : Loc) (n : Nat) : Loc :=
  ⟨l.file, l.offset + n⟩

/-- The offsets at which the lines of `bs` begin, the first line at 0. -/
def lineStartsOf (bs : ByteArray) : Array Nat := Id.run do
  let mut acc : Array Nat := #[0]
  for h : i in [0:bs.size] do
    let b := bs[i]
    if b == 10 then acc := acc.push (i + 1)
    else if b == 13 then
      if h' : i + 1 < bs.size then
        if bs[i + 1] != 10 then acc := acc.push (i + 1)
      else acc := acc.push (i + 1)
  return acc

/-- A file the compiler has read. -/
structure SourceFile where
  name : String
  bytes : ByteArray
  lineStarts : Array Nat

/-- A source file of the given name and bytes. -/
def SourceFile.ofBytes (name : String) (bytes : ByteArray) : SourceFile :=
  ⟨name, bytes, lineStartsOf bytes⟩

/-- The index of the last line start at or before `off`, searching in
`[lo, hi)`, where the start at `lo` is at or before `off`. -/
def lastStartAtOrBefore (starts : Array Nat) (off lo hi : Nat) : Nat :=
  if h : lo + 1 < hi then
    let mid := (lo + hi) / 2
    if starts.getD mid 0 ≤ off then lastStartAtOrBefore starts off mid hi
    else lastStartAtOrBefore starts off lo mid
  else lo
termination_by hi - lo

/-- The line and column of byte offset `off`. -/
def SourceFile.pos (f : SourceFile) (off : Nat) : Pos :=
  let k := lastStartAtOrBefore f.lineStarts off 0 f.lineStarts.size
  ⟨k + 1, off - f.lineStarts.getD k 0 + 1⟩

/-- The byte at `i`, or 0 past the end. -/
def SourceFile.byte (f : SourceFile) (i : Nat) : UInt8 :=
  f.bytes.get! i

end CInspect.Source
