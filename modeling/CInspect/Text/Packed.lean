/-!
Packed text: a compact spelling of long texts that repeat themselves, such
as the system headers, and its unpacking.

A packed text is read from left to right. Most characters stand for
themselves. Three stand for characters that a string literal would have to
escape: a backquote for a line break, `@` for an opening brace and `$` for
a closing one. A `~` or a `^` followed by a digit is a copy of text already
unpacked: the digit gives its length, from 4 up, and the two digits after a
`~`, or the three after a `^`, how far back the copy starts, from 1 up. A
copy may overlap what it writes, so that a short piece repeated makes a
run. A `~` or a `^` followed by anything else stands for that character.

The digits are the 84 printable characters that have no other use, in the
order of their codes; a number is written with its most significant digit
first.

A list of named texts is packed as one text: each name, a line break and
the text it names, the entries separated by NUL characters.
-/

namespace CInspect.Text

/-- The number of digits a packed text counts with. -/
def packedBase : Nat := 84

/-- The bytes that are not digits of a packed text although printable:
the quote, `#`, `$`, `@`, the backslash, `^`, the backquote, the braces
and `~`. -/
def packedSpecials : List Nat := [0x22, 0x23, 0x24, 0x40, 0x5C, 0x5E, 0x60, 0x7B, 0x7D, 0x7E]

/-- The value of a byte as a digit of a packed text: its place among the
printable characters that are not special. -/
def packedDigit (b : UInt8) : Option Nat :=
  let n := b.toNat
  if n < 0x21 || n > 0x7E || packedSpecials.contains n then none
  else some (n - 0x21 - packedSpecials.countP (· < n))

/-- The number written with the `width` digits from index `i`. -/
def packedNumber (src : ByteArray) (i width : Nat) : Option Nat :=
  (List.range width).foldlM
    (fun acc j => (packedDigit (src[i + j]?.getD 0)).map (acc * packedBase + ·)) 0

/-- Append `n` bytes to `out`, each the byte `dist` places before the end,
one at a time, so that a copy may repeat what it has just written. -/
def copyBack (dist : Nat) : Nat → ByteArray → ByteArray
  | 0, out => out
  | n + 1, out => copyBack dist n (out.push (out[out.size - dist]?.getD 0))

/-- Unpack the packed bytes from index `i` onto `out`, in at most `fuel`
steps; each step reads at least one byte, so the length of the packed text
is enough. -/
def unpackFrom (src : ByteArray) : Nat → Nat → ByteArray → ByteArray
  | 0, _, out => out
  | fuel + 1, i, out =>
    match src[i]? with
    | none => out
    | some b =>
      if b == 0x60 then unpackFrom src fuel (i + 1) (out.push 0x0A)
      else if b == 0x40 then unpackFrom src fuel (i + 1) (out.push 0x7B)
      else if b == 0x24 then unpackFrom src fuel (i + 1) (out.push 0x7D)
      else if b == 0x7E || b == 0x5E then
        let width := if b == 0x7E then 2 else 3
        match packedDigit (src[i + 1]?.getD 0), packedNumber src (i + 2) width with
        | some len, some dist => unpackFrom src fuel (i + 2 + width) (copyBack (dist + 1) (len + 4) out)
        | some _, none => out
        | none, _ => unpackFrom src fuel (i + 2) (out.push (src[i + 1]?.getD 0))
      else unpackFrom src fuel (i + 1) (out.push b)

/-- The bytes a packed text stands for. -/
def unpackBytes (s : String) : ByteArray :=
  let src := s.toUTF8
  unpackFrom src src.size 0 (ByteArray.emptyWithCapacity (4 * src.size))

/-- The text a packed text stands for. -/
def unpack (s : String) : String :=
  (String.fromUTF8? (unpackBytes s)).getD ""

/-- The index of the first byte `b` at or after `i`, or the size. -/
def nextByte (bytes : ByteArray) (b : UInt8) (i : Nat) : Nat :=
  if h : i < bytes.size then
    if bytes[i] == b then i else nextByte bytes b (i + 1)
  else bytes.size
termination_by bytes.size - i

/-- The entries of the bytes of a packed list of named texts from index
`start`, in at most `fuel` steps; each entry takes at least one byte. -/
def entriesFrom (bytes : ByteArray) : Nat → Nat → List (String × String)
  | 0, _ => []
  | fuel + 1, start =>
    if start ≥ bytes.size then []
    else
      let text (a b : Nat) : String := (String.fromUTF8? (bytes.extract a b)).getD ""
      let stop := nextByte bytes 0 start
      let nameEnd := min (nextByte bytes 0x0A start) stop
      (text start nameEnd, text (nameEnd + 1) stop) :: entriesFrom bytes fuel (stop + 1)

/-- The named texts a packed list stands for, in order. -/
def unpackEntries (s : String) : List (String × String) :=
  let bytes := unpackBytes s
  entriesFrom bytes bytes.size 0

end CInspect.Text
