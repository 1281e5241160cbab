import CInspect.Lex.Literal
/-!
Escape sequences, character constants and the code units of string
literals, with the messages the compiler gives about them.

A literal's prefix (none, `L`, `u8`, `u`, `U`) fixes the width of its code
units: 8 bits, 32 bits for `L` (`wchar_t` is `int`), 16 for `u`, 32 for
`U`. An escape is read as the compiler reads it:

* `\x` takes every hexadecimal digit after it; `\` and an octal digit
  takes at most three. A value too wide for a code unit is an error and is
  cut to the unit.
* `\u` and `\U` take exactly four or eight hexadecimal digits. A surrogate
  or a value past `0x10FFFF` is an error, and so is a value below `0xA0`
  other than `$`, `@` and the grave accent.
* Any other character after `\` stands for itself; one that has no
  meaning as an escape is reported.

Each message carries the byte offset in the token where it is reported:
the backslash of an escape, or the start of the token.
-/

namespace CInspect.Lex

/-- The kind of a character constant or string literal, by its prefix. -/
inductive LiteralKind where
  | plain
  | wide
  | utf8
  | utf16
  | utf32
deriving DecidableEq, Repr, Inhabited

/-- The kind a prefix names. -/
def LiteralKind.ofPrefix : String → LiteralKind
  | "L" => .wide
  | "u8" => .utf8
  | "u" => .utf16
  | "U" => .utf32
  | _ => .plain

/-- The width in bits of one code unit. -/
def LiteralKind.unitWidth : LiteralKind → Nat
  | .plain | .utf8 => 8
  | .utf16 => 16
  | .wide | .utf32 => 32

/-- The largest code point a character constant of the kind holds in one
code unit. -/
def LiteralKind.largestCharacter : LiteralKind → Nat
  | .wide => 0xFFFFFFFF
  | .utf16 => 0xFFFF
  | .utf32 => 0x10FFFF
  | _ => 0x7F

/-- A message about a literal, at a byte offset in its token. -/
structure LiteralIssue where
  error : Bool
  text : String
  option : Option String := none
  offset : Nat
deriving Repr, Inhabited

/-- An escape sequence read: its value, the index after it, what it
reports, and whether it is invalid (its value then counts for nothing). -/
structure EscapeRead where
  value : Nat
  next : Nat
  issues : List LiteralIssue := []
  failed : Bool := false
deriving Inhabited

/-- The byte offset of the character at index `i`. -/
def byteOffsetOf (cs : Array Char) (i : Nat) : Nat :=
  (cs.extract 0 i).foldl (fun n c => n + c.utf8Size) 0

/-- Two to a natural power. -/
def pow2 (n : Nat) : Nat := Nat.pow 2 n

/-- Hexadecimal digits of a number, upper case, without leading zeros. -/
def upperHex (n : Nat) : String :=
  String.ofList ((Nat.toDigits 16 n).map Char.toUpper)

/-- Whether a character is printed as it is. -/
def isPrintableCode (n : Nat) : Bool := 0x20 ≤ n && n < 0x7F

/-- The escape sequence whose backslash is at index `i`, other than a
universal character name; `width` is the width of a code unit. -/
def readCharEscape (cs : Array Char) (i : Nat) (width : Nat) : EscapeRead :=
  let at_ (k : Nat) : Char := cs.getD k '\x00'
  let off := byteOffsetOf cs i
  let c := at_ (i + 1)
  let simple (v : Nat) : EscapeRead := { value := v, next := i + 2 }
  match c with
  | '\\' | '\'' | '"' | '?' => simple c.toNat
  | 'a' => simple 7
  | 'b' => simple 8
  | 'e' | 'E' => simple 27
  | 'f' => simple 12
  | 'n' => simple 10
  | 'r' => simple 13
  | 't' => simple 9
  | 'v' => simple 11
  | 'x' =>
    let stop := skipWhile cs (isDigitIn 16) (i + 2)
    if stop == i + 2 then
      { value := 0, next := stop, failed := true,
        issues := [{ error := true, text := "\\x used with no following hex digits", offset := off }] }
    else
      let v := digitsValue 16 (charsBetween cs (i + 2) stop)
      let r := v % pow2 32
      let overflow := v ≥ pow2 32 || (width != 32 && r ≥ pow2 width)
      let r := if width != 32 then r % pow2 width else r
      { value := r, next := stop,
        issues := if overflow then [{ error := true, text := "hex escape sequence out of range", offset := off }]
          else [] }
  | _ =>
    if '0' ≤ c && c ≤ '7' then
      let isOctal (d : Char) : Bool := '0' ≤ d && d ≤ '7'
      let stop := min (skipWhile cs isOctal (i + 1)) (i + 4)
      let v := digitsValue 8 (charsBetween cs (i + 1) stop)
      let overflow := width != 32 && v ≥ pow2 width
      { value := if overflow then v % pow2 width else v, next := stop,
        issues := if overflow then [{ error := true, text := "octal escape sequence out of range", offset := off }]
          else [] }
    else if c == '(' || c == '\x7b' || c == '[' || c == '%' then simple c.toNat
    else
      let code := if c.toNat < 0x80 then c.toNat else ((String.singleton c).toUTF8.get! 0).toNat
      let shown := if isPrintableCode code then String.singleton c else "x" ++ upperHex code
      { value := code, next := i + 2,
        issues := [{ error := false, text := "unknown escape sequence '\\" ++ shown ++ "'",
                     option := some "-Wunknown-escape-sequence", offset := off }] }

/-- The universal character name whose backslash is at index `i`: its
code point, or the reason it is invalid. -/
def readUcn (cs : Array Char) (i : Nat) : EscapeRead :=
  let at_ (k : Nat) : Char := cs.getD k '\x00'
  let off := byteOffsetOf cs i
  let letter := at_ (i + 1)
  let len := if letter == 'u' then 4 else 8
  let bad (text : String) (next : Nat) : EscapeRead :=
    { value := 0, next := next, failed := true, issues := [{ error := true, text := text, offset := off }] }
  if !isDigitIn 16 (at_ (i + 2)) then bad ("\\" ++ String.singleton letter ++ " used with no following hex digits") (i + 2)
  else
    let stop := min (skipWhile cs (isDigitIn 16) (i + 2)) (i + 2 + len)
    let v := digitsValue 16 (charsBetween cs (i + 2) stop)
    if stop - (i + 2) < len then bad "incomplete universal character name" stop
    else if (0xD800 ≤ v && v ≤ 0xDFFF) || v > 0x10FFFF then bad "invalid universal character" stop
    else if v < 0xA0 && v != 0x24 && v != 0x40 && v != 0x60 then
      if 0x20 ≤ v && v < 0x7F then
        bad ("character '" ++ String.singleton (Char.ofNat v) ++ "' cannot be specified by a universal character name") stop
      else bad "universal character name refers to a control character" stop
    else { value := v, next := stop }

/-- What a character constant is: its kind, its value as the type it has
(`int` for a plain or wide one), whether it holds more than one
character, what it reports, and whether it is invalid. -/
structure CharConstant where
  kind : LiteralKind
  value : Int
  multi : Bool
  issues : List LiteralIssue
  failed : Bool
deriving Inhabited

/-- Where a character of a literal's body comes from: the source text, an
escape sequence, or a universal character name. -/
inductive BodySource where
  | source
  | escape
  | name
deriving DecidableEq, Repr, Inhabited

/-- The characters of a literal's body: code points or escape values, with
what reading them reports. `width` is the width of a code unit and
`largest` the largest code point one character may have (none for a
string, whose characters may take several units). -/
def readBody (cs : Array Char) (start stop : Nat) (width : Nat) (largest : Option Nat) :
    List (Nat × BodySource) × List LiteralIssue × Bool :=
  go (stop - start + 1) start [] [] false
where
  /-- Read from index `i`, at most `fuel` more characters. -/
  go : Nat → Nat → List (Nat × BodySource) → List LiteralIssue → Bool →
      List (Nat × BodySource) × List LiteralIssue × Bool
    | 0, _, vs, is, failed => (vs.reverse, is, failed)
    | f + 1, i, vs, is, failed =>
      if i ≥ stop then (vs.reverse, is, failed)
      else
        let c := cs.getD i '\x00'
        -- a run of characters of a plain character constant in which the
        -- source is not UTF-8 is taken byte by byte, with a warning
        let run := (charsBetween cs i stop).takeWhile (· != '\\')
        if c != '\\' && largest == some 0x7F && run.contains '\uFFFD' then
          let bytes := run.flatMap fun r =>
            if r == '\uFFFD' then [0xFF] else (String.singleton r).toUTF8.toList.map (·.toNat)
          go f (i + run.length) ((bytes.reverse.map (·, .source)) ++ vs)
            (is ++ [{ error := false, text := "illegal character encoding in character literal",
                      option := some "-Winvalid-source-encoding", offset := 0 }]) failed
        else if c != '\\' then
          let tooLarge := match largest with
            | some l => c.toNat > l
            | none => false
          let is := if tooLarge then
              is ++ [{ error := true, text := "character too large for enclosing character literal type",
                       offset := 0 }]
            else is
          go f (i + 1) ((c.toNat, .source) :: vs) is (failed || tooLarge)
        else
          let n := cs.getD (i + 1) '\x00'
          if n == 'u' || n == 'U' then
            let r := readUcn cs i
            let tooLarge := !r.failed && (match largest with
              | some l => r.value > l
              | none => false)
            let extra := if tooLarge then
                [{ error := true, text := "character too large for enclosing character literal type",
                   offset := 0 }]
              else []
            go f r.next ((r.value, .name) :: vs) (is ++ r.issues ++ extra) (failed || r.failed || tooLarge)
          else
            let r := readCharEscape cs i width
            go f r.next ((r.value, .escape) :: vs) (is ++ r.issues) (failed || r.failed)

/-- The value of the low `bits` bits of `v`, signed or not. -/
def truncateTo (bits : Nat) (signed : Bool) (v : Nat) : Int :=
  let m := v % pow2 bits
  if signed && m ≥ pow2 (bits - 1) then (m : Int) - (pow2 bits : Nat) else m

/-- Read a character constant written as `text`, prefix and quotes
included. -/
def charConstant (text : String) : CharConstant :=
  let cs := text.toList.toArray
  let pre := String.ofList (text.toList.takeWhile (· != '\''))
  let kind := LiteralKind.ofPrefix pre
  let start := pre.length + 1
  let stop := cs.size - 1
  let (chars, issues, failed) := readBody cs start stop kind.unitWidth (some kind.largestCharacter)
  let count := chars.length
  let multiIssue : List LiteralIssue :=
    if count ≤ 1 then []
    else match kind with
      | .wide => [{ error := false, text := "extraneous characters in character constant ignored", offset := 0 }]
      | .plain =>
        if count == 4 then []
        else [{ error := false, text := "multi-character character constant", option := some "-Wmultichar",
                offset := 0 }]
      | _ => [{ error := true, text := "Unicode character literals may not contain multiple characters",
                offset := 0 }]
  let failed := failed || (count > 1 && kind != .plain && kind != .wide)
  let (value, tooLong) : Nat × Bool :=
    if kind == .plain && count > 1 then
      chars.foldl (fun (acc, long) (v, _) => ((acc * 256 + v % 256) % pow2 32, long || acc ≥ pow2 24)) (0, false)
    else ((chars.getLast?.map (·.1)).getD 0, false)
  let longIssue : List LiteralIssue :=
    if tooLong && !failed then [{ error := false, text := "character constant too long for its type", offset := 0 }]
    else []
  let typed : Int := match kind with
    | .plain | .utf8 => if count == 1 then truncateTo 8 true value else truncateTo 32 true value
    | .wide => truncateTo 32 true value
    | .utf16 => truncateTo 16 false value
    | .utf32 => truncateTo 32 false value
  { kind := kind, value := typed, multi := count > 1, issues := issues ++ multiIssue ++ longIssue,
    failed := failed }

/-- The code units a code point takes in UTF-16. -/
def utf16Of (c : Nat) : List Nat :=
  if c < 0x10000 then [c] else
    let v := c - 0x10000
    [0xD800 + v / 1024, 0xDC00 + v % 1024]

/-- The code units of one string literal token of a kind, with what
reading it reports. A character of the source stands for its UTF-8 bytes
in an 8-bit string and for its code point (or UTF-16 units) in a wider
one; an escape stands for one unit, a universal character name for the
units of its code point. -/
def stringUnits (text : String) (kind : LiteralKind) : List Nat × List LiteralIssue × Bool :=
  let cs := text.toList.toArray
  let start := (text.toList.takeWhile (· != '"')).length + 1
  let stop := cs.size - 1
  let (chars, issues, failed) := readBody cs start stop kind.unitWidth none
  let units := chars.flatMap fun (v, src) =>
    match kind, src with
    | .plain, .escape | .utf8, .escape | .utf16, .escape => [v]
    | .plain, _ | .utf8, _ => utf8Bytes v
    | .utf16, _ => utf16Of v
    | _, _ => [v]
  (units, issues, failed)

/-- Where each code unit of a narrow string literal token is written: the
byte offset in the token's text of the character it comes from. Each UTF-8
byte of a character of the source has its own offset; all the units of an
escape sequence or a universal character name have the offset of its
backslash. -/
def stringUnitOffsets (text : String) : List Nat :=
  let cs := text.toList.toArray
  let start := (text.toList.takeWhile (· != '"')).length + 1
  let stop := cs.size - 1
  go cs stop (stop - start + 1) start []
where
  /-- The offsets from index `i`, at most `fuel` more characters, those
  found so far last first. -/
  go (cs : Array Char) (stop : Nat) : Nat → Nat → List Nat → List Nat
    | 0, _, acc => acc.reverse
    | f + 1, i, acc =>
      if i ≥ stop then acc.reverse
      else
        let c := cs.getD i '\x00'
        let off := byteOffsetOf cs i
        if c != '\\' then
          go cs stop f (i + 1) (((List.range c.utf8Size).map (off + ·)).reverse ++ acc)
        else
          let n := cs.getD (i + 1) '\x00'
          if n == 'u' || n == 'U' then
            let r := readUcn cs i
            go cs stop f r.next (List.replicate (utf8Bytes r.value).length off ++ acc)
          else
            go cs stop f (readCharEscape cs i 8).next (off :: acc)

end CInspect.Lex
