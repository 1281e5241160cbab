/-!
The values of numeric and character constants.

A preprocessing number is an integer constant, a floating constant, or
invalid, with the message the compiler gives and the offset in the token
it points at. The digits are read first: `0x` and hexadecimal digits, `0b`
and binary digits, a leading `0` and octal digits, or decimal digits; a
fraction or an exponent (`e`, or `p` after hexadecimal digits) makes the
constant floating. A digit of a larger base right after the digits is an
invalid digit; what follows is the suffix: `u`, `l` or `ll` (the two
letters alike) for an integer, `f`, `l` or `q` for a floating constant,
and `i` or `j` for an imaginary one, each at most once.
-/

namespace CInspect.Lex

/-- An integer constant: its value, whether it was written in decimal,
its suffix, and whether it is imaginary. -/
structure IntLiteral where
  value : Nat
  decimal : Bool
  unsigned : Bool
  /-- 0 for no `l`, 1 for `l`, 2 for `ll`. -/
  longs : Nat
  imaginary : Bool := false
deriving DecidableEq, Repr

/-- The type a floating constant's suffix asks for. -/
inductive FloatWidth where
  | single
  | double
  | extended
  | quad
deriving DecidableEq, Repr

/-- The value of a floating constant as written: `digits` times a power
of ten, or of two when the constant is hexadecimal. -/
structure FloatDigits where
  digits : Nat
  exponent : Int
  binary : Bool
deriving DecidableEq, Repr

/-- What a preprocessing number is. -/
inductive NumberForm where
  | integer (lit : IntLiteral)
  | floating (width : FloatWidth) (value : FloatDigits) (imaginary : Bool)
  /-- Not a valid constant: the message and the offset in the token. -/
  | invalid (text : String) (offset : Nat)
deriving Repr

/-- The value of a digit in base 36, if the character is one. -/
def digitValue (c : Char) : Option Nat :=
  if '0' ≤ c ∧ c ≤ '9' then some (c.toNat - '0'.toNat)
  else if 'a' ≤ c ∧ c ≤ 'z' then some (c.toNat - 'a'.toNat + 10)
  else if 'A' ≤ c ∧ c ≤ 'Z' then some (c.toNat - 'A'.toNat + 10)
  else none

/-- Whether `c` is a digit of base `b`. -/
def isDigitIn (b : Nat) (c : Char) : Bool :=
  match digitValue c with
  | some v => v < b
  | none => false

/-- The value of digits in base `b`. -/
def digitsValue (b : Nat) (cs : List Char) : Nat :=
  cs.foldl (fun acc c => acc * b + (digitValue c).getD 0) 0

/-- The letters of a constant's suffix read so far. -/
structure Suffix where
  unsigned : Bool := false
  longs : Nat := 0
  single : Bool := false
  quad : Bool := false
  imaginary : Bool := false
  /-- Whether a letter giving the size (`f`, `l`, `q`) has been read. -/
  sized : Bool := false
deriving Inhabited

/-- Read a suffix, of a floating constant when `floating`; none if it is
not one. -/
def readSuffix (floating : Bool) : List Char → Suffix → Option Suffix
  | [], s => some s
  | c :: rest, s =>
    if c = 'f' ∨ c = 'F' then
      if !floating || s.sized then none else readSuffix floating rest { s with sized := true, single := true }
    else if c = 'q' ∨ c = 'Q' then
      if !floating || s.sized then none else readSuffix floating rest { s with sized := true, quad := true }
    else if c = 'u' ∨ c = 'U' then
      if floating || s.unsigned then none else readSuffix floating rest { s with unsigned := true }
    else if c = 'l' ∨ c = 'L' then
      if s.sized then none
      else if rest.head? == some c then
        if floating then none else readSuffix floating (rest.drop 1) { s with sized := true, longs := 2 }
      else readSuffix floating rest { s with sized := true, longs := 1 }
    else if c = 'i' ∨ c = 'I' ∨ c = 'j' ∨ c = 'J' then
      if s.imaginary then none else readSuffix floating rest { s with imaginary := true }
    else none
termination_by cs _ => cs.length

/-- The largest value an integer constant may have. -/
def maxIntLiteral : Nat := Nat.pow 2 64 - 1

/-- The first index from `i` on whose character fails `p`. -/
def skipWhile (cs : Array Char) (p : Char → Bool) (i : Nat) : Nat :=
  if h : i < cs.size then
    if p cs[i] then skipWhile cs p (i + 1) else i
  else i
termination_by cs.size - i

/-- The characters from `i` up to `j`. -/
def charsBetween (cs : Array Char) (i j : Nat) : List Char := (cs.extract i j).toList

/-- An integer constant whose digits in base `b` run from `start` to
`stop`, its suffix after them. -/
def finishInteger (cs : Array Char) (b start stop : Nat) (decimal : Bool) : NumberForm :=
  let suffix := charsBetween cs stop cs.size
  match readSuffix false suffix {} with
  | none => .invalid s!"invalid suffix '{String.ofList suffix}' on integer constant" stop
  | some sfx =>
    let v := digitsValue b (charsBetween cs start stop)
    if v > maxIntLiteral then
      .invalid "integer literal is too large to be represented in any integer type" 0
    else .integer ⟨v, decimal, sfx.unsigned, sfx.longs, sfx.imaginary⟩

/-- A floating constant of the value given, its suffix from `stop`. -/
def finishFloat (cs : Array Char) (value : FloatDigits) (stop : Nat) : NumberForm :=
  let suffix := charsBetween cs stop cs.size
  match readSuffix true suffix {} with
  | none => .invalid s!"invalid suffix '{String.ofList suffix}' on floating constant" stop
  | some sfx =>
    let width : FloatWidth :=
      if sfx.single then .single else if sfx.quad then .quad
      else if sfx.longs == 1 then .extended else .double
    .floating width value sfx.imaginary

/-- The end of an exponent's digits after its letter at `i`, and its
value; none when it has no digits. -/
def readExponent (cs : Array Char) (i : Nat) : Option (Nat × Int) :=
  let c := cs.getD (i + 1) ' '
  let start := if c = '+' ∨ c = '-' then i + 2 else i + 1
  let stop := skipWhile cs Char.isDigit start
  if stop == start then none
  else
    let v : Int := digitsValue 10 (charsBetween cs start stop)
    some (stop, if c = '-' then -v else v)

/-- A hexadecimal constant; its digits start at offset 2. -/
def hexNumber (cs : Array Char) : NumberForm :=
  let at_ (i : Nat) : Char := cs.getD i ' '
  let intEnd := skipWhile cs (isDigitIn 16) 2
  let (stop, fraction) :=
    if at_ intEnd = '.' then (skipWhile cs (isDigitIn 16) (intEnd + 1), true) else (intEnd, false)
  let fracDigits := if fraction then stop - intEnd - 1 else 0
  if intEnd - 2 + fracDigits == 0 then
    .invalid "hexadecimal floating constant requires a significand" stop
  else if at_ stop = 'p' ∨ at_ stop = 'P' then
    match readExponent cs stop with
    | none => .invalid "exponent has no digits" stop
    | some (e, v) =>
      let digits := digitsValue 16 (charsBetween cs 2 intEnd ++ charsBetween cs (intEnd + 1) stop)
      finishFloat cs ⟨digits, v - 4 * (fracDigits : Int), true⟩ e
  else if fraction then .invalid "hexadecimal floating constant requires an exponent" stop
  else finishInteger cs 16 2 intEnd false

/-- A decimal or octal constant whose digits end at `s`: a fraction or an
exponent makes it floating; a hexadecimal digit other than `e` is an
invalid digit. -/
def decimalOrOctal (cs : Array Char) (s : Nat) (octal : Bool) : NumberForm :=
  let at_ (i : Nat) : Char := cs.getD i ' '
  let c := at_ s
  let base := if octal then "octal" else "decimal"
  if isDigitIn 16 c ∧ c ≠ 'e' ∧ c ≠ 'E' then
    .invalid s!"invalid digit '{c}' in {base} constant" s
  else
    let (stop, fraction) :=
      if c = '.' then (skipWhile cs Char.isDigit (s + 1), true) else (s, false)
    let mantissa := charsBetween cs 0 s ++ (if fraction then charsBetween cs (s + 1) stop else [])
    let fracDigits : Int := if fraction then (stop - s - 1 : Nat) else 0
    if at_ stop = 'e' ∨ at_ stop = 'E' then
      match readExponent cs stop with
      | none => .invalid "exponent has no digits" stop
      | some (e, v) => finishFloat cs ⟨digitsValue 10 mantissa, v - fracDigits, false⟩ e
    else if fraction then finishFloat cs ⟨digitsValue 10 mantissa, -fracDigits, false⟩ stop
    else finishInteger cs (if octal then 8 else 10) 0 s (!octal)

/-- What a preprocessing number is. -/
def classifyNumber (text : String) : NumberForm :=
  let cs := text.toList.toArray
  let at_ (i : Nat) : Char := cs.getD i ' '
  if at_ 0 = '0' then
    let c1 := at_ 1
    if (c1 = 'x' ∨ c1 = 'X') ∧ (isDigitIn 16 (at_ 2) ∨ at_ 2 = '.') then hexNumber cs
    else if (c1 = 'b' ∨ c1 = 'B') ∧ (at_ 2 = '0' ∨ at_ 2 = '1') then
      let s := skipWhile cs (isDigitIn 2) 2
      if s < cs.size ∧ isDigitIn 16 (at_ s) then .invalid s!"invalid digit '{at_ s}' in binary constant" s
      else finishInteger cs 2 2 s false
    else
      let s := skipWhile cs (isDigitIn 8) 1
      if s == cs.size then finishInteger cs 8 0 s false
      else if Char.isDigit (at_ s) then
        let e := skipWhile cs Char.isDigit s
        if at_ e = '.' ∨ at_ e = 'e' ∨ at_ e = 'E' then decimalOrOctal cs e false
        else decimalOrOctal cs s true
      else decimalOrOctal cs s true
  else
    let s := skipWhile cs Char.isDigit 0
    if s == cs.size then finishInteger cs 10 0 s true
    else decimalOrOctal cs s false

/-- The bytes a code point takes in UTF-8. -/
def utf8Bytes (v : Nat) : List Nat :=
  if v < 0x80 then [v]
  else if v < 0x800 then [0xC0 + v / 64, 0x80 + v % 64]
  else if v < 0x10000 then [0xE0 + v / 4096, 0x80 + v / 64 % 64, 0x80 + v % 64]
  else [0xF0 + v / 262144, 0x80 + v / 4096 % 64, 0x80 + v / 64 % 64, 0x80 + v % 64]

end CInspect.Lex
