import CInspect.Types.Basic
/-!
Floating values and the formats that hold them.

A finite floating value is kept exactly: a sign, an integer significand
and a power of two. A format (`float`, `double`, the x87 `long double`,
`__float128`) has a number of significand bits and a range of exponents.
Rounding a rational number to a format takes the nearest value the format
holds, a tie going to the even significand; past the largest finite value
it gives an infinity, and below the smallest normal value it keeps fewer
bits (`FloatFormat.round`).

A value is written the way the compiler's messages write it
(`FloatValue.render`): its exact decimal digits, cut to a number of
significant digits (a tie rounding up), in positional notation unless
that needs more than three padding zeros or more digits than asked for,
else as `d.dddE+n`.
-/

namespace CInspect.Types

/-- A binary floating format: the bits of its significand, the implicit
one included, and the exponents of its largest and smallest normal
values. -/
structure FloatFormat where
  precision : Nat
  maxExp : Int
  minExp : Int
deriving DecidableEq, Repr, Inhabited

/-- The format of `float`. -/
def FloatFormat.single : FloatFormat := ⟨24, 127, -126⟩

/-- The format of `double`. -/
def FloatFormat.double : FloatFormat := ⟨53, 1023, -1022⟩

/-- The format of the x87 `long double`. -/
def FloatFormat.extended : FloatFormat := ⟨64, 16383, -16382⟩

/-- The format of `__float128`. -/
def FloatFormat.quad : FloatFormat := ⟨113, 16383, -16382⟩

/-- The format of a floating basic type. -/
def Basic.floatFormat? : Basic → Option FloatFormat
  | .float => some .single
  | .double => some .double
  | .longDouble => some .extended
  | .float128 => some .quad
  | _ => none

/-- A floating value: finite, `±mant·2^exp`, or infinite, or not a
number. -/
inductive FloatValue where
  | finite (neg : Bool) (mant : Nat) (exp : Int)
  | infinite (neg : Bool)
  | nan
deriving DecidableEq, Repr, Inhabited

/-- Two to a natural power. -/
def twoPow (n : Nat) : Nat := Nat.pow 2 n

/-- `num / den ≥ 2^e`, for positive `num` and `den`. -/
def atLeastPow (num den : Nat) (e : Int) : Bool :=
  if e ≥ 0 then num ≥ den * twoPow e.toNat else num * twoPow (-e).toNat ≥ den

/-- The value of `num / den` (with `num` and `den` positive) rounded to
the format, with whether no rounding was needed. -/
def FloatFormat.roundPositive (f : FloatFormat) (neg : Bool) (num den : Nat) : FloatValue × Bool :=
  let guess : Int := (Nat.log2 num : Int) - (Nat.log2 den : Int)
  let lg := if atLeastPow num den guess then guess else guess - 1
  let p : Int := f.precision
  let e := max (lg - (p - 1)) (f.minExp - (p - 1))
  let (n', d') := if e ≥ 0 then (num, den * twoPow e.toNat) else (num * twoPow (-e).toNat, den)
  let m := n' / d'
  let r := n' % d'
  let m := if 2 * r > d' || (2 * r == d' && m % 2 == 1) then m + 1 else m
  let (m, e) := if m == twoPow f.precision then (m / 2, e + 1) else (m, e)
  if e + (p - 1) > f.maxExp then (.infinite neg, false)
  else (.finite neg m e, r == 0)

/-- A rational number `±num / den` rounded to the format, with whether
it was held exactly. -/
def FloatFormat.round (f : FloatFormat) (neg : Bool) (num den : Nat) : FloatValue × Bool :=
  if num == 0 || den == 0 then (.finite neg 0 0, num == 0)
  else f.roundPositive neg num den

/-- An integer as the nearest value of the format. -/
def FloatFormat.ofInt (f : FloatFormat) (v : Int) : FloatValue × Bool :=
  f.round (v < 0) v.natAbs 1

/-- The largest finite value of a format. -/
def FloatFormat.largest (f : FloatFormat) : FloatValue :=
  .finite false (twoPow f.precision - 1) (f.maxExp - (f.precision - 1 : Nat))

/-- The smallest positive value of a format. -/
def FloatFormat.smallest (f : FloatFormat) : FloatValue :=
  .finite false 1 (f.minExp - (f.precision - 1 : Nat))

namespace FloatValue

/-- A finite value as a sign, numerator and denominator. -/
def toRatio : FloatValue → Option (Bool × Nat × Nat)
  | .finite neg m e =>
    if e ≥ 0 then some (neg, m * twoPow e.toNat, 1) else some (neg, m, twoPow (-e).toNat)
  | _ => none

/-- The value in another format. -/
def convert (v : FloatValue) (f : FloatFormat) : FloatValue :=
  match v with
  | .finite neg m e =>
    match v.toRatio with
    | some (_, n, d) => (f.round neg n d).1
    | none => .finite neg m e
  | other => other

/-- Whether the value is zero. -/
def isZero : FloatValue → Bool
  | .finite _ m _ => m == 0
  | _ => false

/-- The value as a signed exact ratio, numerator over a positive
denominator. -/
def signedRatio (v : FloatValue) : Option (Int × Nat) :=
  (v.toRatio).map fun (neg, n, d) => (if neg then -(n : Int) else n, d)

/-- The integer part of the value, rounding toward zero, with whether
nothing was cut off. -/
def truncate (v : FloatValue) : Option (Int × Bool) :=
  match v.toRatio with
  | some (neg, n, d) =>
    let q := n / d
    some (if neg then -(q : Int) else q, n % d == 0)
  | none => none

/-- The sign of a value: whether it is negative, zeros and infinities
included. -/
def sign : FloatValue → Bool
  | .finite n _ _ => n
  | .infinite n => n
  | .nan => false

/-- A zero of a sign. -/
def zero (neg : Bool) : FloatValue := .finite neg 0 0

/-- The sum of two values in a format, as IEEE 754 adds: infinities of
opposite signs give not a number, and an exact zero is negative only when
both values are. -/
def add (f : FloatFormat) (a b : FloatValue) : Option FloatValue :=
  match a, b with
  | .nan, _ | _, .nan => some .nan
  | .infinite p, .infinite q => some (if p == q then .infinite p else .nan)
  | .infinite p, _ | _, .infinite p => some (.infinite p)
  | _, _ =>
    match a.signedRatio, b.signedRatio with
    | some (x, dx), some (y, dy) =>
      let s := x * dy + y * dx
      if s == 0 then some (zero (a.sign && b.sign))
      else some (f.round (s < 0) s.natAbs (dx * dy)).1
    | _, _ => none

/-- The negated value. -/
def neg : FloatValue → FloatValue
  | .finite n m e => .finite (!n) m e
  | .infinite n => .infinite (!n)
  | .nan => .nan

/-- The product of two values in a format, as IEEE 754 multiplies: an
infinity times zero is not a number, and the sign of the result is the
two signs combined. -/
def mul (f : FloatFormat) (a b : FloatValue) : Option FloatValue :=
  let sign := a.sign != b.sign
  match a, b with
  | .nan, _ | _, .nan => some .nan
  | .infinite _, c | c, .infinite _ => some (if c.isZero then .nan else .infinite sign)
  | _, _ =>
    match a.signedRatio, b.signedRatio with
    | some (x, dx), some (y, dy) =>
      let s := x * y
      if s == 0 then some (zero sign) else some (f.round (s < 0) s.natAbs (dx * dy)).1
    | _, _ => none

/-- The quotient of two values in a format, as IEEE 754 divides: a
nonzero value over zero is an infinity, zero over zero and an infinity
over an infinity are not a number, and the sign of the result is the two
signs combined. -/
def div (f : FloatFormat) (a b : FloatValue) : Option FloatValue :=
  let sign := a.sign != b.sign
  match a, b with
  | .nan, _ | _, .nan => some .nan
  | .infinite _, .infinite _ => some .nan
  | .infinite _, _ => some (.infinite sign)
  | _, .infinite _ => some (zero sign)
  | _, _ =>
    if b.isZero then some (if a.isZero then .nan else .infinite sign)
    else
      match a.signedRatio, b.signedRatio with
      | some (x, dx), some (y, dy) =>
        let n := x * dy
        let d := y * dx
        if n == 0 then some (zero sign)
        else some (f.round ((n < 0) != (d < 0)) n.natAbs d.natAbs).1
      | _, _ => none

/-- How two values compare: `lt`, `eq` or `gt`; not a number compares
with nothing, and the two zeros are equal. -/
def compare (a b : FloatValue) : Option Ordering :=
  match a, b with
  | .nan, _ | _, .nan => none
  | .infinite p, .infinite q => some (if p == q then .eq else if p then .lt else .gt)
  | .infinite p, _ => some (if p then .lt else .gt)
  | _, .infinite q => some (if q then .gt else .lt)
  | _, _ =>
    match a.signedRatio, b.signedRatio with
    | some (x, dx), some (y, dy) => some (Ord.compare (x * dy) (y * dx))
    | _, _ => none

end FloatValue

/-- The decimal digits of a number, most significant first. -/
def decimalDigitsOf (n : Nat) : List Nat :=
  (Nat.toDigits 10 n).map fun c => c.toNat - '0'.toNat

/-- The number whose decimal digits these are. -/
def ofDecimalDigits (ds : List Nat) : Nat := ds.foldl (fun acc d => acc * 10 + d) 0

/-- Digits with their trailing zeros moved into the exponent. -/
def dropTrailingZeros (ds : List Nat) (exp : Int) : List Nat × Int :=
  let kept := (ds.reverse.dropWhile (· == 0)).reverse
  (kept, exp + (ds.length - kept.length : Nat))

/-- A digit string cut to `precision` significant digits, rounding half
up on the first digit cut off. -/
def cutDigits (ds : List Nat) (exp : Int) (precision : Nat) : List Nat × Int :=
  if ds.length ≤ precision then (ds, exp)
  else
    let cut := ds.length - precision
    let kept := ds.take precision
    let firstDropped := (ds.drop precision).headD 0
    if firstDropped < 5 then dropTrailingZeros kept (exp + cut)
    else
      let bumped := ofDecimalDigits kept + 1
      let bds := decimalDigitsOf bumped
      if bds.length > kept.length then ([1], exp + ds.length)
      else dropTrailingZeros bds (exp + cut)

/-- A significand too long for the digits asked for, with its last
decimal digits cut off by truncation before its digits are produced. -/
def shortenSignificand (n : Nat) (exp : Int) (precision : Nat) : Nat × Int :=
  let bits := Nat.log2 n + 1
  let required := (precision * 196 + 58) / 59
  if n == 0 || bits ≤ required then (n, exp)
  else
    let removable := (bits - required) * 59 / 196
    if removable == 0 then (n, exp) else (n / Nat.pow 10 removable, exp + removable)

/-- A significand with its factors of two moved into the exponent. -/
def stripTwos (m : Nat) (e : Int) : Nat × Int :=
  go (Nat.log2 m + 1) m e
where
  /-- Halve while even, at most `fuel` times. -/
  go : Nat → Nat → Int → Nat × Int
    | 0, m, e => (m, e)
    | f + 1, m, e => if m != 0 && m % 2 == 0 then go f (m / 2) (e + 1) else (m, e)

/-- The digits of a natural number as characters. -/
def digitText (ds : List Nat) : String := String.ofList (ds.map fun d => Char.ofNat (48 + d))

/-- A finite value written with at most `precision` significant digits;
a `precision` of zero asks for enough digits to read the value back in a
format of `bits` significand bits. -/
def FloatValue.render (v : FloatValue) (precision : Nat) (bits : Nat := 53) : String :=
  match v with
  | .infinite n => if n then "-Inf" else "+Inf"
  | .nan => "NaN"
  | .finite neg m e =>
    let sign := if neg then "-" else ""
    if m == 0 then sign ++ "0"
    else
      let (m, e) := stripTwos m e
      let precision := if precision == 0 then 2 + bits * 59 / 196 else precision
      let (n, exp10) : Nat × Int :=
        if e ≥ 0 then (m * twoPow e.toNat, 0) else (m * Nat.pow 5 (-e).toNat, e)
      let (n, exp10) := shortenSignificand n exp10 precision
      let (ds, exp10) := dropTrailingZeros (decimalDigitsOf n) exp10
      let (ds, exp10) := cutDigits ds exp10 precision
      let nd := ds.length
      let scientific :=
        if exp10 ≥ 0 then exp10 > 3 || (nd : Int) + exp10 > precision
        else
          let msd := exp10 + (nd - 1 : Nat)
          if msd ≥ 0 then false else -msd > 3
      if scientific then
        let e10 := exp10 + (nd - 1 : Nat)
        let first := digitText (ds.take 1)
        let rest := if nd == 1 then "0" else digitText (ds.drop 1)
        let expText := if e10 ≥ 0 then "+" ++ toString e10 else "-" ++ toString (-e10)
        sign ++ first ++ "." ++ rest ++ "E" ++ expText
      else if exp10 ≥ 0 then
        sign ++ digitText ds ++ String.ofList (List.replicate exp10.toNat '0')
      else
        let whole : Int := exp10 + nd
        if whole > 0 then
          sign ++ digitText (ds.take whole.toNat) ++ "." ++ digitText (ds.drop whole.toNat)
        else
          sign ++ "0." ++ String.ofList (List.replicate (-whole).toNat '0') ++ digitText ds

end CInspect.Types
