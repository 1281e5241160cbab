/-!
Reading UTF-8 bytes as text, with replacement.

A well-formed UTF-8 sequence becomes its character. Each maximal subpart of
an ill-formed sequence (the longest prefix of a well-formed sequence that
the bytes start, or else a single byte) becomes one replacement character
`U+FFFD`, and decoding goes on after it. This is the replacement practice the
Unicode standard recommends, so a source file with stray bytes can still be
echoed line by line.
-/

namespace CInspect.Text

/-- A continuation byte in the range `lo`–`hi`. -/
def inRange (lo hi : UInt8) (b : UInt8) : Bool := lo ≤ b && b ≤ hi

/-- The admissible range of the second byte after lead byte `b0`, and the
number of continuation bytes that follow the lead (0 for a byte that cannot
lead). -/
def leadShape (b0 : UInt8) : Nat × UInt8 × UInt8 :=
  if 0xC2 ≤ b0 && b0 ≤ 0xDF then (1, 0x80, 0xBF)
  else if b0 == 0xE0 then (2, 0xA0, 0xBF)
  else if b0 == 0xED then (2, 0x80, 0x9F)
  else if 0xE1 ≤ b0 && b0 ≤ 0xEF then (2, 0x80, 0xBF)
  else if b0 == 0xF0 then (3, 0x90, 0xBF)
  else if 0xF1 ≤ b0 && b0 ≤ 0xF3 then (3, 0x80, 0xBF)
  else if b0 == 0xF4 then (3, 0x80, 0x8F)
  else (0, 0, 0)

/-- The value of lead byte `b0` for a sequence with `k` continuation bytes. -/
def leadBits (b0 : UInt8) (k : Nat) : Nat :=
  match k with
  | 1 => b0.toNat % 32
  | 2 => b0.toNat % 16
  | _ => b0.toNat % 8

/-- How many of the continuation bytes `bs` a sequence with lead shape
`(k, lo, hi)` accepts, at most `k`, with their accumulated value. -/
def takeContinuations (k : Nat) (lo hi : UInt8) (acc : Nat) : List UInt8 → Nat × Nat
  | [] => (0, acc)
  | b :: rest =>
    if k = 0 then (0, acc)
    else if inRange lo hi b then
      let (n, v) := takeContinuations (k - 1) 0x80 0xBF (acc * 64 + b.toNat % 64) rest
      (n + 1, v)
    else (0, acc)

theorem takeContinuations_le (k : Nat) (lo hi : UInt8) (acc : Nat) (bs : List UInt8) :
    (takeContinuations k lo hi acc bs).1 ≤ bs.length := by
  induction bs generalizing k lo hi acc with
  | nil => simp [takeContinuations]
  | cons b rest ih =>
    simp only [takeContinuations]
    split
    · simp
    · split
      · have := ih (k - 1) 0x80 0xBF (acc * 64 + b.toNat % 64)
        simp only [List.length_cons]
        omega
      · simp

/-- Decode UTF-8 bytes, replacing each maximal ill-formed subpart by `U+FFFD`. -/
def decodeUtf8 (bs : List UInt8) : List Char :=
  match bs with
  | [] => []
  | b0 :: rest =>
    if b0 < 0x80 then Char.ofNat b0.toNat :: decodeUtf8 rest
    else
      let (k, lo, hi) := leadShape b0
      let (n, v) := takeContinuations k lo hi (leadBits b0 k) rest
      if k ≠ 0 ∧ n = k then Char.ofNat v :: decodeUtf8 (rest.drop n)
      else '�' :: decodeUtf8 (rest.drop n)
termination_by bs.length
decreasing_by all_goals (simp only [List.length_cons, List.length_drop]; omega)

example : decodeUtf8 [0x61, 0xC3, 0xA9] = ['a', 'é'] := by decide +kernel
example : decodeUtf8 [0xFF, 0xFE, 0x61] = ['�', '�', 'a'] := by decide +kernel
example : decodeUtf8 [0xE2, 0x82, 0x41] = ['�', 'A'] := by decide +kernel

end CInspect.Text
