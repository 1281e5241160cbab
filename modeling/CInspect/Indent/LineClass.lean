import CInspect.Text.Blank
/-!
How a source line is indented.

A line is classified by three patterns, tried in turn at the start of the
line: `^ +\S` (spaces), `^\t+\S` (tabs) and `^[ \t]+\S` (a mixture). Each
is one or more characters of a set followed by a character that is not
blank (`\S`, where `Text.isBlank` is the class of `\s`); the first that
matches gives the class, and a line none of them matches has none.

A pattern is matched the way a backtracking engine matches a greedy
repetition of one character class (`runThenNonBlank`): the repetition takes
the longest run of characters of its set, then gives them back one at a
time, trying `\S` after each shorter run, down to a run of one character.
-/

namespace CInspect.Indent

open CInspect.Text

/-- The three ways a line can be indented. -/
inductive LineClass where
  | spaces
  | tabs
  | mixed
deriving DecidableEq, Repr

/-- The word that names an indentation class. -/
def LineClass.name : LineClass → String
  | .spaces => "spaces"
  | .tabs => "tabs"
  | .mixed => "mixed"

/-- Spaces and tabs, the characters of indentation. -/
def isIndentChar (c : Char) : Bool := c == ' ' || c == '\t'

/-- `\S` at position `n` of `cs`: there is a character there and it is not
blank. -/
def nonBlankAt (cs : List Char) (n : Nat) : Bool :=
  match cs[n]? with
  | some c => !isBlank c
  | none => false

/-- The backtracking of a greedy repetition that took `n` characters and
must keep at least one: the rest of the pattern is tried after `n`, then
`n - 1`, and so on down to `1` of them. -/
def backOff (rest : Nat → Bool) : Nat → Bool
  | 0 => false
  | n + 1 => rest (n + 1) || backOff rest n

/-- Whether the pattern `^[set]+\S` matches at the start of `cs`. -/
def runThenNonBlank (set : Char → Bool) (cs : List Char) : Bool :=
  backOff (nonBlankAt cs) (cs.takeWhile set).length

/-- The indentation class of a line, if it has one: `^ +\S`, `^\t+\S` and
`^[ \t]+\S` are tried in this order. -/
def classify (line : String) : Option LineClass :=
  let cs := line.toList
  if runThenNonBlank (· == ' ') cs then some .spaces
  else if runThenNonBlank (· == '\t') cs then some .tabs
  else if runThenNonBlank isIndentChar cs then some .mixed
  else none

theorem nonBlankAt_eq_true_iff {cs : List Char} {n : Nat} :
    nonBlankAt cs n = true ↔ ∃ c, cs[n]? = some c ∧ isBlank c = false := by
  unfold nonBlankAt
  split <;> simp_all

/-- The backtracking succeeds exactly when the rest of the pattern matches
after some number of characters from one to all that the repetition took. -/
theorem backOff_eq_true_iff {rest : Nat → Bool} {n : Nat} :
    backOff rest n = true ↔ ∃ k, 1 ≤ k ∧ k ≤ n ∧ rest k = true := by
  induction n with
  | zero => simp only [backOff, Bool.false_eq_true, false_iff, not_exists, not_and]; omega
  | succ n ih =>
    simp only [backOff, Bool.or_eq_true, ih]
    constructor
    · rintro (here | ⟨k, one, le, hk⟩)
      · exact ⟨n + 1, by omega, Nat.le_refl _, here⟩
      · exact ⟨k, one, by omega, hk⟩
    · rintro ⟨k, one, le, hk⟩
      by_cases top : k = n + 1
      · exact .inl (top ▸ hk)
      · exact .inr ⟨k, one, by omega, hk⟩

example : classify "    int a;" = some .spaces ∧ classify "\tx" = some .tabs := by decide +kernel
example : classify "  \tx" = some .mixed ∧ classify "\t" = none ∧ classify "  \u00A0x" = none := by
  decide +kernel

end CInspect.Indent
