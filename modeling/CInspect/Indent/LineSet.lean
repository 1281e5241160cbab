/-!
Sets of line numbers: how they are named in a message, and how a set of
lines to show is filled out before a listing.

A set is named by its smallest five members in increasing order, with
`", ..."` when there are more. A set of lines to show is filled out so that
no gap of two to four lines stays hidden, counting from a line 0 in front of
the first member, and so that the listing reaches the end of the source when
fewer than five lines would follow its last line.

Main statement: `mem_intRange`, the numbers a gap adds.
-/

namespace CInspect.Indent

/-- Insert `x` into an increasing list without repeats, keeping it so. -/
def insertMember (x : Int) : List Int → List Int
  | [] => [x]
  | y :: ys => if x < y then x :: y :: ys else if x = y then y :: ys else y :: insertMember x ys

/-- The members of a list of numbers, increasing and without repeats. -/
def sortedMembers (xs : List Int) : List Int :=
  xs.foldr insertMember []

theorem mem_insertMember {x y : Int} {ys : List Int} :
    y ∈ insertMember x ys ↔ y = x ∨ y ∈ ys := by
  induction ys with
  | nil => simp [insertMember]
  | cons z zs ih =>
    simp only [insertMember]
    split
    · simp
    · split
      · subst_vars; simp
      · simp only [List.mem_cons, ih]
        constructor <;> intro h <;> rcases h with h | h | h <;> simp [h]

theorem mem_sortedMembers {y : Int} {xs : List Int} : y ∈ sortedMembers xs ↔ y ∈ xs := by
  induction xs with
  | nil => simp [sortedMembers]
  | cons x xs ih =>
    simp only [sortedMembers, List.foldr_cons] at *
    rw [mem_insertMember, ih]; simp

/-- The numbers `a, a + 1, …, b - 1`. -/
def intRange (a b : Int) : List Int :=
  (List.range (b - a).toNat).map (fun i : Nat => a + (i : Int))

theorem mem_intRange {a b x : Int} : x ∈ intRange a b ↔ a ≤ x ∧ x < b := by
  simp only [intRange, List.mem_map, List.mem_range]
  constructor
  · rintro ⟨i, hi, rfl⟩; omega
  · intro h; exact ⟨(x - a).toNat, by omega, by omega⟩

/-- How a set of numbers is named in a message: `line 5 is`,
`lines 1,2 are`, or `lines 1,2,3,4,5, ... are` for more than five. -/
def describeLines (xs : List Int) : String :=
  let sorted := sortedMembers xs
  let shown := ",".intercalate ((sorted.take 5).map toString)
  if sorted.length = 1 then s!"line {shown} is"
  else if sorted.length > 5 then s!"lines {shown}, ... are"
  else s!"lines {shown} are"

/-- The numbers strictly between consecutive members of `sorted`, starting
from `last`, where the two are two to four apart; with the last member. -/
def fillGaps (last : Int) : List Int → List Int × Int
  | [] => ([], last)
  | n :: rest =>
    let here := if last + 1 < n ∧ n < last + 5 then intRange (last + 1) n else []
    let (more, final) := fillGaps n rest
    (here ++ more, final)

/-- The lines to list for a set `shown`, in a source of `lineCount` lines:
the set, the small gaps between its members (and before the first, counting
from 0), and the rest of the source when fewer than five lines follow. -/
def expandShown (lineCount : Nat) (shown : List Int) : List Int :=
  let sorted := sortedMembers shown
  let (gaps, last) := fillGaps 0 sorted
  let tail := if (lineCount : Int) < last + 5 then intRange (last + 1) (lineCount + 1) else []
  sortedMembers (sorted ++ gaps ++ tail)

example : describeLines [] = "lines  are" ∧ describeLines [5] = "line 5 is" := by decide +kernel
example : describeLines [5, 4, 3, 2, 1, 0] = "lines 0,1,2,3,4, ... are" := by decide +kernel

end CInspect.Indent
