import CInspect.Proofs.LayoutVerdict
import Mathlib.Data.List.Chain
/-!
Where an indentation listing leaves lines out.

Before the lines of a source are listed, the set of lines to show is filled
out (`expandShown`): a gap of one to three lines between two shown lines, or
before the first one counting from line 0, is filled in, and the rest of the
source is added when fewer than five lines would follow the last one. The
listing (`listing`) then prints a `......` row between two consecutive listed
lines more than five apart.

The two tests do not meet: two listed lines exactly five apart, with four
lines of the source between them, are neither filled in nor marked.

* `expandShown_short_gaps_filled`: any two listed lines less than five apart
  have every line between them listed.
* `expandShown_steps`: consecutive listed lines are adjacent or at least five
  apart.
* `listing_consecutive_rows`: the rows of consecutive listed lines follow each
  other, with a `......` row between them exactly when the lines are more than
  five apart.
* `listing_leaves_out_silently`: a listing of lines of the source leaves lines
  out without a `......` row only between consecutive listed lines exactly five
  apart.
-/

namespace CInspect.Indent

/-! ### Sorted members -/

theorem insertMember_strict (x : Int) : ∀ {ys : List Int}, ys.Pairwise (· < ·) →
    (insertMember x ys).Pairwise (· < ·)
  | [], _ => by simp [insertMember]
  | y :: ys, sorted => by
    obtain ⟨above, rest⟩ := List.pairwise_cons.mp sorted
    unfold insertMember
    split
    · next below =>
      refine List.pairwise_cons.mpr ⟨?_, sorted⟩
      intro z mem
      rcases List.mem_cons.mp mem with rfl | later
      · exact below
      · exact Int.lt_trans below (above z later)
    · split
      · exact sorted
      · next notBelow differ =>
        refine List.pairwise_cons.mpr ⟨?_, insertMember_strict x rest⟩
        intro z mem
        rcases mem_insertMember.mp mem with rfl | later
        · omega
        · exact above z later

/-- The members of a list are listed in increasing order, each once. -/
theorem sortedMembers_strict (xs : List Int) : (sortedMembers xs).Pairwise (· < ·) := by
  induction xs with
  | nil => simp [sortedMembers]
  | cons x xs ih => exact insertMember_strict x ih

/-! ### Short gaps -/

/-- Any two members less than five apart have every number between them as a
member. -/
def ShortGapsFilled (xs : List Int) : Prop :=
  ∀ a ∈ xs, ∀ b ∈ xs, b < a + 5 → ∀ x, a < x → x < b → x ∈ xs

namespace ShortGapsFilled

variable {xs ys : List Int}

/-- Whether short gaps are filled depends on the members only. -/
theorem congr (filled : ShortGapsFilled xs) (same : ∀ x, x ∈ xs ↔ x ∈ ys) : ShortGapsFilled ys := by
  intro a ha b hb near x ax xb
  rw [← same] at ha hb ⊢
  exact filled a ha b hb near x ax xb

/-- Leaving out a first member below all others keeps short gaps filled. -/
theorem of_cons {y : Int} (filled : ShortGapsFilled (y :: ys)) (above : ∀ z ∈ ys, y < z) :
    ShortGapsFilled ys := by
  intro a ha b hb near x ax xb
  rcases List.mem_cons.mp (filled a (List.mem_cons_of_mem y ha) b (List.mem_cons_of_mem y hb) near x ax xb)
    with rfl | mem
  · have := above a ha
    omega
  · exact mem

/-- Adding the numbers after the greatest member, up to `lineCount`, when
`lineCount` is less than five past it, keeps short gaps filled. -/
theorem append_tail {top : Int} (lineCount : Int) (filled : ShortGapsFilled xs) (topMem : top ∈ xs)
    (below : ∀ x ∈ xs, x ≤ top) :
    ShortGapsFilled (xs ++ if lineCount < top + 5 then intRange (top + 1) (lineCount + 1) else []) := by
  -- a member of the tail lies past `top`, and the tail is present only when it is short
  have tail : ∀ {y}, y ∈ (if lineCount < top + 5 then intRange (top + 1) (lineCount + 1) else []) ↔
      lineCount < top + 5 ∧ top < y ∧ y ≤ lineCount := by
    intro y
    split
    · rw [mem_intRange]
      omega
    · simp only [List.not_mem_nil, false_iff]
      omega
  intro a ha b hb near x ax xb
  rw [List.mem_append, tail] at ha hb ⊢
  rcases hb with early | ⟨short, past, upTo⟩
  · -- both ends are members, the first one too since it lies below `b`
    have start : a ∈ xs := by
      rcases ha with start | ⟨-, past, -⟩
      · exact start
      · have := below b early
        omega
    exact Or.inl (filled a start b early near x ax xb)
  · rcases Int.lt_or_le top x with after | atMost
    · exact Or.inr ⟨short, after, by omega⟩
    · left
      rcases Int.lt_or_eq_of_le atMost with before | rfl
      · -- `top` lies between `x` and `b`, closer to `a` than `b` is
        have start : a ∈ xs := by
          rcases ha with start | ⟨-, past, -⟩
          · exact start
          · omega
        exact filled a start top topMem (by omega) x ax before
      · exact topMem

end ShortGapsFilled

/-- A sorted list whose short gaps are filled steps by one, or by five or
more. -/
theorem isChain_steps_of_filled : ∀ {xs : List Int}, xs.Pairwise (· < ·) → ShortGapsFilled xs →
    xs.IsChain (fun a b => b = a + 1 ∨ a + 5 ≤ b)
  | [], _, _ => .nil
  | [_], _, _ => .singleton _
  | a :: b :: rest, sorted, filled => by
    obtain ⟨above, sortedRest⟩ := List.pairwise_cons.mp sorted
    refine List.isChain_cons_cons.mpr ⟨?_, isChain_steps_of_filled sortedRest (filled.of_cons above)⟩
    have lt := above b List.mem_cons_self
    by_contra jump
    -- `a + 1` lies between `a` and `b`, which are less than five apart, so it is
    -- a member; but no member lies strictly between two consecutive ones
    have mem := filled a List.mem_cons_self b (List.mem_cons_of_mem a List.mem_cons_self) (by omega)
      (a + 1) (by omega) (by omega)
    rcases List.mem_cons.mp mem with same | mem
    · omega
    rcases List.mem_cons.mp mem with same | later
    · omega
    · have := (List.pairwise_cons.mp sortedRest).1 _ later
      omega

/-! ### Filling gaps -/

theorem mem_fillGaps_cons {last n x : Int} {rest : List Int} :
    x ∈ (fillGaps last (n :: rest)).1 ↔
      (last + 1 < n ∧ n < last + 5 ∧ last < x ∧ x < n) ∨ x ∈ (fillGaps n rest).1 := by
  simp only [fillGaps, List.mem_append]
  apply or_congr_left
  split
  · rw [mem_intRange]
    omega
  · simp only [List.not_mem_nil, false_iff]
    omega

/-- The gaps filled after `last` lie past it. -/
theorem fillGaps_above : ∀ {last : Int} {ns : List Int}, (last :: ns).Pairwise (· < ·) →
    ∀ x ∈ (fillGaps last ns).1, last < x
  | _, [], _, x, mem => by simp [fillGaps] at mem
  | last, n :: rest, sorted, x, mem => by
    have first := (List.pairwise_cons.mp sorted).1 n List.mem_cons_self
    rcases mem_fillGaps_cons.mp mem with ⟨-, -, after, -⟩ | later
    · exact after
    · have := fillGaps_above (List.pairwise_cons.mp sorted).2 x later
      omega

/-- The last member seen is `last` or a member. -/
theorem fillGaps_final_mem : ∀ (last : Int) (ns : List Int), (fillGaps last ns).2 ∈ last :: ns
  | _, [] => List.mem_cons_self
  | last, n :: rest => by
    simp only [fillGaps]
    exact List.mem_cons_of_mem last (fillGaps_final_mem n rest)

/-- `last`, the members and the gaps filled lie at or below the last member. -/
theorem fillGaps_below_final : ∀ {last : Int} {ns : List Int}, (last :: ns).Pairwise (· < ·) →
    ∀ x ∈ last :: ns ++ (fillGaps last ns).1, x ≤ (fillGaps last ns).2
  | _, [], _, x, mem => by simp [fillGaps] at mem ⊢; omega
  | last, n :: rest, sorted, x, mem => by
    have first := (List.pairwise_cons.mp sorted).1 n List.mem_cons_self
    have later := fillGaps_below_final (List.pairwise_cons.mp sorted).2
    have nBelow := later n List.mem_cons_self
    have final : (fillGaps last (n :: rest)).2 = (fillGaps n rest).2 := by simp [fillGaps]
    rw [final]
    simp only [List.cons_append, List.mem_cons, List.mem_append, mem_fillGaps_cons] at mem
    rcases mem with rfl | rfl | member | ⟨-, -, -, before⟩ | gap
    · omega
    · exact nBelow
    · exact later x (List.mem_cons_of_mem n (List.mem_append_left _ member))
    · omega
    · exact later x (List.mem_append_right _ gap)

/-- Filling the gaps after `last` of an increasing list leaves no short gap
among `last`, the members and the gaps filled. -/
theorem fillGaps_short_gaps_filled : ∀ {last : Int} {ns : List Int}, (last :: ns).Pairwise (· < ·) →
    ShortGapsFilled (last :: ns ++ (fillGaps last ns).1)
  | last, [], _ => by
    intro a ha b hb _ x ax xb
    simp only [fillGaps, List.append_nil, List.mem_singleton] at ha hb
    omega
  | last, n :: rest, sorted => by
    have first := (List.pairwise_cons.mp sorted).1 n List.mem_cons_self
    have sortedRest := (List.pairwise_cons.mp sorted).2
    have ih := fillGaps_short_gaps_filled sortedRest
    have nMem : n ∈ n :: rest ++ (fillGaps n rest).1 := List.mem_append_left _ List.mem_cons_self
    -- the later lines lie at or past `n`
    have above : ∀ y ∈ n :: rest ++ (fillGaps n rest).1, n ≤ y := by
      intro y mem
      rcases List.mem_append.mp mem with member | gap
      · rcases List.mem_cons.mp member with rfl | later
        · exact Int.le_refl y
        · exact Int.le_of_lt ((List.pairwise_cons.mp sortedRest).1 y later)
      · exact Int.le_of_lt (fillGaps_above sortedRest y gap)
    have mem_iff : ∀ y, y ∈ last :: (n :: rest) ++ (fillGaps last (n :: rest)).1 ↔
        y = last ∨ (last + 1 < n ∧ n < last + 5 ∧ last < y ∧ y < n) ∨
          y ∈ n :: rest ++ (fillGaps n rest).1 := by
      intro y
      simp only [List.cons_append, List.mem_cons, List.mem_append, mem_fillGaps_cons,
        or_left_comm]
    intro a ha b hb near x ax xb
    rw [mem_iff] at ha hb ⊢
    rcases Int.lt_or_le x n with before | atLeast
    · -- `x` lies in the gap after `last`, which is short, so it is filled
      right; left
      have fromA : a = last ∨ (last + 1 < n ∧ n < last + 5 ∧ last < a ∧ a < n) ∨ n ≤ a := by
        rcases ha with same | gap | later
        exacts [Or.inl same, Or.inr (Or.inl gap), Or.inr (Or.inr (above a later))]
      have fromB : b = last ∨ (last + 1 < n ∧ n < last + 5 ∧ last < b ∧ b < n) ∨ n ≤ b := by
        rcases hb with same | gap | later
        exacts [Or.inl same, Or.inr (Or.inl gap), Or.inr (Or.inr (above b later))]
      omega
    · -- from `n` on, the later lines are closed by induction
      right; right
      rcases Int.lt_or_eq_of_le atLeast with after | rfl
      · have later : b ∈ n :: rest ++ (fillGaps n rest).1 := by
          rcases hb with rfl | ⟨-, -, -, small⟩ | later
          · omega
          · omega
          · exact later
        by_cases early : a ∈ n :: rest ++ (fillGaps n rest).1
        · exact ih a early b later near x ax xb
        · -- `a` lies before `n`, so `n` is closer to `b` than `a` is
          have beforeN : a < n := by
            rcases ha with rfl | ⟨-, -, -, small⟩ | inLater
            · exact first
            · exact small
            · exact absurd inLater early
          exact ih n nMem b later (by omega) x after xb
      · exact nMem

/-! ### The lines listed -/

/-- Any two lines listed for positive lines `shown` that are less than five
apart have every line between them listed. -/
theorem expandShown_short_gaps_filled (lineCount : Nat) {shown : List Int}
    (positive : ∀ n ∈ shown, 1 ≤ n) : ShortGapsFilled (expandShown lineCount shown) := by
  have fromZero : (0 :: sortedMembers shown).Pairwise (· < ·) := by
    refine List.pairwise_cons.mpr ⟨fun n mem => ?_, sortedMembers_strict shown⟩
    have := positive n (mem_sortedMembers.mp mem)
    omega
  have filled := fillGaps_short_gaps_filled fromZero
  have top := fillGaps_final_mem 0 (sortedMembers shown)
  have below := fillGaps_below_final fromZero
  have above := fillGaps_above fromZero
  unfold expandShown
  dsimp only
  rcases fill : fillGaps 0 (sortedMembers shown) with ⟨gaps, last⟩
  rw [fill] at filled top below above
  dsimp only at filled top below above ⊢
  have withTail := filled.append_tail (lineCount : Int) (List.mem_append_left _ top) below
  have lastNonneg : 0 ≤ last := below 0 List.mem_cons_self
  -- the start 0 is listed before every other line, and is not one of them
  refine (ShortGapsFilled.of_cons (by simpa only [List.cons_append, List.append_assoc] using withTail)
    ?_).congr (fun x => mem_sortedMembers.symm)
  intro x mem
  rcases List.mem_append.mp mem with mem | tail
  · rcases List.mem_append.mp mem with member | gap
    · have := positive x (mem_sortedMembers.mp member)
      omega
    · exact above x gap
  · split at tail
    · have := (mem_intRange.mp tail).1
      omega
    · cases tail

/-- Consecutive lines listed for positive lines `shown` are adjacent or at
least five apart. -/
theorem expandShown_steps (lineCount : Nat) {shown : List Int} (positive : ∀ n ∈ shown, 1 ≤ n) :
    (expandShown lineCount shown).IsChain (fun a b => b = a + 1 ∨ a + 5 ≤ b) :=
  isChain_steps_of_filled (sortedMembers_strict _) (expandShown_short_gaps_filled lineCount positive)

end CInspect.Indent

namespace CInspect.Check

open CInspect.Indent

/-! ### The rows of a listing -/

section Rows

variable (lines : List String) (entries : List (Nat × Indent × Int))

/-- The row a listing prints for line `n` of the source, if the source has it. -/
def listingRow (n : Int) : Option String :=
  (lineAt? lines n).map fun line =>
    lineNumberText n ++ listedLine (if n ≥ 0 then (entries.find? (·.1 = n.toNat)).map (·.2) else none) line

variable {lines entries}

theorem listingRow_isSome (entries : List (Nat × Indent × Int)) {n : Int}
    (present : (lineAt? lines n).isSome) : ∃ row, listingRow lines entries n = some row := by
  obtain ⟨line, at_n⟩ := Option.isSome_iff_exists.mp present
  exact ⟨_, by rw [listingRow, at_n]; rfl⟩

/-- A listed line with a row prints its row, after a `......` row when it is
more than five past the line listed before it. -/
theorem listing_cons_row {last n : Int} {ns : List Int} {row : String}
    (has : listingRow lines entries n = some row) :
    (listing lines entries last (n :: ns)).1 =
      (if last ≠ 0 ∧ n > last + 5 then ["......"] else []) ++ row :: (listing lines entries n ns).1 := by
  obtain ⟨line, at_n, rfl⟩ := Option.map_eq_some_iff.mp has
  simp [listing, at_n]

/-- In a listing of lines that the source has, the rows of two consecutive
listed lines `a` and `b` follow each other, with a `......` row between them
when `a` is not 0 and `b` is more than five past it. -/
theorem listing_consecutive_rows (entries : List (Nat × Indent × Int)) :
    ∀ (last : Int) (pre : List Int) {a b : Int} {post : List Int},
      (∀ n ∈ pre ++ a :: b :: post, (lineAt? lines n).isSome) →
      ∃ ra rb, listingRow lines entries a = some ra ∧ listingRow lines entries b = some rb ∧
        ra :: ((if a ≠ 0 ∧ b > a + 5 then ["......"] else []) ++ [rb]) <:+:
          (listing lines entries last (pre ++ a :: b :: post)).1
  | last, [], a, b, post, present => by
    obtain ⟨ra, rowA⟩ := listingRow_isSome entries (present a (by simp))
    obtain ⟨rb, rowB⟩ := listingRow_isSome entries (present b (by simp))
    refine ⟨ra, rb, rowA, rowB, ?_⟩
    rw [List.nil_append, listing_cons_row rowA, listing_cons_row rowB]
    exact ⟨if last ≠ 0 ∧ a > last + 5 then ["......"] else [], (listing lines entries b post).1, by simp⟩
  | last, p :: pre, a, b, post, present => by
    obtain ⟨rp, rowP⟩ := listingRow_isSome entries (present p List.mem_cons_self)
    obtain ⟨ra, rb, rowA, rowB, rows⟩ :=
      listing_consecutive_rows entries p pre (fun n mem => present n (List.mem_cons_of_mem p mem))
    refine ⟨ra, rb, rowA, rowB, rows.trans ?_⟩
    rw [List.cons_append, listing_cons_row rowP]
    exact ⟨(if last ≠ 0 ∧ p > last + 5 then ["......"] else []) ++ [rp], [], by simp⟩
/-- In the listing of the lines filled out from lines `shown` of the source,
the rows of two consecutive listed lines follow each other when the lines are
adjacent or exactly five apart, and have a `......` row between them when the
lines are more than five apart; consecutive listed lines are never two to four
apart. So a listing leaves lines out without a `......` row exactly between
listed lines five apart. -/
theorem listing_leaves_out_silently {shown : List Int}
    (inSource : ∀ n ∈ shown, 1 ≤ n ∧ n ≤ lines.length) {pre post : List Int} {a b : Int}
    (consecutive : expandShown lines.length shown = pre ++ a :: b :: post) :
    ∃ ra rb, listingRow lines entries a = some ra ∧ listingRow lines entries b = some rb ∧
      ((b = a + 1 ∨ b = a + 5) ∧ [ra, rb] <:+: (listing lines entries 0 (expandShown lines.length shown)).1 ∨
        a + 5 < b ∧ [ra, "......", rb] <:+: (listing lines entries 0 (expandShown lines.length shown)).1) := by
  obtain ⟨listedIn, -⟩ := expandShown_bounds inSource
  have step : b = a + 1 ∨ a + 5 ≤ b :=
    List.isChain_iff_forall_rel_of_append_cons_cons.mp
      (expandShown_steps lines.length fun n mem => (inSource n mem).1) consecutive
  have first : 1 ≤ a := (listedIn a (by rw [consecutive]; simp)).1
  have present : ∀ n ∈ pre ++ a :: b :: post, (lineAt? lines n).isSome := by
    intro n mem
    rw [← consecutive] at mem
    exact lineAt?_isSome (listedIn n mem).1 (listedIn n mem).2
  obtain ⟨ra, rb, rowA, rowB, rows⟩ := listing_consecutive_rows entries 0 pre present
  rw [← consecutive] at rows
  refine ⟨ra, rb, rowA, rowB, ?_⟩
  by_cases far : a + 5 < b
  · right
    refine ⟨far, ?_⟩
    rwa [if_pos ⟨by omega, by omega⟩] at rows
  · left
    refine ⟨by omega, ?_⟩
    rwa [if_neg (by omega)] at rows

/- Two functions on lines 1 to 5 and 10 to 14 with misindented lines: lines 6
to 9 are neither filled in nor marked. -/
example : expandShown 14 [1, 2, 3, 4, 5, 10, 11, 12, 13, 14] = [1, 2, 3, 4, 5, 10, 11, 12, 13, 14] := by
  decide
example : (listing (List.replicate 14 "x") [] 0 [5, 10]).1 = ["     5  x", "    10  x"] := by
  decide

end Rows

end CInspect.Check
