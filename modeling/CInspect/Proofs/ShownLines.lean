import CInspect.Proofs.ListingGaps
import Mathlib.Data.Finset.Sort
import Mathlib.Data.Int.ConditionallyCompleteOrder
import Mathlib.Order.ConditionallyCompleteLattice.Basic
/-!
The lines an indentation listing shows, exactly.

Before a listing, the set of lines to show is filled out (`expandShown`): it
is read in increasing order after a line 0 put in front, each gap of one to
three numbers between consecutive numbers of that sequence is filled in, and
the numbers after the greatest one up to the last line of the source are
added when fewer than five of them follow it. Nothing else is added, for any
set of integers, whether or not its numbers are lines of the source.

* `expandShown_exact`: the numbers filled out from a set are the set, the
  numbers strictly between consecutive numbers of `0, sorted set` that are
  two to four apart, and the rest of the source when it is short; filling
  out a filled-out set adds nothing; and on sets of lines of the source
  filling out is monotone and stays within the source.

Filling out stops at its own result because that result has no gap of one
to three numbers left (`ShortGapsFilled`), does not start two to four past
line 0, and reaches the end of the source when the end is near.
-/

namespace CInspect.Indent

/-! ### Sorted members and the greatest one -/

/-- The members of a list in increasing order, each once, are its set of
members sorted. -/
theorem sortedMembers_eq_sort (xs : List Int) : sortedMembers xs = xs.toFinset.sort (· ≤ ·) := by
  apply List.Pairwise.eq_of_mem_iff (sortedMembers_strict xs)
    (List.sortedLT_iff_pairwise.mp (Finset.sortedLT_sort _))
  intro a
  rw [mem_sortedMembers, Finset.mem_sort, List.mem_toFinset]

/-- The last number of an increasing list is its greatest. -/
theorem getLast?_eq_max? : ∀ {xs : List Int}, xs.Pairwise (· < ·) → xs.getLast? = xs.max?
  | [], _ => rfl
  | x :: xs, sorted => by
    rw [List.getLast?_eq_some_getLast (List.cons_ne_nil x xs), eq_comm, List.max?_eq_some_iff]
    exact ⟨List.getLast_mem _, fun y mem => (sorted.imp Int.le_of_lt).rel_getLast mem⟩

/-- The greatest member depends on the members only. -/
theorem max?_congr {xs ys : List Int} (same : ∀ x, x ∈ xs ↔ x ∈ ys) : xs.max? = ys.max? := by
  cases top : ys.max? with
  | none =>
    rw [List.max?_eq_none_iff] at top ⊢
    subst top
    exact List.eq_nil_iff_forall_not_mem.mpr fun x mem => by simpa using (same x).mp mem
  | some m =>
    rw [List.max?_eq_some_iff] at top ⊢
    exact ⟨(same m).mpr top.1, fun y mem => top.2 y ((same y).mp mem)⟩

/-! ### Filling gaps -/

/-- The number `fillGaps` ends on is the last of the list, or the start for
an empty list. -/
theorem fillGaps_snd : ∀ (last : Int) (ns : List Int), (fillGaps last ns).2 = ns.getLast?.getD last
  | _, [] => rfl
  | last, n :: rest => by
    simp only [fillGaps]
    rw [fillGaps_snd n rest, List.getLast?_cons, Option.getD_some]

/-- The numbers `fillGaps` adds are those strictly between consecutive
numbers of `last, ns` that are two to four apart. -/
theorem mem_fillGaps_iff {x : Int} : ∀ {last : Int} {ns : List Int}, x ∈ (fillGaps last ns).1 ↔
    ∃ a b, (a, b) ∈ (last :: ns).zip ns ∧ a + 1 < b ∧ b < a + 5 ∧ a < x ∧ x < b
  | _, [] => by simp [fillGaps]
  | last, n :: rest => by
    rw [mem_fillGaps_cons, mem_fillGaps_iff, List.zip_cons_cons]
    constructor
    · rintro (⟨gap⟩ | ⟨a, b, mem, gap⟩)
      · exact ⟨last, n, List.mem_cons_self, gap⟩
      · exact ⟨a, b, List.mem_cons_of_mem _ mem, gap⟩
    · rintro ⟨a, b, mem, gap⟩
      rcases List.mem_cons.mp mem with same | later
      · obtain ⟨rfl, rfl⟩ := Prod.mk.inj same
        exact Or.inl gap
      · exact Or.inr ⟨a, b, later, gap⟩

/-- Each number `fillGaps` adds lies below a number of the list. -/
theorem lt_of_mem_fillGaps {last x : Int} {ns : List Int} (mem : x ∈ (fillGaps last ns).1) :
    ∃ b ∈ ns, x < b := by
  obtain ⟨a, b, pair, -, -, -, below⟩ := mem_fillGaps_iff.mp mem
  exact ⟨b, (List.of_mem_zip pair).2, below⟩

/-- Over the sorted members, from line 0, `fillGaps` ends on the greatest
member, or on 0 when there is none. -/
theorem fillGaps_sortedMembers_snd (shown : List Int) :
    (fillGaps 0 (sortedMembers shown)).2 = shown.max?.getD 0 := by
  rw [fillGaps_snd, getLast?_eq_max? (sortedMembers_strict shown), max?_congr fun _ => mem_sortedMembers]

/-! ### The numbers filled out -/

/-- A number is filled out from `shown` when it is a member, a number
`fillGaps` adds from line 0 over the sorted members, or one of the lines
after the greatest member (0 for none) when fewer than five follow it. -/
theorem mem_expandShown {lineCount : Nat} {shown : List Int} {x : Int} :
    x ∈ expandShown lineCount shown ↔ x ∈ shown ∨ x ∈ (fillGaps 0 (sortedMembers shown)).1 ∨
      ((lineCount : Int) < shown.max?.getD 0 + 5 ∧ shown.max?.getD 0 < x ∧ x ≤ lineCount) := by
  have top := fillGaps_sortedMembers_snd shown
  unfold expandShown
  dsimp only
  rcases fill : fillGaps 0 (sortedMembers shown) with ⟨gaps, last⟩
  rw [fill] at top
  dsimp only at top ⊢
  subst top
  rw [mem_sortedMembers, List.mem_append, List.mem_append, mem_sortedMembers, or_assoc]
  refine or_congr_right (or_congr_right ?_)
  split
  · rw [mem_intRange]
    omega
  · simp only [List.not_mem_nil, false_iff]
    omega

theorem expandShown_strict (lineCount : Nat) (shown : List Int) :
    (expandShown lineCount shown).Pairwise (· < ·) := by
  unfold expandShown
  exact sortedMembers_strict _

/-- The numbers filled out from a set are the set, the numbers strictly
between consecutive numbers of `0, sorted set` that are two to four apart,
and the lines after the greatest member (0 for an empty set) up to the last
line of the source when fewer than five lines follow it. -/
theorem mem_expandShown_iff {lineCount : Nat} {shown : List Int} {x : Int} :
    x ∈ expandShown lineCount shown ↔ x ∈ shown ∨
      (∃ a b, (a, b) ∈ (0 :: shown.toFinset.sort (· ≤ ·)).zip (shown.toFinset.sort (· ≤ ·)) ∧
        2 ≤ b - a ∧ b - a ≤ 4 ∧ a < x ∧ x < b) ∨
      ((lineCount : Int) < shown.max?.getD 0 + 5 ∧ shown.max?.getD 0 < x ∧ x ≤ lineCount) := by
  rw [mem_expandShown, mem_fillGaps_iff, sortedMembers_eq_sort]
  refine or_congr_right (or_congr_left ?_)
  constructor
  · rintro ⟨a, b, pair, wide, narrow, ax, xb⟩
    exact ⟨a, b, pair, by omega, by omega, ax, xb⟩
  · rintro ⟨a, b, pair, wide, narrow, ax, xb⟩
    exact ⟨a, b, pair, by omega, by omega, ax, xb⟩

/-! ### The greatest number filled out -/

theorem le_max?_getD {xs : List Int} {y : Int} (d : Int) (mem : y ∈ xs) : y ≤ xs.max?.getD d := by
  obtain ⟨m, top⟩ := Option.isSome_iff_exists.mp (List.isSome_max?_of_mem mem)
  rw [top, Option.getD_some]
  exact (List.max?_eq_some_iff.mp top).2 y mem

theorem max?_getD_mem (xs : List Int) (d : Int) : xs.max?.getD d ∈ d :: xs := by
  cases top : xs.max? with
  | none => exact List.mem_cons_self
  | some m => exact List.mem_cons_of_mem d (List.max?_eq_some_iff.mp top).1

/-- A number with every member at or below it that is a member, or is `d`
for an empty list, is the greatest member (`d` for none). -/
theorem max?_getD_eq {xs : List Int} {d m : Int} (above : ∀ y ∈ xs, y ≤ m)
    (attained : m ∈ xs ∨ xs = [] ∧ m = d) : xs.max?.getD d = m := by
  rcases attained with mem | ⟨rfl, rfl⟩
  · rw [List.max?_eq_some_iff.mpr ⟨mem, above⟩, Option.getD_some]
  · rfl

/-- The greatest number filled out is the greatest member `M` (0 for an
empty set), or the last line of the source when that lies past `M` and
fewer than five lines follow `M`. -/
theorem expandShown_max?_getD (lineCount : Nat) (shown : List Int) :
    (expandShown lineCount shown).max?.getD 0 =
      if (lineCount : Int) < shown.max?.getD 0 + 5 then max (shown.max?.getD 0) lineCount
      else shown.max?.getD 0 := by
  apply max?_getD_eq
  · intro y mem
    rcases mem_expandShown.mp mem with member | gap | ⟨short, -, upTo⟩
    · have := le_max?_getD 0 member
      split <;> omega
    · -- a gap lies below a member
      obtain ⟨b, member, below⟩ := lt_of_mem_fillGaps gap
      have := le_max?_getD 0 (mem_sortedMembers.mp member)
      split <;> omega
    · rw [if_pos short]
      omega
  · by_cases end_ : (lineCount : Int) < shown.max?.getD 0 + 5 ∧ shown.max?.getD 0 < lineCount
    · -- the last line is filled out, past every member
      left
      rw [if_pos end_.1, max_eq_right (Int.le_of_lt end_.2)]
      exact mem_expandShown.mpr (Or.inr (Or.inr ⟨end_.1, end_.2, Int.le_refl _⟩))
    · have atTop : (if (lineCount : Int) < shown.max?.getD 0 + 5 then max (shown.max?.getD 0) lineCount
          else shown.max?.getD 0) = shown.max?.getD 0 := by
        split <;> omega
      rw [atTop]
      cases top : shown.max? with
      | some m =>
        exact Or.inl (mem_expandShown.mpr (Or.inl (List.max?_eq_some_iff.mp top).1))
      | none =>
        -- an empty set: nothing is filled out
        rw [List.max?_eq_none_iff] at top
        subst top
        right
        refine ⟨List.eq_nil_iff_forall_not_mem.mpr fun y mem => ?_, rfl⟩
        rcases mem_expandShown.mp mem with member | gap | ⟨short, past, upTo⟩
        · cases member
        · cases gap
        · simp only [List.max?_nil, Option.getD_none] at end_ short past
          omega

/-! ### No short gap is left -/

/-- Putting the numbers from `lo` up to the least member in front keeps
short gaps filled. -/
theorem ShortGapsFilled.run_before {xs : List Int} {lo m : Int} (filled : ShortGapsFilled xs)
    (least : m ∈ xs) (below : ∀ y ∈ xs, m ≤ y) : ShortGapsFilled (intRange lo m ++ xs) := by
  intro a ha b hb near x ax xb
  rw [List.mem_append, mem_intRange] at ha hb ⊢
  rcases Int.lt_trichotomy x m with before | rfl | after
  · -- `a` lies below `x`, so below every member: it is in the run
    left
    rcases ha with ⟨low, -⟩ | member
    · exact ⟨by omega, before⟩
    · have := below a member
      omega
  · exact Or.inr least
  · -- `b` lies past the least member, so it is a member, and so is `m`
    right
    have far : b ∈ xs := by
      rcases hb with ⟨-, high⟩ | member
      · omega
      · exact member
    rcases ha with ⟨-, high⟩ | member
    · exact filled m least b far (by omega) x after xb
    · exact filled a member b far near x ax xb

/-- Whatever the set, two numbers filled out from it that are less than
five apart have every number between them filled out. -/
theorem expandShown_filled (lineCount : Nat) (shown : List Int) :
    ShortGapsFilled (expandShown lineCount shown) := by
  have top := fillGaps_sortedMembers_snd shown
  cases sorted : sortedMembers shown with
  | nil =>
    -- no members: only the lines of a short source are filled out
    intro a ha b hb near x ax xb
    rw [mem_expandShown, ← mem_sortedMembers, sorted] at ha hb ⊢
    rw [sorted] at top
    simp only [fillGaps, List.not_mem_nil, false_or] at ha hb top ⊢
    rw [← top] at ha hb ⊢
    omega
  | cons first rest =>
    have strict := sorted ▸ sortedMembers_strict shown
    rw [sorted] at top
    simp only [fillGaps] at top
    -- the members from the least on, with the gaps between them
    have core := fillGaps_short_gaps_filled strict
    have atMost := fillGaps_below_final strict
    have least : ∀ y ∈ first :: rest ++ (fillGaps first rest).1, first ≤ y := by
      intro y mem
      rcases List.mem_append.mp mem with member | gap
      · rcases List.mem_cons.mp member with rfl | later
        · exact Int.le_refl _
        · exact Int.le_of_lt ((List.pairwise_cons.mp strict).1 y later)
      · exact Int.le_of_lt (fillGaps_above strict y gap)
    -- the gap before the least member, counted from line 0
    have front : ShortGapsFilled ((if 1 < first ∧ first < 5 then intRange 1 first else []) ++
        (first :: rest ++ (fillGaps first rest).1)) := by
      split
      · exact core.run_before (List.mem_append_left _ List.mem_cons_self) least
      · exact core
    have whole := front.append_tail (lineCount : Int)
      (List.mem_append_right _ (List.mem_append_left _ (fillGaps_final_mem first rest)))
      (by
        intro y mem
        rcases List.mem_append.mp mem with run | member
        · split at run
          · have := (mem_intRange.mp run).2
            have := atMost first (List.mem_append_left _ List.mem_cons_self)
            omega
          · cases run
        · exact atMost y member)
    refine whole.congr fun x => ?_
    rw [mem_expandShown, ← @mem_sortedMembers x shown, sorted, mem_fillGaps_cons, ← top]
    simp only [List.mem_append, List.mem_cons]
    constructor
    · rintro ((run | member | gap) | tail)
      · split at run
        · exact Or.inr (Or.inl (Or.inl ⟨by omega, by omega, (mem_intRange.mp run).1.trans_lt' (by omega),
            (mem_intRange.mp run).2⟩))
        · cases run
      · exact Or.inl member
      · exact Or.inr (Or.inl (Or.inr gap))
      · split at tail
        · exact Or.inr (Or.inr (by rw [mem_intRange] at tail; omega))
        · cases tail
    · rintro (member | (⟨wide, narrow, ax, xb⟩ | gap) | tail)
      · exact Or.inl (Or.inr (Or.inl member))
      · exact Or.inl (Or.inl (by rw [if_pos ⟨by omega, by omega⟩, mem_intRange]; omega))
      · exact Or.inl (Or.inr (Or.inr gap))
      · exact Or.inr (by rw [if_pos tail.1, mem_intRange]; omega)

/-- No number two to four past line 0 is the least number filled out: when
one is filled out, so is a smaller one (line 1, or the least member). -/
theorem expandShown_not_least (lineCount : Nat) (shown : List Int) {b : Int}
    (mem : b ∈ expandShown lineCount shown) (low : 1 < b) (high : b < 5) :
    ∃ y ∈ expandShown lineCount shown, y < b := by
  have top := fillGaps_sortedMembers_snd shown
  rw [mem_expandShown] at mem
  cases sorted : sortedMembers shown with
  | nil =>
    -- no members: `b` is a line of a short source, and so is line 1
    have empty : shown = [] :=
      List.eq_nil_iff_forall_not_mem.mpr fun y member => by simpa [sorted] using mem_sortedMembers.mpr member
    subst empty
    simp only [List.not_mem_nil, sortedMembers, List.foldr_nil, fillGaps, List.max?_nil,
      Option.getD_none, false_or] at mem
    exact ⟨1, mem_expandShown.mpr (Or.inr (Or.inr (by simp only [List.max?_nil, Option.getD_none]; omega))),
      low⟩
  | cons first rest =>
    have strict := sorted ▸ sortedMembers_strict shown
    have firstMem : first ∈ shown := mem_sortedMembers.mp (sorted ▸ List.mem_cons_self)
    by_cases before : first < b
    · exact ⟨first, mem_expandShown.mpr (Or.inl firstMem), before⟩
    -- otherwise `b` is the least member, and the gap before it is filled from line 1
    have gapFromOne : 1 < first ∧ first < 5 → 1 ∈ expandShown lineCount shown := by
      rintro ⟨wide, narrow⟩
      refine mem_expandShown.mpr (Or.inr (Or.inl ?_))
      rw [sorted, mem_fillGaps_cons]
      exact Or.inl ⟨by omega, by omega, by omega, wide⟩
    rw [sorted, mem_fillGaps_cons] at mem
    rcases mem with member | (⟨wide, narrow, -, -⟩ | gap) | ⟨-, past, -⟩
    · rw [← mem_sortedMembers, sorted] at member
      rcases List.mem_cons.mp member with rfl | later
      · exact ⟨1, gapFromOne ⟨low, high⟩, low⟩
      · have := (List.pairwise_cons.mp strict).1 b later
        omega
    · exact ⟨1, gapFromOne ⟨by omega, by omega⟩, low⟩
    · have := fillGaps_above strict b gap
      omega
    · have := le_max?_getD 0 firstMem
      omega

/-- Consecutive numbers of an increasing list whose short gaps are filled
are adjacent or at least five apart. -/
theorem step_of_mem_zip {e a b : Int} {es : List Int} (sorted : (e :: es).Pairwise (· < ·))
    (filled : ShortGapsFilled (e :: es)) (pair : (a, b) ∈ (e :: es).zip es) : b = a + 1 ∨ a + 5 ≤ b := by
  -- the chain of steps, read off one consecutive pair at a time
  have chain := isChain_steps_of_filled sorted filled
  induction es generalizing e with
  | nil => cases pair
  | cons f fs ih =>
    rw [List.zip_cons_cons] at pair
    rcases List.mem_cons.mp pair with same | later
    · obtain ⟨rfl, rfl⟩ := Prod.mk.inj same
      exact (List.isChain_cons_cons.mp chain).1
    · exact ih (List.pairwise_cons.mp sorted).2 (filled.of_cons (List.pairwise_cons.mp sorted).1) later
        (List.isChain_cons_cons.mp chain).2

/-- Filling out a filled-out set adds nothing. -/
theorem expandShown_idempotent (lineCount : Nat) (shown : List Int) :
    expandShown lineCount (expandShown lineCount shown) = expandShown lineCount shown := by
  have strict := expandShown_strict lineCount shown
  refine List.Pairwise.eq_of_mem_iff (expandShown_strict _ _) strict fun x => ?_
  rw [mem_expandShown, List.Pairwise.eq_of_mem_iff (sortedMembers_strict _) strict fun _ => mem_sortedMembers]
  constructor
  · rintro (member | gap | ⟨short, past, upTo⟩)
    · exact member
    · -- no gap of the filled-out set is short, nor is the one after line 0
      exfalso
      obtain ⟨a, b, pair, wide, narrow, -, -⟩ := mem_fillGaps_iff.mp gap
      cases filled : expandShown lineCount shown with
      | nil => rw [filled] at pair; cases pair
      | cons e es =>
        rw [filled, List.zip_cons_cons] at pair
        rw [filled] at strict
        rcases List.mem_cons.mp pair with same | later
        · obtain ⟨rfl, rfl⟩ := Prod.mk.inj same
          obtain ⟨y, mem, below⟩ := expandShown_not_least lineCount shown (filled ▸ List.mem_cons_self)
            (by omega) (by omega)
          rw [filled] at mem
          rcases List.mem_cons.mp mem with rfl | later
          · omega
          · have := (List.pairwise_cons.mp strict).1 y later
            omega
        · have := step_of_mem_zip strict (filled ▸ expandShown_filled lineCount shown) later
          omega
    · -- the end of the source is already reached when it is near
      exfalso
      rw [expandShown_max?_getD] at short past
      split at short <;> split at past <;> omega
  · exact Or.inl

/-! ### Sets of lines of the source -/

section Source

variable {lineCount : Nat} {shown larger : List Int}

/-- For a set of lines of the source, line 0 put in front of what is filled
out leaves no short gap either: a line two to four past it brings line 1. -/
theorem expandShown_filled_from_zero (inSource : ∀ n ∈ shown, 1 ≤ n ∧ n ≤ lineCount) :
    ShortGapsFilled (0 :: expandShown lineCount shown) := by
  have filled := expandShown_filled lineCount shown
  have positive := fun x mem => ((Check.expandShown_bounds inSource).1 x mem).1
  intro a ha b hb near x ax xb
  rcases List.mem_cons.mp hb with rfl | far
  · rcases List.mem_cons.mp ha with rfl | start
    · omega
    · have := positive a start
      omega
  rcases List.mem_cons.mp ha with rfl | start
  · -- the least number filled out is line 1, as no other below five can be least
    obtain ⟨least, leastMem, leastBelow⟩ : ∃ m ∈ expandShown lineCount shown,
        ∀ y ∈ expandShown lineCount shown, m ≤ y := by
      obtain ⟨m, isMin⟩ := Option.isSome_iff_exists.mp (List.isSome_min?_of_mem far)
      exact ⟨m, (List.min?_eq_some_iff.mp isMin).1, (List.min?_eq_some_iff.mp isMin).2⟩
    have one : least = 1 := by
      have := positive least leastMem
      have := leastBelow b far
      by_contra other
      obtain ⟨y, mem, below⟩ := expandShown_not_least lineCount shown leastMem (by omega) (by omega)
      have := leastBelow y mem
      omega
    subst one
    rcases Int.lt_or_eq_of_le (show 1 ≤ x by omega) with after | rfl
    · exact List.mem_cons_of_mem 0 (filled 1 leastMem b far (by omega) x after xb)
    · exact List.mem_cons_of_mem 0 leastMem
  · exact List.mem_cons_of_mem 0 (filled a start b far near x ax xb)

/-- On sets of lines of the source, filling out is monotone. -/
theorem expandShown_mono (inSource : ∀ n ∈ larger, 1 ≤ n ∧ n ≤ lineCount) (sub : shown ⊆ larger) :
    expandShown lineCount shown ⊆ expandShown lineCount larger := by
  have filled := expandShown_filled_from_zero inSource
  have listed := (Check.expandShown_bounds inSource).2
  -- a number after line 0 with a number filled out from `larger` less than
  -- five past it, and line 0 or a member of `shown` before it, is filled out
  have between : ∀ {a b x : Int}, a ∈ 0 :: shown → b ∈ expandShown lineCount larger → b < a + 5 →
      a < x → x ≤ b → x ∈ expandShown lineCount larger := by
    intro a b x start far near ax xb
    have atStart : a ∈ 0 :: expandShown lineCount larger := by
      rcases List.mem_cons.mp start with rfl | member
      · exact List.mem_cons_self
      · exact List.mem_cons_of_mem 0 (listed (sub member))
    have nonneg : 0 ≤ a := by
      rcases List.mem_cons.mp start with rfl | member
      · exact Int.le_refl 0
      · have := (inSource a (sub member)).1
        omega
    rcases Int.lt_or_eq_of_le xb with before | rfl
    · rcases List.mem_cons.mp (filled a atStart b (List.mem_cons_of_mem 0 far) near x ax before)
        with zero | mem
      · omega
      · exact mem
    · exact far
  intro x mem
  rcases mem_expandShown.mp mem with member | gap | ⟨short, past, upTo⟩
  · exact listed (sub member)
  · obtain ⟨a, b, pair, -, narrow, ax, xb⟩ := mem_fillGaps_iff.mp gap
    obtain ⟨start, far⟩ := List.of_mem_zip pair
    rw [List.mem_cons, mem_sortedMembers, ← List.mem_cons] at start
    rw [mem_sortedMembers] at far
    exact between start (listed (sub far)) narrow ax (Int.le_of_lt xb)
  · -- the greatest member of `larger` lies at or past that of `shown`, so the
    -- last line of the source is filled out from `larger` too
    have topMem := max?_getD_mem shown 0
    have larger_top : shown.max?.getD 0 ≤ larger.max?.getD 0 := by
      rcases List.mem_cons.mp topMem with zero | member
      · rcases List.mem_cons.mp (max?_getD_mem larger 0) with zero' | member'
        · omega
        · have := (inSource _ member').1
          omega
      · exact le_max?_getD 0 (sub member)
    have lastLine : (lineCount : Int) ∈ expandShown lineCount larger := by
      rcases Int.lt_or_le (larger.max?.getD 0) lineCount with before | atLeast
      · exact mem_expandShown.mpr (Or.inr (Or.inr ⟨by omega, before, Int.le_refl _⟩))
      · rcases List.mem_cons.mp (max?_getD_mem larger 0) with zero | member
        · have := (show (0 : Int) ≤ shown.max?.getD 0 by
            rcases List.mem_cons.mp topMem with zero' | member'
            · omega
            · have := (inSource _ (sub member')).1
              omega)
          omega
        · have := (inSource _ member).2
          rw [show (lineCount : Int) = larger.max?.getD 0 by omega]
          exact listed member
    exact between topMem lastLine short past upTo

end Source

/-! ### The lines shown -/

/-- The numbers filled out from a set of integers are exactly the set, the
numbers strictly between consecutive numbers of `0, sorted set` that are two
to four apart, and the lines after the greatest member (0 for an empty set)
up to the last line of the source when fewer than five lines follow it.
Filling out a filled-out set adds nothing, and on sets of lines of the source
filling out is monotone and gives lines of the source. -/
theorem expandShown_exact (lineCount : Nat) (shown : List Int) :
    (∀ x, x ∈ expandShown lineCount shown ↔ x ∈ shown ∨
      (∃ a b, (a, b) ∈ (0 :: shown.toFinset.sort (· ≤ ·)).zip (shown.toFinset.sort (· ≤ ·)) ∧
        2 ≤ b - a ∧ b - a ≤ 4 ∧ a < x ∧ x < b) ∨
      ((lineCount : Int) < shown.max?.getD 0 + 5 ∧ shown.max?.getD 0 < x ∧ x ≤ lineCount)) ∧
    expandShown lineCount (expandShown lineCount shown) = expandShown lineCount shown ∧
    (∀ larger : List Int, (∀ n ∈ larger, 1 ≤ n ∧ n ≤ lineCount) → shown ⊆ larger →
      expandShown lineCount shown ⊆ expandShown lineCount larger) ∧
    ((∀ n ∈ shown, 1 ≤ n ∧ n ≤ lineCount) → ∀ x ∈ expandShown lineCount shown, 1 ≤ x ∧ x ≤ lineCount) :=
  ⟨fun _ => mem_expandShown_iff, expandShown_idempotent lineCount shown,
    fun _ inSource sub => expandShown_mono inSource sub, fun inSource => (Check.expandShown_bounds inSource).1⟩

/-- Lines 4 and 13 of a 14-line source, and the same with line 9: the first
set fills out to lines 1 to 4 and 13 to 14, inside what the second fills
out to. -/
theorem expandShown_lines_four_and_thirteen :
    expandShown 14 [4, 13] ⊆ expandShown 14 [4, 9, 13] ∧ ∀ x ∈ expandShown 14 [4, 13], 1 ≤ x ∧ x ≤ 14 :=
  ⟨(expandShown_exact 14 [4, 13]).2.2.1 [4, 9, 13] (by decide) (by decide),
    (expandShown_exact 14 [4, 13]).2.2.2 (by decide)⟩

/- A number past the source stops the end of the source from being filled
out: the expansion is not monotone beyond the source. -/
example : expandShown 5 [3] = [1, 2, 3, 4, 5] ∧ expandShown 5 [3, 100] = [1, 2, 3, 100] := by decide

end CInspect.Indent
