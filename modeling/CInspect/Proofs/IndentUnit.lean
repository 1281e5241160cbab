import CInspect.Check.Layout
import Mathlib.Data.List.Basic
import Mathlib.Data.List.Perm.Subperm
import Mathlib.Data.List.Induction
import Mathlib.Data.List.Nodup
/-!
The indentation unit of a function.

Judging a function starts from the lines it records: for each line, the
first item the walk of its bodies meets there (`recordedIndents`). The
positive relative indentations of those lines, in record order
(`positiveIndents`), are tallied (`countValues`); the tally is sorted by
count with a stable sort (`byFrequency`), and its head is the unit. A
function with fewer than two different positive relative indentations is
not judged.

* `countValues_tally`: the tally holds every value of the list once, with
  its number of occurrences, in the order the values first occur
  (`TallyOf`).
* `IsIndentUnit`: the most frequent value of a list, ties going to the one
  that occurs first; at most one value is it (`IsIndentUnit.unique`).
* `byFrequency_head`: the head of the sorted tally is that value.
* `judgeFunction_unjudged` and `judgeFunction_judged`: what judging a
  function gives in each case.
-/

namespace CInspect.Check

open CInspect.Tree CInspect.Indent

/-! ### The first record of each line -/

section FirstPerLine

variable {α : Type}

theorem mem_of_mem_firstPerLine {seen : List Nat} {xs : List (Nat × α)} {p : Nat × α}
    (h : p ∈ firstPerLine seen xs) : p ∈ xs := by
  induction xs generalizing seen with
  | nil => simp [firstPerLine] at h
  | cons q rest ih =>
    simp only [firstPerLine] at h
    split at h
    · exact List.mem_cons_of_mem q (ih h)
    · rcases List.mem_cons.mp h with rfl | later
      · exact List.mem_cons_self
      · exact List.mem_cons_of_mem q (ih later)

theorem not_mem_seen_of_mem_firstPerLine {seen : List Nat} {xs : List (Nat × α)} {p : Nat × α}
    (h : p ∈ firstPerLine seen xs) : p.1 ∉ seen := by
  induction xs generalizing seen with
  | nil => simp [firstPerLine] at h
  | cons q rest ih =>
    simp only [firstPerLine] at h
    split at h
    · exact ih h
    · next fresh =>
      rcases List.mem_cons.mp h with rfl | later
      · simpa using fresh
      · exact fun mem => ih later (List.mem_cons_of_mem _ mem)

/-- Each line has at most one record. -/
theorem nodup_lines_firstPerLine (seen : List Nat) (xs : List (Nat × α)) :
    ((firstPerLine seen xs).map (·.1)).Nodup := by
  induction xs generalizing seen with
  | nil => simp [firstPerLine]
  | cons q rest ih =>
    simp only [firstPerLine]
    split
    · exact ih seen
    · refine List.nodup_cons.mpr ⟨?_, ih (q.1 :: seen)⟩
      intro mem
      obtain ⟨p, hp, same⟩ := List.mem_map.mp mem
      exact not_mem_seen_of_mem_firstPerLine hp (same ▸ List.mem_cons_self)

end FirstPerLine

/-! ### The tally -/

/-- What a tally of `xs` holds: each value of `xs` once, with its number of
occurrences, the values in the order they first occur in `xs`. -/
structure TallyOf (xs : List Int) (t : List (Int × Nat)) : Prop where
  mem_keys : ∀ v, v ∈ t.map (·.1) ↔ v ∈ xs
  nodup_keys : (t.map (·.1)).Nodup
  count_eq : ∀ p ∈ t, p.2 = xs.count p.1
  ordered : (t.map (·.1)).Pairwise (fun a b => xs.idxOf a < xs.idxOf b)

theorem countValues_nil : countValues [] = [] := rfl

/-- Tallying one more value: its count goes up if it is tallied already,
else it goes last with count one. -/
theorem countValues_append_singleton (xs : List Int) (x : Int) :
    countValues (xs ++ [x]) =
      if (countValues xs).any (·.1 = x) then
        (countValues xs).map (fun p => if p.1 = x then (p.1, p.2 + 1) else p)
      else countValues xs ++ [(x, 1)] := by
  simp only [countValues, List.foldl_append, List.foldl_cons, List.foldl_nil]

namespace TallyOf

variable {xs : List Int} {t : List (Int × Nat)} {x : Int}

/-- Appending a value keeps the order in which the tallied values first
occur. -/
theorem ordered_append (h : TallyOf xs t) :
    (t.map (·.1)).Pairwise (fun a b => (xs ++ [x]).idxOf a < (xs ++ [x]).idxOf b) := by
  refine List.Pairwise.imp_of_mem ?_ h.ordered
  intro a b ha hb lt
  rw [List.idxOf_append_of_mem ((h.mem_keys a).mp ha), List.idxOf_append_of_mem ((h.mem_keys b).mp hb)]
  exact lt

/-- A value tallied already: its count goes up and the values stay in
place. -/
theorem bump (h : TallyOf xs t) (old : x ∈ xs) :
    TallyOf (xs ++ [x]) (t.map (fun p => if p.1 = x then (p.1, p.2 + 1) else p)) := by
  have keys : (t.map (fun p => if p.1 = x then (p.1, p.2 + 1) else p)).map (·.1) = t.map (·.1) := by
    rw [List.map_map]
    apply List.map_congr_left
    intro p _
    by_cases same : p.1 = x <;> simp [same]
  refine ⟨?_, ?_, ?_, ?_⟩
  · intro v
    rw [keys, h.mem_keys]
    simp only [List.mem_append, List.mem_singleton]
    constructor
    · exact Or.inl
    · rintro (mem | rfl)
      · exact mem
      · exact old
  · rw [keys]
    exact h.nodup_keys
  · intro p hp
    obtain ⟨q, hq, rfl⟩ := List.mem_map.mp hp
    have counted := h.count_eq _ hq
    by_cases same : q.1 = x
    · simp [same, counted, List.count_append]
    · simp [same, counted, List.count_append, List.count_eq_zero.mpr (by simp [same] : q.1 ∉ [x])]
  · rw [keys]
    exact h.ordered_append

/-- A new value goes last with count one. -/
theorem push (h : TallyOf xs t) (fresh : x ∉ xs) : TallyOf (xs ++ [x]) (t ++ [(x, 1)]) := by
  refine ⟨?_, ?_, ?_, ?_⟩
  · intro v
    simp [List.map_append, h.mem_keys]
  · rw [List.map_append, List.nodup_append]
    refine ⟨h.nodup_keys, by simp, ?_⟩
    intro a ha b hb same
    simp only [List.map_cons, List.map_nil, List.mem_singleton] at hb
    subst hb same
    exact fresh ((h.mem_keys _).mp ha)
  · intro p hp
    rcases List.mem_append.mp hp with old | new
    · have mem := (h.mem_keys p.1).mp (List.mem_map_of_mem old)
      have other : p.1 ≠ x := fun same => fresh (same ▸ mem)
      rw [h.count_eq p old, List.count_append]
      simp [List.count_eq_zero.mpr (by simp [other] : p.1 ∉ [x])]
    · simp only [List.mem_singleton] at new
      subst new
      simp [List.count_append, List.count_eq_zero_of_not_mem fresh]
  · rw [List.map_append, List.pairwise_append]
    refine ⟨h.ordered_append, by simp, ?_⟩
    -- the new value occurs first after every value tallied before it
    intro a ha b hb
    simp only [List.map_cons, List.map_nil, List.mem_singleton] at hb
    subst hb
    have mem := (h.mem_keys a).mp ha
    rw [List.idxOf_append_of_mem mem, List.idxOf_append_of_notMem fresh, List.idxOf_cons_self]
    exact Nat.lt_of_lt_of_le (List.idxOf_lt_length_of_mem mem) (Nat.le_add_right _ _)

end TallyOf

/-- The tally of a list is a tally of it. -/
theorem countValues_tally (xs : List Int) : TallyOf xs (countValues xs) := by
  induction xs using List.reverseRecOn with
  | nil => exact ⟨by simp [countValues_nil], by simp [countValues_nil], by simp [countValues_nil],
      by simp [countValues_nil]⟩
  | append_singleton xs x ih =>
    rw [countValues_append_singleton]
    split
    · next seen =>
      obtain ⟨p, hp, same⟩ := List.any_eq_true.mp seen
      exact ih.bump ((ih.mem_keys x).mp (List.mem_map.mpr ⟨p, hp, of_decide_eq_true same⟩))
    · next unseen =>
      refine ih.push fun mem => ?_
      obtain ⟨p, hp, same⟩ := List.mem_map.mp ((ih.mem_keys x).mpr mem)
      exact unseen (List.any_eq_true.mpr ⟨p, hp, decide_eq_true same⟩)

namespace TallyOf

variable {xs : List Int} {t : List (Int × Nat)}

theorem nodup (h : TallyOf xs t) : t.Nodup :=
  List.Nodup.of_map _ h.nodup_keys

/-- Every value of the list has its entry in the tally. -/
theorem entry_of_mem (h : TallyOf xs t) {v : Int} (mem : v ∈ xs) : (v, xs.count v) ∈ t := by
  obtain ⟨p, hp, rfl⟩ := List.mem_map.mp ((h.mem_keys v).mpr mem)
  rw [← h.count_eq p hp]
  exact hp

/-- A tally has at most one entry when the list has no two different values. -/
theorem length_le_one (h : TallyOf xs t) (same : ∀ a ∈ xs, ∀ b ∈ xs, a = b) : t.length ≤ 1 := by
  match t, h with
  | [], _ => simp
  | [_], _ => simp
  | p :: q :: rest, h =>
    have hp := (h.mem_keys p.1).mp (by simp)
    have hq := (h.mem_keys q.1).mp (by simp)
    have distinct : p.1 ≠ q.1 := by
      have nd := h.nodup_keys
      simp only [List.map_cons, List.nodup_cons, List.mem_cons, not_or] at nd
      exact nd.1.1
    exact absurd (same _ hp _ hq) distinct

/-- A tally has two entries or more exactly when the list holds two
different values. -/
theorem two_le_length_iff (h : TallyOf xs t) :
    2 ≤ t.length ↔ ∃ a ∈ xs, ∃ b ∈ xs, a ≠ b := by
  constructor
  · intro two
    match t, h, two with
    | p :: q :: rest, h, _ =>
      have nd := h.nodup_keys
      simp only [List.map_cons, List.nodup_cons, List.mem_cons, not_or] at nd
      exact ⟨p.1, (h.mem_keys p.1).mp (by simp), q.1, (h.mem_keys q.1).mp (by simp), nd.1.1⟩
  · rintro ⟨a, ha, b, hb, distinct⟩
    have sub : [a, b] ⊆ t.map (·.1) := by
      intro v hv
      simp only [List.mem_cons, List.not_mem_nil, or_false] at hv
      rcases hv with rfl | rfl
      · exact (h.mem_keys _).mpr ha
      · exact (h.mem_keys _).mpr hb
    have pair : [a, b].Nodup := by simp [distinct]
    simpa using (pair.subperm sub).length_le

end TallyOf

/-! ### The unit -/

/-- `u` is the most frequent value of `xs`, ties going to the value that
occurs first. -/
structure IsIndentUnit (xs : List Int) (u : Int) : Prop where
  mem : u ∈ xs
  most : ∀ v ∈ xs, xs.count v ≤ xs.count u
  first : ∀ v ∈ xs, xs.count v = xs.count u → xs.idxOf u ≤ xs.idxOf v

theorem IsIndentUnit.unique {xs : List Int} {u u' : Int} (h : IsIndentUnit xs u)
    (h' : IsIndentUnit xs u') : u = u' := by
  have tie : xs.count u' = xs.count u :=
    Nat.le_antisymm (h.most u' h'.mem) (h'.most u h.mem)
  have le := h.first u' h'.mem tie
  have ge := h'.first u h.mem tie.symm
  exact (List.idxOf_inj h.mem).mp (Nat.le_antisymm le ge)

/-- The order the tally is sorted in: by count, most frequent first. -/
private theorem byCount_trans (a b c : Int × Nat) :
    decide (a.2 ≥ b.2) = true → decide (b.2 ≥ c.2) = true → decide (a.2 ≥ c.2) = true := by
  simp only [decide_eq_true_eq]; omega

private theorem byCount_total (a b : Int × Nat) : (decide (a.2 ≥ b.2) || decide (b.2 ≥ a.2)) = true := by
  simp only [Bool.or_eq_true, decide_eq_true_eq]; omega

/-- An entry that comes after another in a tally occurs first later in the list. -/
theorem TallyOf.sublist_of_idxOf_lt {xs : List Int} {t : List (Int × Nat)} (h : TallyOf xs t)
    {p q : Int × Nat} (hp : p ∈ t) (hq : q ∈ t) (lt : xs.idxOf p.1 < xs.idxOf q.1) :
    List.Sublist [p, q] t := by
  obtain ⟨A, B, rfl⟩ := List.append_of_mem hq
  have ordered := h.ordered
  rw [List.map_append, List.map_cons, List.pairwise_append, List.pairwise_cons] at ordered
  rcases List.mem_append.mp hp with before | after
  · exact (List.singleton_sublist.mpr before).append (List.singleton_sublist.mpr List.mem_cons_self)
  · rcases List.mem_cons.mp after with rfl | later
    · exact absurd lt (Nat.lt_irrefl _)
    · exact absurd (ordered.2.1.1 _ (List.mem_map_of_mem later)) (Nat.lt_asymm lt)

/-- The head of the sorted tally is the unit of the list. -/
theorem byFrequency_head {xs : List Int} {t : List (Int × Nat)} (h : TallyOf xs t)
    {u : Int} {k : Nat} {rest : List (Int × Nat)} (sorted : byFrequency t = (u, k) :: rest) :
    IsIndentUnit xs u := by
  have inT : (u, k) ∈ t := List.mem_mergeSort.mp (sorted ▸ List.mem_cons_self)
  have hk : k = xs.count u := h.count_eq _ inT
  have chain := List.pairwise_mergeSort byCount_trans byCount_total t
  have nodup : ((u, k) :: rest).Nodup := sorted ▸ (List.mergeSort_perm t _).nodup_iff.mpr h.nodup
  unfold byFrequency at sorted
  rw [sorted, List.pairwise_cons] at chain
  have mem : u ∈ xs := (h.mem_keys u).mp (List.mem_map_of_mem inT)
  refine ⟨mem, ?_, ?_⟩
  · -- the sorted tally starts with a largest count
    intro v hv
    have entry : (v, xs.count v) ∈ t.mergeSort (fun a b => decide (a.2 ≥ b.2)) :=
      List.mem_mergeSort.mpr (h.entry_of_mem hv)
    rw [sorted] at entry
    rcases List.mem_cons.mp entry with same | later
    · obtain ⟨rfl, -⟩ := Prod.mk.inj same
      exact Nat.le_refl _
    · have := chain.1 _ later
      simp only [decide_eq_true_eq] at this
      omega
  · -- among the largest, the stable sort keeps the first occurring one in front
    intro v hv tie
    refine Nat.le_of_not_lt fun lt => ?_
    have pair := h.sublist_of_idxOf_lt (h.entry_of_mem hv) inT (by simpa using lt)
    have kept := List.pair_sublist_mergeSort byCount_trans byCount_total
      (by simp [tie, hk]) pair
    rw [sorted] at kept
    have again : (u, k) ∈ rest := by
      rcases List.sublist_cons_iff.mp kept with inner | ⟨r, eq, inner⟩
      · exact inner.subset (by simp)
      · have := (List.cons.inj eq).1
        have := (List.cons.inj eq).2
        subst this
        exact inner.subset (by simp)
    exact (List.nodup_cons.mp nodup).1 again

/-! ### Judging a function -/

/-- The lines a function records, each with the first item of the walk of
its bodies on that line, in record order. -/
def recordedIndents (f : Node) : List (Nat × Indent) :=
  firstPerLine [] (indentItems [] 0 f)

/-- The positive relative indentations of the recorded lines, in record order. -/
def positiveIndents (f : Node) : List Int :=
  ((recordedIndents f).map (·.2.relative)).filter (· > 0)

/-- The debug line judging a function prints when debugging is on. -/
def countsLine (cfg : Config) (f : Node) : List String :=
  if cfg.debug > 0 then ["indent_counts " ++ showCounts (countValues (positiveIndents f))] else []

/-- A function whose positive relative indentations take at most one value
is not judged: it prints only its debug line and records nothing. -/
theorem judgeFunction_unjudged (cfg : Config) (file : String) (f : Node)
    (same : ∀ a ∈ positiveIndents f, ∀ b ∈ positiveIndents f, a = b) :
    judgeFunction cfg file f = ⟨countsLine cfg f, [], []⟩ := by
  have short : (byFrequency (countValues (positiveIndents f))).length ≤ 1 := by
    rw [byFrequency, List.length_mergeSort]
    exact (countValues_tally _).length_le_one same
  unfold judgeFunction judgeItems
  rcases sorted : byFrequency (countValues (positiveIndents f)) with _ | ⟨p, _ | ⟨q, rest⟩⟩
  all_goals simp only [positiveIndents, recordedIndents] at sorted
  · simp only [sorted]; rfl
  · simp only [sorted]; rfl
  · simp [positiveIndents, recordedIndents, sorted] at short

/-- A function with two different positive relative indentations is judged
by its unit `u`: each recorded line, in line order, is expected at its depth
times `u`; a line elsewhere is reported (unless highlighting) and its
owner's lines are shown. -/
theorem judgeFunction_judged (cfg : Config) (file : String) (f : Node) {u : Int}
    (varied : ∃ a ∈ positiveIndents f, ∃ b ∈ positiveIndents f, a ≠ b)
    (unit : IsIndentUnit (positiveIndents f) u) :
    judgeFunction cfg file f =
      let entries := (sortByLine (recordedIndents f)).map (fun (l, i) => (l, i, (i.depth : Int) * u))
      let wrong := entries.filter (fun (_, i, c) => i.absolute ≠ c)
      ⟨countsLine cfg f ++ (if cfg.highlight then [] else
          wrong.map (fun (l, i, c) => s!"{file}:{l} indented {i.absolute} should be {c}")),
        entries, wrong.flatMap (fun (_, i, _) => intRange i.ownerStart (i.ownerStop + 1))⟩ := by
  have tally := countValues_tally (positiveIndents f)
  have long : 2 ≤ (byFrequency (countValues (positiveIndents f))).length := by
    rw [byFrequency, List.length_mergeSort]
    exact tally.two_le_length_iff.mpr varied
  unfold judgeFunction judgeItems
  rcases sorted : byFrequency (countValues (positiveIndents f)) with _ | ⟨⟨v, k⟩, _ | ⟨q, rest⟩⟩
  · simp [sorted] at long
  · simp [sorted] at long
  · have same : v = u := (byFrequency_head tally sorted).unique unit
    subst same
    simp only [positiveIndents, recordedIndents] at sorted
    simp only [sorted]
    rfl

end CInspect.Check
