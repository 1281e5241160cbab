import CInspect.Proofs.IndentUnit
import CInspect.Proofs.BreakOff
import Mathlib.Data.List.Pairwise
/-!
What the body indentation check reports.

A function is judged by a unit when it has two different positive relative
indentations, the unit being the most frequent of them (`JudgedBy`). A line
it records is misindented when its absolute indentation is not its depth
times that unit (`Misindented`).

* `judgeFunction_cases`: judging a function gives its debug line and
  nothing else, or it is judged by a unit and gives its entries, its report
  lines and the owners' lines to show.
* `listing_rows`: each row of a listing is a gap or the row of a listed
  line, every listed line has its row, and the listing runs to its end when
  every listed line is in the source.
* `layout_verdict`: on a file whose functions lie apart in it and record
  each line inside the body owner it belongs to, the check reports exactly
  when some line is misindented; highlighting, it lists those lines marked
  and no other line marked; otherwise it prints one report line for each,
  by function and then by line.
* `flagEnum_hides_layout_verdict`: a function holding a node whose kind
  cannot be read breaks the check off with no report, misindented lines or
  not.
-/

namespace CInspect.Check

open CInspect.Tree CInspect.Indent

/-! ### Judging one function -/

/-- The function `f` is judged by the unit `u`: it has two different
positive relative indentations, and `u` is the most frequent, ties going to
the one recorded first. -/
structure JudgedBy (f : Node) (u : Int) : Prop where
  varied : ∃ a ∈ positiveIndents f, ∃ b ∈ positiveIndents f, a ≠ b
  unit : IsIndentUnit (positiveIndents f) u

theorem JudgedBy.unique {f : Node} {u u' : Int} (h : JudgedBy f u) (h' : JudgedBy f u') :
    u = u' :=
  h.unit.unique h'.unit

/-- The function `f` records line `L` with indentation `i`, and `L` is not
at its depth times the unit `f` is judged by. -/
def Misindented (f : Node) (L : Nat) (i : Indent) : Prop :=
  ∃ u, JudgedBy f u ∧ (L, i) ∈ recordedIndents f ∧ i.absolute ≠ (i.depth : Int) * u

/-- A list that is not empty has a most frequent value. -/
theorem exists_isIndentUnit {xs : List Int} (nonempty : xs ≠ []) : ∃ u, IsIndentUnit xs u := by
  have tally := countValues_tally xs
  obtain ⟨x, mem⟩ := List.exists_mem_of_ne_nil xs nonempty
  rcases sorted : byFrequency (countValues xs) with _ | ⟨⟨u, k⟩, rest⟩
  · have entry := tally.entry_of_mem mem
    have sortedEntry : (x, xs.count x) ∈ byFrequency (countValues xs) := List.mem_mergeSort.mpr entry
    rw [sorted] at sortedEntry
    cases sortedEntry
  · exact ⟨u, byFrequency_head tally sorted⟩

section Judging

variable (cfg : Config) (file : String) (f : Node)

/-- Judging a function: it is judged by a unit, and gives its entries in
line order with the indentation each line should have, the report lines of
those that do not have it, and the lines of their owners; or it is judged
by none and gives its debug line only. -/
theorem judgeFunction_cases :
    (∃ u, JudgedBy f u ∧ judgeFunction cfg file f =
      let entries := (sortByLine (recordedIndents f)).map (fun (l, i) => (l, i, (i.depth : Int) * u))
      let wrong := entries.filter (fun (_, i, c) => i.absolute ≠ c)
      ⟨countsLine cfg f ++ (if cfg.highlight then [] else
          wrong.map (fun (l, i, c) => s!"{file}:{l} indented {i.absolute} should be {c}")),
        entries, wrong.flatMap (fun (_, i, _) => intRange i.ownerStart (i.ownerStop + 1))⟩) ∨
    ((∀ u, ¬JudgedBy f u) ∧ judgeFunction cfg file f = ⟨countsLine cfg f, [], []⟩) := by
  by_cases varied : ∃ a ∈ positiveIndents f, ∃ b ∈ positiveIndents f, a ≠ b
  · have nonempty : positiveIndents f ≠ [] := by
      obtain ⟨a, mem, -⟩ := varied
      exact List.ne_nil_of_mem mem
    obtain ⟨u, unit⟩ := exists_isIndentUnit nonempty
    exact Or.inl ⟨u, ⟨varied, unit⟩, judgeFunction_judged cfg file f varied unit⟩
  · refine Or.inr ⟨fun u judged => varied judged.varied, judgeFunction_unjudged cfg file f ?_⟩
    intro a ha b hb
    by_contra differ
    exact varied ⟨a, ha, b, hb, differ⟩

variable {cfg file f}

/-- The entries of a judged function: each line it records, with the
indentation its depth and the unit ask for. -/
theorem mem_judgeFunction_entries {e : Nat × Indent × Int} :
    e ∈ (judgeFunction cfg file f).entries ↔
      ∃ u, JudgedBy f u ∧ (e.1, e.2.1) ∈ recordedIndents f ∧ e.2.2 = (e.2.1.depth : Int) * u := by
  rcases judgeFunction_cases cfg file f with ⟨u, judged, eq⟩ | ⟨never, eq⟩
  · rw [eq]
    simp only [sortByLine, List.mem_map, List.mem_mergeSort]
    constructor
    · rintro ⟨⟨l, i⟩, mem, rfl⟩
      exact ⟨u, judged, mem, rfl⟩
    · rintro ⟨u', judged', mem, right⟩
      obtain rfl := judged.unique judged'
      exact ⟨(e.1, e.2.1), mem, by rw [← right]⟩
  · rw [eq]
    simp only [List.not_mem_nil, false_iff]
    rintro ⟨u, judged, -⟩
    exact never u judged

/-- The lines a function shows: those of the owners of its misindented
lines. -/
theorem mem_judgeFunction_shown {n : Int} :
    n ∈ (judgeFunction cfg file f).shown ↔
      ∃ L i, Misindented f L i ∧ (i.ownerStart : Int) ≤ n ∧ n ≤ i.ownerStop := by
  rcases judgeFunction_cases cfg file f with ⟨u, judged, eq⟩ | ⟨never, eq⟩
  · rw [eq]
    simp only [sortByLine, List.mem_flatMap, List.mem_filter, List.mem_map, List.mem_mergeSort,
      mem_intRange, decide_eq_true_eq]
    constructor
    · rintro ⟨_, ⟨⟨⟨L, i⟩, mem, rfl⟩, wrong⟩, lower, upper⟩
      dsimp only at wrong lower upper
      exact ⟨L, i, ⟨u, judged, mem, wrong⟩, lower, by omega⟩
    · rintro ⟨L, i, ⟨u', judged', mem, wrong⟩, lower, upper⟩
      obtain rfl := judged.unique judged'
      refine ⟨(L, i, (i.depth : Int) * u), ⟨⟨(L, i), mem, rfl⟩, wrong⟩, lower, ?_⟩
      dsimp only
      omega
  · rw [eq]
    simp only [List.not_mem_nil, false_iff]
    rintro ⟨L, i, ⟨u, judged, -⟩, -⟩
    exact never u judged

/-- Highlighting, judging a function prints its debug line only. -/
theorem judgeFunction_out_highlight (listed : cfg.highlight = true) :
    (judgeFunction cfg file f).out = countsLine cfg f := by
  rcases judgeFunction_cases cfg file f with ⟨u, -, eq⟩ | ⟨-, eq⟩ <;> rw [eq]
  simp [listed]

/-- Not highlighting, judging a function prints its debug line, then one
report line for each entry whose indentation is not the one asked for. -/
theorem judgeFunction_out_plain (plain : cfg.highlight = false) :
    (judgeFunction cfg file f).out = countsLine cfg f ++
      ((judgeFunction cfg file f).entries.filter (fun e => decide (e.2.1.absolute ≠ e.2.2))).map
        (fun e => s!"{file}:{e.1} indented {e.2.1.absolute} should be {e.2.2}") := by
  rcases judgeFunction_cases cfg file f with ⟨u, -, eq⟩ | ⟨-, eq⟩ <;> rw [eq]
  · simp only [plain, Bool.false_eq_true, if_false]
  · simp

/-- The lines a function records, sorted, strictly increase. -/
theorem sortByLine_recorded_strict (f : Node) :
    (sortByLine (recordedIndents f)).Pairwise (fun a b => a.1 < b.1) := by
  have sorted : (sortByLine (recordedIndents f)).Pairwise (fun a b => decide (a.1 ≤ b.1) = true) :=
    List.pairwise_mergeSort (fun a b c ab bc => by simp only [decide_eq_true_eq] at *; omega)
      (fun a b => by simp only [Bool.or_eq_true, decide_eq_true_eq]; omega) _
  have distinct : ((sortByLine (recordedIndents f)).map (·.1)).Nodup :=
    ((List.mergeSort_perm _ _).map _).nodup_iff.mpr (nodup_lines_firstPerLine [] _)
  rw [List.Nodup, List.pairwise_map] at distinct
  exact (sorted.and distinct).imp fun ⟨le, ne⟩ => by
    simp only [decide_eq_true_eq] at le
    omega

/-- The entries of a function are in strictly increasing line order. -/
theorem judgeFunction_entries_strict : (judgeFunction cfg file f).entries.Pairwise (fun a b => a.1 < b.1) := by
  rcases judgeFunction_cases cfg file f with ⟨u, -, eq⟩ | ⟨-, eq⟩ <;> rw [eq]
  · exact List.pairwise_map.mpr (sortByLine_recorded_strict f)
  · exact List.Pairwise.nil

end Judging

/-! ### The listing -/

section Listing

variable (lines : List String) (entries : List (Nat × Indent × Int))

/-- The rows of a listing: each is a gap or the row of a listed line that
is in the source, marked by the first entry of its line. When every listed
line is in the source, every one has its row and the listing runs to its
end. -/
theorem listing_rows : ∀ (last : Int) (ns : List Int),
    (∀ row ∈ (listing lines entries last ns).1, row = "......" ∨
      ∃ n ∈ ns, ∃ line, lineAt? lines n = some line ∧
        row = lineNumberText n ++
          listedLine (if n ≥ 0 then (entries.find? (·.1 = n.toNat)).map (·.2) else none) line) ∧
    ((∀ n ∈ ns, (lineAt? lines n).isSome) →
      (listing lines entries last ns).2 = true ∧
      ∀ n ∈ ns, ∃ line, lineAt? lines n = some line ∧
        lineNumberText n ++ listedLine (if n ≥ 0 then (entries.find? (·.1 = n.toNat)).map (·.2) else none)
          line ∈ (listing lines entries last ns).1)
  | _, [] => ⟨by simp [listing], fun _ => ⟨rfl, by simp⟩⟩
  | last, n :: ns => by
    obtain ⟨rows, complete⟩ := listing_rows n ns
    have gap : ∀ row ∈ (if last ≠ 0 ∧ n > last + 5 then ["......"] else []), row = "......" := by
      intro row mem
      split at mem
      · exact List.mem_singleton.mp mem
      · cases mem
    unfold listing
    cases here : lineAt? lines n with
    | none =>
      refine ⟨fun row mem => Or.inl (gap row mem), fun inSource => ?_⟩
      have := inSource n List.mem_cons_self
      rw [here] at this
      cases this
    | some line =>
      dsimp only
      constructor
      · intro row mem
        rcases List.mem_append.mp mem with mem | later
        · rcases List.mem_append.mp mem with inGap | self
          · exact Or.inl (gap row inGap)
          · exact Or.inr ⟨n, List.mem_cons_self, line, here, List.mem_singleton.mp self⟩
        · rcases rows row later with dots | ⟨m, inRest, line', at_m, rfl⟩
          · exact Or.inl dots
          · exact Or.inr ⟨m, List.mem_cons_of_mem n inRest, line', at_m, rfl⟩
      · intro inSource
        obtain ⟨ok, listed⟩ := complete fun m mem => inSource m (List.mem_cons_of_mem n mem)
        refine ⟨ok, ?_⟩
        intro m mem
        rcases List.mem_cons.mp mem with rfl | later
        · exact ⟨line, here, by simp⟩
        · obtain ⟨line', at_m, row⟩ := listed m later
          exact ⟨line', at_m, List.mem_append_right _ row⟩

end Listing

/-- The gaps filled between members of a list of lines that are not
negative, from a start that is not negative: each is a positive line below
some member; the last member seen is the start or a member. -/
theorem fillGaps_bounds : ∀ {last : Int} {ns : List Int}, 0 ≤ last → (∀ n ∈ ns, 0 ≤ n) →
    (∀ x ∈ (fillGaps last ns).1, 0 < x ∧ ∃ n ∈ ns, x < n) ∧
      ((fillGaps last ns).2 = last ∨ (fillGaps last ns).2 ∈ ns)
  | _, [], _, _ => ⟨by simp [fillGaps], Or.inl rfl⟩
  | last, n :: ns, start, nonneg => by
    obtain ⟨gaps, final⟩ := fillGaps_bounds (nonneg n List.mem_cons_self)
      fun m mem => nonneg m (List.mem_cons_of_mem n mem)
    simp only [fillGaps]
    constructor
    · intro x mem
      rcases List.mem_append.mp mem with here | later
      · split at here
        · obtain ⟨lower, upper⟩ := mem_intRange.mp here
          exact ⟨by omega, n, List.mem_cons_self, upper⟩
        · cases here
      · obtain ⟨positive, m, mem, below⟩ := gaps x later
        exact ⟨positive, m, List.mem_cons_of_mem n mem, below⟩
    · right
      rcases final with same | member
      · rw [same]
        exact List.mem_cons_self
      · exact List.mem_cons_of_mem n member

/-- The lines listed for a set of lines of the source are lines of the
source, and include the set. -/
theorem expandShown_bounds {lineCount : Nat} {shown : List Int}
    (inSource : ∀ n ∈ shown, 1 ≤ n ∧ n ≤ lineCount) :
    (∀ x ∈ expandShown lineCount shown, 1 ≤ x ∧ x ≤ lineCount) ∧ shown ⊆ expandShown lineCount shown := by
  have sorted : ∀ n ∈ sortedMembers shown, 1 ≤ n ∧ n ≤ lineCount :=
    fun n mem => inSource n (mem_sortedMembers.mp mem)
  obtain ⟨gaps, final⟩ := fillGaps_bounds (Int.le_refl 0) fun n mem => by
    have := sorted n mem
    omega
  unfold expandShown
  dsimp only
  constructor
  · intro x mem
    rw [mem_sortedMembers] at mem
    rcases List.mem_append.mp mem with mem | tail
    · rcases List.mem_append.mp mem with member | gap
      · exact sorted x member
      · obtain ⟨positive, n, member, below⟩ := gaps x gap
        have := sorted n member
        omega
    · split at tail
      · obtain ⟨lower, upper⟩ := mem_intRange.mp tail
        have : 0 ≤ (fillGaps 0 (sortedMembers shown)).2 := by
          rcases final with same | member
          · omega
          · have := sorted _ member
            omega
        omega
      · cases tail
  · intro n mem
    rw [mem_sortedMembers, List.mem_append, List.mem_append, mem_sortedMembers]
    exact Or.inl (Or.inl mem)

/-! ### Entries across functions -/

/-- Looking a line up among the first entries of each line finds what
looking it up among all entries finds, unless the line was seen before. -/
theorem find?_firstPerLine {α : Type} (n : Nat) : ∀ (seen : List Nat) (xs : List (Nat × α)),
    (firstPerLine seen xs).find? (fun e => decide (e.1 = n)) =
      if n ∈ seen then none else xs.find? (fun e => decide (e.1 = n))
  | seen, [] => by simp [firstPerLine]
  | seen, (l, i) :: rest => by
    unfold firstPerLine
    by_cases old : l ∈ seen
    · -- an entry of a line seen before is dropped, and is not the line looked up
      have other : n ∈ seen ∨ l ≠ n := by
        by_cases same : l = n
        · exact Or.inl (same ▸ old)
        · exact Or.inr same
      rw [if_pos (List.elem_iff.mpr old), find?_firstPerLine n seen rest]
      rcases other with seenBefore | other
      · simp [seenBefore]
      · simp [other]
    · rw [if_neg (by simpa using old), List.find?_cons, find?_firstPerLine n (l :: seen) rest]
      by_cases same : l = n
      · subst same
        simp [old]
      · simp [same, Ne.symm same]

private theorem find?_eq_some_of_unique {α : Type} {p : α → Bool} {xs : List α} {x : α}
    (mem : x ∈ xs) (holds : p x = true) (unique : ∀ y ∈ xs, p y = true → y = x) :
    xs.find? p = some x := by
  cases found : xs.find? p with
  | none => exact absurd holds (by simpa using List.find?_eq_none.mp found x mem)
  | some y => rw [unique y (List.mem_of_find?_eq_some found) (List.find?_some found)]

section Verdict

variable {cfg : Config} {lines : List String} {file : String} {root : Node}

/-- The functions of a file lie apart, inside the source; each records its
lines inside the owner of the body they belong to, and that owner inside
the function. -/
structure LaidApart (lines : List String) (root : Node) : Prop where
  apart : root.functions.Pairwise (fun f g =>
    f.extent.stop.line < g.extent.start.line ∨ g.extent.stop.line < f.extent.start.line)
  inSource : ∀ f ∈ root.functions, 1 ≤ f.extent.start.line ∧ f.extent.stop.line ≤ lines.length
  nested : ∀ f ∈ root.functions, ∀ p ∈ recordedIndents f,
    f.extent.start.line ≤ p.2.ownerStart ∧ p.2.ownerStart ≤ p.1 ∧ p.1 ≤ p.2.ownerStop ∧
      p.2.ownerStop ≤ f.extent.stop.line

/-- Two functions of a file laid apart that record the same line are one
function, and record the line once. -/
theorem LaidApart.same_record (laid : LaidApart lines root) {f g : Node} (hf : f ∈ root.functions)
    (hg : g ∈ root.functions) {L : Nat} {i j : Indent} (rf : (L, i) ∈ recordedIndents f)
    (rg : (L, j) ∈ recordedIndents g) : f = g ∧ i = j := by
  have same : f = g := by
    by_contra differ
    -- lying apart is symmetric, so it holds of any two different functions
    have symm : Std.Symm (fun f g : Node =>
        f.extent.stop.line < g.extent.start.line ∨ g.extent.stop.line < f.extent.start.line) :=
      ⟨fun _ _ h => Or.symm h⟩
    have apart := laid.apart.forall hf hg differ
    have inF := laid.nested f hf _ rf
    have inG := laid.nested g hg _ rg
    dsimp only at inF inG
    omega
  subst same
  have once := List.inj_on_of_nodup_map (nodup_lines_firstPerLine [] (indentItems [] 0 f)) rf rg rfl
  exact ⟨rfl, (Prod.mk.inj once).2⟩

/-- The entries of all functions of a file, in order. -/
def fileEntries (cfg : Config) (file : String) (root : Node) : List (Nat × Indent × Int) :=
  (root.functions.map (judgeFunction cfg file)).flatMap (·.entries)

theorem mem_fileEntries {e : Nat × Indent × Int} :
    e ∈ fileEntries cfg file root ↔ ∃ f ∈ root.functions, e ∈ (judgeFunction cfg file f).entries := by
  simp only [fileEntries, List.mem_flatMap, List.mem_map]
  constructor
  · rintro ⟨_, ⟨f, mem, rfl⟩, entry⟩
    exact ⟨f, mem, entry⟩
  · rintro ⟨f, mem, entry⟩
    exact ⟨_, ⟨f, mem, rfl⟩, entry⟩

/-- In a file laid apart, a line that a judged function records has one
entry, with the indentation that function asks for. -/
theorem find?_fileEntries (laid : LaidApart lines root) {f : Node} (hf : f ∈ root.functions)
    {u : Int} (judged : JudgedBy f u) {L : Nat} {i : Indent} (recorded : (L, i) ∈ recordedIndents f) :
    (fileEntries cfg file root).find? (fun e => decide (e.1 = L)) = some (L, i, (i.depth : Int) * u) := by
  apply find?_eq_some_of_unique
  · exact mem_fileEntries.mpr ⟨f, hf, mem_judgeFunction_entries.mpr ⟨u, judged, recorded, rfl⟩⟩
  · simp
  · rintro ⟨L', j, c⟩ mem atL
    obtain ⟨g, hg, entry⟩ := mem_fileEntries.mp mem
    obtain ⟨u', judged', recorded', right⟩ := mem_judgeFunction_entries.mp entry
    dsimp only at recorded' right
    obtain rfl : L' = L := by simpa using atL
    obtain ⟨rfl, rfl⟩ := laid.same_record hg hf recorded' recorded
    rw [right, judged'.unique judged]

/-- An entry found for a line belongs to a judged function recording it. -/
theorem found_fileEntries {n : Nat} {e : Nat × Indent × Int}
    (found : (fileEntries cfg file root).find? (fun e => decide (e.1 = n)) = some e) :
    ∃ f ∈ root.functions, ∃ u, JudgedBy f u ∧ e.1 = n ∧ (n, e.2.1) ∈ recordedIndents f ∧
      e.2.2 = (e.2.1.depth : Int) * u := by
  have atN : e.1 = n := by simpa using List.find?_some found
  obtain ⟨f, hf, entry⟩ := mem_fileEntries.mp (List.mem_of_find?_eq_some found)
  obtain ⟨u, judged, recorded, right⟩ := mem_judgeFunction_entries.mp entry
  exact ⟨f, hf, u, judged, atN, atN ▸ recorded, right⟩

/-- The lines all functions of a file show, in order, each once. -/
def fileShown (cfg : Config) (file : String) (root : Node) : List Int :=
  sortedMembers ((root.functions.map (judgeFunction cfg file)).flatMap (·.shown))

/-- What judging all functions of a file prints. -/
def fileOut (cfg : Config) (file : String) (root : Node) : List String :=
  (root.functions.map (judgeFunction cfg file)).flatMap (·.out)

/-- The lines that head the listing of a file. -/
def listingHeader (cfg : Config) (file : String) : List String :=
  [s!"{file}: warning: some lines are not consistently indented."] ++
    (if cfg.colorize then
      ["Incorrectly indented lines are marked with an *. The correct indent is shown in red.",
        "Correctly indented lines are shown in green."]
    else ["Incorrectly indented lines are marked with an *."])

theorem mem_fileShown {n : Int} :
    n ∈ fileShown cfg file root ↔
      ∃ f ∈ root.functions, ∃ L i, Misindented f L i ∧ (i.ownerStart : Int) ≤ n ∧ n ≤ i.ownerStop := by
  simp only [fileShown, mem_sortedMembers, List.mem_flatMap, List.mem_map]
  constructor
  · rintro ⟨_, ⟨f, mem, rfl⟩, shown⟩
    exact ⟨f, mem, mem_judgeFunction_shown.mp shown⟩
  · rintro ⟨f, mem, shown⟩
    exact ⟨_, ⟨f, mem, rfl⟩, mem_judgeFunction_shown.mpr shown⟩

/-- In a file laid apart, a misindented line is shown, and every line shown
is a line of the source. -/
theorem LaidApart.shown (laid : LaidApart lines root) (cfg : Config) (file : String) :
    (∀ f ∈ root.functions, ∀ L i, Misindented f L i → (L : Int) ∈ fileShown cfg file root) ∧
      ∀ n ∈ fileShown cfg file root, 1 ≤ n ∧ n ≤ lines.length := by
  constructor
  · intro f hf L i mis
    obtain ⟨u, judged, recorded, wrong⟩ := mis
    have inside := laid.nested f hf _ recorded
    dsimp only at inside
    exact mem_fileShown.mpr ⟨f, hf, L, i, ⟨u, judged, recorded, wrong⟩, by omega, by omega⟩
  · intro n mem
    obtain ⟨f, hf, L, i, ⟨u, judged, recorded, -⟩, lower, upper⟩ := mem_fileShown.mp mem
    have inside := laid.nested f hf _ recorded
    have source := laid.inSource f hf
    dsimp only at inside
    omega

variable {lvl : Level}

/-- The check on a file whose kinds can all be read reports exactly when
some line is to be shown. -/
theorem checkLayout_levels (on : cfg.level .indenting = some lvl)
    (readable : root.every (·.kind.readable)) :
    (checkLayout cfg lines file root).levels =
      if (fileShown cfg file root).isEmpty then [] else [lvl] := by
  unfold checkLayout layoutOf
  simp only [on, findIdx?_unreadable_eq_none readable]
  split
  · next empty => simp [fileShown, empty]
  · next shown =>
    split <;> simp [fileShown, shown]

/-- Not highlighting, the check prints what judging the functions prints,
and lists nothing. -/
theorem checkLayout_plain (lines : List String) (on : cfg.level .indenting = some lvl)
    (readable : root.every (·.kind.readable)) (plain : cfg.highlight = false) :
    (checkLayout cfg lines file root).out = fileOut cfg file root ∧
      (checkLayout cfg lines file root).complete = true := by
  unfold checkLayout layoutOf
  simp only [on, findIdx?_unreadable_eq_none readable, plain, Bool.false_eq_true, if_false]
  split <;> exact ⟨rfl, rfl⟩

/-- Highlighting, with some line to show, the check prints the functions'
debug lines, the header and the listing of the lines shown. -/
theorem checkLayout_listed (on : cfg.level .indenting = some lvl)
    (readable : root.every (·.kind.readable)) (listed : cfg.highlight = true)
    (some : (fileShown cfg file root).isEmpty = false) :
    let body := listing lines (firstPerLine [] (fileEntries cfg file root)) 0
      (expandShown lines.length (fileShown cfg file root))
    (checkLayout cfg lines file root).out = fileOut cfg file root ++ listingHeader cfg file ++ body.1 ∧
      (checkLayout cfg lines file root).complete = body.2 := by
  unfold checkLayout layoutOf
  simp only [on, findIdx?_unreadable_eq_none readable, listed, if_true]
  rw [if_neg (by simpa [fileShown] using some)]
  exact ⟨by simp [fileOut, listingHeader, fileEntries, fileShown], rfl⟩

/-- Highlighting, with no line to show, the check prints the functions'
debug lines only. -/
theorem checkLayout_unshown (lines : List String) (on : cfg.level .indenting = some lvl)
    (readable : root.every (·.kind.readable)) (none : (fileShown cfg file root).isEmpty = true) :
    (checkLayout cfg lines file root).out = fileOut cfg file root ∧
      (checkLayout cfg lines file root).complete = true := by
  unfold checkLayout layoutOf
  simp only [on, findIdx?_unreadable_eq_none readable]
  rw [if_pos (by simpa [fileShown] using none)]
  exact ⟨rfl, rfl⟩

/-- The row of the listing for a misindented line `L` holding `line`,
expected at column `c`: marked with `*`, the line padded to `c`. -/
def markedRow (L : Nat) (line : String) (c : Int) : String :=
  lineNumberText L ++ "* " ++ line ++ String.ofList (List.replicate (c.toNat - line.length) ' ')

theorem lineAt?_natCast {n : Nat} (pos : 1 ≤ n) : lineAt? lines n = lines[n - 1]? := by
  have index : ((n : Int) - 1).toNat = n - 1 := by omega
  simp only [lineAt?, if_pos (show (n : Int) ≥ 1 by omega), index]

theorem lineAt?_isSome {n : Int} (lower : 1 ≤ n) (upper : n ≤ lines.length) : (lineAt? lines n).isSome := by
  obtain ⟨m, rfl⟩ : ∃ m : Nat, n = m := ⟨n.toNat, by omega⟩
  rw [lineAt?_natCast (by omega)]
  exact Option.isSome_iff_exists.mpr ⟨_, List.getElem?_eq_getElem (by omega)⟩

/-- The row of a line whose entry is found: marked exactly when the line is
not at the indentation asked for. -/
theorem listedLine_some (i : Indent) (c : Int) (line : String) (n : Nat) :
    (i.absolute ≠ c ∧ lineNumberText n ++ listedLine (some (i, c)) line = markedRow n line c) ∨
      (i.absolute = c ∧ ∃ text, lineNumberText n ++ listedLine (some (i, c)) line =
        lineNumberText n ++ "  " ++ text) := by
  by_cases right : i.absolute = c
  · exact Or.inr ⟨right, line ++ String.ofList (List.replicate (c.toNat - line.length) ' '),
      by simp [listedLine, right, String.append_assoc]⟩
  · exact Or.inl ⟨right, by simp [listedLine, right, markedRow, String.append_assoc]⟩

/-- In a file laid apart, the listing of the lines shown runs to its end;
it marks every misindented line, padded to its expected column, and any
other row is a gap or an unmarked line at which no function is
misindented. -/
theorem listing_marks (cfg : Config) (file : String) (laid : LaidApart lines root) :
    let body := listing lines (firstPerLine [] (fileEntries cfg file root)) 0
      (expandShown lines.length (fileShown cfg file root))
    body.2 = true ∧
      (∀ f ∈ root.functions, ∀ L i u, JudgedBy f u → (L, i) ∈ recordedIndents f →
        i.absolute ≠ (i.depth : Int) * u →
          ∃ line, lines[L - 1]? = some line ∧ markedRow L line ((i.depth : Int) * u) ∈ body.1) ∧
      ∀ row ∈ body.1, row = "......" ∨
        (∃ n : Nat, ∃ text, row = lineNumberText n ++ "  " ++ text ∧
          ∀ f ∈ root.functions, ∀ i, ¬Misindented f n i) ∨
        ∃ f ∈ root.functions, ∃ L i u, JudgedBy f u ∧ (L, i) ∈ recordedIndents f ∧
          i.absolute ≠ (i.depth : Int) * u ∧ ∃ line, lines[L - 1]? = some line ∧
            row = markedRow L line ((i.depth : Int) * u) := by
  intro body
  obtain ⟨misShown, shownIn⟩ := laid.shown cfg file
  obtain ⟨listedIn, shownListed⟩ := expandShown_bounds shownIn
  -- every listed line is a line of the source, so each has its row
  have present : ∀ n ∈ expandShown lines.length (fileShown cfg file root), (lineAt? lines n).isSome :=
    fun n mem => lineAt?_isSome (listedIn n mem).1 (listedIn n mem).2
  obtain ⟨rows, complete⟩ := listing_rows lines (firstPerLine [] (fileEntries cfg file root)) 0
    (expandShown lines.length (fileShown cfg file root))
  obtain ⟨ok, listed⟩ := complete present
  -- the entry a listed line is looked up by is the first among all functions'
  have lookup : ∀ m : Nat, (if (m : Int) ≥ 0 then
      ((firstPerLine [] (fileEntries cfg file root)).find? (·.1 = (m : Int).toNat)).map (·.2) else none) =
      ((fileEntries cfg file root).find? (fun e => decide (e.1 = m))).map (·.2) := by
    intro m
    rw [if_pos (by omega), Int.toNat_natCast, find?_firstPerLine m []]
    simp
  refine ⟨ok, ?_, ?_⟩
  · intro f hf L i u judged recorded wrong
    have shown := misShown f hf L i ⟨u, judged, recorded, wrong⟩
    obtain ⟨line, atL, row⟩ := listed L (shownListed shown)
    rw [lookup, find?_fileEntries laid hf judged recorded] at row
    have pos := (shownIn L shown).1
    rw [lineAt?_natCast (by omega)] at atL
    rcases listedLine_some i ((i.depth : Int) * u) line L with ⟨-, marked⟩ | ⟨same, -⟩
    · exact ⟨line, atL, marked ▸ row⟩
    · exact absurd same wrong
  · intro row mem
    rcases rows row mem with dots | ⟨n, inListed, line, atN, rfl⟩
    · exact Or.inl dots
    obtain ⟨lower, -⟩ := listedIn n inListed
    obtain ⟨m, rfl⟩ : ∃ m : Nat, n = m := ⟨n.toNat, by omega⟩
    rw [lineAt?_natCast (by omega)] at atN
    rw [lookup]
    cases found : (fileEntries cfg file root).find? (fun e => decide (e.1 = m)) with
    | none =>
      -- no function records the line
      refine Or.inr (Or.inl ⟨m, line, by simp [listedLine, String.append_assoc], ?_⟩)
      rintro f hf i ⟨u, judged, recorded, -⟩
      rw [find?_fileEntries laid hf judged recorded] at found
      cases found
    | some e =>
      obtain ⟨g, hg, u, judged, -, recorded, expected⟩ := found_fileEntries found
      obtain ⟨L, i, c⟩ := e
      dsimp only at recorded expected
      subst expected
      rcases listedLine_some i ((i.depth : Int) * u) line m with ⟨wrong, marked⟩ |
          ⟨same, text, unmarked⟩
      · exact Or.inr (Or.inr ⟨g, hg, m, i, u, judged, recorded, wrong, line, atN, marked⟩)
      · -- the entry found is the one any misindenting function would give
        refine Or.inr (Or.inl ⟨m, text, unmarked, ?_⟩)
        rintro f hf j ⟨u', judged', recorded', wrong'⟩
        rw [find?_fileEntries laid hf judged' recorded'] at found
        simp only [Option.some.injEq, Prod.mk.injEq] at found
        obtain ⟨-, rfl, expected⟩ := found
        exact wrong' (by omega)

/-- A file laid apart shows a line exactly when some function has a
misindented line. -/
theorem LaidApart.shows_iff (laid : LaidApart lines root) (cfg : Config) (file : String) :
    (fileShown cfg file root).isEmpty = false ↔ ∃ f ∈ root.functions, ∃ L i, Misindented f L i := by
  obtain ⟨misShown, -⟩ := laid.shown cfg file
  rw [List.isEmpty_eq_false_iff]
  constructor
  · intro some
    obtain ⟨n, mem⟩ := List.exists_mem_of_ne_nil _ some
    obtain ⟨f, hf, L, i, mis, -⟩ := mem_fileShown.mp mem
    exact ⟨f, hf, L, i, mis⟩
  · rintro ⟨f, hf, L, i, mis⟩
    exact List.ne_nil_of_mem (misShown f hf L i mis)

/-- The body indentation check on a file whose kinds can all be read and
whose functions are laid apart. It reports exactly when some function has a
misindented line. Not highlighting, it prints each function's debug line
followed by one report line for each misindented line of the function, in
line order, with the indentation the line has and the one asked for.
Highlighting, it prints the debug lines only when nothing is misindented;
otherwise it prints the debug lines, the header and a listing that runs to
its end, marks every misindented line padded to its expected column, and
marks no other line. -/
theorem layout_verdict (cfg : Config) (lines : List String) (file : String) (root : Node)
    (on : cfg.level .indenting = some lvl) (readable : root.every (·.kind.readable))
    (laid : LaidApart lines root) :
    let misindented := ∃ f ∈ root.functions, ∃ L i, Misindented f L i
    let outcome := checkLayout cfg lines file root
    ((outcome.levels = [lvl] ∧ misindented) ∨ (outcome.levels = [] ∧ ¬misindented)) ∧
    (cfg.highlight = false → outcome.complete = true ∧
      ∃ wrong : Node → List (Nat × Indent × Int),
        (∀ f ∈ root.functions, (wrong f).Pairwise (fun a b => a.1 < b.1) ∧
          ∀ L i c, (L, i, c) ∈ wrong f ↔
            Misindented f L i ∧ ∃ u, JudgedBy f u ∧ c = (i.depth : Int) * u) ∧
        outcome.out = root.functions.flatMap (fun f => countsLine cfg f ++
          (wrong f).map (fun e => s!"{file}:{e.1} indented {e.2.1.absolute} should be {e.2.2}"))) ∧
    (cfg.highlight = true → outcome.complete = true ∧
      ((¬misindented ∧ outcome.out = root.functions.flatMap (countsLine cfg)) ∨
        (misindented ∧ ∃ body,
          outcome.out = root.functions.flatMap (countsLine cfg) ++ listingHeader cfg file ++ body ∧
          (∀ f ∈ root.functions, ∀ L i u, JudgedBy f u → (L, i) ∈ recordedIndents f →
            i.absolute ≠ (i.depth : Int) * u →
              ∃ line, lines[L - 1]? = some line ∧ markedRow L line ((i.depth : Int) * u) ∈ body) ∧
          ∀ row ∈ body, row = "......" ∨
            (∃ n : Nat, ∃ text, row = lineNumberText n ++ "  " ++ text ∧
              ∀ f ∈ root.functions, ∀ i, ¬Misindented f n i) ∨
            ∃ f ∈ root.functions, ∃ L i u, JudgedBy f u ∧ (L, i) ∈ recordedIndents f ∧
              i.absolute ≠ (i.depth : Int) * u ∧ ∃ line, lines[L - 1]? = some line ∧
                row = markedRow L line ((i.depth : Int) * u)))) := by
  intro misindented outcome
  have shows := laid.shows_iff cfg file
  refine ⟨?_, ?_, ?_⟩
  · -- the levels: one exactly when a line is shown
    show ((checkLayout cfg lines file root).levels = [lvl] ∧ misindented) ∨ _
    rw [checkLayout_levels on readable]
    cases empty : (fileShown cfg file root).isEmpty
    · exact Or.inl ⟨rfl, shows.mp empty⟩
    · refine Or.inr ⟨rfl, fun mis => ?_⟩
      rw [shows.mpr mis] at empty
      cases empty
  · -- not highlighting: the report lines of each function
    intro plain
    obtain ⟨out, complete⟩ := checkLayout_plain lines on readable plain
    refine ⟨complete, fun f => (judgeFunction cfg file f).entries.filter
      (fun e => decide (e.2.1.absolute ≠ e.2.2)), fun f _ => ⟨?_, ?_⟩, ?_⟩
    · exact judgeFunction_entries_strict.sublist List.filter_sublist
    · intro L i c
      rw [List.mem_filter, mem_judgeFunction_entries]
      constructor
      · rintro ⟨⟨u, judged, recorded, right⟩, wrong⟩
        dsimp only at recorded right wrong
        subst right
        exact ⟨⟨u, judged, recorded, by simpa using wrong⟩, u, judged, rfl⟩
      · rintro ⟨⟨u, judged, recorded, wrong⟩, u', judged', rfl⟩
        obtain rfl := judged.unique judged'
        exact ⟨⟨u, judged, recorded, rfl⟩, by simpa using wrong⟩
    · show (checkLayout cfg lines file root).out = _
      rw [out, fileOut, List.flatMap_map]
      simp only [judgeFunction_out_plain plain]
  · -- highlighting: the debug lines, then the listing if a line is shown
    intro listed
    have debug : fileOut cfg file root = root.functions.flatMap (countsLine cfg) := by
      rw [fileOut, List.flatMap_map]
      simp only [judgeFunction_out_highlight listed]
    cases empty : (fileShown cfg file root).isEmpty
    · obtain ⟨out, complete⟩ := checkLayout_listed on readable listed empty
      obtain ⟨ok, marks, rows⟩ := listing_marks cfg file laid
      exact ⟨complete.trans ok, Or.inr ⟨shows.mp empty, _, by rw [out, debug], marks, rows⟩⟩
    · obtain ⟨out, complete⟩ := checkLayout_unshown lines on readable empty
      refine ⟨complete, Or.inl ⟨fun mis => ?_, by rw [out, debug]⟩⟩
      rw [shows.mpr mis] at empty
      cases empty

end Verdict

/-! ### A function whose `return` is two columns short -/

/-- The configuration with only the body indentation check enabled, at level
warning, highlighting. -/
def indentingOnly : Config :=
  { Config.quiet with level := fun c => if c = .indenting then some .warning else none }

/-- The lines of `p.c`: `int main(void)` declaring `enum E { A = 1 }` with
the attribute `flag_enum`, then `if (A) { return 1; }`, its `return`
indented by two columns where the rest of the function steps by four. -/
def layoutLines : List String :=
  ["int main(void) \x7b", "    enum __attribute__((flag_enum)) E \x7b A = 1 \x7d;", "    if (A) \x7b",
    "      return 1;", "    \x7d", "    return 0;", "\x7d"]

/-- The tree of `layoutLines` as a function, with the attributes `attrs` on
the enum. -/
def layoutMain (attrs : List Node) : Node :=
  let at_ (k : Kind) (l₀ c₀ l₁ c₁ : Nat) (children : List Node) : Node :=
    ⟨k, "", "", some "p.c", ⟨⟨l₀, c₀⟩, ⟨l₁, c₁⟩⟩, TypeView.none, false, none, [], 0, children⟩
  let literal (l c : Nat) : Node := at_ .integerLiteral l c l (c + 1) []
  let enum : Node := ⟨.enumDecl, "E", "E", some "p.c", ⟨⟨2, 5⟩, ⟨2, 49⟩⟩, ⟨"enum E", [false], false⟩,
    false, none, [], 1, attrs ++ [at_ .enumConstantDecl 2 43 2 48 [literal 2 47]]⟩
  ⟨.functionDecl, "main", "main", some "p.c", ⟨⟨1, 1⟩, ⟨7, 2⟩⟩, ⟨"int (void)", [false], false⟩, false, none,
    [], 4,
    [at_ .compoundStmt 1 16 7 2
      [at_ .declStmt 2 5 2 50 [enum],
        at_ .ifStmt 3 5 5 6
          [at_ .declRefExpr 3 9 3 10 [], at_ .compoundStmt 3 12 5 6 [at_ .returnStmt 4 7 4 15 [literal 4 14]]],
        at_ .returnStmt 6 5 6 13 [literal 6 12]]]⟩

/-- The translation unit of `p.c` holding `layoutMain attrs`. -/
def layoutUnit (attrs : List Node) : Node :=
  ⟨.translationUnit, "p.c", "p.c", none, ⟨⟨0, 0⟩, ⟨0, 0⟩⟩, TypeView.none, false, none, [], 0,
    [layoutMain attrs]⟩

/-- Without attributes the file is laid apart and its kinds can be read, so
the check reports it. -/
theorem layoutUnit_verdict :
    indentingOnly.level .indenting = some .warning ∧ (layoutUnit []).every (·.kind.readable) ∧
      LaidApart layoutLines (layoutUnit []) ∧
      (((checkLayout indentingOnly layoutLines "p.c" (layoutUnit [])).levels = [.warning] ∧
          ∃ f ∈ (layoutUnit []).functions, ∃ L i, Misindented f L i) ∨
        ((checkLayout indentingOnly layoutLines "p.c" (layoutUnit [])).levels = [] ∧
          ¬∃ f ∈ (layoutUnit []).functions, ∃ L i, Misindented f L i)) := by
  have laid : LaidApart layoutLines (layoutUnit []) := ⟨by decide, by decide, by decide⟩
  exact ⟨rfl, by decide, laid,
    (layout_verdict indentingOnly layoutLines "p.c" (layoutUnit []) rfl (by decide) laid).1⟩

/-- With the enum's `flag_enum` attribute, whose kind cannot be read, the
check breaks off at the function and reports nothing, though the file is
laid apart and the function has a misindented line. -/
theorem flagEnum_hides_layout_verdict :
    LaidApart layoutLines (layoutUnit [Inspection.flagEnumAttr]) ∧
      (layoutUnit [Inspection.flagEnumAttr]).functions = [layoutMain [Inspection.flagEnumAttr]] ∧
      Misindented (layoutMain [Inspection.flagEnumAttr]) 4 ⟨6, 2, 2, 3, 5⟩ ∧
      (checkLayout indentingOnly layoutLines "p.c" (layoutUnit [Inspection.flagEnumAttr])).levels = [] ∧
      (checkLayout indentingOnly layoutLines "p.c" (layoutUnit [Inspection.flagEnumAttr])).unreadable =
        some 437 := by
  -- the function steps by four, so its return, at column 6 and depth 2, is misindented
  have positive : positiveIndents (layoutMain [Inspection.flagEnumAttr]) = [4, 4, 2, 4] := by decide
  have judged : JudgedBy (layoutMain [Inspection.flagEnumAttr]) 4 :=
    ⟨by rw [positive]; decide, by rw [positive]; exact ⟨by decide, by decide, by decide⟩⟩
  have recorded : recordedIndents (layoutMain [Inspection.flagEnumAttr]) =
      [(2, ⟨4, 4, 1, 1, 7⟩), (3, ⟨4, 4, 1, 1, 7⟩), (4, ⟨6, 2, 2, 3, 5⟩), (5, ⟨4, 0, 1, 3, 5⟩),
        (6, ⟨4, 4, 1, 1, 7⟩), (7, ⟨0, 0, 0, 1, 7⟩)] := rfl
  refine ⟨⟨by decide, by decide, by decide⟩, rfl, ⟨4, judged, by simp [recorded], by decide⟩,
    by decide, by decide⟩

end CInspect.Check
