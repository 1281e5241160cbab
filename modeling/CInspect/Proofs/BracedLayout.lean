import CInspect.Proofs.IndentUnit
/-!
Consistently brace-indented functions are never judged wrong.

A body the indentation walk enters is laid out in steps of `u` columns at
depth `d` when its owner (the function itself, or the `if`, `while` or
`for` found by walking up an `else if` chain as the walk does) starts at
column `d * u + 1`, each of its statements starts at column
`(d + 1) * u + 1`, and its closing brace stands at column `d * u + 1`.
`bracedIn` asks this of every body the walk enters, at the depth the walk
gives it; a function laid out so starts at column 1, since it owns its own
body at depth 0.

Every item such a function records then sits at its depth times `u`, one
step of `u` deeper than its owner or level with it
(`fitsUnit_of_bracedIn`). Its positive relative indentations all equal
`u`, so it is not judged: judging it prints at most its debug line, records
nothing and shows nothing (`judgeFunction_braced`), and a file of such
functions passes the check (`checkLayout_braced`).
-/

namespace CInspect.Check

open CInspect.Tree CInspect.Indent

/-! ### Layout in steps of a unit -/

mutual
/-- Whether every body that the indentation walk enters under `n`, reached
with ancestors `up` (nearest first) at body depth `depth`, is laid out in
steps of `u` columns. -/
def bracedIn (u : Nat) (up : List Node) (depth : Nat) : Node → Bool
  | n@⟨_, _, _, _, _, _, _, _, _, _, children⟩ =>
  if n.kind = .compoundStmt then
    match up with
    | [] => true
    | p :: above =>
      if ownsBody p.kind then
        (chainOwner p above).extent.start.col == depth * u + 1 &&
          n.extent.stop.col == depth * u + 2 && bracedBody u (n :: up) depth children
      else true
  else bracedAmong u n.fileKey (n :: up) depth children
termination_by structural n => n

/-- The same for the statements `cs` of a body at `depth`: each starts one
step of `u` deeper, and the bodies under it are laid out so. -/
def bracedBody (u : Nat) (up : List Node) (depth : Nat) : List Node → Bool
  | [] => true
  | c :: cs =>
    c.extent.start.col == (depth + 1) * u + 1 && bracedIn u up (depth + 1) c &&
      bracedBody u up depth cs
termination_by structural cs => cs

/-- The same for the children `cs` that are in the file named `key`. -/
def bracedAmong (u : Nat) (key : String) (up : List Node) (depth : Nat) : List Node → Bool
  | [] => true
  | c :: cs => (c.fileKey != key || bracedIn u up depth c) && bracedAmong u key up depth cs
termination_by structural cs => cs
end

/-- An item sits at its depth times `u`, one step of `u` deeper than its
owner (a statement) or level with it (a closing brace). -/
def FitsUnit (u : Nat) (i : Indent) : Prop :=
  i.absolute = (i.depth : Int) * u ∧ (i.relative = u ∨ i.relative = 0)

theorem fitsUnit_statement {u depth : Nat} {o : Node} {col : Nat}
    (owner : o.extent.start.col = depth * u + 1) (here : col = (depth + 1) * u + 1) :
    FitsUnit u (Indent.at o col (depth + 1) 0) := by
  simp only [FitsUnit, Indent.at, owner, here]
  push_cast
  constructor
  · grind
  · left; grind

theorem fitsUnit_closing {u depth : Nat} {o : Node} {col : Nat}
    (owner : o.extent.start.col = depth * u + 1) (here : col = depth * u + 2) :
    FitsUnit u (Indent.at o col depth (-1)) := by
  simp only [FitsUnit, Indent.at, owner, here]
  push_cast
  omega

mutual
/-- Every item recorded under a node laid out in steps of `u` fits `u`. -/
theorem fitsUnit_of_bracedIn {u : Nat} :
    ∀ {up : List Node} {depth : Nat} {n : Node}, bracedIn u up depth n →
      ∀ p ∈ indentItems up depth n, FitsUnit u p.2
  | up, depth, ⟨k, s, d, f, e, t, st, r, tk, key, children⟩, braced, p, mem => by
    unfold bracedIn at braced
    unfold indentItems at mem
    split at mem
    · -- a compound statement: a body when its parent owns one
      next compound =>
      rw [if_pos compound] at braced
      match up, braced, mem with
      | [], _, mem => simp at mem
      | q :: above, braced, mem =>
        dsimp only at braced mem
        split at mem
        · next owns =>
          rw [if_pos owns] at braced
          simp only [Bool.and_eq_true, beq_iff_eq] at braced
          obtain ⟨⟨owner, closing⟩, body⟩ := braced
          rcases List.mem_append.mp mem with inBody | last
          · exact fitsUnit_of_bracedBody owner body p inBody
          · rw [List.mem_singleton.mp last]
            exact fitsUnit_closing owner closing
        · simp at mem
    · next other =>
      rw [if_neg other] at braced
      exact fitsUnit_of_bracedAmong braced p mem
termination_by structural _ _ n => n

/-- Every item of a body laid out in steps of `u` whose owner stands at
`depth * u + 1` fits `u`. -/
theorem fitsUnit_of_bracedBody {u : Nat} {o : Node} :
    ∀ {up : List Node} {depth : Nat} {cs : List Node}, o.extent.start.col = depth * u + 1 →
      bracedBody u up depth cs → ∀ p ∈ bodyItems o up depth cs, FitsUnit u p.2
  | _, _, [], _, _, p, mem => by simp [bodyItems] at mem
  | up, depth, c :: cs, owner, braced, p, mem => by
    unfold bracedBody at braced
    simp only [Bool.and_eq_true, beq_iff_eq] at braced
    obtain ⟨⟨column, inner⟩, rest⟩ := braced
    unfold bodyItems at mem
    rcases List.mem_cons.mp mem with rfl | later
    · exact fitsUnit_statement owner column
    · rcases List.mem_append.mp later with inside | after
      · exact fitsUnit_of_bracedIn inner p inside
      · exact fitsUnit_of_bracedBody owner rest p after
termination_by structural _ _ cs => cs

/-- Every item recorded under the same-file children laid out in steps of
`u` fits `u`. -/
theorem fitsUnit_of_bracedAmong {u : Nat} {key : String} :
    ∀ {up : List Node} {depth : Nat} {cs : List Node}, bracedAmong u key up depth cs →
      ∀ p ∈ sameFileItems key up depth cs, FitsUnit u p.2
  | _, _, [], _, p, mem => by simp [sameFileItems] at mem
  | up, depth, c :: cs, braced, p, mem => by
    unfold bracedAmong at braced
    simp only [Bool.and_eq_true, Bool.or_eq_true, bne_iff_ne, ne_eq] at braced
    obtain ⟨here, rest⟩ := braced
    unfold sameFileItems at mem
    rcases List.mem_append.mp mem with inside | after
    · split at inside
      · next same =>
        exact fitsUnit_of_bracedIn (here.resolve_left (not_not.mpr same)) p inside
      · simp at inside
    · exact fitsUnit_of_bracedAmong rest p after
termination_by structural _ _ cs => cs
end

/-! ### Judging a consistently indented function -/

/-- The positive relative indentations of a function laid out in steps of
`u` are all `u`. -/
theorem positiveIndents_braced {u : Nat} {f : Node} (braced : bracedIn u [] 0 f) :
    ∀ a ∈ positiveIndents f, a = u := by
  intro a mem
  simp only [positiveIndents, List.mem_filter, List.mem_map, decide_eq_true_eq] at mem
  obtain ⟨⟨p, recorded, rfl⟩, positive⟩ := mem
  have fits := fitsUnit_of_bracedIn braced p (mem_of_mem_firstPerLine recorded)
  rcases fits.2 with unit | level
  · exact unit
  · omega

/-- A function laid out in steps of some unit is not judged: judging it
prints at most its `indent_counts` debug line, records no line for the
listing and shows no line. -/
theorem judgeFunction_braced (cfg : Config) (file : String) (f : Node) (u : Nat)
    (braced : bracedIn u [] 0 f) :
    judgeFunction cfg file f = ⟨countsLine cfg f, [], []⟩ := by
  apply judgeFunction_unjudged
  intro a ha b hb
  rw [positiveIndents_braced braced a ha, positiveIndents_braced braced b hb]

/-- `int main(void)` with an `if (x) { … } else if (y) { … }` chain and a
`return`, indented by four columns: the `else if` body is owned by the
first `if`. -/
def elseIfChain : Node :=
  let at_ (k : Kind) (l₀ c₀ l₁ c₁ : Nat) (children : List Node) : Node :=
    ⟨k, "", "", some "p.c", ⟨⟨l₀, c₀⟩, ⟨l₁, c₁⟩⟩, TypeView.none, false, none, [], 0, children⟩
  let cond (l c : Nat) := at_ .declRefExpr l c l (c + 1) []
  at_ .functionDecl 1 1 8 2
    [at_ .compoundStmt 1 16 8 2
      [at_ .ifStmt 2 5 6 6
        [cond 2 9, at_ .compoundStmt 2 12 4 6 [at_ .returnStmt 3 9 3 18 []],
          at_ .ifStmt 4 12 6 6
            [cond 4 16, at_ .compoundStmt 4 19 6 6 [at_ .returnStmt 5 9 5 18 []]]],
        at_ .returnStmt 7 5 7 14 []]]

theorem elseIfChain_not_judged :
    bracedIn 4 [] 0 elseIfChain = true ∧
      judgeFunction Config.quiet "p.c" elseIfChain = ⟨countsLine Config.quiet elseIfChain, [], []⟩ :=
  ⟨by decide, judgeFunction_braced Config.quiet "p.c" elseIfChain 4 (by decide)⟩

/-- A file whose functions are each laid out in steps of their own unit
passes the body indentation check: it reports at no level and prints
nothing but the functions' debug lines. -/
theorem checkLayout_braced (cfg : Config) (lines : List String) (file : String) (root : Node)
    (braced : ∀ f ∈ root.functions, ∃ u, bracedIn u [] 0 f) :
    (checkLayout cfg lines file root).levels = [] ∧
      ∀ line ∈ (checkLayout cfg lines file root).out, ∃ f ∈ root.functions, line ∈ countsLine cfg f := by
  have judged : ∀ f ∈ root.functions, judgeFunction cfg file f = ⟨countsLine cfg f, [], []⟩ := by
    intro f mem
    obtain ⟨u, hu⟩ := braced f mem
    exact judgeFunction_braced cfg file f u hu
  have counts : ∀ fs ⊆ root.functions, ∀ line ∈ (fs.map (judgeFunction cfg file)).flatMap (·.out),
      ∃ f ∈ root.functions, line ∈ countsLine cfg f := by
    intro fs sub line mem
    obtain ⟨r, hr, inner⟩ := List.mem_flatMap.mp mem
    obtain ⟨f, hf, rfl⟩ := List.mem_map.mp hr
    rw [judged f (sub hf)] at inner
    exact ⟨f, sub hf, inner⟩
  have noShown : ((root.functions.map (judgeFunction cfg file)).flatMap (·.shown)) = [] := by
    rw [List.flatMap_eq_nil_iff]
    intro r hr
    obtain ⟨f, hf, rfl⟩ := List.mem_map.mp hr
    rw [judged f hf]
  unfold checkLayout
  split
  · exact ⟨rfl, by simp⟩
  · unfold layoutOf
    split
    · rw [← List.map_take]
      exact ⟨rfl, counts _ (List.take_subset _ _)⟩
    · dsimp only
      rw [noShown]
      exact ⟨rfl, counts _ (List.Subset.refl _)⟩

end CInspect.Check
