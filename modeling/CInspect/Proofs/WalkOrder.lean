import CInspect.Tree.Walk
/-!
The order of a walk: pre-order over the positions of a tree.

A position below a node is the list of child indices that leads down to a
node from it. Positions compared lexicographically are in pre-order: a
node comes before its descendants, and the subtree of an earlier child
before that of a later one. The same-file walk from a node visits each
position whose path stays in the node's file, once, in that order:

* `walkPositions_pairwise`: the positions a walk visits rise strictly;
* `mem_walkPositions_iff`: a position is visited exactly when every node on
  its path, the start and the node reached included, is in the start's
  file (`Node.StaysIn`);
* `walk_map_some`: the walk's visits are the visits at those positions,
  each with the kind of the node above it and its depth (`Node.visitAt`).

`sameFileNodes_preorder` puts the three together for a walk from the root.
-/

namespace CInspect.Tree

/-- The visit at position `p` below `n`, when `n` is reached from a node of
kind `parent` at depth `depth`: the node at the end of the path, the kind
of the node above it, and its depth; `none` when an index has no child. -/
def Node.visitAt (parent : Option Kind) (depth : Nat) : Node → List Nat → Option Visit
  | n, [] => some ⟨n, parent, depth⟩
  | n, i :: p => n.children[i]?.bind fun c => c.visitAt (some n.kind) (depth + 1) p

/-- Every node on the path from `n` down position `p`, `n` and the node
reached included, exists and is in the file named `key`. -/
def Node.StaysIn (key : String) : Node → List Nat → Prop
  | n, [] => n.fileKey = key
  | n, i :: p => n.fileKey = key ∧ ∃ c, n.children[i]? = some c ∧ c.StaysIn key p

mutual
/-- The positions below `n` that the same-file walk from `n` visits, in the
walk's order. -/
def Node.walkPositions : Node → List (List Nat)
  | n@⟨_, _, _, _, _, _, _, _, _, _, children⟩ => [] :: positionsAmong n.fileKey 0 children

/-- The positions visited below the children in `cs` that are in the file
`key`, the first of `cs` being child number `i`. -/
def positionsAmong (key : String) (i : Nat) : List Node → List (List Nat)
  | [] => []
  | c :: cs =>
    (if c.fileKey = key then c.walkPositions.map (i :: ·) else []) ++ positionsAmong key (i + 1) cs
end

theorem walkPositions_eq (n : Node) :
    n.walkPositions = [] :: positionsAmong n.fileKey 0 n.children := by
  cases n; rfl

theorem Node.StaysIn.fileKey {key : String} {n : Node} {p : List Nat} (h : n.StaysIn key p) :
    n.fileKey = key := by
  cases p with
  | nil => exact h
  | cons i p => exact h.1

/-- Every position below the children from number `i` on starts with the
index of one of them. -/
theorem positionsAmong_head {key : String} :
    ∀ {i : Nat} {cs : List Node} {p : List Nat}, p ∈ positionsAmong key i cs →
      ∃ j q, p = j :: q ∧ i ≤ j
  | _, [], _, mem => by simp [positionsAmong] at mem
  | i, c :: cs, p, mem => by
    simp only [positionsAmong, List.mem_append] at mem
    rcases mem with here | later
    · split at here
      · obtain ⟨q, -, rfl⟩ := List.mem_map.mp here
        exact ⟨i, q, rfl, Nat.le_refl i⟩
      · simp at here
    · obtain ⟨j, q, rfl, le⟩ := positionsAmong_head later
      exact ⟨j, q, rfl, by omega⟩

/-! ### Pre-order -/

mutual
/-- The positions a walk visits rise strictly in pre-order, so none is
visited twice. -/
theorem walkPositions_pairwise : ∀ n : Node, n.walkPositions.Pairwise (List.Lex (· < ·))
  | ⟨k, s, d, f, e, t, st, r, tk, key, children⟩ => by
    rw [walkPositions_eq, List.pairwise_cons]
    refine ⟨fun p mem => ?_, positionsAmong_pairwise _ 0 children⟩
    -- the start comes before every position below it
    obtain ⟨j, q, rfl, -⟩ := positionsAmong_head mem
    exact .nil

theorem positionsAmong_pairwise (key : String) :
    ∀ (i : Nat) (cs : List Node), (positionsAmong key i cs).Pairwise (List.Lex (· < ·))
  | _, [] => .nil
  | i, c :: cs => by
    simp only [positionsAmong]
    rw [List.pairwise_append]
    refine ⟨?_, positionsAmong_pairwise key (i + 1) cs, ?_⟩
    · split
      · exact List.pairwise_map.mpr ((walkPositions_pairwise c).imp .cons)
      · exact .nil
    · -- a position below child `i` comes before every one below a later child
      intro p here p' later
      split at here
      · obtain ⟨q, -, rfl⟩ := List.mem_map.mp here
        obtain ⟨j, q', rfl, le⟩ := positionsAmong_head later
        exact .rel (by omega)
      · simp at here
end

/-! ### Which positions -/

theorem mem_positionsAmong_iff {key : String} {j : Nat} {q : List Nat} :
    ∀ {i : Nat} {cs : List Node}, j :: q ∈ positionsAmong key i cs ↔
      i ≤ j ∧ ∃ c, cs[j - i]? = some c ∧ c.fileKey = key ∧ q ∈ c.walkPositions
  | _, [] => by simp [positionsAmong]
  | i, c :: cs => by
    simp only [positionsAmong, List.mem_append, mem_positionsAmong_iff]
    by_cases first : j = i
    · subst first
      have later : ¬j + 1 ≤ j := by omega
      by_cases same : c.fileKey = key <;> simp [same, later]
    · -- past child `i`, the index counts from the next child
      have skip : ∀ {x : Node}, i < j → ((c :: cs)[j - i]? = some x ↔ cs[j - (i + 1)]? = some x) := by
        intro x lt
        obtain ⟨m, hm⟩ : ∃ m, j - i = m + 1 := ⟨j - (i + 1), by omega⟩
        rw [hm, List.getElem?_cons_succ, show j - (i + 1) = m by omega]
      have notHere : j :: q ∉ (if c.fileKey = key then c.walkPositions.map (i :: ·) else []) := by
        split <;> simp [Ne.symm first]
      simp only [notHere, false_or]
      constructor
      · rintro ⟨le, x, found, rest⟩
        exact ⟨by omega, x, (skip (by omega)).mpr found, rest⟩
      · rintro ⟨le, x, found, rest⟩
        exact ⟨by omega, x, (skip (by omega)).mp found, rest⟩

/-- The walk from `n` visits a position exactly when its path stays in
`n`'s file. -/
theorem mem_walkPositions_iff : ∀ {n : Node} {p : List Nat},
    p ∈ n.walkPositions ↔ n.StaysIn n.fileKey p
  | n, [] => by simp [walkPositions_eq, Node.StaysIn]
  | n, i :: p => by
    rw [walkPositions_eq, List.mem_cons, mem_positionsAmong_iff]
    simp only [reduceCtorEq, false_or, Nat.zero_le, Nat.sub_zero, true_and, Node.StaysIn]
    apply exists_congr
    intro c
    apply and_congr_right
    intro _
    -- a child's path stays in its own file exactly when it stays in its
    -- parent's and the child is there
    rw [mem_walkPositions_iff]
    constructor
    · rintro ⟨same, stays⟩
      exact same ▸ stays
    · intro stays
      exact ⟨stays.fileKey, stays.fileKey ▸ stays⟩

/-! ### The visits at the positions -/

mutual
/-- The walk from `n` gives, at each position it visits, the visit there. -/
theorem walk_map_some : ∀ (n : Node) (parent : Option Kind) (depth : Nat),
    (n.walk parent depth).map some = n.walkPositions.map (n.visitAt parent depth)
  | ⟨k, s, d, f, e, t, st, r, tk, key, children⟩, parent, depth => by
    rw [walkPositions_eq]
    simp only [Node.walk, List.map_cons]
    exact congrArg _ (walkChildren_map_some ⟨k, s, d, f, e, t, st, r, tk, key, children⟩ parent depth 0
      children List.drop_zero)

/-- The walks of the children of `n` from number `i` on give the visits at
their positions below `n`. -/
theorem walkChildren_map_some (n : Node) (parent : Option Kind) (depth : Nat) :
    ∀ (i : Nat) (cs : List Node), n.children.drop i = cs →
      (walkChildren n.fileKey n.kind (depth + 1) cs).map some =
        (positionsAmong n.fileKey i cs).map (n.visitAt parent depth)
  | _, [], _ => rfl
  | i, c :: cs, rest => by
    have child : n.children[i]? = some c := by
      rw [← List.head?_drop, rest, List.head?_cons]
    have later : n.children.drop (i + 1) = cs := by
      rw [← List.drop_drop, rest, List.drop_one, List.tail_cons]
    simp only [walkChildren, positionsAmong, List.map_append]
    congr 1
    · split
      · rw [List.map_map, walk_map_some c (some n.kind) (depth + 1)]
        apply List.map_congr_left
        intro q _
        simp [Node.visitAt, child]
      · rfl
    · exact walkChildren_map_some n parent depth (i + 1) cs later
end

/-- The same-file walk from a node visits, in pre-order and once each, the
positions whose path stays in the node's file, each with the kind of the
node above it and its distance from the start. -/
theorem sameFileNodes_preorder (root : Node) :
    root.walkPositions.Pairwise (List.Lex (· < ·)) ∧
      (∀ p, p ∈ root.walkPositions ↔ root.StaysIn root.fileKey p) ∧
      root.sameFileNodes.map some = root.walkPositions.map (root.visitAt none 0) :=
  ⟨walkPositions_pairwise root, fun _ => mem_walkPositions_iff, walk_map_some root none 0⟩

end CInspect.Tree
