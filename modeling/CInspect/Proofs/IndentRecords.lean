import CInspect.Proofs.IndentUnit
import Mathlib.Data.List.Lex
/-!
What the indentation walk records for each line, stated without the walk.

`indentItems` walks a function as its indentation check does: down through
the children in their parent's file of any node that is not a compound
statement, into every statement of a body (a compound statement whose
parent is a function, an `if`, a `while` or a `for`), and into no other
compound statement. Each body gives an item for each of its statements and
one for its closing brace, and each line keeps the first item given on it
(`recordedIndents`).

Here the items are described by where they stand in the tree. A walk
(`IndentWalk`) goes down by child positions; a body it reaches at positions
`addr` gives its `j`-th statement at position `addr ++ [j]`, one level
deeper than the body, and its closing brace at `addr ++ [len]`, with `len`
the number of its statements, so after everything inside the body
(`IndentRecord`). The walk's order is the lexicographic order of these
positions.

* `recordedIndents_first`: a function records each line once, with the item
  of least position among the items on that line.

The proof follows the walk with positions attached (`addressedItems`, equal
to `indentItems` once the positions are dropped): its items are exactly the
`IndentRecord`s, in increasing order of position.
-/

namespace CInspect.Check

open CInspect.Tree

/-! ### Walks and records by position -/

/-- The number of bodies a walk passes: the compound statements on its path,
each of which it enters only as a body. -/
def bodiesOn (path : List Node) : Nat :=
  path.countP (·.kind == .compoundStmt)

/-- `IndentWalk up n addr path m`: the indentation walk, at `n` with
ancestors `up` (nearest first), goes down to `m` through the child positions
`addr`, passing the nodes `path` from `n` to the parent of `m`. It enters the
statements of a body, a compound statement whose parent owns one, and the
children in their parent's file of a node that is not a compound statement. -/
inductive IndentWalk : List Node → Node → List Nat → List Node → Node → Prop
  | here (up : List Node) (n : Node) : IndentWalk up n [] [] n
  | body {up above : List Node} {n p c m : Node} {j : Nat} {addr : List Nat} {path : List Node} :
      n.kind = .compoundStmt → up = p :: above → ownsBody p.kind = true → n.children[j]? = some c →
      IndentWalk (n :: up) c addr path m → IndentWalk up n (j :: addr) (n :: path) m
  | among {up : List Node} {n c m : Node} {j : Nat} {addr : List Nat} {path : List Node} :
      n.kind ≠ .compoundStmt → n.children[j]? = some c → c.fileKey = n.fileKey →
      IndentWalk (n :: up) c addr path m → IndentWalk up n (j :: addr) (n :: path) m

/-- `IndentRecord up depth n a item`: the walk from `n`, with ancestors `up`
and `depth` bodies around `n`, gives `item` at position `a`. A body `b`
reached at positions `addr` along `path`, whose parent `p` (ancestors
`p :: above` on the way) owns it, gives its statement `c` at position `j` on
`c`'s first line, at depth one more than the bodies around `b`, and its
closing brace on its last line at the depth of `b`; both are measured against
`p` walked up its `else if` chain. -/
inductive IndentRecord (up : List Node) (depth : Nat) (n : Node) : List Nat → Nat × Indent → Prop
  | statement {addr : List Nat} {path above : List Node} {b p c : Node} {j : Nat} :
      IndentWalk up n addr path b → b.kind = .compoundStmt → path.reverse ++ up = p :: above →
      ownsBody p.kind = true → b.children[j]? = some c →
      IndentRecord up depth n (addr ++ [j])
        (c.extent.start.line, Indent.at (chainOwner p above) c.extent.start.col (depth + bodiesOn path + 1) 0)
  | closing {addr : List Nat} {path above : List Node} {b p : Node} :
      IndentWalk up n addr path b → b.kind = .compoundStmt → path.reverse ++ up = p :: above →
      ownsBody p.kind = true →
      IndentRecord up depth n (addr ++ [b.children.length])
        (b.extent.stop.line, Indent.at (chainOwner p above) b.extent.stop.col (depth + bodiesOn path) (-1))

/-! ### The walk with positions -/

mutual
/-- The items of `indentItems up depth n`, each with its position below
`addr`. -/
def addressedItems (up : List Node) (depth : Nat) (addr : List Nat) :
    Node → List (List Nat × Nat × Indent)
  | n@⟨_, _, _, _, _, _, _, _, _, _, children⟩ =>
  if n.kind = .compoundStmt then
    match up with
    | [] => []
    | p :: above =>
      if ownsBody p.kind then
        let o := chainOwner p above
        addressedBody o (n :: up) depth addr 0 children ++
          [(addr ++ [children.length], n.extent.stop.line, Indent.at o n.extent.stop.col depth (-1))]
      else []
  else addressedSameFile n.fileKey (n :: up) depth addr 0 children
termination_by structural n => n

/-- The items of the statements `cs` of a body, the first at position `j`. -/
def addressedBody (o : Node) (up : List Node) (depth : Nat) (addr : List Nat) (j : Nat) :
    List Node → List (List Nat × Nat × Indent)
  | [] => []
  | c :: cs =>
    (addr ++ [j], c.extent.start.line, Indent.at o c.extent.start.col (depth + 1) 0) ::
      (addressedItems up (depth + 1) (addr ++ [j]) c ++ addressedBody o up depth addr (j + 1) cs)
termination_by structural cs => cs

/-- The items under the children `cs` in the file named `key`, the first at
position `j`. -/
def addressedSameFile (key : String) (up : List Node) (depth : Nat) (addr : List Nat) (j : Nat) :
    List Node → List (List Nat × Nat × Indent)
  | [] => []
  | c :: cs =>
    (if c.fileKey = key then addressedItems up depth (addr ++ [j]) c else []) ++
      addressedSameFile key up depth addr (j + 1) cs
termination_by structural cs => cs
end

mutual
/-- Dropping the positions gives the walk's items. -/
theorem addressedItems_snd : ∀ (up : List Node) (depth : Nat) (addr : List Nat) (n : Node),
    (addressedItems up depth addr n).map (·.2) = indentItems up depth n
  | up, depth, addr, ⟨k, s, d, f, e, t, st, r, tk, key, children⟩ => by
    unfold addressedItems indentItems
    by_cases compound : k = .compoundStmt
    · simp only [if_pos compound]
      cases up with
      | nil => rfl
      | cons p above =>
        dsimp only
        by_cases owns : ownsBody p.kind = true
        · simp only [if_pos owns, List.map_append, List.map_cons, List.map_nil,
            addressedBody_snd]
        · simp only [if_neg owns, List.map_nil]
    · simp only [if_neg compound, addressedSameFile_snd]
termination_by structural _ _ _ n => n

theorem addressedBody_snd (o : Node) (up : List Node) (depth : Nat) (addr : List Nat) :
    ∀ (j : Nat) (cs : List Node), (addressedBody o up depth addr j cs).map (·.2) = bodyItems o up depth cs
  | _, [] => by simp [addressedBody, bodyItems]
  | j, c :: cs => by
    unfold addressedBody bodyItems
    simp only [List.map_cons, List.map_append, addressedItems_snd, addressedBody_snd]
termination_by structural _ cs => cs

theorem addressedSameFile_snd (key : String) (up : List Node) (depth : Nat) (addr : List Nat) :
    ∀ (j : Nat) (cs : List Node), (addressedSameFile key up depth addr j cs).map (·.2) =
      sameFileItems key up depth cs
  | _, [] => by simp [addressedSameFile, sameFileItems]
  | j, c :: cs => by
    unfold addressedSameFile sameFileItems
    by_cases same : c.fileKey = key
    · simp only [if_pos same, List.map_append, addressedItems_snd, addressedSameFile_snd]
    · simp only [if_neg same, List.nil_append, addressedSameFile_snd]
termination_by structural _ cs => cs
end

/-! ### Positions in order -/

/-- Position `a` lies under a child of `addr` at a position from `lo` to
below `hi`. -/
def Beneath (addr : List Nat) (lo hi : Nat) (a : List Nat) : Prop :=
  ∃ j r, a = addr ++ j :: r ∧ lo ≤ j ∧ j < hi

/-- Under an earlier child comes before under a later one. -/
theorem Beneath.lt {addr a b : List Nat} {lo mid hi : Nat} (before : Beneath addr lo mid a)
    (after : Beneath addr mid hi b) : a < b := by
  obtain ⟨j, r, rfl, -, below⟩ := before
  obtain ⟨j', r', rfl, above, -⟩ := after
  exact List.append_left_lt (List.cons_lt_cons_iff.mpr (Or.inl (by omega)))

theorem Beneath.widen {addr a : List Nat} {lo hi lo' hi' : Nat} (under : Beneath addr lo hi a)
    (low : lo' ≤ lo) (high : hi ≤ hi') : Beneath addr lo' hi' a := by
  obtain ⟨j, r, rfl, above, below⟩ := under
  exact ⟨j, r, rfl, by omega, by omega⟩

/-- A position under a child of `addr ++ [j]` lies under child `j` of
`addr`, after `addr ++ [j]` itself. -/
theorem Beneath.up {addr a : List Nat} {j lo hi : Nat} (under : Beneath (addr ++ [j]) lo hi a) :
    Beneath addr j (j + 1) a ∧ addr ++ [j] < a := by
  obtain ⟨k, r, rfl, -, -⟩ := under
  refine ⟨⟨j, k :: r, by simp, Nat.le_refl j, Nat.lt_succ_self j⟩, ?_⟩
  rw [List.append_assoc]
  exact List.append_left_lt (List.cons_lt_cons_iff.mpr (Or.inr ⟨rfl, List.nil_lt_cons k r⟩))

mutual
/-- The walk with positions gives its items in increasing order of
position, all under the children of `addr` or at its closing brace. -/
theorem addressedItems_sorted : ∀ (up : List Node) (depth : Nat) (addr : List Nat) (n : Node),
    (addressedItems up depth addr n).Pairwise (fun x y => x.1 < y.1) ∧
      ∀ x ∈ addressedItems up depth addr n, Beneath addr 0 (n.children.length + 1) x.1
  | up, depth, addr, ⟨k, s, d, f, e, t, st, r, tk, key, children⟩ => by
    unfold addressedItems
    by_cases compound : k = .compoundStmt
    · simp only [if_pos compound]
      cases up with
      | nil => exact ⟨.nil, fun x mem => by cases mem⟩
      | cons p above =>
        dsimp only
        by_cases owns : ownsBody p.kind = true
        · rw [if_pos owns]
          obtain ⟨sorted, under⟩ := addressedBody_sorted (chainOwner p above) (_ :: p :: above) depth addr 0
            children
          -- the closing brace comes after every statement's items
          have closing : Beneath addr children.length (children.length + 1) (addr ++ [children.length]) :=
            ⟨children.length, [], rfl, Nat.le_refl _, Nat.lt_succ_self _⟩
          refine ⟨List.pairwise_append.mpr ⟨sorted, List.pairwise_singleton _ _, ?_⟩, ?_⟩
          · intro x mem y last
            rw [List.mem_singleton.mp last]
            exact (Nat.zero_add children.length ▸ under x mem).lt closing
          · intro x mem
            rcases List.mem_append.mp mem with inside | last
            · exact (under x inside).widen (Nat.le_refl 0) (by simp)
            · rw [List.mem_singleton.mp last]
              exact closing.widen (Nat.zero_le _) (Nat.le_refl _)
        · rw [if_neg owns]
          exact ⟨.nil, fun x mem => by cases mem⟩
    · simp only [if_neg compound]
      obtain ⟨sorted, under⟩ := addressedSameFile_sorted (Node.fileKey ⟨k, s, d, f, e, t, st, r, tk, key, children⟩)
        (_ :: up) depth addr 0 children
      exact ⟨sorted, fun x mem => (under x mem).widen (Nat.le_refl 0) (by simp)⟩
termination_by structural _ _ _ n => n

theorem addressedBody_sorted (o : Node) (up : List Node) (depth : Nat) (addr : List Nat) :
    ∀ (j : Nat) (cs : List Node),
      (addressedBody o up depth addr j cs).Pairwise (fun x y => x.1 < y.1) ∧
        ∀ x ∈ addressedBody o up depth addr j cs, Beneath addr j (j + cs.length) x.1
  | _, [] => ⟨by simp [addressedBody], fun x mem => by simp [addressedBody] at mem⟩
  | j, c :: cs => by
    unfold addressedBody
    obtain ⟨sortedC, underC⟩ := addressedItems_sorted up (depth + 1) (addr ++ [j]) c
    obtain ⟨sortedRest, underRest⟩ := addressedBody_sorted o up depth addr (j + 1) cs
    -- the statement itself, then the items inside it, then the later statements
    have here : Beneath addr j (j + 1) (addr ++ [j]) := ⟨j, [], rfl, Nat.le_refl j, Nat.lt_succ_self j⟩
    refine ⟨List.pairwise_cons.mpr ⟨?_, List.pairwise_append.mpr ⟨sortedC, sortedRest, ?_⟩⟩, ?_⟩
    · intro x mem
      rcases List.mem_append.mp mem with inside | later
      · exact (underC x inside).up.2
      · exact here.lt (underRest x later)
    · intro x inside y later
      exact (underC x inside).up.1.lt (underRest y later)
    · intro x mem
      rcases List.mem_cons.mp mem with rfl | mem
      · exact here.widen (Nat.le_refl j) (by simp)
      rcases List.mem_append.mp mem with inside | later
      · exact (underC x inside).up.1.widen (Nat.le_refl j) (by simp)
      · exact (underRest x later).widen (Nat.le_succ j) (by simp; omega)
termination_by structural _ cs => cs

theorem addressedSameFile_sorted (key : String) (up : List Node) (depth : Nat) (addr : List Nat) :
    ∀ (j : Nat) (cs : List Node),
      (addressedSameFile key up depth addr j cs).Pairwise (fun x y => x.1 < y.1) ∧
        ∀ x ∈ addressedSameFile key up depth addr j cs, Beneath addr j (j + cs.length) x.1
  | _, [] => ⟨by simp [addressedSameFile], fun x mem => by simp [addressedSameFile] at mem⟩
  | j, c :: cs => by
    unfold addressedSameFile
    obtain ⟨sortedRest, underRest⟩ := addressedSameFile_sorted key up depth addr (j + 1) cs
    -- the items under `c`, if it is in the file, then those under the later children
    have front : (if c.fileKey = key then addressedItems up depth (addr ++ [j]) c else []).Pairwise
        (fun x y => x.1 < y.1) ∧
        ∀ x ∈ (if c.fileKey = key then addressedItems up depth (addr ++ [j]) c else []),
          Beneath addr j (j + 1) x.1 := by
      split
      · obtain ⟨sortedC, underC⟩ := addressedItems_sorted up depth (addr ++ [j]) c
        exact ⟨sortedC, fun x mem => (underC x mem).up.1⟩
      · exact ⟨.nil, fun x mem => by cases mem⟩
    refine ⟨List.pairwise_append.mpr ⟨front.1, sortedRest, fun x inside y later =>
      (front.2 x inside).lt (underRest y later)⟩, ?_⟩
    intro x mem
    rcases List.mem_append.mp mem with inside | later
    · exact (front.2 x inside).widen (Nat.le_refl j) (by simp)
    · exact (underRest x later).widen (Nat.le_succ j) (by simp; omega)
termination_by structural _ cs => cs
end

/-! ### The records of the walk -/

theorem bodiesOn_cons_compound {n : Node} (compound : n.kind = .compoundStmt) (path : List Node) :
    bodiesOn (n :: path) = bodiesOn path + 1 := by
  simp [bodiesOn, compound]

theorem bodiesOn_cons_other {n : Node} (other : n.kind ≠ .compoundStmt) (path : List Node) :
    bodiesOn (n :: path) = bodiesOn path := by
  simp [bodiesOn, other]

theorem getElem?_of_drop_eq_cons {l cs : List Node} {c : Node} {j : Nat} (rest : l.drop j = c :: cs) :
    l[j]? = some c ∧ l.drop (j + 1) = cs := by
  constructor
  · have first := congrArg (·[0]?) rest
    simpa [List.getElem?_drop] using first
  · rw [← List.tail_drop, rest]
    rfl

section Lift

variable {up above : List Node} {depth j : Nat} {n p c : Node} {a : List Nat} {item : Nat × Indent}

/-- A record of the walk from a node `c` that one step of the walk reaches
from `n`, at position `j`, is a record of the walk from `n`, provided the
depths agree: a step into a body counts one body more. -/
theorem IndentRecord.lift {depth' : Nat}
    (step : ∀ {addr : List Nat} {path : List Node} {m : Node},
      IndentWalk (n :: up) c addr path m → IndentWalk up n (j :: addr) (n :: path) m)
    (deeper : ∀ path, depth' + bodiesOn path = depth + bodiesOn (n :: path))
    (record : IndentRecord (n :: up) depth' c a item) : IndentRecord up depth n (j :: a) item := by
  cases record with
  | @statement addr path above' b p' c' k walk kind anc owns child =>
    rw [deeper path]
    exact .statement (step walk) kind (by simpa using anc) owns child
  | @closing addr path above' b p' walk kind anc owns =>
    rw [deeper path]
    exact .closing (step walk) kind (by simpa using anc) owns

/-- A record of the walk from statement `j` of a body is a record of the
walk from the body, one body deeper. -/
theorem IndentRecord.from_statement (compound : n.kind = .compoundStmt) (ancestors : up = p :: above)
    (owns : ownsBody p.kind = true) (child : n.children[j]? = some c)
    (record : IndentRecord (n :: up) (depth + 1) c a item) : IndentRecord up depth n (j :: a) item :=
  record.lift (.body compound ancestors owns child) fun path => by
    rw [bodiesOn_cons_compound compound]
    omega

/-- A record of the walk from child `j`, in the same file, of a node that is
not a compound statement is a record of the walk from the node. -/
theorem IndentRecord.from_child (other : n.kind ≠ .compoundStmt) (child : n.children[j]? = some c)
    (same : c.fileKey = n.fileKey) (record : IndentRecord (n :: up) depth c a item) :
    IndentRecord up depth n (j :: a) item :=
  record.lift (.among other child same) fun path => by rw [bodiesOn_cons_other other]

end Lift

mutual
/-- Each item of the walk with positions is a record, at its position. -/
theorem record_of_mem_addressedItems : ∀ {up : List Node} {depth : Nat} {addr : List Nat} {n : Node}
    {a : List Nat} {item : Nat × Indent}, (a, item) ∈ addressedItems up depth addr n →
      ∃ a', a = addr ++ a' ∧ IndentRecord up depth n a' item
  | up, depth, addr, ⟨k, s, d, f, e, t, st, r, tk, key, children⟩, a, item, mem => by
    unfold addressedItems at mem
    split at mem
    · next compound =>
      match up, mem with
      | [], mem => cases mem
      | p :: above, mem =>
        dsimp only at mem
        split at mem
        · next owns =>
          rcases List.mem_append.mp mem with inBody | last
          · exact record_of_mem_addressedBody compound rfl owns rfl inBody
          · -- the closing brace of the node itself
            obtain ⟨rfl, rfl⟩ := Prod.mk.inj (List.mem_singleton.mp last)
            exact ⟨_, rfl, .closing (.here _ _) compound rfl owns⟩
        · cases mem
    · next other =>
      exact record_of_mem_addressedSameFile other rfl mem
termination_by structural _ _ _ n => n

theorem record_of_mem_addressedBody {up above : List Node} {depth : Nat} {addr : List Nat} {b p : Node}
    (compound : b.kind = .compoundStmt) (ancestors : up = p :: above) (owns : ownsBody p.kind = true) :
    ∀ {j : Nat} {cs : List Node} {a : List Nat} {item : Nat × Indent}, b.children.drop j = cs →
      (a, item) ∈ addressedBody (chainOwner p above) (b :: up) depth addr j cs →
      ∃ a', a = addr ++ a' ∧ IndentRecord up depth b a' item
  | _, [], _, _, _, mem => by cases mem
  | j, c :: cs, a, item, rest, mem => by
    obtain ⟨child, later⟩ := getElem?_of_drop_eq_cons rest
    unfold addressedBody at mem
    rcases List.mem_cons.mp mem with here | mem
    · -- the statement at position `j`
      obtain ⟨rfl, rfl⟩ := Prod.mk.inj here
      exact ⟨[j], rfl, .statement (.here _ _) compound (by simpa using ancestors) owns child⟩
    rcases List.mem_append.mp mem with inside | after
    · obtain ⟨a', rfl, record⟩ := record_of_mem_addressedItems inside
      exact ⟨j :: a', by simp, record.from_statement compound ancestors owns child⟩
    · exact record_of_mem_addressedBody compound ancestors owns later after
termination_by structural _ cs => cs

theorem record_of_mem_addressedSameFile {up : List Node} {depth : Nat} {addr : List Nat} {n : Node}
    (other : ¬n.kind = .compoundStmt) :
    ∀ {j : Nat} {cs : List Node} {a : List Nat} {item : Nat × Indent}, n.children.drop j = cs →
      (a, item) ∈ addressedSameFile n.fileKey (n :: up) depth addr j cs →
      ∃ a', a = addr ++ a' ∧ IndentRecord up depth n a' item
  | _, [], _, _, _, mem => by cases mem
  | j, c :: cs, a, item, rest, mem => by
    obtain ⟨child, later⟩ := getElem?_of_drop_eq_cons rest
    unfold addressedSameFile at mem
    rcases List.mem_append.mp mem with inside | after
    · split at inside
      · next same =>
        obtain ⟨a', rfl, record⟩ := record_of_mem_addressedItems inside
        exact ⟨j :: a', by simp, record.from_child other child same⟩
      · cases inside
    · exact record_of_mem_addressedSameFile other later after
termination_by structural _ cs => cs
end

/-! ### Every record is an item -/

@[simp] theorem bodiesOn_nil : bodiesOn [] = 0 := rfl

/-- A body with an owner gives the items of its statements, then its
closing brace. -/
theorem addressedItems_of_body {p n : Node} {above : List Node} {depth : Nat} {addr : List Nat}
    (compound : n.kind = .compoundStmt) (owns : ownsBody p.kind = true) :
    addressedItems (p :: above) depth addr n =
      addressedBody (chainOwner p above) (n :: p :: above) depth addr 0 n.children ++
        [(addr ++ [n.children.length], n.extent.stop.line,
          Indent.at (chainOwner p above) n.extent.stop.col depth (-1))] := by
  cases n
  unfold addressedItems
  simp only at compound
  simp only [if_pos compound, if_pos owns]

/-- A node that is not a compound statement gives the items under its
children in its file. -/
theorem addressedItems_of_other {n : Node} {up : List Node} {depth : Nat} {addr : List Nat}
    (other : n.kind ≠ .compoundStmt) :
    addressedItems up depth addr n = addressedSameFile n.fileKey (n :: up) depth addr 0 n.children := by
  cases n
  unfold addressedItems
  simp only at other
  simp only [if_neg other]

section Members

variable {o : Node} {up : List Node} {depth : Nat} {addr : List Nat} {x : List Nat × Nat × Indent}

theorem mem_addressedBody_statement :
    ∀ {j i : Nat} {cs : List Node} {c : Node}, cs[i]? = some c →
      (addr ++ [j + i], c.extent.start.line, Indent.at o c.extent.start.col (depth + 1) 0) ∈
        addressedBody o up depth addr j cs
  | _, _, [], _, found => by cases found
  | j, 0, c' :: cs, c, found => by
    obtain rfl : c' = c := by simpa using found
    unfold addressedBody
    exact List.mem_cons_self
  | j, i + 1, c' :: cs, c, found => by
    have later : (addr ++ [j + 1 + i], c.extent.start.line, Indent.at o c.extent.start.col (depth + 1) 0) ∈
        addressedBody o up depth addr (j + 1) cs := mem_addressedBody_statement (by simpa using found)
    unfold addressedBody
    rw [show j + (i + 1) = j + 1 + i by omega]
    exact List.mem_cons_of_mem _ (List.mem_append_right _ later)

theorem mem_addressedBody_inside :
    ∀ {j i : Nat} {cs : List Node} {c : Node}, cs[i]? = some c →
      x ∈ addressedItems up (depth + 1) (addr ++ [j + i]) c → x ∈ addressedBody o up depth addr j cs
  | _, _, [], _, found, _ => by cases found
  | j, 0, c' :: cs, c, found, inside => by
    obtain rfl : c' = c := by simpa using found
    unfold addressedBody
    exact List.mem_cons_of_mem _ (List.mem_append_left _ (Nat.add_zero j ▸ inside))
  | j, i + 1, c' :: cs, c, found, inside => by
    rw [show j + (i + 1) = j + 1 + i by omega] at inside
    have later : x ∈ addressedBody o up depth addr (j + 1) cs := mem_addressedBody_inside (by simpa using found) inside
    unfold addressedBody
    exact List.mem_cons_of_mem _ (List.mem_append_right _ later)

theorem mem_addressedSameFile_inside {key : String} :
    ∀ {j i : Nat} {cs : List Node} {c : Node}, cs[i]? = some c → c.fileKey = key →
      x ∈ addressedItems up depth (addr ++ [j + i]) c → x ∈ addressedSameFile key up depth addr j cs
  | _, _, [], _, found, _, _ => by cases found
  | j, 0, c' :: cs, c, found, same, inside => by
    obtain rfl : c' = c := by simpa using found
    unfold addressedSameFile
    rw [if_pos same]
    exact List.mem_append_left _ (Nat.add_zero j ▸ inside)
  | j, i + 1, c' :: cs, c, found, same, inside => by
    rw [show j + (i + 1) = j + 1 + i by omega] at inside
    have later : x ∈ addressedSameFile key up depth addr (j + 1) cs :=
      mem_addressedSameFile_inside (by simpa using found) same inside
    unfold addressedSameFile
    exact List.mem_append_right _ later

end Members

/-- Every record of the walk from `n` is an item of the walk with positions,
at its position below `addr`: the walk to the body that gives it is followed
down, one step at a time. -/
theorem mem_addressedItems_of_walk {up : List Node} {n b : Node} {addr' : List Nat} {path : List Node}
    (walk : IndentWalk up n addr' path b) :
    ∀ {depth d : Nat} {addr a : List Nat} {p : Node} {above : List Node},
      d = depth + bodiesOn path → a = addr ++ addr' → b.kind = .compoundStmt →
      path.reverse ++ up = p :: above → ownsBody p.kind = true →
      (∀ {j : Nat} {c : Node}, b.children[j]? = some c →
        (a ++ [j], c.extent.start.line, Indent.at (chainOwner p above) c.extent.start.col (d + 1) 0) ∈
          addressedItems up depth addr n) ∧
      (a ++ [b.children.length], b.extent.stop.line, Indent.at (chainOwner p above) b.extent.stop.col d (-1)) ∈
        addressedItems up depth addr n := by
  induction walk with
  | here up n =>
    intro depth d addr a p above atDepth atAddr compound ancestors owns
    simp only [List.reverse_nil, List.nil_append] at ancestors
    subst ancestors
    simp only [bodiesOn_nil, Nat.add_zero] at atDepth
    simp only [List.append_nil] at atAddr
    subst atDepth atAddr
    rw [addressedItems_of_body compound owns]
    refine ⟨?_, List.mem_append_right _ List.mem_cons_self⟩
    intro j c child
    rw [← Nat.zero_add j]
    exact List.mem_append_left _ (mem_addressedBody_statement child)
  | @body up n p' above' c m j addrIn pathIn compound' ancestors' owns' child _ ih =>
    intro depth d addr a p above atDepth atAddr compound ancestors owns
    subst ancestors'
    -- the body's items at `addr`, from those of its statement `j` at `addr ++ [j]`, one body deeper
    obtain ⟨statements, closing⟩ := @ih (depth + 1) d (addr ++ [j]) a p above
      (by rw [bodiesOn_cons_compound compound'] at atDepth; omega) (by simp [atAddr]) compound
      (by simpa using ancestors) owns
    rw [← Nat.zero_add j] at statements closing
    rw [addressedItems_of_body compound' owns']
    exact ⟨fun found => List.mem_append_left _ (mem_addressedBody_inside child (statements found)),
      List.mem_append_left _ (mem_addressedBody_inside child closing)⟩
  | @among up n c m j addrIn pathIn other child same _ ih =>
    intro depth d addr a p above atDepth atAddr compound ancestors owns
    -- the node's items at `addr`, from those of its child `j` in its file at `addr ++ [j]`
    obtain ⟨statements, closing⟩ := @ih depth d (addr ++ [j]) a p above
      (by rw [bodiesOn_cons_other other] at atDepth; exact atDepth) (by simp [atAddr]) compound
      (by simpa using ancestors) owns
    rw [← Nat.zero_add j] at statements closing
    rw [addressedItems_of_other other]
    exact ⟨fun found => mem_addressedSameFile_inside child same (statements found),
      mem_addressedSameFile_inside child same closing⟩

/-- The items of the walk with positions are exactly the records of the
walk, each at its position below `addr`. -/
theorem mem_addressedItems_iff {up : List Node} {depth : Nat} {addr : List Nat} {n : Node}
    {a : List Nat} {item : Nat × Indent} :
    (a, item) ∈ addressedItems up depth addr n ↔ ∃ a', a = addr ++ a' ∧ IndentRecord up depth n a' item := by
  constructor
  · exact record_of_mem_addressedItems
  · rintro ⟨a', rfl, record⟩
    cases record with
    | statement walk compound ancestors owns child =>
      exact List.append_assoc addr _ _ ▸ (mem_addressedItems_of_walk walk rfl rfl compound ancestors owns).1 child
    | closing walk compound ancestors owns =>
      exact List.append_assoc addr _ _ ▸ (mem_addressedItems_of_walk walk rfl rfl compound ancestors owns).2

/-! ### The first item of each line -/

/-- Among items listed in increasing order of position, the first item of
each line not yet seen is the one of least position on that line. -/
theorem mem_firstPerLine_iff_least {α : Type} {xs : List (List Nat × Nat × α)}
    (sorted : xs.Pairwise (fun x y => x.1 < y.1)) {seen : List Nat} {L : Nat} {i : α} :
    (L, i) ∈ firstPerLine seen (xs.map (·.2)) ↔
      L ∉ seen ∧ ∃ a, (a, L, i) ∈ xs ∧ ∀ a' i', (a', L, i') ∈ xs → a ≤ a' := by
  induction xs generalizing seen with
  | nil => simp [firstPerLine]
  | cons x rest ih =>
    obtain ⟨a₀, L₀, i₀⟩ := x
    obtain ⟨first, sortedRest⟩ := List.pairwise_cons.mp sorted
    simp only [List.map_cons, firstPerLine]
    by_cases old : L₀ ∈ seen
    · -- an item on a line seen before is passed over, and its line is not `L`
      rw [if_pos (List.elem_iff.mpr old), ih sortedRest]
      refine and_congr_right fun fresh => ?_
      have other : L ≠ L₀ := fun same => fresh (same ▸ old)
      simp only [List.mem_cons, Prod.mk.injEq, other, false_and, and_false, false_or]
    · rw [if_neg (by simpa using old), List.mem_cons, ih sortedRest]
      by_cases same : L = L₀
      · -- the first item on `L₀` is the head, before everything after it
        subst same
        constructor
        · rintro (head | ⟨fresh, -⟩)
          · obtain rfl := (Prod.mk.inj head).2
            refine ⟨old, a₀, List.mem_cons_self, fun a' i' mem => ?_⟩
            rcases List.mem_cons.mp mem with atHead | later
            · obtain rfl := (Prod.mk.inj atHead).1
              exact le_refl a'
            · exact le_of_lt (first _ later)
          · exact absurd List.mem_cons_self fresh
        · rintro ⟨-, a, mem, least⟩
          left
          rcases List.mem_cons.mp mem with atHead | later
          · obtain ⟨-, -, rfl⟩ : a = a₀ ∧ L = L ∧ i = i₀ := by simpa using atHead
            rfl
          · exact absurd (first _ later) (not_lt_of_ge (least a₀ i₀ List.mem_cons_self))
      · -- the head is on another line, so it plays no part
        have notHead : ∀ a' i', (a', L, i') ∈ (a₀, L₀, i₀) :: rest ↔ (a', L, i') ∈ rest := by
          intro a' i'
          simp [same]
        simp only [notHead]
        constructor
        · rintro (atHead | ⟨fresh, found⟩)
          · exact absurd (Prod.mk.inj atHead).1 same
          · exact ⟨fun mem => fresh (List.mem_cons_of_mem _ mem), found⟩
        · rintro ⟨fresh, found⟩
          exact Or.inr ⟨by simp [same, fresh], found⟩

/-- A function records each line once, with the item of least position
among the items the walk of its bodies gives on that line. -/
theorem recordedIndents_first (f : Node) :
    ((recordedIndents f).map (·.1)).Nodup ∧
      ∀ L i, (L, i) ∈ recordedIndents f ↔
        ∃ a, IndentRecord [] 0 f a (L, i) ∧ ∀ a' i', IndentRecord [] 0 f a' (L, i') → a ≤ a' := by
  refine ⟨nodup_lines_firstPerLine [] _, fun L i => ?_⟩
  have atRoot : ∀ {a item}, (a, item) ∈ addressedItems [] 0 [] f ↔ IndentRecord [] 0 f a item := by
    intro a item
    rw [mem_addressedItems_iff]
    simp
  unfold recordedIndents
  rw [← addressedItems_snd [] 0 [] f, mem_firstPerLine_iff_least (addressedItems_sorted [] 0 [] f).1]
  simp only [List.not_mem_nil, not_false_eq_true, true_and, atRoot]

end CInspect.Check
