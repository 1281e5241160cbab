import CInspect.Tree.Walk
/-!
The attributes the walks write into the nodes of a tree.

Checks run one after another on the nodes of one tree, and the walks they
make do not keep a node's parent and depth to themselves: they write them
into the node, as its `parent` and `depth` attributes, and read them back
from there. What one walk writes is still in the node when the next walk
comes. `Marks` holds these attributes for every node of a tree, by the
node's place (`Place`), and `Node.walkOn` is the same-file walk made that
way: it sets a node's attributes when it reaches the node and reads them
back for the visit.

Before any walk a node has neither attribute; `Marks.blank` gives it no
parent and depth zero, values that no walk reads, since a walk reads only
what it wrote itself (`walkOn_visits`).
-/

namespace CInspect.Tree

/-- Where a node stands in a tree: the positions of the children taken from
the root down to it. -/
abbrev Place := List Nat

/-- A node of a tree as an object: its place, and the node. -/
structure Obj where
  place : Place
  node : Node

/-- A node stands above each of its children. -/
theorem Obj.above_child (self : Obj) (j : Nat) :
    ∀ o, some self = some o → o.place.length < (self.place ++ [j]).length := by
  rintro o ⟨⟩
  simp

/-- No parent stands above anything. -/
theorem Obj.none_above (p : Place) : ∀ o : Obj, none = some o → o.place.length < p.length := by
  rintro o ⟨⟩

/-- The `parent` and `depth` attributes of the nodes of a tree, by place. A
walk sets a node's parent only to a node above it, so a parent stands at a
shorter place than its child. -/
structure Marks where
  parent : Place → Option Obj
  depth : Place → Nat
  parent_above : ∀ p o, parent p = some o → o.place.length < p.length

/-- The attributes of a tree no walk has been through. -/
def Marks.blank : Marks := ⟨fun _ => none, fun _ => 0, fun _ _ h => by cases h⟩

/-- Set the parent of the node at `p` to `par`, which stands above it. -/
def Marks.setParent (a : Marks) (p : Place) (par : Option Obj)
    (above : ∀ o, par = some o → o.place.length < p.length) : Marks where
  parent q := if q = p then par else a.parent q
  depth := a.depth
  parent_above q o set := by
    by_cases here : q = p
    · subst here
      exact above o (by simpa using set)
    · exact a.parent_above q o (by simpa [here] using set)

/-- Set the depth of the node at `p`. -/
def Marks.setDepth (a : Marks) (p : Place) (d : Nat) : Marks where
  parent := a.parent
  depth q := if q = p then d else a.depth q
  parent_above := a.parent_above

section Writes

variable (a : Marks) (p : Place)

@[simp] theorem Marks.setParent_parent_self (par : Option Obj) (above) :
    (a.setParent p par above).parent p = par := by
  simp [Marks.setParent]

theorem Marks.setParent_parent_of_ne {q : Place} (par : Option Obj) (above) (other : q ≠ p) :
    (a.setParent p par above).parent q = a.parent q := by
  simp [Marks.setParent, other]

/-- Setting the parent at `p` leaves the parents at shorter places as they
were. -/
theorem Marks.setParent_parent_of_shorter {q : Place} (par : Option Obj) (above)
    (short : q.length < p.length) : (a.setParent p par above).parent q = a.parent q :=
  a.setParent_parent_of_ne p par above (fun same => by subst same; omega)

@[simp] theorem Marks.setParent_depth (par : Option Obj) (above) :
    (a.setParent p par above).depth = a.depth := rfl

@[simp] theorem Marks.setDepth_parent (d : Nat) : (a.setDepth p d).parent = a.parent := rfl

@[simp] theorem Marks.setDepth_depth_self (d : Nat) : (a.setDepth p d).depth p = d := by
  simp [Marks.setDepth]

end Writes

mutual
/-- The same-file walk from the node `n` at place `p`, reached from `par` at
`depth`: it sets the node's depth and parent, reads them back for the
visit, and walks on through the children in the node's file. -/
def Node.walkOn (a : Marks) (p : Place) (par : Option Obj) (depth : Nat)
    (above : ∀ o, par = some o → o.place.length < p.length) : Node → List Visit × Marks
  | n@⟨_, _, _, _, _, _, _, _, _, _, children⟩ =>
    let a' := (a.setDepth p depth).setParent p par above
    let below := walkChildrenOn a' ⟨p, n⟩ n.fileKey (depth + 1) 0 children
    (⟨n, (a'.parent p).map (·.node.kind), a'.depth p⟩ :: below.1, below.2)

/-- The walks from the children `cs` of the node `self` that are in the
file named `key`, the first of them its child number `j`. -/
def walkChildrenOn (a : Marks) (self : Obj) (key : String) (depth j : Nat) :
    List Node → List Visit × Marks
  | [] => ([], a)
  | c :: cs =>
    let here := if c.fileKey = key then c.walkOn a (self.place ++ [j]) (some self) depth (self.above_child j)
      else ([], a)
    let rest := walkChildrenOn here.2 self key depth (j + 1) cs
    (here.1 ++ rest.1, rest.2)
end

mutual
/-- Whatever the attributes hold before, the walk visits what the same-file
walk visits: each node's attributes are read back right after they are
set. -/
theorem walkOn_visits : ∀ (a : Marks) (p : Place) (par : Option Obj) (depth : Nat) (above)
    (n : Node), (n.walkOn a p par depth above).1 = n.walk (par.map (·.node.kind)) depth
  | a, p, par, depth, above, ⟨k, s, d, f, e, t, st, r, tk, key, children⟩ => by
    simp only [Node.walkOn, Node.walk, Marks.setParent_parent_self, Marks.setParent_depth,
      Marks.setDepth_depth_self, walkChildrenOn_visits]

theorem walkChildrenOn_visits : ∀ (a : Marks) (self : Obj) (key : String) (depth j : Nat)
    (cs : List Node), (walkChildrenOn a self key depth j cs).1 = walkChildren key self.node.kind depth cs
  | _, _, _, _, _, [] => rfl
  | a, self, key, depth, j, c :: cs => by
    simp only [walkChildrenOn, walkChildren, walkChildrenOn_visits]
    split
    · rw [walkOn_visits]
      rfl
    · rfl
end

/-- Run `w` from each object of a list in turn, passing the attributes on
from one run to the next. -/
def eachOn {α : Type} (w : Marks → Obj → α × Marks) (a : Marks) : List Obj → List α × Marks
  | [] => ([], a)
  | o :: os =>
    let here := w a o
    let rest := eachOn w here.2 os
    (here.1 :: rest.1, rest.2)

/-- Runs that give the same whatever the attributes hold give the same in
turn. -/
theorem eachOn_fst {α : Type} {w : Marks → Obj → α × Marks} {g : Obj → α}
    (same : ∀ a o, (w a o).1 = g o) : ∀ (a : Marks) (os : List Obj), (eachOn w a os).1 = os.map g
  | _, [] => rfl
  | a, o :: os => by simp [eachOn, same, eachOn_fst same _ os]

/-- The children of a node that pass `keep`, as objects under the place
`p`, numbered from `j`. -/
def childObjs (p : Place) (keep : Node → Bool) (j : Nat) : List Node → List Obj
  | [] => []
  | c :: cs => if keep c then ⟨p ++ [j], c⟩ :: childObjs p keep (j + 1) cs else childObjs p keep (j + 1) cs

theorem childObjs_nodes (p : Place) (keep : Node → Bool) (cs : List Node) :
    ∀ j : Nat, (childObjs p keep j cs).map (·.node) = cs.filter keep := by
  induction cs with
  | nil => intro j; rfl
  | cons c cs ih =>
    intro j
    unfold childObjs
    by_cases kept : keep c <;> simp [kept, ih]

/-- The function definitions of a translation unit as objects, at their
places under the root. -/
def Node.functionObjs (root : Node) : List Obj :=
  childObjs [] (fun f => f.isDefinition && f.file == some root.displayName) 0 root.children

theorem functionObjs_nodes (root : Node) : root.functionObjs.map (·.node) = root.functions :=
  childObjs_nodes [] _ root.children 0

/-- Run `w` from each function definition of a translation unit in turn,
each from its own place with no parent, passing the attributes on. -/
def Node.eachFunctionOn {α : Type} (root : Node)
    (w : Marks → (p : Place) → (∀ o : Obj, none = some o → o.place.length < p.length) → Node → α × Marks)
    (a : Marks) : List α × Marks :=
  eachOn (fun a f => w a f.place (Obj.none_above f.place) f.node) a root.functionObjs

/-- Runs from the functions that give the same whatever the attributes hold
give the same in turn. -/
theorem eachFunctionOn_fst {α : Type} (root : Node)
    {w : Marks → (p : Place) → (∀ o : Obj, none = some o → o.place.length < p.length) → Node → α × Marks}
    {g : Node → α} (same : ∀ a p above n, (w a p above n).1 = g n) (a : Marks) :
    (root.eachFunctionOn w a).1 = root.functions.map g := by
  rw [Node.eachFunctionOn, eachOn_fst (fun a f => same a f.place _ f.node), ← functionObjs_nodes,
    List.map_map]
  rfl

/-- The walks of the function definitions of a translation unit, each from
its own place with no parent, passing the attributes on. -/
def Node.functionWalksOn (root : Node) (a : Marks) : List (List Visit) × Marks :=
  root.eachFunctionOn (fun a p above n => n.walkOn a p none 0 above) a

/-- Whatever the attributes hold, the walks of the functions visit what
their same-file walks visit. -/
theorem functionWalksOn_fst (root : Node) (a : Marks) :
    (root.functionWalksOn a).1 = root.functions.map (·.sameFileNodes) :=
  eachFunctionOn_fst root (fun a p above n => walkOn_visits a p none 0 above n) a

end CInspect.Tree
