import CInspect.Tree.Basic
/-!
Walking a syntax tree within one file.

The checks look only at the nodes of the file they check, not at the
declarations that included headers bring in. `Node.walk` lists a node and,
in pre-order, every descendant reached through children located in the same
file as their parent; each visit records the kind of the parent it was
reached from and its depth below the start.

`Node.functions` lists the function definitions of a translation unit: its
children that are function declarations located in the unit's own file and
that have a body.

Main statements: `walk_head` (the walk starts at the node itself) and
`mem_walkChildren` (a child in another file is never entered).
-/

namespace CInspect.Tree

/-- One step of a walk: the node, the kind of the node it was reached from
(none for the start), and its depth below the start. -/
structure Visit where
  node : Node
  parent : Option Kind
  depth : Nat

mutual
/-- The node `n` and its same-file descendants in pre-order. -/
def Node.walk (parent : Option Kind) (depth : Nat) : Node → List Visit
  | n@⟨_, _, _, _, _, _, _, _, _, _, children⟩ =>
    ⟨n, parent, depth⟩ :: walkChildren n.fileKey n.kind (depth + 1) children

/-- The walks of the children in `cs` that are in the file named `key`. -/
def walkChildren (key : String) (pk : Kind) (depth : Nat) : List Node → List Visit
  | [] => []
  | c :: cs =>
    (if c.fileKey = key then c.walk (some pk) depth else []) ++ walkChildren key pk depth cs
end

/-- The nodes of a walk from `n`, in order. -/
def Node.sameFileNodes (n : Node) : List Visit :=
  n.walk none 0

theorem walk_head (parent : Option Kind) (depth : Nat) (n : Node) :
    (n.walk parent depth).head? = some ⟨n, parent, depth⟩ := by
  cases n; simp [Node.walk]

theorem mem_walkChildren {key : String} {pk : Kind} {depth : Nat} {cs : List Node} {v : Visit}
    (h : v ∈ walkChildren key pk depth cs) :
    ∃ c ∈ cs, c.fileKey = key ∧ v ∈ c.walk (some pk) depth := by
  induction cs with
  | nil => simp [walkChildren] at h
  | cons c cs ih =>
    simp only [walkChildren, List.mem_append] at h
    rcases h with h | h
    · split at h
      · exact ⟨c, List.mem_cons_self, by assumption, h⟩
      · simp at h
    · obtain ⟨d, hd, hk, hv⟩ := ih h
      exact ⟨d, List.mem_cons_of_mem _ hd, hk, hv⟩

/-- A function definition: a function declaration with a body. -/
def Node.isDefinition (n : Node) : Bool :=
  n.kind == .functionDecl && n.children.any (·.kind == .compoundStmt)

/-- The function definitions among the children of a translation unit that
are located in the unit's own file, in order. -/
def Node.functions (root : Node) : List Node :=
  root.children.filter (fun f => f.isDefinition && f.file == some root.displayName)

end CInspect.Tree
