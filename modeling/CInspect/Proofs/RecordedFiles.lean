import CInspect.Proofs.WalkPaths
import CInspect.Proofs.ListingGaps
/-!
Which file the lines of the indentation walk come from.

The walks of the checks enter a child only when it is located in its
parent's file, so an `#include` brings nothing of a header into them. The
indentation walk does the same everywhere but in a body: it enters every
statement of a body, in whatever file. A header included inside a function
body thus brings its statements, with the header's line numbers, into the
lines the check records and into the owners whose lines it lists.

When no body of a function holds a node of another file, the walk stays in
the function's file:

* `IndentDescends.descends`: the walk's path is then a path through the
  function's own file (`Node.Descends`).
* `indentItem_in_file`: every line the walk records is the first or last
  line of a node of the function's file, and the lines of its owner are
  those of a node of the function's file.
* `checkLayout_complete_of_own_files`: so when those nodes lie within the
  source, the listing of the check never runs past the source.
-/

namespace CInspect.Tree

/-! ### Paths through one file -/

section Paths

variable {n m : Node} {path : List Node}

/-- A node reached through children in their parent's file is in the file
it was reached from. -/
theorem Node.Descends.fileKey_eq (below : n.Descends path m) : m.fileKey = n.fileKey := by
  induction below with
  | here n => rfl
  | child _ same _ ih => exact ih.trans same

/-- Each node passed on a path through one file is reached along it. -/
theorem Node.Descends.mem_path (below : n.Descends path m) {x : Node} (passed : x ∈ path) :
    ∃ path', n.Descends path' x := by
  induction below with
  | here n => cases passed
  | @child n c m path child same _ ih =>
    rcases List.mem_cons.mp passed with rfl | later
    · exact ⟨[], .here _⟩
    · obtain ⟨path', below⟩ := ih later
      exact ⟨n :: path', .child child same below⟩

/-- A path through one file goes on to a child in the same file. -/
theorem Node.Descends.snoc (below : n.Descends path m) {c : Node} (child : c ∈ m.children)
    (same : c.fileKey = m.fileKey) : n.Descends (path ++ [m]) c := by
  induction below with
  | here n => exact .child child same (.here c)
  | child child' same' _ ih => exact .child child' same' (ih child same)

end Paths

end CInspect.Tree

namespace CInspect.Check

open CInspect.Tree CInspect.Indent

/-! ### Bodies that stay in their file -/

/-- No body reached from `n` through its own file holds a node of another
file: no `#include` stands inside a block of `n`. -/
def BodiesInOwnFile (n : Node) : Prop :=
  ∀ path b, n.Descends path b → b.kind = .compoundStmt → ∀ c ∈ b.children, c.fileKey = b.fileKey

/-- A child in its parent's file keeps its bodies in their file when the
parent does. -/
theorem BodiesInOwnFile.child {n c : Node} (own : BodiesInOwnFile n) (child : c ∈ n.children)
    (same : c.fileKey = n.fileKey) : BodiesInOwnFile c :=
  fun path b below => own (n :: path) b (.child child same below)

/-- The indentation walk from a node whose bodies stay in their file goes
down through that file only. -/
theorem IndentDescends.descends {up : List Node} {depth depth' : Nat} {n m : Node} {path : List Node}
    (walk : IndentDescends up depth n path depth' m) (own : BodiesInOwnFile n) : n.Descends path m := by
  induction walk with
  | here up depth n => exact .here n
  | body compound _ _ child _ ih =>
    -- a statement of a body is in the body's file, as no body holds another file's node
    have same := own [] _ (.here _) compound _ child
    exact .child child same (ih (own.child child same))
  | among _ child same _ ih => exact .child child same (ih (own.child child same))

/-- The owner of a body in an `else if` chain is one of the ancestors walked
up. -/
theorem chainOwner_mem (p : Node) : ∀ above : List Node, chainOwner p above ∈ p :: above
  | [] => List.mem_cons_self
  | a :: rest => by
    unfold chainOwner
    split
    · exact List.mem_cons_of_mem p (chainOwner_mem a rest)
    · exact List.mem_cons_self

/-- Each line the indentation walk records for a function whose bodies stay
in their file is the first or last line of a node located in the function's
file, and the lines of its owner are those of a node located in the
function's file. -/
theorem indentItem_in_file {f : Node} (own : BodiesInOwnFile f) {item : Nat × Indent}
    (recorded : item ∈ indentItems [] 0 f) :
    (∃ path c, f.Descends path c ∧ c.fileKey = f.fileKey ∧
      (item.1 = c.extent.start.line ∨ item.1 = c.extent.stop.line)) ∧
    ∃ path o, f.Descends path o ∧ o.fileKey = f.fileKey ∧
      item.2.ownerStart = o.extent.start.line ∧ item.2.ownerStop = o.extent.stop.line := by
  obtain ⟨path, depth', b, p, above, walk, compound, ancestors, -, record⟩ := indentItem_owner recorded
  have reach := walk.descends own
  rw [List.append_nil] at ancestors
  -- the owner is walked up from the body's parent, so it lies on the path
  have passed : chainOwner p above ∈ path := by
    rw [← List.mem_reverse, ancestors]
    exact chainOwner_mem p above
  obtain ⟨path', reachOwner⟩ := reach.mem_path passed
  refine ⟨?_, path', chainOwner p above, reachOwner, reachOwner.fileKey_eq, ?_⟩
  · rcases record with ⟨c, child, rfl⟩ | rfl
    · have deeper := reach.snoc child (own path b reach compound c child)
      exact ⟨path ++ [b], c, deeper, deeper.fileKey_eq, Or.inl rfl⟩
    · exact ⟨path, b, reach, reach.fileKey_eq, Or.inr rfl⟩
  · rcases record with ⟨c, -, rfl⟩ | rfl <;> exact ⟨rfl, rfl⟩

/-! ### The listing stays in the source -/

/-- The listing of the check runs to its end when every line it shows is a
line of the source. -/
theorem checkLayout_complete_of_shown (cfg : Config) (lines : List String) (file : String) (root : Node)
    (inSource : ∀ n ∈ fileShown cfg file root, 1 ≤ n ∧ n ≤ lines.length) :
    (checkLayout cfg lines file root).complete = true := by
  obtain ⟨listedIn, -⟩ := expandShown_bounds inSource
  have present : ∀ n ∈ expandShown lines.length (fileShown cfg file root), (lineAt? lines n).isSome :=
    fun n mem => lineAt?_isSome (listedIn n mem).1 (listedIn n mem).2
  unfold checkLayout layoutOf
  split
  · rfl
  · dsimp only
    split
    · rfl
    · split
      · rfl
      · split
        · exact ((listing_rows lines _ 0 _).2 present).1
        · rfl

/-- When no body of a function holds a node of another file, and the nodes
of the functions' own file lie within the source, the listing of the body
indentation check never runs past the source. -/
theorem checkLayout_complete_of_own_files (cfg : Config) (lines : List String) (file : String) (root : Node)
    (own : ∀ f ∈ root.functions, BodiesInOwnFile f)
    (inSource : ∀ f ∈ root.functions, ∀ path m, f.Descends path m →
      1 ≤ m.extent.start.line ∧ m.extent.stop.line ≤ lines.length) :
    (checkLayout cfg lines file root).complete = true := by
  apply checkLayout_complete_of_shown
  intro n shown
  obtain ⟨f, hf, L, i, ⟨-, -, recorded, -⟩, lower, upper⟩ := mem_fileShown.mp shown
  -- the line lies within the owner of a recorded line, a node of the function's file
  obtain ⟨-, path, o, reach, -, start, stop⟩ := indentItem_in_file (own f hf) (mem_of_mem_firstPerLine recorded)
  have within := inSource f hf path o reach
  dsimp only at start stop
  omega

end CInspect.Check
