import CInspect.Workload.Session
/-!
What a walk reads of a node's place, and why steps run in a row do not see
each other.

The walks write each node's parent and depth into the node (`Marks`) and
read them back from there, and the attributes stay in the nodes from one
step to the next. Every read still sees what the same walk wrote on the
current path from where it started.

* `mem_walk_iff`: the same-file walk from `n` visits exactly the nodes
  reached from `n` through children in their parent's file (`Descends`),
  each with the kind of the node above it on its path and its distance
  from `n`. The walk over the attributes visits the same (`walkOn_visits`).
* `indentItem_owner`: each line the indentation walk records belongs to a
  body reached along the walk's own path (`IndentDescends`), and its owner
  is found from the ancestors on that path.
* `indentOn_items`: the indentation walk over the attributes finds an owner
  by following parent attributes up an `else if` chain. They lead through
  the ancestors on the current path (`Marks.Leads`): the walk sets a node's
  parent when it enters it, and a child's walk writes only below the child
  (`indentOn_keeps_above`).
* `runStep_fst`, `runSteps_any_marks`: a step gives what it gives on nodes
  no walk has been through, and so do steps in a row.
-/

namespace CInspect.Tree

/-! ### Paths through the same file -/

/-- `n.Descends path m`: `m` is reached from `n` by going down through
children in their parent's file; `path` lists the nodes passed, from `n`
down to the parent of `m`. -/
inductive Node.Descends : Node → List Node → Node → Prop
  | here (n : Node) : n.Descends [] n
  | child {n c m : Node} {path : List Node} :
      c ∈ n.children → c.fileKey = n.fileKey → c.Descends path m → n.Descends (n :: path) m

/-- The kind of the node above the end of `path`, or `parent` when the path
is empty. -/
def pathParent (parent : Option Kind) (path : List Node) : Option Kind :=
  (path.getLast?.map Node.kind).or parent

theorem pathParent_cons (parent : Option Kind) (n : Node) (path : List Node) :
    pathParent parent (n :: path) = pathParent (some n.kind) path := by
  cases path with
  | nil => rfl
  | cons p ps =>
    simp only [pathParent, List.getLast?_cons_cons]
    cases last : (p :: ps).getLast? with
    | none => simp at last
    | some x => rfl

mutual
theorem descends_of_mem_walk {v : Visit} :
    ∀ {n : Node} {parent : Option Kind} {depth : Nat}, v ∈ n.walk parent depth →
      ∃ path, n.Descends path v.node ∧ v.depth = depth + path.length ∧
        v.parent = pathParent parent path
  | ⟨k, s, d, f, e, t, st, r, tk, key, children⟩, parent, depth, mem => by
    simp only [Node.walk, List.mem_cons] at mem
    rcases mem with rfl | later
    · exact ⟨[], .here _, rfl, rfl⟩
    · obtain ⟨c, hc, same, path, below, hd, hp⟩ := descends_of_mem_walkChildren later
      refine ⟨_ :: path, .child hc same below, ?_, ?_⟩
      · simp only [List.length_cons] at hd ⊢
        omega
      · rw [pathParent_cons]
        exact hp

theorem descends_of_mem_walkChildren {v : Visit} {key : String} {pk : Kind} {depth : Nat} :
    ∀ {cs : List Node}, v ∈ walkChildren key pk depth cs →
      ∃ c ∈ cs, c.fileKey = key ∧ ∃ path, c.Descends path v.node ∧
        v.depth = depth + path.length ∧ v.parent = pathParent (some pk) path
  | [], mem => by simp [walkChildren] at mem
  | c :: cs, mem => by
    simp only [walkChildren, List.mem_append] at mem
    rcases mem with here | later
    · split at here
      · next same =>
        obtain ⟨path, below, hd, hp⟩ := descends_of_mem_walk here
        exact ⟨c, List.mem_cons_self, same, path, below, hd, hp⟩
      · simp at here
    · obtain ⟨c', hc', same, rest⟩ := descends_of_mem_walkChildren later
      exact ⟨c', List.mem_cons_of_mem c hc', same, rest⟩
end

theorem mem_walkChildren_of_mem {v : Visit} {key : String} {pk : Kind} {depth : Nat} {c : Node} :
    ∀ {cs : List Node}, c ∈ cs → c.fileKey = key → v ∈ c.walk (some pk) depth →
      v ∈ walkChildren key pk depth cs
  | [], mem, _, _ => by simp at mem
  | c' :: cs, mem, same, visited => by
    simp only [walkChildren, List.mem_append]
    rcases List.mem_cons.mp mem with rfl | later
    · left
      rw [if_pos same]
      exact visited
    · exact Or.inr (mem_walkChildren_of_mem later same visited)

theorem mem_walk_of_descends {n m : Node} {path : List Node} (below : n.Descends path m) :
    ∀ (parent : Option Kind) (depth : Nat),
      ⟨m, pathParent parent path, depth + path.length⟩ ∈ n.walk parent depth := by
  induction below with
  | here n =>
    intro parent depth
    cases n
    simp [Node.walk, pathParent]
  | @child n c m path hc same _ ih =>
    intro parent depth
    have visited := ih (some n.kind) (depth + 1)
    rw [pathParent_cons, List.length_cons, show depth + (path.length + 1) = depth + 1 + path.length by omega]
    cases n with
    | mk k s d f e t st r tk key children =>
      simp only [Node.walk, List.mem_cons]
      exact Or.inr (mem_walkChildren_of_mem hc same visited)

/-- The same-file walk from `n` visits exactly the nodes reached from `n`
through children in their parent's file, each with the kind of the node
above it on its path (the kind `parent` given for `n` itself) and its depth
`depth` plus its distance from `n`. -/
theorem mem_walk_iff {n : Node} {parent : Option Kind} {depth : Nat} {v : Visit} :
    v ∈ n.walk parent depth ↔
      ∃ path, n.Descends path v.node ∧ v.depth = depth + path.length ∧
        v.parent = pathParent parent path := by
  constructor
  · exact descends_of_mem_walk
  · rintro ⟨path, below, hd, hp⟩
    obtain ⟨node, vp, vd⟩ := v
    dsimp only at below hd hp
    subst hd hp
    exact mem_walk_of_descends below parent depth

/-! ### Parent attributes along the current path -/

/-- `a.Leads par up`: in the attributes `a`, the parent attributes followed
up from `par` pass through the nodes `up`, nearest first, and end with no
parent. -/
inductive Marks.Leads (a : Marks) : Option Obj → List Node → Prop
  | top : a.Leads none []
  | cons {o : Obj} {up : List Node} : a.Leads (a.parent o.place) up → a.Leads (some o) (o.node :: up)

/-- A chain of parent attributes that starts below length `L` reads the
same in two stores that agree on every place shorter than `L`: a parent
stands at a shorter place than its child, so the chain never leaves those
places. -/
theorem Marks.Leads.of_agree {a b : Marks} {par : Option Obj} {up : List Node} (leads : a.Leads par up)
    (L : Nat) (agree : ∀ q : Place, q.length < L → a.parent q = b.parent q)
    (below : ∀ o, par = some o → o.place.length < L) : b.Leads par up := by
  induction leads with
  | top => exact .top
  | @cons o up _ ih =>
    have short := below o rfl
    have rest := ih (fun g up' => Nat.lt_trans (a.parent_above _ g up') short)
    rw [agree o.place short] at rest
    exact .cons rest

end CInspect.Tree

namespace CInspect.Check

open CInspect.Tree

/-! ### The indentation walk's own path -/

/-- `IndentDescends up depth n path depth' m`: the indentation walk, at `n`
with ancestors `up` (nearest first) and body depth `depth`, goes down to
`m`, passing the nodes `path` from `n` to the parent of `m`, and reaches it
at body depth `depth'`. It enters every statement of a body (a compound
statement whose parent owns one), one level deeper, and the children in
their parent's file of any other node that is not a compound statement. -/
inductive IndentDescends : List Node → Nat → Node → List Node → Nat → Node → Prop
  | here (up : List Node) (depth : Nat) (n : Node) : IndentDescends up depth n [] depth n
  | body {up above : List Node} {depth depth' : Nat} {n p c m : Node} {path : List Node} :
      n.kind = .compoundStmt → up = p :: above → ownsBody p.kind = true → c ∈ n.children →
      IndentDescends (n :: up) (depth + 1) c path depth' m →
      IndentDescends up depth n (n :: path) depth' m
  | among {up : List Node} {depth depth' : Nat} {n c m : Node} {path : List Node} :
      n.kind ≠ .compoundStmt → c ∈ n.children → c.fileKey = n.fileKey →
      IndentDescends (n :: up) depth c path depth' m →
      IndentDescends up depth n (n :: path) depth' m

/-- A line the indentation walk records under `n`, as it is read off a body
`b` that the walk reaches, whose ancestors along the walk are `p :: above`
(nearest first): a statement of the body one level deeper, or its closing
brace; the owner is `p` walked up its `else if` chain through `above`. -/
def RecordOf (b p : Node) (above : List Node) (depth : Nat) (item : Nat × Indent) : Prop :=
  (∃ c ∈ b.children,
      item = (c.extent.start.line, Indent.at (chainOwner p above) c.extent.start.col (depth + 1) 0)) ∨
    item = (b.extent.stop.line, Indent.at (chainOwner p above) b.extent.stop.col depth (-1))

mutual
/-- Each line recorded under `n` is read off a body that the walk reaches
from `n`, with the owner found from the ancestors on the walk's path to it. -/
theorem indentItem_owner :
    ∀ {up : List Node} {depth : Nat} {n : Node} {item : Nat × Indent},
      item ∈ indentItems up depth n →
      ∃ path depth' b p above, IndentDescends up depth n path depth' b ∧
        b.kind = .compoundStmt ∧ path.reverse ++ up = p :: above ∧ ownsBody p.kind = true ∧
        RecordOf b p above depth' item
  | up, depth, ⟨k, s, d, f, e, t, st, r, tk, key, children⟩, item, mem => by
    unfold indentItems at mem
    split at mem
    · next compound =>
      match up, mem with
      | [], mem => simp at mem
      | p :: above, mem =>
        dsimp only at mem
        split at mem
        · next owns =>
          rcases List.mem_append.mp mem with inBody | last
          · exact bodyItem_owner compound rfl owns (fun _ mem => mem) inBody
          · refine ⟨[], depth, _, p, above, .here _ _ _, compound, rfl, owns, Or.inr ?_⟩
            exact List.mem_singleton.mp last
        · simp at mem
    · next other =>
      exact sameFileItem_owner other (fun _ mem => mem) mem
termination_by structural _ _ n => n

theorem bodyItem_owner {up above : List Node} {depth : Nat} {b p : Node}
    (compound : b.kind = .compoundStmt) (ancestors : up = p :: above) (owns : ownsBody p.kind = true) :
    ∀ {cs : List Node} {item : Nat × Indent}, (∀ c ∈ cs, c ∈ b.children) →
      item ∈ bodyItems (chainOwner p above) (b :: up) depth cs →
      ∃ path depth' b' p' above', IndentDescends up depth b path depth' b' ∧
        b'.kind = .compoundStmt ∧ path.reverse ++ up = p' :: above' ∧ ownsBody p'.kind = true ∧
        RecordOf b' p' above' depth' item
  | [], _, _, mem => by simp [bodyItems] at mem
  | c :: cs, item, inside, mem => by
    unfold bodyItems at mem
    rcases List.mem_cons.mp mem with rfl | later
    · exact ⟨[], depth, b, p, above, .here _ _ _, compound, by simp [ancestors], owns,
        Or.inl ⟨c, inside c List.mem_cons_self, rfl⟩⟩
    · rcases List.mem_append.mp later with deeper | after
      · obtain ⟨path, depth', b', p', above', reach, kind', anc, owns', record⟩ :=
          indentItem_owner deeper
        refine ⟨b :: path, depth', b', p', above',
          .body compound ancestors owns (inside c List.mem_cons_self) reach, kind', ?_, owns', record⟩
        simpa using anc
      · exact bodyItem_owner compound ancestors owns (fun c' mem => inside c' (List.mem_cons_of_mem c mem))
          after
  termination_by structural cs => cs

theorem sameFileItem_owner {up : List Node} {depth : Nat} {n : Node}
    (other : ¬n.kind = .compoundStmt) :
    ∀ {cs : List Node} {item : Nat × Indent}, (∀ c ∈ cs, c ∈ n.children) →
      item ∈ sameFileItems n.fileKey (n :: up) depth cs →
      ∃ path depth' b p above, IndentDescends up depth n path depth' b ∧
        b.kind = .compoundStmt ∧ path.reverse ++ up = p :: above ∧ ownsBody p.kind = true ∧
        RecordOf b p above depth' item
  | [], _, _, mem => by simp [sameFileItems] at mem
  | c :: cs, item, inside, mem => by
    unfold sameFileItems at mem
    rcases List.mem_append.mp mem with here | after
    · split at here
      · next same =>
        obtain ⟨path, depth', b, p, above, reach, kind, anc, owns, record⟩ := indentItem_owner here
        refine ⟨n :: path, depth', b, p, above,
          .among other (inside c List.mem_cons_self) same reach, kind, ?_, owns, record⟩
        simpa using anc
      · simp at here
    · exact sameFileItem_owner other (fun c' mem => inside c' (List.mem_cons_of_mem c mem)) after
  termination_by structural cs => cs
end

/-! ### The parent attributes the indentation walk follows -/

/-- Following the parent attributes up an `else if` chain from `q` finds the
owner the ancestors give, when the attributes lead through them. -/
theorem chainOwnerOn_node (a : Marks) (above : List Node) :
    ∀ q : Obj, a.Leads (a.parent q.place) above → (chainOwnerOn a q).node = chainOwner q.node above := by
  induction above with
  | nil =>
    intro q leads
    rw [chainOwnerOn]
    split
    · next g up =>
      rw [up] at leads
      cases leads
    · rfl
  | cons n above ih =>
    intro q leads
    rw [chainOwnerOn]
    split
    · next g up =>
      rw [up] at leads
      cases leads with
      | cons rest =>
        rw [chainOwner]
        split
        · exact ih g rest
        · rfl
    · next top =>
      rw [top] at leads
      cases leads

/-- A place no longer than a node's is shorter than the places of its
children. -/
theorem shorter_than_child {q : Place} {self : Obj} (short : q.length ≤ self.place.length) (j : Nat) :
    q.length < (self.place ++ [j]).length := by
  simp only [List.length_append, List.length_singleton]
  omega

mutual
/-- The indentation walk from place `p` writes parents only at `p` and below
it: the parent attributes of every shorter place stay as they were. -/
theorem indentOn_keeps_above : ∀ (a : Marks) (p : Place) (par : Option Obj) (depth : Nat)
    (above : ∀ o, par = some o → o.place.length < p.length) (n : Node) (q : Place),
    q.length < p.length → (indentOn a p par depth above n).2.parent q = a.parent q
  | a, p, par, depth, above, ⟨k, s, d, f, e, t, st, r, tk, key, children⟩, q, short => by
    have kept := a.setParent_parent_of_shorter p par above short
    simp only [indentOn]
    -- below the node, only the statements of a body and the children in its
    -- file are walked, all at longer places
    split
    · split
      · exact kept
      · split
        · rw [bodyOn_keeps_above _ _ _ _ _ children q (Nat.le_of_lt short), kept]
        · exact kept
    · rw [sameFileOn_keeps_above _ _ _ _ _ children q (Nat.le_of_lt short), kept]
termination_by structural _ _ _ _ _ n => n

theorem bodyOn_keeps_above : ∀ (a : Marks) (o : Node) (self : Obj) (depth j : Nat) (cs : List Node)
    (q : Place), q.length ≤ self.place.length → (bodyOn a o self depth j cs).2.parent q = a.parent q
  | _, _, _, _, _, [], _, _ => rfl
  | a, o, self, depth, j, c :: cs, q, short => by
    simp only [bodyOn]
    rw [bodyOn_keeps_above _ o self depth (j + 1) cs q short,
      indentOn_keeps_above _ _ _ _ _ c q (shorter_than_child short j)]
termination_by structural _ _ _ _ _ cs => cs

theorem sameFileOn_keeps_above : ∀ (a : Marks) (self : Obj) (key : String) (depth j : Nat)
    (cs : List Node) (q : Place),
    q.length ≤ self.place.length → (sameFileOn a self key depth j cs).2.parent q = a.parent q
  | _, _, _, _, _, [], _, _ => rfl
  | a, self, key, depth, j, c :: cs, q, short => by
    simp only [sameFileOn]
    rw [sameFileOn_keeps_above _ self key depth (j + 1) cs q short]
    split
    · exact indentOn_keeps_above _ _ _ _ _ c q (shorter_than_child short j)
    · rfl
termination_by structural _ _ _ _ _ cs => cs
end

/-- The walk of a child of `self` leaves the parent attributes from `self`
up as they were. -/
theorem leads_past_child {a : Marks} {self : Obj} {up : List Node} (leads : a.Leads (some self) up)
    (j depth : Nat) (c : Node) :
    (indentOn a (self.place ++ [j]) (some self) depth (self.above_child j) c).2.Leads (some self) up :=
  leads.of_agree (self.place.length + 1)
    (fun q short => (indentOn_keeps_above a _ _ _ _ c q (shorter_than_child (Nat.le_of_lt_succ short) j)).symm)
    (by rintro o ⟨⟩; exact Nat.lt_succ_self _)

mutual
/-- Entered where the parent attributes lead up from `par` through the
ancestors `up`, the indentation walk over the attributes records what the
walk with the ancestors carried down records: every parent it follows up
an `else if` chain is one this walk set on the current path, whatever
earlier walks left in the nodes. -/
theorem indentOn_items : ∀ (a : Marks) (p : Place) (par : Option Obj) (depth : Nat)
    (above : ∀ o, par = some o → o.place.length < p.length) (n : Node) (up : List Node),
    a.Leads par up → (indentOn a p par depth above n).1 = indentItems up depth n
  | a, p, par, depth, above, ⟨k, s, d, f, e, t, st, r, tk, key, children⟩, up, leads => by
    -- setting the parent at `p` leaves the chain above `p` as it was
    have set : (a.setParent p par above).Leads par up :=
      leads.of_agree p.length (fun _ short => (a.setParent_parent_of_shorter p par above short).symm) above
    simp only [indentOn, indentItems]
    by_cases compound : k = .compoundStmt
    · simp only [compound, if_true]
      cases set with
      | top => rfl
      | @cons q rest upper =>
        by_cases owns : ownsBody q.node.kind = true
        · simp only [owns, if_true]
          rw [chainOwnerOn_node _ rest q upper]
          congr 1
          refine bodyOn_items _ _ _ _ _ children _ (.cons ?_)
          simpa using Marks.Leads.cons upper
        · simp [owns]
    · simp only [compound, if_false]
      refine sameFileOn_items _ _ _ _ _ children _ (.cons ?_)
      simpa using set
termination_by structural _ _ _ _ _ n => n

theorem bodyOn_items : ∀ (a : Marks) (o : Node) (self : Obj) (depth j : Nat) (cs up : List Node),
    a.Leads (some self) up → (bodyOn a o self depth j cs).1 = bodyItems o up depth cs
  | _, _, _, _, _, [], _, _ => rfl
  | a, o, self, depth, j, c :: cs, up, leads => by
    simp only [bodyOn, bodyItems]
    rw [indentOn_items a _ _ _ _ c up leads,
      bodyOn_items _ o self depth (j + 1) cs up (leads_past_child leads j (depth + 1) c)]
termination_by structural _ _ _ _ _ cs => cs

theorem sameFileOn_items : ∀ (a : Marks) (self : Obj) (key : String) (depth j : Nat) (cs up : List Node),
    a.Leads (some self) up → (sameFileOn a self key depth j cs).1 = sameFileItems key up depth cs
  | _, _, _, _, _, [], _, _ => rfl
  | a, self, key, depth, j, c :: cs, up, leads => by
    simp only [sameFileOn, sameFileItems]
    by_cases same : c.fileKey = key
    · simp only [same, if_true]
      rw [indentOn_items a _ _ _ _ c up leads,
        sameFileOn_items _ self key depth (j + 1) cs up (leads_past_child leads j depth c)]
    · simp only [same, if_false]
      exact sameFileOn_items a self key depth (j + 1) cs up leads
termination_by structural _ _ _ _ _ cs => cs
end

/-- Whatever the nodes hold, the indentation check over the attributes
gives what the check with the ancestors carried down gives: each function
is entered with no parent, where the chain of parents is empty. -/
theorem checkLayoutOn_fst (cfg : Config) (lines : List String) (file : String) (root : Node)
    (a : Marks) : (checkLayoutOn cfg lines file root a).1 = checkLayout cfg lines file root := by
  have recorded := eachFunctionOn_fst root (fun a p above n => indentOn_items a p none 0 above n [] .top) a
  unfold checkLayoutOn checkLayout
  split
  · rfl
  · dsimp only
    rw [recorded, List.map_map]
    rfl

end CInspect.Check

namespace CInspect.Workload

open CInspect.Tree CInspect.Check

/-! ### Steps in a row -/

section Steps

variable (cfg : Config) (file : String) (root : Node) (lines : List String)

/-- A step gives what it gives on nodes no walk has been through, whatever
the steps before it left in them: the walks read back only what they have
just written on the current path. -/
theorem runStep_fst (a : Marks) (step : Step) :
    (runStep cfg file root lines a step).1 = (runStep cfg file root lines .blank step).1 := by
  cases step <;> simp only [runStep, walkOn_visits, functionWalksOn_fst, checkLayoutOn_fst]

variable {cfg file root lines} {a : Marks} {name : String} {rest : List String}

theorem runSteps_cons_unknown (unknown : Step.ofName? name = none) :
    runSteps cfg file root lines a (name :: rest) = ⟨[], [], some (.unknownStep name)⟩ := by
  simp [runSteps, unknown]

theorem runSteps_cons_stopped {step : Step} {o : List String} {r : StepResult} {h : Halt}
    (known : Step.ofName? name = some step) (ran : (runStep cfg file root lines a step).1 = (o, r, some h)) :
    runSteps cfg file root lines a (name :: rest) = ⟨[], o, some h⟩ := by
  cases run : runStep cfg file root lines a step with
  | mk res a' =>
    rw [run] at ran
    subst ran
    simp [runSteps, known, run]

theorem runSteps_cons_ran {step : Step} {o : List String} {r : StepResult}
    (known : Step.ofName? name = some step) (ran : (runStep cfg file root lines a step).1 = (o, r, none)) :
    runSteps cfg file root lines a (name :: rest) =
      let t := runSteps cfg file root lines (runStep cfg file root lines a step).2 rest
      ⟨r :: t.results, o ++ t.out, t.halt⟩ := by
  cases run : runStep cfg file root lines a step with
  | mk res a' =>
    rw [run] at ran
    subst ran
    simp [runSteps, known, run]

end Steps

/-- Steps in a row give the same whatever the nodes hold before them. The
induction is on the steps; each step gives the same by `runStep_fst`, and
the attributes it leaves differ, which the rest does not see. -/
theorem runSteps_any_marks (cfg : Config) (file : String) (root : Node) (lines : List String) :
    ∀ (a : Marks) (steps : List String),
      runSteps cfg file root lines a steps = runSteps cfg file root lines .blank steps
  | _, [] => rfl
  | a, name :: rest => by
    cases known : Step.ofName? name with
    | none => rw [runSteps_cons_unknown known, runSteps_cons_unknown known]
    | some step =>
      have same := runStep_fst cfg file root lines a step
      cases ran : (runStep cfg file root lines .blank step).1 with
      | mk o rh =>
        obtain ⟨r, halt⟩ := rh
        cases halt with
        | some h =>
          rw [runSteps_cons_stopped known (same.trans ran), runSteps_cons_stopped known ran]
        | none =>
          rw [runSteps_cons_ran known (same.trans ran), runSteps_cons_ran known ran,
            runSteps_any_marks cfg file root lines _ rest,
            runSteps_any_marks cfg file root lines (runStep cfg file root lines .blank step).2 rest]

/-- Running steps after others on one tree: once the first steps stop the
session the later ones do not run; otherwise the later ones give exactly
the results and printed lines they give on a fresh tree, after those of the
first. -/
theorem runSteps_append (cfg : Config) (file : String) (root : Node) (lines : List String) :
    ∀ pre post : List String,
      runSteps cfg file root lines .blank (pre ++ post) =
        let first := runSteps cfg file root lines .blank pre
        let later := runSteps cfg file root lines .blank post
        if first.halt.isSome then first
        else ⟨first.results ++ later.results, first.out ++ later.out, later.halt⟩
  | [], post => by simp [runSteps]
  | name :: rest, post => by
    rw [List.cons_append]
    cases known : Step.ofName? name with
    | none => simp [runSteps_cons_unknown known]
    | some step =>
      cases ran : (runStep cfg file root lines .blank step).1 with
      | mk o rh =>
        obtain ⟨r, halt⟩ := rh
        cases halt with
        | some h => simp [runSteps_cons_stopped known ran]
        | none =>
          rw [runSteps_cons_ran known ran, runSteps_cons_ran known ran,
            runSteps_any_marks cfg file root lines _ (rest ++ post),
            runSteps_any_marks cfg file root lines _ rest, runSteps_append cfg file root lines rest post]
          by_cases stopped : (runSteps cfg file root lines .blank rest).halt.isSome
          · simp [stopped]
          · simp [stopped]

/-- Steps run one after another on the nodes of one tree each give what they
give on a fresh tree, though the walks write each node's parent and depth
into the node and leave them there. The walk of the checks and of the dump
reads at each node the kind of the node above it and the depth on its own
path from where it starts; the indentation walk, following parent
attributes up an `else if` chain, reads the parents it set on the current
path; so each step gives the same whatever earlier steps left, and a step
run after others gives the results and printed lines it gives on its own. -/
theorem steps_run_as_on_fresh_tree (cfg : Config) (file : String) (root : Node)
    (lines : List String) :
    (∀ (a : Marks) (p : Place) (par : Option Obj) (depth : Nat)
      (above : ∀ o, par = some o → o.place.length < p.length) (n : Node) (v : Visit),
      v ∈ (n.walkOn a p par depth above).1 ↔
        ∃ path, n.Descends path v.node ∧ v.depth = depth + path.length ∧
          v.parent = pathParent (par.map (·.node.kind)) path) ∧
    (∀ (a : Marks) (p : Place) (par : Option Obj) (up : List Node) (depth : Nat)
      (above : ∀ o, par = some o → o.place.length < p.length) (n : Node),
      a.Leads par up → (indentOn a p par depth above n).1 = indentItems up depth n) ∧
    (∀ (a : Marks) (step : Step),
      (runStep cfg file root lines a step).1 = (runStep cfg file root lines .blank step).1) ∧
    ∀ pre post : List String,
      runSteps cfg file root lines .blank (pre ++ post) =
        let first := runSteps cfg file root lines .blank pre
        let later := runSteps cfg file root lines .blank post
        if first.halt.isSome then first
        else ⟨first.results ++ later.results, first.out ++ later.out, later.halt⟩ := by
  refine ⟨fun a p par depth above n v => ?_, fun a p par up depth above n leads => ?_,
    runStep_fst cfg file root lines, runSteps_append cfg file root lines⟩
  · rw [walkOn_visits]
    exact mem_walk_iff
  · exact indentOn_items a p par depth above n up leads

/-- After the dump has written its attributes into the nodes of the nesting
sample, the indentation walk of its first function still records what the
walk with the ancestors carried down records. -/
theorem nesting_indent_after_dump :
    Marks.Leads ((runStep .quiet "nest.c" (nestingTree 1).1 (nestingTree 1).2 .blank .dump).2) none [] ∧
      (indentOn (runStep .quiet "nest.c" (nestingTree 1).1 (nestingTree 1).2 .blank .dump).2 [0] none 0
        (Obj.none_above [0]) (nestingFunction 0)).1 = indentItems [] 0 (nestingFunction 0) :=
  ⟨.top, (steps_run_as_on_fresh_tree .quiet "nest.c" (nestingTree 1).1 (nestingTree 1).2).2.1 _ [0] none [] 0
    (Obj.none_above [0]) (nestingFunction 0) .top⟩

end CInspect.Workload
