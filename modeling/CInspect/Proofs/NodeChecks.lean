import CInspect.Proofs.WalkOrder
import CInspect.Proofs.BreakOff
import Mathlib.Data.List.Infix
import Mathlib.Data.List.TakeWhile
/-!
What the node checks report over a walk.

The node checks run at each visit of the same-file walk from the root: at
a visit, each check that is on, in the order of `Rule.onNodes`, looks at
the node, and the malloc check also counts the allocation calls it has
seen. Every check asks for the kind of the node first, so the walk breaks
off at a node whose kind cannot be read.

* `visitFindings_eq`: at one visit the checks that are on give their
  findings in check order (`visitReport`, `nodeFinding`), and the count
  grows by one exactly at an allocation call, when the malloc check is on;
* `walkFindings_eq`: over a walk, every visit reached is checked with the
  allocation calls reached before it (`reportsFrom`), and the checks break
  off at the first node whose kind cannot be read, when one is on
  (`reachedVisits`, `walkHalt`);
* `walkFindings_append`: the malloc check carries from one part of a walk
  to the rest exactly the number of allocation calls in the first part;
* `syntaxChecks_report`: together with the order of the walk, what the node
  checks print and return for a translation unit;
* `mallocCalls_reported`: the malloc check reports every allocation call
  the checks reach but the first, at the call itself.
-/

namespace CInspect.Check

open CInspect.Tree

/-! ### The checks at one visit -/

/-- The finding node check `c` makes at visit `v` when it is on, with
`allocs` allocation calls counted before: at the node, at the check's
level. -/
def nodeFinding (cfg : Config) (c : Rule) (v : Visit) (allocs : Nat) : Option Finding :=
  (cfg.level c).bind fun lvl => (nodeMessage c v allocs).1.map fun msg => ⟨v.node, msg, lvl, lvl⟩

/-- Why node check `c` breaks off at visit `v`, when it is on. -/
def checkHalt (cfg : Config) (v : Visit) (c : Rule) : Option BreakOff :=
  (cfg.level c).bind fun _ => nodeBreakOff? c v

/-- The node checks that look at visit `v`, in check order: those before
the first that is on and breaks off there. -/
def checksReached (cfg : Config) (v : Visit) : List Rule :=
  Rule.onNodes.takeWhile fun c => (checkHalt cfg v c).isNone

/-- The findings of the node checks that are on and look at visit `v`, in
check order. -/
def visitReport (cfg : Config) (v : Visit) (allocs : Nat) : List Finding :=
  (checksReached cfg v).filterMap (nodeFinding cfg · v allocs)

section OneVisit

variable {cfg : Config} {v : Visit} {c : Rule}

/-- Only the malloc check reads and moves the count. -/
theorem nodeMessage_snd_of_ne (other : c ≠ .multipleMalloc) (allocs : Nat) :
    (nodeMessage c v allocs).2 = allocs := by
  cases c with
  | multipleMalloc => exact absurd rfl other
  | _ => rfl

theorem nodeMessage_fst_of_ne (other : c ≠ .multipleMalloc) (a b : Nat) :
    (nodeMessage c v a).1 = (nodeMessage c v b).1 := by
  cases c with
  | multipleMalloc => exact absurd rfl other
  | _ => rfl

theorem nodeMessage_multipleMalloc (allocs : Nat) :
    nodeMessage .multipleMalloc v allocs =
      if isAllocation v.node then (if allocs + 1 > 1 then some "malloc called" else none, allocs + 1)
      else (none, allocs) := rfl

/-- Away from an allocation call, no check moves the count. -/
theorem nodeMessage_snd_of_not_allocation (other : isAllocation v.node = false) (allocs : Nat) :
    (nodeMessage c v allocs).2 = allocs := by
  cases c with
  | multipleMalloc => simp [nodeMessage_multipleMalloc, other]
  | _ => rfl

/-- No check finds anything at a node whose kind cannot be read. -/
theorem nodeMessage_fst_of_unreadable (unreadable : v.node.kind.readable = false) (allocs : Nat) :
    (nodeMessage c v allocs).1 = none := by
  obtain ⟨code, kind⟩ : ∃ code, v.node.kind = .unreadableAttr code := by
    cases h : v.node.kind <;> simp_all [Kind.readable]
  cases c <;> simp [nodeMessage, kind, followsType, isAllocation, refersInto]

/-- No check breaks off at an allocation call, which is neither a binary
operator nor a declaration. -/
theorem nodeBreakOff?_of_allocation (call : isAllocation v.node = true) : nodeBreakOff? c v = none := by
  have kind : v.node.kind = .callExpr := by
    simp only [isAllocation, Bool.and_eq_true, beq_iff_eq] at call
    exact call.1
  cases c <;> simp [nodeBreakOff?, followsType, kind]

theorem nodeFinding_of_ne (other : c ≠ .multipleMalloc) (a b : Nat) :
    nodeFinding cfg c v a = nodeFinding cfg c v b := by
  simp only [nodeFinding, nodeMessage_fst_of_ne other a b]

theorem nodeFinding_off (off : cfg.level c = none) (allocs : Nat) :
    nodeFinding cfg c v allocs = none := by
  simp [nodeFinding, off]

/-- One check at a visit: it breaks off there, or adds its finding and
passes the count on to the checks after it. -/
theorem checksAt_cons (c : Rule) (cs : List Rule) (allocs : Nat) :
    checksAt cfg v (c :: cs) allocs =
      match checkHalt cfg v c with
      | some why => ([], allocs, some why)
      | none =>
        let rest := checksAt cfg v cs (if (cfg.level c).isSome then (nodeMessage c v allocs).2 else allocs)
        ((nodeFinding cfg c v allocs).toList ++ rest.1, rest.2) := by
  rw [checksAt.eq_2]
  unfold checkHalt nodeFinding
  cases cfg.level c with
  | none => rfl
  | some lvl =>
    cases nodeBreakOff? c v with
    | some why => rfl
    | none => rfl

/-- Checks that leave the count as it is give the findings of those before
the first that breaks off, and why it did. -/
theorem checksAt_eq (allocs : Nat) :
    ∀ cs : List Rule, (∀ c ∈ cs, (nodeMessage c v allocs).2 = allocs) →
      checksAt cfg v cs allocs =
        ((cs.takeWhile fun c => (checkHalt cfg v c).isNone).filterMap (nodeFinding cfg · v allocs),
          allocs, cs.findSome? (checkHalt cfg v))
  | [], _ => rfl
  | c :: cs, keeps => by
    have rest := checksAt_eq allocs cs fun c' mem => keeps c' (List.mem_cons_of_mem c mem)
    rw [checksAt_cons, List.takeWhile_cons, List.findSome?_cons]
    cases halt : checkHalt cfg v c with
    | some why => simp
    | none =>
      simp only [keeps c List.mem_cons_self, ite_self, rest, Option.isNone_none, if_true,
        List.filterMap_cons]
      cases nodeFinding cfg c v allocs <;> simp

/-- Checks that neither break off nor move the count come first and give all
their findings. -/
theorem checksAt_append_of_unbroken (allocs : Nat) (rest : List Rule) :
    ∀ pre : List Rule, (∀ c ∈ pre, checkHalt cfg v c = none ∧ (nodeMessage c v allocs).2 = allocs) →
      checksAt cfg v (pre ++ rest) allocs =
        ((pre.filterMap (nodeFinding cfg · v allocs)) ++ (checksAt cfg v rest allocs).1,
          (checksAt cfg v rest allocs).2)
  | [], _ => rfl
  | c :: pre, quiet => by
    obtain ⟨unbroken, keeps⟩ := quiet c List.mem_cons_self
    rw [List.cons_append, checksAt_cons, unbroken, keeps, ite_self,
      checksAt_append_of_unbroken allocs rest pre fun c' mem => quiet c' (List.mem_cons_of_mem c mem),
      List.filterMap_cons]
    cases nodeFinding cfg c v allocs <;> simp

/-- The node checks tried at a visit before the malloc check. -/
def checksBeforeMalloc : List Rule :=
  [.array, .breakStmt, .comma, .continueStmt, .doWhile, .globalVariable, .gotoStmt]

/-- The node checks tried at a visit after the malloc check. -/
def checksAfterMalloc : List Rule :=
  [.nonCharArray, .staticLocalVariable, .stringLibrary, .switchStmt, .ternary, .unionDecl,
    .unistdLibrary]

/-- The node checks in order, around the malloc check, which they try once. -/
theorem onNodes_around :
    Rule.onNodes = checksBeforeMalloc ++ .multipleMalloc :: checksAfterMalloc ∧
      .multipleMalloc ∉ checksBeforeMalloc ∧ .multipleMalloc ∉ checksAfterMalloc :=
  ⟨rfl, by decide, by decide⟩

/-- At an allocation call no check breaks off: every check that is on gives
its finding, and the malloc check, when on, counts the call. -/
theorem visitFindings_of_allocation (call : isAllocation v.node = true) (allocs : Nat) :
    visitFindings cfg v allocs =
      (Rule.onNodes.filterMap (nodeFinding cfg · v allocs),
        allocs + (if (cfg.level .multipleMalloc).isSome then 1 else 0), none) := by
  obtain ⟨around, before, after⟩ := onNodes_around
  have unbroken : ∀ c, checkHalt cfg v c = none := fun c => by
    simp [checkHalt, nodeBreakOff?_of_allocation call]
  have others : ∀ cs : List Rule, .multipleMalloc ∉ cs → ∀ c ∈ cs, (nodeMessage c v allocs).2 = allocs :=
    fun cs absent c mem => nodeMessage_snd_of_ne (fun same => absent (same ▸ mem)) allocs
  -- the count the malloc check passes on
  have count : (if (cfg.level .multipleMalloc).isSome then (nodeMessage .multipleMalloc v allocs).2
      else allocs) = allocs + (if (cfg.level .multipleMalloc).isSome then 1 else 0) := by
    simp only [nodeMessage_multipleMalloc, call, if_true]
    split <;> rfl
  -- the checks after it read no count
  have later : ∀ k, checksAfterMalloc.filterMap (nodeFinding cfg · v k) =
      checksAfterMalloc.filterMap (nodeFinding cfg · v allocs) := fun k =>
    List.filterMap_congr fun c mem => nodeFinding_of_ne (fun same => after (same ▸ mem)) _ _
  rw [visitFindings, around, checksAt_append_of_unbroken allocs _ _
      fun c mem => ⟨unbroken c, others _ before c mem⟩, checksAt_cons, unbroken, count,
    checksAt_eq _ _ (fun c mem => nodeMessage_snd_of_ne (fun same => after (same ▸ mem)) _),
    List.takeWhile_eq_self_iff.mpr (fun c _ => by simp [unbroken c]),
    List.findSome?_eq_none_iff.mpr (fun c _ => unbroken c), later, List.filterMap_append,
    List.filterMap_cons]
  cases nodeFinding cfg .multipleMalloc v allocs <;> simp

/-- At one visit, the checks that are on give their findings in check order
up to the first that breaks off there, and why it did; the count grows by
one exactly at an allocation call when the malloc check is on. -/
theorem visitFindings_eq (allocs : Nat) :
    visitFindings cfg v allocs =
      (visitReport cfg v allocs,
        allocs + (if (cfg.level .multipleMalloc).isSome && isAllocation v.node then 1 else 0),
        Rule.onNodes.findSome? (checkHalt cfg v)) := by
  cases call : isAllocation v.node with
  | true =>
    have unbroken : ∀ c, checkHalt cfg v c = none := fun c => by
      simp [checkHalt, nodeBreakOff?_of_allocation call]
    rw [visitFindings_of_allocation call, visitReport, checksReached,
      List.takeWhile_eq_self_iff.mpr (fun c _ => by simp [unbroken c]),
      List.findSome?_eq_none_iff.mpr (fun c _ => unbroken c)]
    simp
  | false =>
    rw [visitFindings, checksAt_eq allocs _ (fun c _ => nodeMessage_snd_of_not_allocation call allocs)]
    simp [visitReport, checksReached]

/-- With the malloc check off, what the checks find at a visit does not
depend on the count. -/
theorem visitReport_of_off (off : cfg.level .multipleMalloc = none) (a b : Nat) :
    visitReport cfg v a = visitReport cfg v b := by
  apply List.filterMap_congr
  intro c _
  by_cases malloc : c = .multipleMalloc
  · subst malloc
    rw [nodeFinding_off off, nodeFinding_off off]
  · exact nodeFinding_of_ne malloc a b

/-- The checks find nothing at a node whose kind cannot be read. -/
theorem visitReport_of_unreadable (unreadable : v.node.kind.readable = false) (allocs : Nat) :
    visitReport cfg v allocs = [] :=
  List.filterMap_eq_nil_iff.mpr fun c _ => by
    simp [nodeFinding, nodeMessage_fst_of_unreadable unreadable]

end OneVisit

/-- Over the node checks, a function that only the malloc check gives
anything gives what it gives the malloc check. -/
theorem filterMap_onNodes_of_malloc {β : Type} {g : Rule → Option β}
    (others : ∀ c, c ≠ .multipleMalloc → g c = none) :
    Rule.onNodes.filterMap g = (g .multipleMalloc).toList := by
  obtain ⟨around, before, after⟩ := onNodes_around
  have silent : ∀ cs : List Rule, .multipleMalloc ∉ cs → cs.filterMap g = [] :=
    fun cs absent => List.filterMap_eq_nil_iff.mpr fun c mem => others c (fun same => absent (same ▸ mem))
  rw [around, List.filterMap_append, List.filterMap_cons, silent _ before, silent _ after]
  cases g .multipleMalloc <;> rfl

/-! ### Over a walk -/

/-- The allocation calls among some visits. -/
def allocCount (vs : List Visit) : Nat :=
  vs.countP (isAllocation ·.node)

/-- Why the node checks break off at visit `v`, if they do: at a node whose
kind cannot be read, before any check looks at it, when one of them is on;
otherwise at the first check that is on and breaks off there. -/
def visitHalt (cfg : Config) (v : Visit) : Option BreakOff :=
  (if anyNodeCheck cfg then breakOffAt? v.node.kind else none).or (Rule.onNodes.findSome? (checkHalt cfg v))

/-- The visits of a walk that the node checks reach: each visit up to the
first at which they break off, that one included. -/
def reachedVisits (cfg : Config) : List Visit → List Visit
  | [] => []
  | v :: vs => if (visitHalt cfg v).isSome then [v] else v :: reachedVisits cfg vs

/-- Where the node checks break off along a walk. -/
def walkHalt (cfg : Config) (vs : List Visit) : Option BreakOff :=
  vs.findSome? (visitHalt cfg)

/-- The findings of the node checks over visits, each visit checked with
the allocation calls before it among them, counted on from `allocs`. -/
def reportsFrom (cfg : Config) (allocs : Nat) (vs : List Visit) : List Finding :=
  (vs.inits.zip vs).flatMap fun (before, v) => visitReport cfg v (allocCount before + allocs)

/-- The findings of the node checks over the visits of a walk they reach,
each visit checked with the allocation calls reached before it. -/
def reachedFindings (cfg : Config) (vs : List Visit) : List Finding :=
  reportsFrom cfg 0 (reachedVisits cfg vs)

/-- The findings of node check `c` alone over the visits of a walk the
checks reach. -/
def findingsOf (cfg : Config) (c : Rule) (vs : List Visit) : List Finding :=
  let r := reachedVisits cfg vs
  (r.inits.zip r).filterMap fun (before, v) => nodeFinding cfg c v (allocCount before)

section Walk

variable {cfg : Config}

theorem reportsFrom_cons (allocs : Nat) (v : Visit) (vs : List Visit) :
    reportsFrom cfg allocs (v :: vs) =
      visitReport cfg v allocs ++
        reportsFrom cfg (allocs + if isAllocation v.node then 1 else 0) vs := by
  -- each later visit counts `v` among the calls before it
  have later : ∀ before : List Visit, allocCount (v :: before) + allocs =
      allocCount before + (allocs + if isAllocation v.node then 1 else 0) := by
    intro before
    rw [allocCount, List.countP_cons, ← allocCount]
    omega
  simp only [reportsFrom, List.inits_cons, List.zip_cons_cons, List.flatMap_cons, List.zip_map_left,
    List.flatMap_map, Prod.map, id, later]
  simp [allocCount]

theorem reportsFrom_of_off (off : cfg.level .multipleMalloc = none) (a b : Nat) (vs : List Visit) :
    reportsFrom cfg a vs = reportsFrom cfg b vs := by
  unfold reportsFrom
  exact List.flatMap_congr fun _ _ => visitReport_of_off off _ _

/-- The checks reach visits of the walk, in its order. -/
theorem reachedVisits_sublist : ∀ vs : List Visit, (reachedVisits cfg vs).Sublist vs
  | [] => .slnil
  | v :: vs => by
    unfold reachedVisits
    split
    · exact (List.nil_sublist vs).cons_cons v
    · exact (reachedVisits_sublist vs).cons_cons v

/-- A visit at which the checks do not break off: the checks there, then
the rest of the walk with the count they leave. -/
theorem walkFindings_cons_goes {v : Visit} {vs : List Visit} (allocs : Nat)
    (goes : visitHalt cfg v = none) :
    walkFindings cfg (v :: vs) allocs =
      (visitReport cfg v allocs ++ (walkFindings cfg vs
          (allocs + if (cfg.level .multipleMalloc).isSome && isAllocation v.node then 1 else 0)).1,
        (walkFindings cfg vs
          (allocs + if (cfg.level .multipleMalloc).isSome && isAllocation v.node then 1 else 0)).2) := by
  obtain ⟨readable, unbroken⟩ := Option.or_eq_none_iff.mp goes
  have kind : ¬(breakOffAt? v.node.kind).isSome ∨ anyNodeCheck cfg = false := by
    cases any : anyNodeCheck cfg <;> simp_all
  have checked : walkFindings cfg (v :: vs) allocs =
      ((visitFindings cfg v allocs).1 ++ (walkFindings cfg vs (visitFindings cfg v allocs).2.1).1,
        (walkFindings cfg vs (visitFindings cfg v allocs).2.1).2) := by
    rw [visitFindings_eq, unbroken]
    rcases kind with readable' | off
    · simp only [Option.not_isSome_iff_eq_none] at readable'
      simp only [walkFindings, readable', visitFindings_eq, unbroken]
    · simp only [walkFindings, off, visitFindings_eq, unbroken]
      split
      · contradiction
      · rfl
  rw [checked, visitFindings_eq]

/-- A visit at which the checks break off: the findings of the checks that
looked at it, and why. -/
theorem walkFindings_cons_halts {v : Visit} {vs : List Visit} {why : BreakOff} (allocs : Nat)
    (halts : visitHalt cfg v = some why) :
    walkFindings cfg (v :: vs) allocs = (visitReport cfg v allocs, some why) := by
  by_cases unreadable : (breakOffAt? v.node.kind).isSome ∧ anyNodeCheck cfg = true
  · -- before any check looks at the node, which they find nothing at
    obtain ⟨h, kind⟩ := Option.isSome_iff_exists.mp unreadable.1
    have same : h = why := by simpa [visitHalt, unreadable.2, kind] using halts
    subst same
    rw [visitReport_of_unreadable (readable_eq_false_of_breakOffAt? kind)]
    simp [walkFindings, kind, unreadable.2]
  · have passed : (if anyNodeCheck cfg then breakOffAt? v.node.kind else none) = none := by
      cases any : anyNodeCheck cfg <;> simp_all
    have broken : Rule.onNodes.findSome? (checkHalt cfg v) = some why := by
      simpa [visitHalt, passed] using halts
    have kind : (breakOffAt? v.node.kind).isNone ∨ anyNodeCheck cfg = false := by
      cases any : anyNodeCheck cfg <;> simp_all
    rcases kind with readable | off
    · simp only [Option.isNone_iff_eq_none] at readable
      simp [walkFindings, readable, visitFindings_eq, broken]
    · simp only [walkFindings, off]
      split
      · contradiction
      · simp [visitFindings_eq, broken]

/-- Over a walk, every visit the checks reach is checked with the allocation
calls reached before it, the last of them only by the checks before the one
that breaks off there, if one does. -/
theorem walkFindings_eq :
    ∀ (vs : List Visit) (allocs : Nat),
      walkFindings cfg vs allocs = (reportsFrom cfg allocs (reachedVisits cfg vs), walkHalt cfg vs)
  | [], allocs => by simp [walkFindings, reachedVisits, walkHalt, reportsFrom]
  | v :: vs, allocs => by
    cases halt : visitHalt cfg v with
    | some why =>
      rw [walkFindings_cons_halts allocs halt]
      simp [reachedVisits, walkHalt, halt, reportsFrom, allocCount]
    | none =>
      rw [walkFindings_cons_goes allocs halt, walkFindings_eq vs]
      simp only [reachedVisits, walkHalt, halt, List.findSome?_cons, Option.isSome_none,
        Bool.false_eq_true, if_false, reportsFrom_cons]
      -- the rest is checked with the count the malloc check passes on, which
      -- it reads only when it is on
      cases on : cfg.level .multipleMalloc with
      | none => simp [reportsFrom_of_off on _ allocs]
      | some lvl => simp

/-- The node checks on a translation unit: the findings over the visits of
its walk they reach, and where they break off. -/
theorem constructFindings_eq (root : Node) :
    constructFindings cfg root =
      (reachedFindings cfg root.sameFileNodes, walkHalt cfg root.sameFileNodes) :=
  walkFindings_eq _ 0

/-- What the node checks print and return: their findings, then the extra
text when they ran to the end, the text is not empty and one of the levels
is a "not" level; the levels of the findings; where they broke off. -/
theorem checkConstructs_eq (lines : List String) (root : Node) :
    checkConstructs cfg lines root =
      let fs := reachedFindings cfg root.sameFileNodes
      let halt := walkHalt cfg root.sameFileNodes
      ((fs.map (·.render cfg lines)).flatten ++
          (if halt = none ∧ cfg.extraText ≠ "" ∧
              (.notPermitted ∈ fs.map (·.level) ∨ .notRecommended ∈ fs.map (·.level))
            then [cfg.extraText] else []),
        fs.map (·.level), halt) := by
  unfold checkConstructs constructsReport
  rw [constructFindings_eq]
  simp [Option.isNone_iff_eq_none]

/-- The malloc check carries from the first part of a walk to the rest the
number of allocation calls in the first part, when the checks break off
nowhere in that part. -/
theorem walkFindings_append (on : (cfg.level .multipleMalloc).isSome) :
    ∀ (pre post : List Visit) (allocs : Nat), (∀ v ∈ pre, visitHalt cfg v = none) →
      walkFindings cfg (pre ++ post) allocs =
        ((walkFindings cfg pre allocs).1 ++ (walkFindings cfg post (allocs + allocCount pre)).1,
          (walkFindings cfg post (allocs + allocCount pre)).2)
  | [], post, allocs, _ => by simp [walkFindings, allocCount]
  | v :: pre, post, allocs, goes => by
    have count : allocs + (if isAllocation v.node then 1 else 0) + allocCount pre =
        allocs + allocCount (v :: pre) := by
      simp only [allocCount, List.countP_cons]
      omega
    simp only [List.cons_append, walkFindings_cons_goes allocs (goes v List.mem_cons_self), on,
      Bool.true_and, walkFindings_append on pre post _ (fun w mem => goes w (List.mem_cons_of_mem v mem)),
      count]
    simp

end Walk

/-! ### The report of the node checks -/

section Report

variable {cfg : Config}

/-- With a node check on, the node checks break off at the first node whose
kind cannot be read. -/
theorem anyNodeCheck_of_on {c : Rule} (mem : c ∈ Rule.onNodes) (on : (cfg.level c).isSome) :
    anyNodeCheck cfg = true :=
  List.any_eq_true.mpr ⟨c, mem, on⟩

/-- No check breaks off at a binary operator with two operands whose type
does not end at a pointer to no type, nor at any other such node: the
checks break off there only when its kind cannot be read. -/
theorem visitHalt_of_shaped {v : Visit} (pairs : v.node.pairsOperands) (points : v.node.pointsOn) :
    visitHalt cfg v = if anyNodeCheck cfg then breakOffAt? v.node.kind else none := by
  have unbroken : Rule.onNodes.findSome? (checkHalt cfg v) = none :=
    List.findSome?_eq_none_iff.mpr fun c _ => by simp [checkHalt, nodeBreakOff?_eq_none pairs points]
  simp [visitHalt, unbroken]

theorem visitHalt_eq_none {v : Visit} (checkable : v.node.checkable) : visitHalt cfg v = none := by
  simp only [Node.checkable, Bool.and_eq_true] at checkable
  rw [visitHalt_of_shaped checkable.1.2 checkable.2, breakOffAt?_eq_none checkable.1.1, ite_self]

theorem reachedVisits_of_none : ∀ {vs : List Visit}, (∀ v ∈ vs, visitHalt cfg v = none) →
    reachedVisits cfg vs = vs
  | [], _ => rfl
  | v :: vs, goes => by
    simp [reachedVisits, goes v List.mem_cons_self,
      reachedVisits_of_none fun w mem => goes w (List.mem_cons_of_mem v mem)]

/-- On a tree whose nodes the node checks can all take apart, they reach
every visit of its walk and run to the end. -/
theorem reached_of_checkable {root : Node} (checkable : root.every Node.checkable) :
    reachedVisits cfg root.sameFileNodes = root.sameFileNodes ∧ walkHalt cfg root.sameFileNodes = none := by
  have each : ∀ v ∈ root.sameFileNodes, visitHalt cfg v = none := fun v mem =>
    visitHalt_eq_none (every_self (every_of_mem_walk checkable mem))
  exact ⟨reachedVisits_of_none each, List.findSome?_eq_none_iff.mpr each⟩

/-- What one node check finds over a walk at whose nodes no check breaks
off depends on its own level only. -/
theorem findingsOf_congr {c : Rule} (mem : c ∈ Rule.onNodes) {cfg' : Config}
    (same : cfg'.level c = cfg.level c) (on : (cfg.level c).isSome) {vs : List Visit}
    (shaped : ∀ v ∈ vs, v.node.pairsOperands ∧ v.node.pointsOn) :
    findingsOf cfg' c vs = findingsOf cfg c vs := by
  -- both configurations break off exactly at the kinds that cannot be read
  have halts : ∀ v ∈ vs, visitHalt cfg' v = visitHalt cfg v := fun v mem' => by
    rw [visitHalt_of_shaped (shaped v mem').1 (shaped v mem').2,
      visitHalt_of_shaped (shaped v mem').1 (shaped v mem').2, anyNodeCheck_of_on mem on,
      anyNodeCheck_of_on mem (same ▸ on)]
  have reached : reachedVisits cfg' vs = reachedVisits cfg vs := by
    induction vs with
    | nil => rfl
    | cons v vs ih =>
      simp only [reachedVisits, halts v List.mem_cons_self,
        ih (fun w mem' => shaped w (List.mem_cons_of_mem v mem'))
          (fun w mem' => halts w (List.mem_cons_of_mem v mem'))]
  unfold findingsOf
  simp only [reached, nodeFinding, same]

/-- The node checks on a translation unit. The walk from the root visits
each position whose path stays in the root's file, once each and in
pre-order, with the kind of the node above it and its depth. At each visit
the checks reach, every node check that is on, in check order, makes its
finding, at the node and at the check's level, the malloc check counting
the allocation calls reached before, up to the first check that breaks off
there (`visitHalt`): every check at a node whose kind cannot be read, the
comma check at a binary operator without two operands, a variable check at
a variable whose const pointers end at no type. The checks reach every
visit of a tree whose nodes they can all take apart, and otherwise stop at
the first visit where they break off. Their findings are printed, then the
extra text, when they ran to the end, the text is not empty and the levels
hold a "not" level; they return the levels of the findings in order. Where
no check breaks off but at kinds that cannot be read, what a check finds
does not depend on which other checks are on. -/
theorem syntaxChecks_report (cfg : Config) (lines : List String) (root : Node) :
    let visits := root.sameFileNodes
    let r := reachedVisits cfg visits
    let fs : List Finding := (r.inits.zip r).flatMap fun (before, v) =>
      (checksReached cfg v).filterMap fun c => nodeFinding cfg c v (allocCount before)
    let halt := walkHalt cfg visits
    (root.walkPositions.Pairwise (List.Lex (· < ·)) ∧
      (∀ p, p ∈ root.walkPositions ↔ root.StaysIn root.fileKey p) ∧
      visits.map some = root.walkPositions.map (root.visitAt none 0)) ∧
    checkConstructs cfg lines root =
      ((fs.map (·.render cfg lines)).flatten ++
          (if halt = none ∧ cfg.extraText ≠ "" ∧
              (.notPermitted ∈ fs.map (·.level) ∨ .notRecommended ∈ fs.map (·.level))
            then [cfg.extraText] else []),
        fs.map (·.level), halt) ∧
    (root.every Node.checkable → r = visits ∧ halt = none) ∧
    (root.every (fun n => n.pairsOperands && n.pointsOn) →
      ∀ c ∈ Rule.onNodes, ∀ cfg' : Config, cfg'.level c = cfg.level c → (cfg.level c).isSome →
        findingsOf cfg' c visits = findingsOf cfg c visits) :=
  ⟨sameFileNodes_preorder root, checkConstructs_eq lines root, reached_of_checkable,
    fun shaped _ mem _ same on => findingsOf_congr mem same on fun v visited => by
      simpa using every_self (every_of_mem_walk shaped visited)⟩

/-- A unit of `p.c` holding a union, then an enum with the attribute
`flag_enum`, whose kind the reader does not know. -/
def unionThenFlagEnum : Node :=
  let union : Node := ⟨.unionDecl, "", "", some "p.c", ⟨⟨1, 1⟩, ⟨1, 20⟩⟩, TypeView.none, false, none,
    [], 1, []⟩
  let flags : Node := ⟨.enumDecl, "Flags", "Flags", some "p.c", ⟨⟨2, 1⟩, ⟨2, 50⟩⟩,
    ⟨"enum Flags", [false], false⟩, false, none, [], 2, [Inspection.flagEnumAttr]⟩
  ⟨.translationUnit, "p.c", "p.c", none, ⟨⟨0, 0⟩, ⟨0, 0⟩⟩, TypeView.none, false, none, [], 0,
    [union, flags]⟩

/-- The node checks do not reach every node of the walk: they break off at
the enum's attribute, after printing the union's finding at a "not" level,
and print no extra text. -/
theorem unionThenFlagEnum_drops_extraText :
    let cfg := { Config.quiet with
      level := fun c => if c = .unionDecl then some .notRecommended else none,
      extraText := "see the style guide" }
    checkConstructs cfg [] unionThenFlagEnum =
      (["p.c:1:1 warning: union used - this is not recommended"], [.notRecommended],
        some (.unreadableKind 437)) := by
  decide

/-! ### The malloc check -/

/-- Texts that begin with different characters differ. -/
theorem ne_of_toList_head? {s t : String} (heads : s.toList.head? ≠ t.toList.head?) : s ≠ t :=
  fun same => heads (same ▸ rfl)

/-- Only the malloc check reports `malloc called`. -/
theorem nodeMessage_ne_mallocCalled {c : Rule} (other : c ≠ .multipleMalloc) {v : Visit}
    {allocs : Nat} {msg : String} (found : (nodeMessage c v allocs).1 = some msg) :
    msg ≠ "malloc called" := by
  cases c with
  | multipleMalloc => exact absurd rfl other
  | globalVariable | staticLocalVariable =>
    simp only [nodeMessage] at found
    split at found
    · cases found
      -- the message names the variable after its first word
      apply ne_of_toList_head?
      have v : "variable '".toList.head? = some 'v' := by decide
      simp only [toString, String.toList_append, List.head?_append, v, Option.some_or]
      decide
    · cases found
  | assignGetcharChar | indenting | integerAsciiCode =>
    simp only [nodeMessage] at found
    cases found
  | _ =>
    simp only [nodeMessage] at found
    split at found
    · cases found
      decide
    · cases found

theorem nodeFinding_multipleMalloc {lvl : Level} (on : cfg.level .multipleMalloc = some lvl)
    (v : Visit) (allocs : Nat) :
    nodeFinding cfg .multipleMalloc v allocs =
      if isAllocation v.node ∧ 0 < allocs then some ⟨v.node, "malloc called", lvl, lvl⟩ else none := by
  simp only [nodeFinding, on, Option.bind_some, nodeMessage_multipleMalloc]
  by_cases call : isAllocation v.node <;> by_cases counted : 0 < allocs <;> simp [call, counted]

/-- At one visit, the findings that say `malloc called` are the malloc
check's. -/
theorem visitReport_mallocCalled (v : Visit) (allocs : Nat) :
    (visitReport cfg v allocs).filter (·.message == "malloc called") =
      (nodeFinding cfg .multipleMalloc v allocs).toList := by
  -- no other check's finding says it
  have others : ∀ c, c ≠ .multipleMalloc →
      (nodeFinding cfg c v allocs).filter (·.message == "malloc called") = none := by
    intro c other
    unfold nodeFinding
    cases cfg.level c with
    | none => rfl
    | some lvl =>
      cases found : (nodeMessage c v allocs).1 with
      | none => rfl
      | some msg => simp [Option.filter, nodeMessage_ne_mallocCalled other found]
  have own : (nodeFinding cfg .multipleMalloc v allocs).filter (·.message == "malloc called") =
      nodeFinding cfg .multipleMalloc v allocs := by
    cases on : cfg.level .multipleMalloc with
    | none => rw [nodeFinding_off on]; rfl
    | some lvl =>
      rw [nodeFinding_multipleMalloc on]
      split <;> rfl
  rw [visitReport, List.filter_filterMap]
  cases call : isAllocation v.node with
  | true =>
    -- no check breaks off at a call, so all of them look at it
    have reached : checksReached cfg v = Rule.onNodes := List.takeWhile_eq_self_iff.mpr fun c _ => by
      simp [checkHalt, nodeBreakOff?_of_allocation call]
    rw [reached, filterMap_onNodes_of_malloc others, own]
  | false =>
    have silent : nodeFinding cfg .multipleMalloc v allocs = none := by
      simp [nodeFinding, nodeMessage_multipleMalloc, call]
    rw [silent, Option.toList_none, List.filterMap_eq_nil_iff]
    intro c _
    by_cases malloc : c = .multipleMalloc
    · rw [malloc, silent]
      rfl
    · exact others c malloc

/-- Over visits, counting from `allocs`, the malloc check reports every
allocation call at the call itself, but the first one when nothing was
counted before. -/
theorem reportsFrom_mallocCalled {lvl : Level} (on : cfg.level .multipleMalloc = some lvl) :
    ∀ (allocs : Nat) (vs : List Visit),
      (reportsFrom cfg allocs vs).filter (·.message == "malloc called") =
        (if allocs = 0 then (vs.filter (isAllocation ·.node)).tail else vs.filter (isAllocation ·.node)).map
          fun v => ⟨v.node, "malloc called", lvl, lvl⟩
  | _, [] => by simp [reportsFrom]
  | allocs, v :: vs => by
    rw [reportsFrom_cons, List.filter_append, visitReport_mallocCalled, nodeFinding_multipleMalloc on,
      reportsFrom_mallocCalled on]
    by_cases call : isAllocation v.node
    · -- every count after a call is positive
      by_cases first : allocs = 0 <;> simp [call, first, Nat.pos_iff_ne_zero]
    · simp [call]

/-- The malloc check reports every allocation call the node checks reach
but the first in walk order, each at the call itself, so `m` calls give
`m - 1` reports; and at every point of the walk the checks carry on with
the number of allocation calls visited so far, starting from none for each
translation unit. -/
theorem mallocCalls_reported (cfg : Config) (root : Node) (lvl : Level)
    (on : cfg.level .multipleMalloc = some lvl) :
    let calls := (reachedVisits cfg root.sameFileNodes).filter (isAllocation ·.node)
    let reports := (constructFindings cfg root).1.filter (·.message == "malloc called")
    reports = calls.tail.map (fun v => ⟨v.node, "malloc called", lvl, lvl⟩) ∧
      reports.length = calls.length - 1 ∧
      ∀ pre post, root.sameFileNodes = pre ++ post → (∀ v ∈ pre, v.node.checkable) →
        constructFindings cfg root =
          ((walkFindings cfg pre 0).1 ++ (walkFindings cfg post (allocCount pre)).1,
            (walkFindings cfg post (allocCount pre)).2) := by
  have reports : (constructFindings cfg root).1.filter (·.message == "malloc called") =
      ((reachedVisits cfg root.sameFileNodes).filter (isAllocation ·.node)).tail.map
        (fun v => ⟨v.node, "malloc called", lvl, lvl⟩) := by
    rw [constructFindings, walkFindings_eq, reportsFrom_mallocCalled on]
    rfl
  refine ⟨reports, by rw [reports, List.length_map, List.length_tail], fun pre post walk checkable => ?_⟩
  have split := walkFindings_append (by rw [on]; rfl) pre post 0 fun v mem =>
    visitHalt_eq_none (checkable v mem)
  rw [Nat.zero_add] at split
  unfold constructFindings
  rw [walk, split]

/-- A unit of `p.c` whose function `main` calls `malloc` and then
`calloc`. -/
def twoAllocations : Node :=
  let call (name : String) (line : Nat) : Node := ⟨.callExpr, name, name, some "p.c",
    ⟨⟨line, 5⟩, ⟨line, 20⟩⟩, ⟨"void *", [false], false⟩, false, none, [], 0, []⟩
  let body : Node := ⟨.compoundStmt, "", "", some "p.c", ⟨⟨1, 16⟩, ⟨4, 2⟩⟩, TypeView.none, false, none,
    [], 0, [call "malloc" 2, call "calloc" 3]⟩
  let main : Node := ⟨.functionDecl, "main", "main", some "p.c", ⟨⟨1, 1⟩, ⟨4, 2⟩⟩,
    ⟨"int (void)", [false], false⟩, false, none, [], 1, [body]⟩
  ⟨.translationUnit, "p.c", "p.c", none, ⟨⟨0, 0⟩, ⟨0, 0⟩⟩, TypeView.none, false, none, [], 0, [main]⟩

/-- With the malloc check alone on, the second of the two calls is the one
reported. -/
theorem twoAllocations_one_report :
    let cfg := { Config.quiet with level := fun c => if c = .multipleMalloc then some .warning else none }
    cfg.level .multipleMalloc = some .warning ∧
      ((constructFindings cfg twoAllocations).1.filter (·.message == "malloc called")).map
        (·.node.spelling) = ["calloc"] := by
  intro cfg
  have report := mallocCalls_reported cfg twoAllocations .warning rfl
  refine ⟨rfl, ?_⟩
  rw [report.1]
  decide

end Report

end CInspect.Check
