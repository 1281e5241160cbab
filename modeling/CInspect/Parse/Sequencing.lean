import CInspect.Parse.Node
import CInspect.Types.Convert
/-!
Unsequenced modifications of a variable within one full expression.

C leaves open the order in which most operands are evaluated, so a
variable modified twice, or modified and read, by operands that are not
ordered has no defined result: `i = i++ + i++`. The check walks a complete
expression once, in the order the operands are written, and keeps for each
variable three usages, each the least ordered of its kind:

* a read of its value;
* a modification whose effect is complete when the value it gives is
  (what a modification becomes once an ordered operand it sits in is done);
* a modification whose effect may come later: an increment, a decrement or
  an assignment.

Operands are placed in regions that form a tree. The two operands of a
comma, of `&&` and `||`, and the condition of a conditional expression
against its results, get regions of their own: ordered with their
siblings, unordered with their ancestors and descendants. When the walk
leaves such an operator its regions are merged into the parent, since what
comes later is unordered with all of it. Two usages conflict when the
region of the earlier one is the current region or one of its ancestors,
after merging.

The arguments of a call are ordered before the call: once they are walked,
each later-effect modification in them is downgraded to a completed one.
An operand of `&&`, `||` or `?:` that a constant condition skips is not
walked. Each variable is reported once, at the modification.
-/

namespace CInspect.Parse

open CInspect.Types

/-- A region of the walk: the region it lies in and whether it has been
merged into it. -/
structure Region where
  parent : Nat
  merged : Bool := false
deriving Inhabited

/-- A usage of a variable: the token a report about it is placed at (the
operator of a modification) and the region it was made in. -/
structure Usage where
  at_ : Nat
  region : Nat
deriving Inhabited

/-- The three kinds of usage the check keeps apart. -/
inductive UsageKind where
  /-- A read of the value. -/
  | read
  /-- A modification complete when the value it gives is. -/
  | settled
  /-- A modification whose effect may come after its value. -/
  | pending
deriving DecidableEq, Inhabited

/-- The least ordered usage of each kind of one variable, and whether it
has been reported already. -/
structure Usages where
  read : Option Usage := none
  settled : Option Usage := none
  pending : Option Usage := none
  reported : Bool := false
deriving Inhabited

/-- The usage of a kind. -/
def Usages.get (u : Usages) : UsageKind → Option Usage
  | .read => u.read
  | .settled => u.settled
  | .pending => u.pending

/-- The usages with the one of a kind replaced. -/
def Usages.set (u : Usages) : UsageKind → Option Usage → Usages
  | .read, x => { u with read := x }
  | .settled, x => { u with settled := x }
  | .pending, x => { u with pending := x }

/-- The state of the walk. -/
structure Sequencing where
  /-- The regions, each after its parent; the first is the whole expression. -/
  regions : Array Region := #[{ parent := 0 }]
  /-- The usages of each variable met, by declaration. -/
  usages : List (Nat × Usages) := []
  /-- The region being walked. -/
  current : Nat := 0
  /-- Inside an ordered operand: the later-effect usages it replaced, the
  newest first, each with the variable and the usage it replaced. -/
  replaced : Option (List (Nat × Option Usage)) := none
  /-- Whether every condition tried inside the innermost `&&`, `||` or
  `?:` had a known value. -/
  evaluable : Bool := true
  /-- The reports, each a token and a message. -/
  reports : Array (Nat × String) := #[]
deriving Inhabited

/-- The walk's state monad. -/
abbrev SeqM := StateM Sequencing

/-- The region a region stands for: itself, or the one it was merged into
if it was. -/
def Sequencing.representative (s : Sequencing) : Nat → Nat → Nat
  | 0, k => k
  | f + 1, k =>
    match s.regions[k]? with
    | some r => if r.merged then s.representative f r.parent else k
    | none => k

/-- Whether the usage made in region `old` is unordered with the current
region `cur`: `old`, after merging, is `cur` or one of its ancestors. -/
def Sequencing.unordered (s : Sequencing) (cur old : Nat) : Bool :=
  let n := s.regions.size + 1
  climb n (s.representative n cur) (s.representative n old)
where
  /-- Walk up from `c` while it does not pass below `target`. -/
  climb : Nat → Nat → Nat → Bool
    | 0, _, _ => false
    | f + 1, c, target =>
      if c < target then false
      else if c == target then true
      else climb f ((s.regions[c]?.map (·.parent)).getD 0) target

/-- The usages of variable `o`. -/
def Sequencing.usagesOf (s : Sequencing) (o : Nat) : Usages :=
  ((s.usages.find? (·.1 == o)).map (·.2)).getD {}

/-- The state with the usages of variable `o` replaced. -/
def Sequencing.setUsages (s : Sequencing) (o : Nat) (u : Usages) : Sequencing :=
  if s.usages.any (·.1 == o) then
    { s with usages := s.usages.map fun p => if p.1 == o then (o, u) else p }
  else { s with usages := (o, u) :: s.usages }

/-- A new region inside the current one. -/
def openRegion : SeqM Nat := do
  let s ← get
  set { s with regions := s.regions.push { parent := s.current } }
  return s.regions.size

/-- Merge a region into its parent. -/
def mergeRegion (r : Nat) : SeqM Unit :=
  modify fun s => { s with regions := s.regions.modify r fun x => { x with merged := true } }

/-- Record a usage of variable `o`, unless the one of that kind already
kept is unordered with the current region and so less ordered than it. -/
def addUsage (o : Nat) (at_ : Option Nat) (kind : UsageKind) : SeqM Unit :=
  modify fun s =>
    let u := s.usagesOf o
    let old := u.get kind
    let keep := match old with
      | some x => s.unordered s.current x.region
      | none => false
    if keep then s
    else
      let s := match kind, s.replaced with
        | .pending, some l => { s with replaced := some ((o, old) :: l) }
        | _, _ => s
      s.setUsages o (u.set kind (at_.map fun a => { at_ := a, region := s.current }))

/-- Report a usage of variable `o` at token `at_` that conflicts with the
kept usage of kind `other`, if that one is unordered with it; a
modification meeting a modification, or one of them meeting a read. -/
def checkUsage (st : PState) (o : Nat) (at_ : Nat) (other : UsageKind) (bothModify : Bool) :
    SeqM Unit :=
  modify fun s =>
    let u := s.usagesOf o
    if u.reported then s
    else
      match u.get other with
      | none => s
      | some x =>
        if !s.unordered s.current x.region then s
        else
          let modAt := if other == .read then at_ else x.at_
          let name := ((st.decls[o]?).map (·.name)).getD ""
          let text := if bothModify then s!"multiple unsequenced modifications to '{name}'"
            else s!"unsequenced modification and access to '{name}'"
          let s := s.setUsages o { u with reported := true }
          { s with reports := s.reports.push (modAt, text) }

/-- Before the operand of a read is walked: the read meets completed
modifications. -/
def beforeRead (st : PState) (o at_ : Nat) : SeqM Unit := checkUsage st o at_ .settled false

/-- After the operand of a read is walked: it meets later-effect
modifications and is kept. -/
def afterRead (st : PState) (o at_ : Nat) : SeqM Unit := do
  checkUsage st o at_ .pending false
  addUsage o (some at_) .read

/-- Before the operand of a modification is walked: it meets completed
modifications and reads. -/
def beforeModify (st : PState) (o at_ : Nat) : SeqM Unit := do
  checkUsage st o at_ .settled true
  checkUsage st o at_ .read false

/-- After the operand of a modification is walked: it meets later-effect
modifications and is kept as one. -/
def afterModify (st : PState) (o at_ : Nat) : SeqM Unit := do
  checkUsage st o at_ .pending true
  addUsage o (some at_) .pending

/-- Start an ordered operand, giving what to restore at its end. -/
def enterOrdered : SeqM (Option (List (Nat × Option Usage))) := do
  let s ← get
  set { s with replaced := some [] }
  return s.replaced

/-- End an ordered operand: each later-effect modification made in it
becomes a completed one, and the later-effect usage it replaced comes
back. -/
def leaveOrdered (outer : Option (List (Nat × Option Usage))) : SeqM Unit := do
  let mine := ((← get).replaced).getD []
  for (o, old) in mine do
    let latest := ((← get).usagesOf o).pending
    addUsage o (latest.map (·.at_)) .settled
    modify fun s => s.setUsages o ((s.usagesOf o).set .pending old)
  modify fun s => { s with replaced := outer }

/-- Start the operands of `&&`, `||` or `?:`, giving what to restore. -/
def enterCondition : SeqM Bool := do
  let s ← get
  set { s with evaluable := true }
  return s.evaluable

/-- End the operands of `&&`, `||` or `?:`. -/
def leaveCondition (outer : Bool) : SeqM Unit :=
  modify fun s => { s with evaluable := outer && s.evaluable }

/-- The truth value of a condition, if it and every condition tried inside
it are constants. -/
def conditionValue (n : Built) : SeqM (Option Bool) := do
  if !(← get).evaluable then return none
  let v := match n.value, n.real with
    | some v, _ => some (v != 0)
    | none, some r => some (!r.isZero)
    | none, none => none
  if v.isNone then modify fun s => { s with evaluable := false }
  return v

/-- The operand of an explicit cast. -/
def Built.castOperand (n : Built) : Option Built := n.children.getLast?

/-- The expression without the parentheses and casts around it. -/
def Built.withoutCasts : Nat → Built → Built
  | 0, n => n
  | f + 1, n =>
    if n.kind == .parenExpr || n.converted then
      match n.children with
      | c :: _ => withoutCasts f c
      | [] => n
    else if n.kind == .cStyleCastExpr then
      match n.castOperand with
      | some c => withoutCasts f c
      | none => n
    else n

/-- The variable an expression designates: a name, the right operand of a
comma; for a modification also the operand of a prefix increment or
decrement and the left side of an assignment. -/
def PState.sequencedObject (st : PState) (modifying : Bool) : Nat → Built → Option Nat
  | 0, _ => none
  | f + 1, n =>
    let n := Built.withoutCasts 256 n
    match n.kind, n.children with
    | .declRefExpr, _ => n.referenced
    | .unaryOperator, [c] =>
      let o := st.operatorOf n
      if modifying && !n.isPostfix && (o == "++" || o == "--") then st.sequencedObject modifying f c
      else none
    | .binaryOperator, [l, r] =>
      let o := st.operatorOf n
      if o == "," then st.sequencedObject modifying f r
      else if modifying && o == "=" then st.sequencedObject modifying f l
      else none
    | .compoundAssignmentOperator, l :: _ =>
      if modifying then st.sequencedObject modifying f l else none
    | _, _ => none

/-- The variable an inserted conversion reads, when it is the load of a
variable's value. -/
def PState.loadedVariable (st : PState) (n : Built) : Option Nat :=
  match n.children with
  | [c] =>
    let inner := c.withoutParens
    let ct := c.ty.getD .error
    if inner.kind == .declRefExpr && !ct.isArray && !ct.isFunction then
      match inner.referenced.bind (st.decls[·]?) with
      | some d => if d.kind == .variable || d.kind == .parameter then inner.referenced else none
      | none => none
    else none
  | _ => none

mutual

/-- Walk an expression in the order it is written, recording and checking
the usages of variables. -/
def sequenceWalk (st : PState) : Nat → Built → SeqM Unit
  | 0, _ => pure ()
  | f + 1, n =>
    match n.kind with
    | .declRefExpr | .unaryExpr | .stmtExpr | .typeRef => pure ()
    | .memberRefExpr =>
      match n.children with
      | b :: _ => sequenceWalk st f b
      | [] => pure ()
    | .unaryOperator =>
      let o := st.operatorOf n
      match n.children, (if o == "++" || o == "--" then n.children.head?.bind (st.sequencedObject true 64) else none) with
      | [c], some v =>
        let at_ := n.operatorTok
        do beforeModify st v at_; sequenceWalk st f c; afterModify st v at_
      | _, _ => sequenceChildren st f n.children
    | .binaryOperator | .compoundAssignmentOperator =>
      match n.children with
      | [l, r] =>
        let o := st.operatorOf n
        if n.kind == .compoundAssignmentOperator || o == "=" then
          sequenceAssignment st f (n.kind == .compoundAssignmentOperator) n.operatorTok l r
        else if o == "," then sequenceOrdered st f l r
        else if o == "&&" || o == "||" then sequenceLogical st f (o == "&&") l r
        else sequenceChildren st f n.children
      | _ => sequenceChildren st f n.children
    | .conditionalOperator =>
      match n.children with
      | [c, a, b] => sequenceChoice st f true c (some a) b
      | _ => sequenceChildren st f n.children
    | .callExpr =>
      do
        let outer ← enterOrdered
        sequenceChildren st f n.children
        leaveOrdered outer
    | .unexposedExpr =>
      if n.converted then
        match st.loadedVariable n with
        | some v =>
          do beforeRead st v n.locTok; sequenceChildren st f n.children; afterRead st v n.locTok
        | none => sequenceChildren st f n.children
      else
        match n.children with
        -- `c ?: b`: the condition is held, only the last operand is walked
        | [c, _, _, b] => sequenceChoice st f false c none b
        | _ => sequenceChildren st f n.children
    | _ => sequenceChildren st f n.children

/-- Walk operands one after the other, in the same region. -/
def sequenceChildren (st : PState) : Nat → List Built → SeqM Unit
  | 0, _ => pure ()
  | _, [] => pure ()
  | f + 1, c :: cs => do sequenceWalk st f c; sequenceChildren st f cs

/-- Walk an assignment: the modification is checked before its operands
and kept after them; a compound assignment also reads its left side. -/
def sequenceAssignment (st : PState) : Nat → Bool → Nat → Built → Built → SeqM Unit
  | 0, _, _, _, _ => pure ()
  | f + 1, compound, at_, l, r => do
    let target := st.sequencedObject true 64 l
    if let some v := target then beforeModify st v at_
    sequenceWalk st f l
    if compound then
      if let some v := target then afterRead st v at_
    sequenceWalk st f r
    if let some v := target then afterModify st v at_

/-- Walk two operands the first of which is ordered before the second. -/
def sequenceOrdered (st : PState) : Nat → Built → Built → SeqM Unit
  | 0, _, _ => pure ()
  | f + 1, l, r => do
    let before ← openRegion
    let after ← openRegion
    let here := (← get).current
    let outer ← enterOrdered
    modify fun s => { s with current := before }
    sequenceWalk st f l
    leaveOrdered outer
    modify fun s => { s with current := after }
    sequenceWalk st f r
    modify fun s => { s with current := here }
    mergeRegion before
    mergeRegion after

/-- Walk `l && r` or `l || r`: the left operand is ordered before the
right one, which is skipped when the left one's constant value decides. -/
def sequenceLogical (st : PState) : Nat → Bool → Built → Built → SeqM Unit
  | 0, _, _, _ => pure ()
  | f + 1, conjunction, l, r => do
    let left ← openRegion
    let right ← openRegion
    let here := (← get).current
    let tracked ← enterCondition
    let outer ← enterOrdered
    modify fun s => { s with current := left }
    sequenceWalk st f l
    leaveOrdered outer
    let v ← conditionValue l
    if v.isNone || v == some conjunction then
      modify fun s => { s with current := right }
      sequenceWalk st f r
    modify fun s => { s with current := here }
    mergeRegion left
    mergeRegion right
    leaveCondition tracked

/-- Walk a conditional expression: the condition is ordered before the
results, which are ordered with each other since only one is evaluated;
a result the condition's constant value rules out is skipped. In `c ?: b`
the condition is held rather than walked, and there is no middle operand. -/
def sequenceChoice (st : PState) : Nat → Bool → Built → Option Built → Built → SeqM Unit
  | 0, _, _, _, _ => pure ()
  | f + 1, walkCondition, c, a, b => do
    let condition ← openRegion
    let yes ← openRegion
    let no ← openRegion
    let here := (← get).current
    let tracked ← enterCondition
    let outer ← enterOrdered
    modify fun s => { s with current := condition }
    if walkCondition then sequenceWalk st f c
    leaveOrdered outer
    let v ← conditionValue c
    match a with
    | some a =>
      if v != some false then
        modify fun s => { s with current := yes }
        sequenceWalk st f a
    | none => pure ()
    if v != some true then
      modify fun s => { s with current := no }
      sequenceWalk st f b
    modify fun s => { s with current := here }
    mergeRegion condition
    mergeRegion yes
    mergeRegion no
    leaveCondition tracked

end

/-- The unsequenced modifications in a complete expression, each a token
to report at and a message. -/
def unsequencedReports (st : PState) (e : Built) : Array (Nat × String) :=
  ((sequenceWalk st 512 e).run {}).2.reports

end CInspect.Parse
