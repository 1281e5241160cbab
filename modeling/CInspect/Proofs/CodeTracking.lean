import CInspect.Proofs.BreakOff
import Mathlib.Tactic.Tauto
/-!
What the character-code check tracks, and where it warns.

The code check walks a function's nodes in pre-order holding the variables
that currently hold a character (`Tracked`, reset for each function). A
declaration whose first child holds a character starts tracking the
variable it declares; an assignment of a value that holds a character
starts tracking the variable assigned, and an assignment of any other value
stops tracking it (`StartsTracking`, `StopsTracking`). A value holds a
character when, under its implicit conversions, it has type `char`, is a
call of `getchar`, `getc` or `fgetc`, or refers to a tracked variable
(`HoldsChar`).

`codeTrace` lists the visits that the two character checks finish, each
with the variables tracked on reaching it, the character-variable check's
findings there and the code check's warning there.

* `functionCharFindings_trace`: the checks' findings are those of the
  visits they finish, in order, then at most what they found where they
  broke off.
* `codeTrace_tracked`: a variable is tracked on reaching a visit exactly
  when an earlier visit started tracking it and no visit between stopped.
* `codeStep_warns_iff`: the check warns at a node exactly at a comparison
  whose first integer literal child reads as a reported code and one of
  whose children holds a character (`CodeWarning`).
* `asciiCode_warnings`: together, over the walk of a function.
* `flagEnum_hides_code_warning`: a check that breaks off before a
  comparison does not warn there, whatever the comparison.
-/

namespace CInspect.Check

open CInspect.Tree CInspect.Text

/-! ### Values that hold a character -/

/-- The node `m`, met under a value's conversions, holds a character for the
code check holding `tracked`. -/
def HoldsChar (tracked : Tracked) (m : Node) : Prop :=
  m.type.spelling = "char" ∨ (m.kind = .callExpr ∧ isCharInputName m.spelling = true) ∨
    (m.kind = .declRefExpr ∧ ∃ d, m.referenced = some d ∧ d.key ∈ tracked)

/-- A value found character-valued or not is one whose conversions can be
looked through, and the answer is whether what is under them holds a
character. -/
theorem charValued_eq_ok {tracked : Tracked} {x : Node} {b : Bool} (valued : x.charValued tracked = .ok b) :
    ∃ m, x.peel = some m ∧ (b = true ↔ HoldsChar tracked m) := by
  unfold Node.charValued at valued
  split at valued
  · cases valued
  · next m peeled =>
    refine ⟨m, peeled, ?_⟩
    by_cases direct : m.type.spelling = "char" ∨ (m.kind = .callExpr ∧ isCharInputName m.spelling = true)
    · rw [if_pos direct] at valued
      cases valued
      exact iff_of_true rfl (direct.elim .inl (.inr ∘ .inl))
    · rw [if_neg direct] at valued
      have other : ¬(m.type.spelling = "char" ∨ (m.kind = .callExpr ∧ isCharInputName m.spelling = true)) :=
        direct
      split at valued
      · next ref =>
        -- a reference holds a character when its declaration is tracked
        cases hr : m.referenced with
        | none => simp [hr] at valued
        | some d =>
          simp only [hr, Except.ok.injEq] at valued
          subst valued
          have notChar : m.type.spelling ≠ "char" := fun char => other (.inl char)
          simp [HoldsChar, hr, ref, notChar]
      · next ref =>
        cases valued
        simp only [Bool.false_eq_true, false_iff]
        rintro (char | call | ⟨isRef, -⟩)
        · exact other (.inl char)
        · exact other (.inr call)
        · exact ref isRef

/-- Looking through a value's conversions breaks off exactly where the
conversions end without a child. -/
theorem peel_eq_none_of_charValued {tracked : Tracked} {x : Node}
    (broke : x.charValued tracked = .error .noChild) : x.peel = none := by
  unfold Node.charValued at broke
  split at broke
  · assumption
  · repeat' split at broke
    all_goals cases broke

/-- A value refers to the declaration `v`: under its conversions it is a
reference to `v`. -/
def RefersTo (x : Node) (v : DeclInfo) : Prop :=
  ∃ m, x.peel = some m ∧ m.kind = .declRefExpr ∧ m.referenced = some v

theorem variable?_eq_some_some_iff {x : Node} {v : DeclInfo} :
    x.variable? = some (some v) ↔ RefersTo x v := by
  unfold Node.variable? RefersTo
  rw [Option.map_eq_some_iff]
  apply exists_congr
  intro m
  apply and_congr_right
  intro _
  split <;> simp_all

theorem firstCharValued_ok_none {tracked : Tracked} :
    ∀ {cs : List Node}, firstCharValued tracked cs = .ok none →
      ∀ x ∈ cs, x.charValued tracked = .ok false
  | [], _, x, mem => by simp at mem
  | c :: cs, found, x, mem => by
    unfold firstCharValued at found
    split at found
    · cases found
    · next other =>
      rcases List.mem_cons.mp mem with rfl | later
      · exact other
      · exact firstCharValued_ok_none found x later
    · cases found

theorem firstCharValued_ok_some {tracked : Tracked} {x : Node} :
    ∀ {cs : List Node}, firstCharValued tracked cs = .ok (some x) →
      x ∈ cs ∧ x.charValued tracked = .ok true
  | [], found => by simp [firstCharValued] at found
  | c :: cs, found => by
    unfold firstCharValued at found
    split at found
    · next here =>
      cases found
      exact ⟨List.mem_cons_self, here⟩
    · obtain ⟨mem, holds⟩ := firstCharValued_ok_some found
      exact ⟨List.mem_cons_of_mem c mem, holds⟩
    · cases found

/-- Looking for a child that holds a character finds one exactly when some
child holds one. -/
theorem firstCharValued_found {tracked : Tracked} {cs : List Node} {found : Option Node}
    (looked : firstCharValued tracked cs = .ok found) :
    found.isSome ↔ ∃ x ∈ cs, ∃ m, x.peel = some m ∧ HoldsChar tracked m := by
  cases found with
  | some x =>
    obtain ⟨mem, valued⟩ := firstCharValued_ok_some looked
    obtain ⟨m, peeled, iff⟩ := charValued_eq_ok valued
    exact iff_of_true rfl ⟨x, mem, m, peeled, iff.mp rfl⟩
  | none =>
    refine iff_of_false (by simp) ?_
    rintro ⟨x, mem, m, peeled, holds⟩
    obtain ⟨m', peeled', iff⟩ := charValued_eq_ok (firstCharValued_ok_none looked x mem)
    rw [peeled] at peeled'
    cases peeled'
    exact absurd (iff.mpr holds) (by decide)

/-! ### One node of the walk -/

/-- A binary operator whose operator is `=`. -/
def IsAssignment (n : Node) : Prop :=
  n.kind = .binaryOperator ∧ n.operator? = some "="

/-- A binary operator whose operator compares. -/
def IsComparison (n : Node) : Prop :=
  n.kind = .binaryOperator ∧ ∃ op, n.operator? = some op ∧ isComparison op = true

/-- Holding `tracked`, the code check at `n` starts tracking the variable
keyed `h`: `n` declares it with a first child that holds a character, or
assigns it a value that holds one. -/
def StartsTracking (tracked : Tracked) (n : Node) (h : Nat) : Prop :=
  (n.kind = .varDecl ∧ n.key = h ∧
    ∃ c cs m, n.children = c :: cs ∧ c.peel = some m ∧ HoldsChar tracked m) ∨
  (IsAssignment n ∧ ∃ l r v m, n.children = [l, r] ∧ RefersTo l v ∧ v.key = h ∧
    r.peel = some m ∧ HoldsChar tracked m)

/-- Holding `tracked`, the code check at `n` stops tracking the variable
keyed `h`: `n` assigns it a value that does not hold a character. -/
def StopsTracking (tracked : Tracked) (n : Node) (h : Nat) : Prop :=
  IsAssignment n ∧ ∃ l r v m, n.children = [l, r] ∧ RefersTo l v ∧ v.key = h ∧
    r.peel = some m ∧ ¬HoldsChar tracked m

/-- The warning the code check gives at `c` holding `tracked`: `c` is a
comparison whose first integer literal child has a first token reading as
a reported code, and one of whose children holds a character. -/
def CodeWarning (lvl : Level) (tracked : Tracked) (c : Node) (w : Finding) : Prop :=
  IsComparison c ∧ ∃ lit tok code, c.children.find? (·.kind = .integerLiteral) = some lit ∧
    lit.tokens.head? = some tok ∧ decimalValue? tok.spelling = some code ∧
    reportedCode code = true ∧ (∃ x ∈ c.children, ∃ m, x.peel = some m ∧ HoldsChar tracked m) ∧
    w = ⟨lit, codeMessage code, .warning, lvl⟩

theorem operator?_children {n : Node} {op : String} (h : n.operator? = some op) :
    ∃ l r, n.children = [l, r] := by
  unfold Node.operator? at h
  split at h
  · exact ⟨_, _, by assumption⟩
  · cases h

theorem RefersTo.unique {x : Node} {v v' : DeclInfo} (h : RefersTo x v) (h' : RefersTo x v') :
    v = v' := by
  obtain ⟨m, peeled, -, refers⟩ := h
  obtain ⟨m', peeled', -, refers'⟩ := h'
  rw [peeled] at peeled'
  cases peeled'
  rw [refers] at refers'
  cases refers'
  rfl

section Step

variable {lvl : Level} {tracked tracked' : Tracked} {n : Node} {found : Option Finding} {h : Nat}

/-! What each kind of node does to the tracking. -/

theorem not_stopsTracking (assign : ¬IsAssignment n) : ¬StopsTracking tracked n h :=
  fun stops => assign stops.1

theorem not_startsTracking (decl : n.kind ≠ .varDecl) (assign : ¬IsAssignment n) :
    ¬StartsTracking tracked n h := by
  rintro (starts | starts)
  · exact decl starts.1
  · exact assign starts.1

theorem not_isAssignment_of_kind (binary : n.kind ≠ .binaryOperator) : ¬IsAssignment n :=
  fun assign => binary assign.1

theorem startsTracking_declaration {c : Node} {cs : List Node} (decl : n.kind = .varDecl)
    (first : n.children = c :: cs) :
    StartsTracking tracked n h ↔ n.key = h ∧ ∃ m, c.peel = some m ∧ HoldsChar tracked m := by
  have assign : ¬IsAssignment n := not_isAssignment_of_kind (by rw [decl]; decide)
  simp only [StartsTracking, decl, assign, first, List.cons.injEq, true_and, false_and, or_false]
  apply and_congr_right
  intro _
  constructor
  · rintro ⟨c', cs', m, ⟨rfl, -⟩, peeled, holds⟩
    exact ⟨m, peeled, holds⟩
  · rintro ⟨m, peeled, holds⟩
    exact ⟨c, cs, m, ⟨rfl, rfl⟩, peeled, holds⟩

theorem not_startsTracking_childless (first : n.children = []) : ¬StartsTracking tracked n h := by
  rintro (⟨-, -, c, cs, m, first', -⟩ | ⟨-, l, r, v, m, pair, -⟩)
  · rw [first] at first'; cases first'
  · rw [first] at pair; cases pair

/-- Assigning a value to the variable `v` starts tracking `v` when the value
holds a character. -/
theorem startsTracking_assignment {l r : Node} {v : DeclInfo} (assign : IsAssignment n)
    (pair : n.children = [l, r]) (refers : RefersTo l v) :
    StartsTracking tracked n h ↔ v.key = h ∧ ∃ m, r.peel = some m ∧ HoldsChar tracked m := by
  have decl : n.kind ≠ .varDecl := by rw [assign.1]; decide
  simp only [StartsTracking, decl, assign, pair, List.cons.injEq, and_true, true_and, false_and,
    false_or]
  constructor
  · rintro ⟨l', r', v', m, ⟨rfl, rfl⟩, refers', rfl, peeled, holds⟩
    exact ⟨(refers.unique refers').symm ▸ rfl, m, peeled, holds⟩
  · rintro ⟨rfl, m, peeled, holds⟩
    exact ⟨l, r, v, m, ⟨rfl, rfl⟩, refers, rfl, peeled, holds⟩

/-- Assigning a value to the variable `v` stops tracking `v` when the value
does not hold a character. -/
theorem stopsTracking_assignment {l r : Node} {v : DeclInfo} (assign : IsAssignment n)
    (pair : n.children = [l, r]) (refers : RefersTo l v) :
    StopsTracking tracked n h ↔ v.key = h ∧ ∃ m, r.peel = some m ∧ ¬HoldsChar tracked m := by
  simp only [StopsTracking, assign, pair, List.cons.injEq, and_true, true_and]
  constructor
  · rintro ⟨l', r', v', m, ⟨rfl, rfl⟩, refers', rfl, peeled, held⟩
    exact ⟨(refers.unique refers').symm ▸ rfl, m, peeled, held⟩
  · rintro ⟨rfl, m, peeled, held⟩
    exact ⟨l, r, v, m, ⟨rfl, rfl⟩, refers, rfl, peeled, held⟩

/-- An assignment to something that is not a variable changes nothing. -/
theorem inert_unreferenced {l r : Node} (assign : IsAssignment n) (pair : n.children = [l, r])
    (never : ∀ v, ¬RefersTo l v) :
    ¬StartsTracking tracked n h ∧ ¬StopsTracking tracked n h := by
  have unpaired : ∀ l' r' v, n.children = [l', r'] → ¬RefersTo l' v := by
    intro l' r' v pair' refers
    rw [pair] at pair'
    obtain ⟨rfl, -⟩ := List.cons.inj pair'
    exact never v refers
  constructor
  · rintro (⟨decl, -⟩ | ⟨-, l', r', v, m, pair', refers, -⟩)
    · rw [assign.1] at decl
      cases decl
    · exact unpaired l' r' v pair' refers
  · rintro ⟨-, l', r', v, m, pair', refers, -⟩
    exact unpaired l' r' v pair' refers

theorem tracked_iff_of_inert (noStart : ¬StartsTracking tracked n h)
    (noStop : ¬StopsTracking tracked n h) :
    h ∈ tracked ↔ StartsTracking tracked n h ∨ (h ∈ tracked ∧ ¬StopsTracking tracked n h) := by
  simp only [noStart, noStop, not_false_eq_true, and_true, false_or]

/-- Away from an assignment, a step of the code check that goes on keeps the
variables tracked. -/
theorem codeStep_keeps (assign : ¬IsAssignment n) (decl : n.kind ≠ .varDecl)
    (step : codeStep lvl tracked n = .ok (tracked', found)) : tracked' = tracked := by
  unfold codeStep at step
  rw [if_neg decl] at step
  repeat' split at step
  all_goals first
    | (cases step; rfl)
    | cases step
    | exact absurd ⟨by assumption, by assumption⟩ assign

/-- What one step of the code check does to the tracked variables. -/
theorem codeStep_tracked (step : codeStep lvl tracked n = .ok (tracked', found)) :
    h ∈ tracked' ↔ StartsTracking tracked n h ∨ (h ∈ tracked ∧ ¬StopsTracking tracked n h) := by
  by_cases decl : n.kind = .varDecl
  · have noStop : ¬StopsTracking tracked n h :=
      not_stopsTracking (not_isAssignment_of_kind (by rw [decl]; decide))
    unfold codeStep at step
    rw [if_pos decl] at step
    split at step
    · next c cs first =>
      rw [startsTracking_declaration decl first]
      split at step
      · -- the first child is looked at: it starts tracking when it holds a character
        next isChar valued =>
        cases step
        obtain ⟨m, peeled, iff⟩ := charValued_eq_ok valued
        simp only [peeled, Option.some.injEq, exists_eq_left', ← iff, noStop, not_false_eq_true,
          and_true]
        cases isChar <;> simp [eq_comm]
      · -- its conversions end without a child: nothing starts
        next broke =>
        cases step
        simp [peel_eq_none_of_charValued broke, noStop]
      · cases step
    · next first =>
      cases step
      exact tracked_iff_of_inert (not_startsTracking_childless first) noStop
  by_cases assign : IsAssignment n
  · -- an assignment to a variable starts or stops tracking it
    have noCompare : n.kind = .binaryOperator := assign.1
    obtain ⟨l, r, pair⟩ := operator?_children assign.2
    unfold codeStep at step
    simp only [if_neg decl, if_pos noCompare, pair, assign.2] at step
    split at step
    · next v refersOpt =>
      have refers := variable?_eq_some_some_iff.mp refersOpt
      cases valued : r.charValued tracked with
      | error e => simp [valued, Except.map] at step
      | ok isChar =>
        simp only [valued, Except.map, Except.ok.injEq] at step
        obtain ⟨m, peeled, iff⟩ := charValued_eq_ok valued
        rw [startsTracking_assignment assign pair refers, stopsTracking_assignment assign pair refers]
        simp only [peeled, Option.some.injEq, exists_eq_left', ← iff]
        cases isChar
        · simp only [Bool.false_eq_true, if_false, Prod.mk.injEq] at step
          obtain ⟨rfl, -⟩ := step
          simp only [List.mem_filter, decide_eq_true_eq, Bool.false_eq_true, and_false, false_or,
            not_false_eq_true, and_true]
          exact and_congr_right fun _ => ne_comm
        · simp only [if_true, Prod.mk.injEq] at step
          obtain ⟨rfl, -⟩ := step
          simp only [List.mem_cons, not_true_eq_false, and_false, not_false_eq_true, and_true]
          exact or_congr_left eq_comm
    · next noRef =>
      cases step
      have never : ∀ v, ¬RefersTo l v := fun v refers => by
        rw [variable?_eq_some_some_iff.mpr refers] at noRef
        cases noRef
      obtain ⟨noStart, noStop⟩ := inert_unreferenced assign pair never
      exact tracked_iff_of_inert noStart noStop
    · cases step
  · -- any other node leaves the tracking as it is
    rw [codeStep_keeps assign decl step]
    exact tracked_iff_of_inert (not_startsTracking decl assign) (not_stopsTracking assign)

/-! Where the check warns. -/

theorem not_isComparison_of_kind (binary : n.kind ≠ .binaryOperator) : ¬IsComparison n :=
  fun compares => binary compares.1

theorem not_isComparison_of_assignment (assign : IsAssignment n) : ¬IsComparison n := by
  rintro ⟨-, op, same, compares⟩
  rw [assign.2] at same
  cases same
  exact absurd compares (by decide)

variable {w : Finding}

theorem silent_iff (no : ¬CodeWarning lvl tracked n w) :
    (none : Option Finding) = some w ↔ CodeWarning lvl tracked n w :=
  iff_of_false (fun same => Option.some_ne_none w same.symm) no

/-- At a comparison with an integer literal child whose first token reads as
a code and with a child that holds a character, the check warns exactly
when the code is reported. -/
theorem codeWarning_iff {lit : Node} {tok : Token} {code : Nat} (compares : IsComparison n)
    (literal : n.children.find? (·.kind = .integerLiteral) = some lit)
    (first : lit.tokens.head? = some tok) (value : decimalValue? tok.spelling = some code)
    (holds : ∃ x ∈ n.children, ∃ m, x.peel = some m ∧ HoldsChar tracked m) :
    CodeWarning lvl tracked n w ↔ reportedCode code = true ∧ w = ⟨lit, codeMessage code, .warning, lvl⟩ := by
  constructor
  · rintro ⟨-, lit', tok', code', literal', first', value', reported, -, rfl⟩
    rw [literal] at literal'
    cases literal'
    rw [first] at first'
    cases first'
    rw [value] at value'
    cases value'
    exact ⟨reported, rfl⟩
  · rintro ⟨reported, rfl⟩
    exact ⟨compares, lit, tok, code, literal, first, value, reported, holds, rfl⟩

/-- Where one step of the code check warns. -/
theorem codeStep_warns_iff (step : codeStep lvl tracked n = .ok (tracked', found)) :
    found = some w ↔ CodeWarning lvl tracked n w := by
  unfold codeStep at step
  split at step
  · next decl =>
    -- a declaration warns nowhere
    have noCompare : ¬IsComparison n := not_isComparison_of_kind (by rw [decl]; decide)
    have silent : found = none := by
      repeat' split at step
      all_goals first | (cases step; rfl) | cases step
    subst silent
    exact silent_iff (noCompare ·.1)
  split at step
  · next binary =>
    split at step
    · next l r pair =>
      split at step
      · -- an assignment warns nowhere
        next assignOp =>
        have noCompare := not_isComparison_of_assignment ⟨binary, assignOp⟩
        have silent : found = none := by
          split at step
          · cases valued : r.charValued tracked with
            | error e => simp [valued, Except.map] at step
            | ok isChar =>
              simp only [valued, Except.map, Except.ok.injEq] at step
              cases isChar <;> simp only [Bool.false_eq_true, if_false, if_true, Prod.mk.injEq] at step <;>
                exact step.2.symm
          · cases step; rfl
          · cases step
        subst silent
        exact silent_iff (noCompare ·.1)
      · next op notAssignOp opEq =>
        split at step
        · next compares =>
          have isCompare : IsComparison n := ⟨binary, op, opEq, compares⟩
          split at step
          · next lit literal =>
            split at step
            · -- a child holds a character: the code decides
              next x firstEq =>
              have holds := (firstCharValued_found firstEq).mp rfl
              split at step
              · next tok first =>
                cases step
                split
                · next code value =>
                  rw [codeWarning_iff isCompare literal first value holds]
                  by_cases reported : reportedCode code = true
                  · simp only [reported, if_true, Option.some.injEq, true_and]
                    exact eq_comm
                  · simp only [reported, Bool.false_eq_true, if_false, false_and, iff_false]
                    exact fun same => Option.some_ne_none w same.symm
                · next noValue =>
                  refine silent_iff ?_
                  rintro ⟨-, lit', tok', code, literal', first', value, -⟩
                  rw [literal] at literal'
                  cases literal'
                  rw [first] at first'
                  cases first'
                  rw [value] at noValue
                  cases noValue
              · cases step
            · -- no child holds a character
              next firstEq =>
              cases step
              refine silent_iff ?_
              rintro ⟨-, -, -, -, -, -, -, -, holds, -⟩
              exact absurd ((firstCharValued_found firstEq).mpr holds) (by simp)
            · cases step
          · next noLiteral =>
            cases step
            refine silent_iff ?_
            rintro ⟨-, lit, -, -, literal, -⟩
            rw [noLiteral] at literal
            cases literal
        · next notCompare =>
          cases step
          refine silent_iff ?_
          rintro ⟨⟨-, op', opEq', compares⟩, -⟩
          rw [opEq] at opEq'
          cases opEq'
          exact notCompare compares
      · next none =>
        cases step
        refine silent_iff ?_
        rintro ⟨⟨-, op, opEq, -⟩, -⟩
        rw [none] at opEq
        cases opEq
    · cases step
  · next other =>
    cases step
    exact silent_iff (not_isComparison_of_kind other ·.1)

end Step

/-! ### Over the walk of a function -/

/-- The character-variable check's findings at a node, or why it breaks off
there. -/
def firstFindings (cfg : Config) (n : Node) : Except BreakOff (List Finding) :=
  match cfg.level .assignGetcharChar with
  | some lvl => (charVariableFinding lvl n).map Option.toList
  | none => .ok []

/-- What the two character checks do at one visit, when the code check is
enabled at `lvl`: break off with what they found there, or go on with the
character-variable findings, the variables tracked after it and the code
check's finding. -/
inductive VisitOutcome where
  | stop (found : List Finding) (why : BreakOff)
  | go (found : List Finding) (tracked : Tracked) (code : Option Finding)

def visitOutcome (cfg : Config) (lvl : Level) (tracked : Tracked) (n : Node) : VisitOutcome :=
  match breakOffAt? n.kind with
  | some why => .stop [] why
  | none =>
    match firstFindings cfg n with
    | .error why => .stop [] why
    | .ok first =>
      match codeStep lvl tracked n with
      | .error why => .stop first why
      | .ok (tracked', code) => .go first tracked' code

theorem visitOutcome_go {cfg : Config} {lvl : Level} {tracked tracked' : Tracked} {n : Node}
    {first : List Finding} {code : Option Finding}
    (go : visitOutcome cfg lvl tracked n = .go first tracked' code) :
    codeStep lvl tracked n = .ok (tracked', code) := by
  unfold visitOutcome at go
  split at go
  · cases go
  · split at go
    · cases go
    · split at go
      · cases go
      · next stepped => cases go; exact stepped

section Walk

variable {cfg : Config} {lvl : Level}

/-- One visit of the character checks, with the code check enabled. -/
theorem functionCharFindings_cons (on : cfg.level .integerAsciiCode = some lvl)
    (tracked : Tracked) (v : Visit) (vs : List Visit) :
    functionCharFindings cfg tracked (v :: vs) =
      match visitOutcome cfg lvl tracked v.node with
      | .stop found why => (found, some why)
      | .go first tracked' code =>
        (first ++ code.toList ++ (functionCharFindings cfg tracked' vs).1,
          (functionCharFindings cfg tracked' vs).2) := by
  rw [functionCharFindings.eq_2]
  simp only [visitOutcome, firstFindings, on, Option.isSome_some, Bool.or_true]
  cases breakOffAt? v.node.kind with
  | some why => rfl
  | none =>
    cases cfg.level .assignGetcharChar with
    | none =>
      cases codeStep lvl tracked v.node with
      | error why => rfl
      | ok p => rfl
    | some l =>
      dsimp only
      cases charVariableFinding l v.node with
      | error why => rfl
      | ok found =>
        cases codeStep lvl tracked v.node with
        | error why => rfl
        | ok p => rfl

/-- A visit the two character checks finish: its node, the variables the
code check tracks on reaching it, and what each check finds there. -/
structure CharVisit where
  node : Node
  tracked : Tracked
  first : List Finding
  code : Option Finding

/-- The visits of a walk that the character checks finish, in order, from
the variables `tracked`, with the code check enabled at `lvl`. -/
def codeTrace (cfg : Config) (lvl : Level) : Tracked → List Visit → List CharVisit
  | _, [] => []
  | tracked, v :: vs =>
    match visitOutcome cfg lvl tracked v.node with
    | .stop _ _ => []
    | .go first tracked' code => ⟨v.node, tracked, first, code⟩ :: codeTrace cfg lvl tracked' vs

/-- The findings of the character checks are those of the visits they
finish, in order, then what they found at the visit where they break off.
Either they finish every visit, or they break off before the end with at
most the character-variable findings of that visit. -/
theorem functionCharFindings_trace (on : cfg.level .integerAsciiCode = some lvl) :
    ∀ (tracked : Tracked) (vs : List Visit), ∃ tail,
      (functionCharFindings cfg tracked vs).1 =
        (codeTrace cfg lvl tracked vs).flatMap (fun r => r.first ++ r.code.toList) ++ tail ∧
      (((functionCharFindings cfg tracked vs).2 = none ∧ tail = [] ∧
          (codeTrace cfg lvl tracked vs).length = vs.length) ∨
        ((functionCharFindings cfg tracked vs).2.isSome ∧
          (codeTrace cfg lvl tracked vs).length < vs.length ∧
          (tail = [] ∨ ∃ v ∈ vs, firstFindings cfg v.node = .ok tail)))
  | _, [] => ⟨[], by simp [functionCharFindings, codeTrace]⟩
  | tracked, v :: vs => by
    rw [functionCharFindings_cons on]
    unfold codeTrace
    cases outcome : visitOutcome cfg lvl tracked v.node with
    | stop found why =>
      refine ⟨found, by simp, Or.inr ⟨rfl, by simp, ?_⟩⟩
      -- the findings at a stop are the character-variable check's, if any
      unfold visitOutcome at outcome
      split at outcome
      · cases outcome; exact Or.inl rfl
      · split at outcome
        · cases outcome; exact Or.inl rfl
        · next first stepped =>
          split at outcome
          · cases outcome; exact Or.inr ⟨v, List.mem_cons_self, stepped⟩
          · cases outcome
    | go first tracked' code =>
      obtain ⟨tail, found, ends⟩ := functionCharFindings_trace on tracked' vs
      refine ⟨tail, by simp [found], ?_⟩
      rcases ends with ⟨finished, empty, covers⟩ | ⟨halted, short, stops⟩
      · exact Or.inl ⟨finished, empty, by simp [covers]⟩
      · refine Or.inr ⟨halted, by simp [short], ?_⟩
        rcases stops with empty | ⟨w, mem, at_w⟩
        · exact Or.inl empty
        · exact Or.inr ⟨w, List.mem_cons_of_mem v mem, at_w⟩

/-- The nodes of the finished visits are the first nodes of the walk. -/
theorem codeTrace_begins_walk : ∀ (tracked : Tracked) (vs : List Visit),
    List.IsPrefix ((codeTrace cfg lvl tracked vs).map (·.node)) (vs.map (·.node))
  | _, [] => List.prefix_refl _
  | tracked, v :: vs => by
    unfold codeTrace
    cases visitOutcome cfg lvl tracked v.node with
    | stop found why => exact List.nil_prefix
    | go first tracked' code => exact List.cons_prefix_cons.mpr ⟨rfl, codeTrace_begins_walk tracked' vs⟩

/-- Each finished visit is one step of the code check from the variables
tracked on reaching it. -/
theorem codeStep_of_mem_codeTrace : ∀ {tracked : Tracked} {vs : List Visit} {r : CharVisit},
    r ∈ codeTrace cfg lvl tracked vs → ∃ tracked', codeStep lvl r.tracked r.node = .ok (tracked', r.code)
  | _, [], r, mem => by simp [codeTrace] at mem
  | tracked, v :: vs, r, mem => by
    unfold codeTrace at mem
    cases outcome : visitOutcome cfg lvl tracked v.node with
    | stop found why => rw [outcome] at mem; cases mem
    | go first tracked' code =>
      rw [outcome] at mem
      rcases List.mem_cons.mp mem with rfl | later
      · exact ⟨tracked', visitOutcome_go outcome⟩
      · exact codeStep_of_mem_codeTrace later

/-- Among the finished visits `pre`, one started tracking the variable keyed
`h` and none after it stopped. -/
def TrackedAfter (h : Nat) (pre : List CharVisit) : Prop :=
  ∃ pre₁ m pre₂, pre = pre₁ ++ m :: pre₂ ∧ StartsTracking m.tracked m.node h ∧
    ∀ k ∈ pre₂, ¬StopsTracking k.tracked k.node h

theorem trackedAfter_cons {h : Nat} {p : CharVisit} {pre : List CharVisit} :
    TrackedAfter h (p :: pre) ↔
      (StartsTracking p.tracked p.node h ∧ ∀ k ∈ pre, ¬StopsTracking k.tracked k.node h) ∨
        TrackedAfter h pre := by
  constructor
  · rintro ⟨pre₁, m, pre₂, split, starts, kept⟩
    cases pre₁ with
    | nil =>
      obtain ⟨rfl, rfl⟩ := List.cons.inj split
      exact Or.inl ⟨starts, kept⟩
    | cons q pre₁ =>
      obtain ⟨rfl, rest⟩ := List.cons.inj split
      exact Or.inr ⟨pre₁, m, pre₂, rest, starts, kept⟩
  · rintro (⟨starts, kept⟩ | ⟨pre₁, m, pre₂, split, starts, kept⟩)
    · exact ⟨[], p, pre, rfl, starts, kept⟩
    · exact ⟨p :: pre₁, m, pre₂, by rw [split]; rfl, starts, kept⟩

/-- On reaching a finished visit, a variable is tracked exactly when it was
tracked at the start and no earlier visit stopped tracking it, or an
earlier visit started tracking it and no visit after that one stopped. -/
theorem codeTrace_tracked : ∀ (tracked : Tracked) (vs : List Visit) (pre : List CharVisit)
    (r : CharVisit) (post : List CharVisit), codeTrace cfg lvl tracked vs = pre ++ r :: post →
    ∀ h, h ∈ r.tracked ↔
      (h ∈ tracked ∧ ∀ k ∈ pre, ¬StopsTracking k.tracked k.node h) ∨ TrackedAfter h pre
  | _, [], pre, r, post, split, _ => by simp [codeTrace] at split
  | tracked, v :: vs, pre, r, post, split, h => by
    unfold codeTrace at split
    cases outcome : visitOutcome cfg lvl tracked v.node with
    | stop found why => rw [outcome] at split; simp at split
    | go first tracked' code =>
      rw [outcome] at split
      cases pre with
      | nil =>
        -- the visit reached first holds the starting variables
        obtain ⟨rfl, -⟩ := List.cons.inj split
        simp [TrackedAfter]
      | cons p pre =>
        -- the step at the first visit, then the rest of the trace from there
        obtain ⟨rfl, rest⟩ := List.cons.inj split
        have step := codeStep_tracked (h := h) (visitOutcome_go outcome)
        rw [codeTrace_tracked tracked' vs pre r post rest h, step, trackedAfter_cons]
        simp only [List.mem_cons, forall_eq_or_imp]
        tauto

end Walk

/-! ### The code check over a function -/

/-- With the code check enabled, on a function whose nodes the character
checks can all take apart (`Node.charCheckable`: kinds that can be read,
conversions with a child, binary operators with two operands, references
with a declaration, integer literals with a token), the character checks
finish every visit of its walk, and their findings are those of the visits
in order. On reaching a visit a variable is tracked exactly when an
earlier visit started tracking it and no visit after that one stopped, and
the code check warns there exactly as `CodeWarning` says. -/
theorem asciiCode_warnings (cfg : Config) (lvl : Level) (on : cfg.level .integerAsciiCode = some lvl)
    (f : Node) (checkable : f.every Node.charCheckable) :
    let trace := codeTrace cfg lvl [] f.sameFileNodes
    trace.map (·.node) = f.sameFileNodes.map (·.node) ∧
      functionCharFindings cfg [] f.sameFileNodes =
        (trace.flatMap (fun r => r.first ++ r.code.toList), none) ∧
      (∀ pre r post, trace = pre ++ r :: post → ∀ h, h ∈ r.tracked ↔ TrackedAfter h pre) ∧
      ∀ r ∈ trace, ∀ w, r.code = some w ↔ CodeWarning lvl r.tracked r.node w := by
  intro trace
  have finished : (functionCharFindings cfg [] f.sameFileNodes).2 = none :=
    functionCharFindings_halt_eq_none cfg [] fun v mem => every_of_mem_walk checkable mem
  obtain ⟨tail, found, ends⟩ := functionCharFindings_trace on [] f.sameFileNodes
  -- a run that does not break off finishes every visit and leaves nothing over
  obtain ⟨-, empty, covers⟩ : _ ∧ tail = [] ∧ trace.length = f.sameFileNodes.length := by
    rcases ends with done | ⟨halted, -⟩
    · exact done
    · rw [finished] at halted; cases halted
  refine ⟨(codeTrace_begins_walk [] f.sameFileNodes).eq_of_length (by simp [trace, covers]), ?_, ?_, ?_⟩
  · rw [← finished, ← List.append_nil (trace.flatMap _), ← empty, ← found]
  · intro pre r post split h
    simpa using codeTrace_tracked [] f.sameFileNodes pre r post split h
  · intro r mem w
    obtain ⟨tracked', step⟩ := codeStep_of_mem_codeTrace mem
    exact codeStep_warns_iff step

/-- The configuration with only the code check enabled, at level warning. -/
def asciiCodeOnly : Config :=
  { Config.quiet with level := fun c => if c = .integerAsciiCode then some .warning else none }

/-- The comparison `ch == 65` of `charCompareMain`, on line 4, where `ch`
is a `char` variable. -/
def charComparison : Node :=
  let span (a b : Nat) : Extent := ⟨⟨4, a⟩, ⟨4, b⟩⟩
  let ref : Node := ⟨.declRefExpr, "ch", "ch", some "p.c", span 9 11, ⟨"char", [false], false⟩, false,
    some ⟨"ch", "char", some "p.c", 7⟩, [⟨"ch", span 9 11⟩], 0, []⟩
  let conv : Node := ⟨.unexposedExpr, "ch", "ch", some "p.c", span 9 11, ⟨"int", [false], false⟩, false,
    none, [⟨"ch", span 9 11⟩], 0, [ref]⟩
  let code : Node := ⟨.integerLiteral, "", "", some "p.c", span 15 17, ⟨"int", [false], false⟩, false, none,
    [⟨"65", span 15 17⟩], 0, []⟩
  ⟨.binaryOperator, "", "", some "p.c", span 9 17, ⟨"int", [false], false⟩, false, none,
    [⟨"ch", span 9 11⟩, ⟨"==", span 12 14⟩, ⟨"65", span 15 17⟩], 0, [conv, code]⟩

/-- `int main(void)` declaring `enum E { A = 1 }` with the attributes
`attrs`, then `char ch = 'a';` and `if (ch == 65) { return 1; } return 0;`. -/
def charCompareMain (attrs : List Node) : Node :=
  let at_ (k : Kind) (l₀ c₀ l₁ c₁ : Nat) (ty : String) (children : List Node) : Node :=
    ⟨k, "", "", some "p.c", ⟨⟨l₀, c₀⟩, ⟨l₁, c₁⟩⟩, ⟨ty, [false], false⟩, false, none, [], 0, children⟩
  let literal (l c : Nat) (v : String) : Node := ⟨.integerLiteral, "", "", some "p.c",
    ⟨⟨l, c⟩, ⟨l, c + 1⟩⟩, ⟨"int", [false], false⟩, false, none, [⟨v, ⟨⟨l, c⟩, ⟨l, c + 1⟩⟩⟩], 0, []⟩
  let constant : Node := ⟨.enumConstantDecl, "A", "A", some "p.c", ⟨⟨2, 43⟩, ⟨2, 48⟩⟩,
    ⟨"int", [false], false⟩, false, none, [], 2, [literal 2 47 "1"]⟩
  let enum : Node := ⟨.enumDecl, "E", "E", some "p.c", ⟨⟨2, 5⟩, ⟨2, 49⟩⟩, ⟨"enum E", [false], false⟩,
    false, none, [], 1, attrs ++ [constant]⟩
  let ch : Node := ⟨.varDecl, "ch", "ch", some "p.c", ⟨⟨3, 5⟩, ⟨3, 18⟩⟩, ⟨"char", [false], false⟩, false,
    none, [], 7, [at_ .unexposedExpr 3 15 3 18 "char" [at_ .characterLiteral 3 15 3 18 "int" []]]⟩
  ⟨.functionDecl, "main", "main", some "p.c", ⟨⟨1, 1⟩, ⟨8, 2⟩⟩, ⟨"int (void)", [false], false⟩, false, none,
    [], 4,
    [at_ .compoundStmt 1 16 8 2 ""
      [at_ .declStmt 2 5 2 50 "" [enum], at_ .declStmt 3 5 3 19 "" [ch],
        at_ .ifStmt 4 5 6 6 ""
          [charComparison, at_ .compoundStmt 4 19 6 6 "" [at_ .returnStmt 5 9 5 17 "" [literal 5 16 "1"]]],
        at_ .returnStmt 7 5 7 13 "" [literal 7 12 "0"]]]⟩

/-- The translation unit of `p.c` holding `charCompareMain attrs`. -/
def charCompareUnit (attrs : List Node) : Node :=
  ⟨.translationUnit, "p.c", "p.c", none, ⟨⟨0, 0⟩, ⟨0, 0⟩⟩, TypeView.none, false, none, [], 0,
    [charCompareMain attrs]⟩

/-- Without attributes every node of the function can be read, so its
comparison is reached: the code check warns there. -/
theorem charCompareMain_warns :
    asciiCodeOnly.level .integerAsciiCode = some .warning ∧
      (charCompareMain []).every Node.charCheckable ∧
      ∀ r ∈ codeTrace asciiCodeOnly .warning [] (charCompareMain []).sameFileNodes, ∀ w,
        r.code = some w ↔ CodeWarning .warning r.tracked r.node w :=
  ⟨rfl, by decide, (asciiCode_warnings asciiCodeOnly .warning rfl (charCompareMain []) (by decide)).2.2.2⟩

/-- The comparison `ch == 65` holds a character whatever is tracked, and
reads the reported code 65. -/
theorem charComparison_codeWarning (tracked : Tracked) :
    CodeWarning .warning tracked charComparison ⟨charComparison.children[1]!, codeMessage 65, .warning, .warning⟩ := by
  refine ⟨⟨rfl, "==", rfl, rfl⟩, _, ⟨"65", ⟨⟨4, 15⟩, ⟨4, 17⟩⟩⟩, 65, rfl, rfl, by decide +kernel, rfl, ?_, rfl⟩
  exact ⟨_, List.mem_cons_self, _, rfl, Or.inl rfl⟩

/-- With the enum's `flag_enum` attribute, whose kind cannot be read, the
code check breaks off before the comparison `ch == 65` of the function
and prints nothing, though `CodeWarning` marks the comparison. -/
theorem flagEnum_hides_code_warning :
    let unit := charCompareUnit [Inspection.flagEnumAttr]
    unit.functions = [charCompareMain [Inspection.flagEnumAttr]] ∧
      charComparison ∈ (charCompareMain [Inspection.flagEnumAttr]).sameFileNodes.map (·.node) ∧
      (∀ tracked, ∃ w, CodeWarning .warning tracked charComparison w) ∧
      checkCharInput asciiCodeOnly [] unit = ([], [], some (.unreadableKind 437)) := by
  have reached : ((charCompareMain [Inspection.flagEnumAttr]).sameFileNodes.map (·.node))[12]? =
      some charComparison := rfl
  refine ⟨rfl, List.mem_of_getElem? reached, fun tracked => ⟨_, charComparison_codeWarning tracked⟩, ?_⟩
  decide

end CInspect.Check
