import CInspect.Inspection.File
import Mathlib.Data.List.Basic
/-!
When the checks break off, and why.

Each way a check can break off is one `BreakOff` reason, and each reason is
caused by one shape of node (`BreakOff.Cause`): a node whose kind cannot be
read, a binary operator without two operands, an implicit conversion
without a child, a reference to no declaration, an integer literal without
a token, or a const pointer to no type.

* `constructFindings_halt_cause`: the node checks break off only at a node
  of their walk whose kind cannot be read, a binary operator without two
  operands (the comma check) or a variable whose const pointers end at no
  type (the variable checks);
* `functionsCharFindings_halt_cause`: the character checks break off only
  for a node within a function definition, of any of the other shapes;
* `checkLayout_unreadable_eq_none`: the body indentation check judges every
  function of a tree whose kinds can all be read;
* `checks_run_to_end`: on a tree with none of these shapes where the checks
  look, a file's checks end with no exception but the one the listing of
  incorrectly indented lines raises when it runs past the source
  (`runChecks_crashed_listing`).

Conditions on the bodies of the functions alone do not do: the character
checks also walk the parameters of a function, and a conversion without a
child in the size of an array parameter breaks them off
(`bodyConditions_leave_break_offs`). The conditions are made of
`Node.every`, which holds when a test holds of every node of a tree, in
any file.
-/

namespace CInspect.Tree

mutual
/-- Whether a test holds of a node and of all its descendants, in any file. -/
def Node.every (p : Node → Bool) : Node → Bool
  | n@⟨_, _, _, _, _, _, _, _, _, _, children⟩ => p n && everyAmong p children

/-- Whether a test holds of every node of the trees in `cs`. -/
def everyAmong (p : Node → Bool) : List Node → Bool
  | [] => true
  | c :: cs => c.every p && everyAmong p cs
end

variable {p : Node → Bool}

theorem every_self {n : Node} (h : n.every p) : p n := by
  cases n
  simp only [Node.every, Bool.and_eq_true] at h
  exact h.1

theorem every_of_mem {cs : List Node} {c : Node} (h : everyAmong p cs) (mem : c ∈ cs) :
    c.every p := by
  induction cs with
  | nil => simp at mem
  | cons c' cs ih =>
    simp only [everyAmong, Bool.and_eq_true] at h
    rcases List.mem_cons.mp mem with rfl | later
    · exact h.1
    · exact ih h.2 later

theorem every_child {n c : Node} (h : n.every p) (mem : c ∈ n.children) : c.every p := by
  cases n
  simp only [Node.every, Bool.and_eq_true] at h
  exact every_of_mem h.2 mem

/-- `m.Occurs n`: the node `m` is `n` or lies below it, in any file. -/
inductive Node.Occurs (m : Node) : Node → Prop
  | self : m.Occurs m
  | child {n c : Node} : c ∈ n.children → m.Occurs c → m.Occurs n

theorem Node.Occurs.trans {a b c : Node} (ab : a.Occurs b) (bc : b.Occurs c) : a.Occurs c := by
  induction bc with
  | self => exact ab
  | child mem _ ih => exact .child mem ih

theorem every_of_occurs {m n : Node} (h : n.every p) (occurs : m.Occurs n) : m.every p := by
  induction occurs with
  | self => exact h
  | child mem _ ih => exact ih (every_child h mem)

mutual
/-- A node visited by a walk is a node of the tree walked. -/
theorem occurs_of_mem_walk {v : Visit} :
    ∀ {n : Node} {parent : Option Kind} {depth : Nat}, v ∈ n.walk parent depth → v.node.Occurs n
  | ⟨k, s, d, f, e, t, st, r, tk, key, children⟩, parent, depth, mem => by
    simp only [Node.walk, List.mem_cons] at mem
    rcases mem with rfl | later
    · exact .self
    · obtain ⟨c, hc, below⟩ := occurs_of_mem_walkChildren later
      exact .child hc below

theorem occurs_of_mem_walkChildren {v : Visit} {key : String} {pk : Kind} {depth : Nat} :
    ∀ {cs : List Node}, v ∈ walkChildren key pk depth cs → ∃ c ∈ cs, v.node.Occurs c
  | [], mem => by simp [walkChildren] at mem
  | c :: cs, mem => by
    simp only [walkChildren, List.mem_append] at mem
    rcases mem with here | later
    · split at here
      · exact ⟨c, List.mem_cons_self, occurs_of_mem_walk here⟩
      · simp at here
    · obtain ⟨c', hc', below⟩ := occurs_of_mem_walkChildren later
      exact ⟨c', List.mem_cons_of_mem c hc', below⟩
end

mutual
theorem every_of_forall_occurs : ∀ {n : Node}, (∀ m, m.Occurs n → p m) → n.every p
  | ⟨k, s, d, f, e, t, st, r, tk, key, children⟩, h => by
    simp only [Node.every, Bool.and_eq_true]
    exact ⟨h _ .self, everyAmong_of_forall fun c mem m below => h m (.child mem below)⟩

theorem everyAmong_of_forall : ∀ {cs : List Node}, (∀ c ∈ cs, ∀ m, m.Occurs c → p m) → everyAmong p cs
  | [], _ => rfl
  | c :: cs, h => by
    simp only [everyAmong, Bool.and_eq_true]
    exact ⟨every_of_forall_occurs (h c List.mem_cons_self),
      everyAmong_of_forall fun c' mem => h c' (List.mem_cons_of_mem c mem)⟩
end

theorem every_of_mem_walk {v : Visit} {n : Node} {parent : Option Kind} {depth : Nat}
    (h : n.every p) (mem : v ∈ n.walk parent depth) : v.node.every p :=
  every_of_occurs h (occurs_of_mem_walk mem)

/-! ### Shapes of nodes -/

/-- A conversion node that has a child to look through. -/
def Node.convertsThrough (n : Node) : Bool :=
  n.kind != .unexposedExpr || !n.children.isEmpty

/-- A binary operator with its two operands. -/
def Node.pairsOperands (n : Node) : Bool :=
  n.kind != .binaryOperator || n.children.length == 2

/-- A reference with the declaration it refers to. -/
def Node.refersOn (n : Node) : Bool :=
  n.kind != .declRefExpr || n.referenced.isSome

/-- An integer literal with a token. -/
def Node.hasToken (n : Node) : Bool :=
  n.kind != .integerLiteral || !n.tokens.isEmpty

/-- A type that does not end at a pointer to no type. -/
def Node.pointsOn (n : Node) : Bool :=
  !n.type.pointeeMissing

/-- The shape a reader of trees gives its nodes. -/
def Node.wellShaped (n : Node) : Bool :=
  n.convertsThrough && n.pairsOperands && n.refersOn && n.hasToken && n.pointsOn

/-- A node the node checks can take apart: its kind can be read, a binary
operator has its operands, and its type does not end at a pointer to no
type. -/
def Node.checkable (n : Node) : Bool :=
  n.kind.readable && n.pairsOperands && n.pointsOn

/-- A node the character checks can take apart: its kind can be read, and a
conversion, a binary operator, a reference and an integer literal have
what the checks look for. -/
def Node.charCheckable (n : Node) : Bool :=
  n.kind.readable && n.convertsThrough && n.pairsOperands && n.refersOn && n.hasToken

end CInspect.Tree

namespace CInspect.Check

open CInspect.Tree

/-- What a node that a check breaks off at for the reason `why` is like. -/
def BreakOff.Cause : BreakOff → Node → Prop
  | .noChild, n => n.kind = .unexposedExpr ∧ n.children = []
  | .unreadableKind code, n => n.kind = .unreadableAttr code
  | .operands count, n => n.kind = .binaryOperator ∧ n.children.length = count ∧ count ≠ 2
  | .noToken, n => n.kind = .integerLiteral ∧ n.tokens = []
  | .noDeclaration, n => n.kind = .declRefExpr ∧ n.referenced = none
  | .noPointee, n => n.type.reachesMissingPointee = true

/-! ### Kinds that can be read -/

theorem breakOffAt?_eq_none {k : Kind} (readable : k.readable) : breakOffAt? k = none := by
  unfold breakOffAt?
  split
  · simp [Kind.readable] at readable
  · rfl

theorem readable_eq_false_of_breakOffAt? {k : Kind} {why : BreakOff} (halt : breakOffAt? k = some why) :
    k.readable = false := by
  cases k <;> simp_all [breakOffAt?, Kind.readable]

theorem breakOffAt?_cause {n : Node} {why : BreakOff} (halt : breakOffAt? n.kind = some why) :
    why.Cause n ∧ ∃ code, why = .unreadableKind code := by
  cases kind : n.kind <;> simp only [breakOffAt?, kind, reduceCtorEq] at halt
  cases halt
  exact ⟨kind, _, rfl⟩

/-! ### The node checks -/

/-- The comma check breaks off at a binary operator without two operands,
and a variable check at a variable whose const pointers end at no type. -/
theorem nodeBreakOff?_cause {c : Rule} {v : Visit} {why : BreakOff}
    (halt : nodeBreakOff? c v = some why) :
    why.Cause v.node ∧ (why = .noPointee ∨ ∃ count, why = .operands count) := by
  unfold nodeBreakOff? at halt
  split at halt
  · split at halt
    · next operands =>
      cases halt
      exact ⟨⟨operands.1, rfl, operands.2⟩, .inr ⟨_, rfl⟩⟩
    · cases halt
  -- the two variable checks, then the checks that never break off
  all_goals first
    | cases halt
    | split at halt
      · next follows =>
        cases halt
        exact ⟨follows.2, .inl rfl⟩
      · cases halt

/-- No node check breaks off at a binary operator with two operands whose
type does not end at a pointer to no type, nor at any other such node. -/
theorem nodeBreakOff?_eq_none {c : Rule} {v : Visit} (pairs : v.node.pairsOperands)
    (points : v.node.pointsOn) : nodeBreakOff? c v = none := by
  simp only [Node.pairsOperands, Node.pointsOn, Bool.or_eq_true, bne_iff_ne, ne_eq, beq_iff_eq,
    Bool.not_eq_true'] at pairs points
  have two : v.node.kind = .binaryOperator → v.node.children.length = 2 := pairs.resolve_left ∘ not_not.mpr
  cases c
  case comma => simpa [nodeBreakOff?] using two
  all_goals simp [nodeBreakOff?, TypeView.reachesMissingPointee, points]

/-- The checks at one visit break off only where one of them does. -/
theorem checksAt_halt {cfg : Config} {v : Visit} {why : BreakOff} :
    ∀ {cs : List Rule} {allocs : Nat}, (checksAt cfg v cs allocs).2.2 = some why →
      ∃ c ∈ cs, nodeBreakOff? c v = some why
  | [], _, halt => by simp [checksAt] at halt
  | c :: cs, allocs, halt => by
    unfold checksAt at halt
    split at halt
    · obtain ⟨c', mem, broke⟩ := checksAt_halt halt
      exact ⟨c', List.mem_cons_of_mem c mem, broke⟩
    · split at halt
      · next broke =>
        cases halt
        exact ⟨c, List.mem_cons_self, broke⟩
      · obtain ⟨c', mem, broke⟩ := checksAt_halt halt
        exact ⟨c', List.mem_cons_of_mem c mem, broke⟩

/-- The node checks break off along a walk only at a node of it whose kind
cannot be read, or where one of them breaks off. -/
theorem walkFindings_halt_cause {cfg : Config} {why : BreakOff} :
    ∀ {vs : List Visit} {allocs : Nat}, (walkFindings cfg vs allocs).2 = some why →
      ∃ v ∈ vs, why.Cause v.node ∧
        ((∃ code, why = .unreadableKind code) ∨ why = .noPointee ∨ ∃ count, why = .operands count)
  | [], _, halt => by simp [walkFindings] at halt
  | v :: vs, allocs, halt => by
    unfold walkFindings at halt
    split at halt
    · -- a kind that cannot be read
      next kind _ =>
      cases halt
      obtain ⟨cause, unreadable⟩ := breakOffAt?_cause kind
      exact ⟨v, List.mem_cons_self, cause, .inl unreadable⟩
    · dsimp only at halt
      split at halt
      · -- a check broke off here
        next stop =>
        cases halt
        obtain ⟨c, -, broke⟩ := checksAt_halt stop
        obtain ⟨cause, which⟩ := nodeBreakOff?_cause broke
        exact ⟨v, List.mem_cons_self, cause, .inr which⟩
      · obtain ⟨w, mem, cause⟩ := walkFindings_halt_cause halt
        exact ⟨w, List.mem_cons_of_mem v mem, cause⟩

/-- The node checks break off only at a node of their walk whose kind cannot
be read, at a binary operator without two operands, or at a variable whose
const pointers end at no type. -/
theorem constructFindings_halt_cause (cfg : Config) (root : Node) {why : BreakOff}
    (halt : (constructFindings cfg root).2 = some why) :
    ∃ v ∈ root.sameFileNodes, why.Cause v.node ∧
      ((∃ code, why = .unreadableKind code) ∨ why = .noPointee ∨ ∃ count, why = .operands count) :=
  walkFindings_halt_cause halt

/-- The node checks run to the end of a tree whose nodes they can all take
apart. -/
theorem constructFindings_halt_eq_none (cfg : Config) {root : Node}
    (checkable : root.every Node.checkable) : (constructFindings cfg root).2 = none := by
  cases halt : (constructFindings cfg root).2 with
  | none => rfl
  | some why =>
    obtain ⟨v, mem, cause, which⟩ := constructFindings_halt_cause cfg root halt
    have shaped := every_self (every_of_mem_walk checkable mem)
    simp only [Node.checkable, Node.pairsOperands, Node.pointsOn, Bool.and_eq_true, Bool.or_eq_true,
      bne_iff_ne, ne_eq, beq_iff_eq, Bool.not_eq_true'] at shaped
    rcases which with ⟨code, rfl⟩ | rfl | ⟨count, rfl⟩
    · simp_all [BreakOff.Cause, Kind.readable]
    · simp_all [BreakOff.Cause, TypeView.reachesMissingPointee]
    · simp_all [BreakOff.Cause]

/-! ### The character checks -/

theorem peel_occurs : ∀ {n m : Node}, n.peel = some m → m.Occurs n
  | ⟨k, s, d, f, e, t, st, r, tk, key, children⟩, m, peeled => by
    unfold Node.peel at peeled
    split at peeled
    · match children, peeled with
      | c :: cs, peeled => exact .child List.mem_cons_self (peel_occurs peeled)
    · cases peeled
      exact .self

/-- Looking through conversions breaks off only at a conversion without a
child. -/
theorem peel_eq_none_cause :
    ∀ {n : Node}, n.peel = none → ∃ m, m.Occurs n ∧ BreakOff.noChild.Cause m
  | ⟨k, s, d, f, e, t, st, r, tk, key, children⟩, peeled => by
    unfold Node.peel at peeled
    split at peeled
    · next conversion =>
      match children, peeled with
      | c :: cs, peeled =>
        obtain ⟨m, below, cause⟩ := peel_eq_none_cause peeled
        exact ⟨m, .child List.mem_cons_self below, cause⟩
      | [], _ => exact ⟨_, .self, conversion, rfl⟩
    · cases peeled

/-- Where the character checks break off below a node `n`: a node below it
of the shape the reason names, never a pointer to no type. -/
def BreakOff.Below (why : BreakOff) (n : Node) : Prop :=
  (∃ m, m.Occurs n ∧ why.Cause m) ∧ why ≠ .noPointee

/-- Where the checks break off below a node, they break off below every
node above it. -/
theorem BreakOff.Below.lift {why : BreakOff} {m n : Node} (below : why.Below m) (occurs : m.Occurs n) :
    why.Below n := by
  obtain ⟨⟨k, inside, cause⟩, other⟩ := below
  exact ⟨⟨k, inside.trans occurs, cause⟩, other⟩

theorem BreakOff.Below.noChild {n m : Node} (peeled : n.peel = none) (child : n.Occurs m) :
    BreakOff.noChild.Below m := by
  obtain ⟨k, below, cause⟩ := peel_eq_none_cause peeled
  exact BreakOff.Below.lift ⟨⟨k, below, cause⟩, nofun⟩ child

theorem charValued_error_cause {tracked : Tracked} {n : Node} {why : BreakOff}
    (broke : n.charValued tracked = .error why) : why.Below n := by
  unfold Node.charValued at broke
  split at broke
  · next peeled =>
    cases broke
    exact .noChild peeled .self
  · next m peeled =>
    split at broke
    · cases broke
    · split at broke
      · split at broke
        · cases broke
        · next referenced =>
          cases broke
          exact ⟨⟨m, peel_occurs peeled, by assumption, referenced⟩, nofun⟩
      · cases broke

theorem firstCharValued_error_cause {tracked : Tracked} {why : BreakOff} :
    ∀ {cs : List Node}, firstCharValued tracked cs = .error why → ∃ c ∈ cs, why.Below c
  | [], broke => by cases broke
  | c :: cs, broke => by
    unfold firstCharValued at broke
    split at broke
    · cases broke
    · obtain ⟨c', mem, below⟩ := firstCharValued_error_cause broke
      exact ⟨c', List.mem_cons_of_mem c mem, below⟩
    · next looked =>
      cases broke
      exact ⟨c, List.mem_cons_self, charValued_error_cause looked⟩

/-- A binary operator without two operands, found where the checks take
one apart. -/
theorem BreakOff.Below.operands {n : Node} (binary : n.kind = .binaryOperator)
    (other : ∀ l r, n.children ≠ [l, r]) : (BreakOff.operands n.children.length).Below n := by
  refine ⟨⟨n, .self, binary, rfl, fun two => ?_⟩, nofun⟩
  obtain ⟨l, r, pair⟩ := List.length_eq_two.mp two
  exact other l r pair

theorem charVariableFinding_error_cause {lvl : Level} {n : Node} {why : BreakOff}
    (broke : charVariableFinding lvl n = .error why) : why.Below n := by
  unfold charVariableFinding at broke
  split at broke
  · next binary =>
    split at broke
    · next l r pair =>
      split at broke
      · cases broke
      · -- one of the operands did not peel
        next missing =>
        cases broke
        have left : l ∈ n.children := by simp [pair]
        have right : r ∈ n.children := by simp [pair]
        cases peelL : l.peel with
        | none => exact .noChild peelL (.child left .self)
        | some lm =>
          cases peelR : r.peel with
          | none => exact .noChild peelR (.child right .self)
          | some rm => simp [ Node.variable?, Node.inputCall?, peelL, peelR] at missing
    · next other =>
      cases broke
      exact .operands binary other
  · split at broke
    · split at broke
      · next c cs first =>
        split at broke
        · cases broke
        · next peeled =>
          cases broke
          have peelNone : c.peel = none := by simpa [Node.inputCall?] using peeled
          exact .noChild peelNone (.child (by simp [first]) .self)
      · cases broke
    · cases broke

theorem codeStep_error_cause {lvl : Level} {tracked : Tracked} {n : Node} {why : BreakOff}
    (broke : codeStep lvl tracked n = .error why) : why.Below n := by
  unfold codeStep at broke
  split at broke
  · -- a declaration, which passes over a missing child of its first child
    split at broke
    · next c cs first =>
      have child : c ∈ n.children := by simp [first]
      cases looked : c.charValued tracked with
      | ok isChar => simp [looked] at broke
      | error e =>
        cases e <;> simp only [looked, Except.error.injEq, reduceCtorEq] at broke <;> subst broke <;>
          exact (charValued_error_cause looked).lift (.child child .self)
    · cases broke
  split at broke
  · next binary =>
    split at broke
    · next l r pair =>
      have left : l ∈ n.children := by simp [pair]
      have right : r ∈ n.children := by simp [pair]
      split at broke
      · -- an assignment
        split at broke
        · next v _ =>
          cases looked : r.charValued tracked with
          | ok isChar => simp [looked, Except.map] at broke
          | error e =>
            simp only [looked, Except.map, Except.error.injEq] at broke
            subst broke
            exact (charValued_error_cause looked).lift (.child right .self)
        · cases broke
        · next missing =>
          cases broke
          have peelNone : l.peel = none := by simpa [ Node.variable?] using missing
          exact .noChild peelNone (.child left .self)
      · -- a comparison
        split at broke
        · split at broke
          · next lit found =>
            split at broke
            · split at broke
              · cases broke
              · next noToken =>
                cases broke
                have mem := List.mem_of_find?_eq_some found
                have kind : lit.kind = .integerLiteral := by simpa using List.find?_some found
                exact ⟨⟨lit, .child mem .self, kind, List.head?_eq_none_iff.mp noToken⟩, nofun⟩
            · cases broke
            · next looked =>
              cases broke
              obtain ⟨c, mem, below⟩ := firstCharValued_error_cause looked
              exact below.lift (.child mem .self)
          · cases broke
        · cases broke
      · cases broke
    · next other =>
      cases broke
      exact .operands binary other
  · cases broke

/-- The character checks break off along the walk of a function only at a
node whose kind cannot be read, or below a node where one of them breaks
off. -/
theorem functionCharFindings_halt_cause {cfg : Config} {why : BreakOff} :
    ∀ {tracked : Tracked} {vs : List Visit}, (functionCharFindings cfg tracked vs).2 = some why →
      ∃ v ∈ vs, why.Below v.node
  | _, [], halt => by simp [functionCharFindings] at halt
  | tracked, v :: vs, halt => by
    have later : ∀ {t}, (functionCharFindings cfg t vs).2 = some why → ∃ w ∈ v :: vs, why.Below w.node :=
      fun rest => by
        obtain ⟨w, mem, below⟩ := functionCharFindings_halt_cause rest
        exact ⟨w, List.mem_cons_of_mem v mem, below⟩
    unfold functionCharFindings at halt
    dsimp only at halt
    split at halt
    · next kind _ =>
      cases halt
      obtain ⟨cause, code, rfl⟩ := breakOffAt?_cause kind
      exact ⟨v, List.mem_cons_self, ⟨v.node, .self, cause⟩, nofun⟩
    · split at halt
      · -- the character-variable check broke off
        next first =>
        cases halt
        split at first
        · next lvl _ =>
          cases found : charVariableFinding lvl v.node with
          | ok r => simp [found, Except.map] at first
          | error e =>
            simp only [found, Except.map, Except.error.injEq] at first
            subst first
            exact ⟨v, List.mem_cons_self, charVariableFinding_error_cause found⟩
        · cases first
      · split at halt
        · split at halt
          · exact later halt
          · next step =>
            cases halt
            exact ⟨v, List.mem_cons_self, codeStep_error_cause step⟩
        · exact later halt

theorem walksCharFindings_halt_cause {cfg : Config} {why : BreakOff} :
    ∀ {ws : List (List Visit)}, (walksCharFindings cfg ws).2 = some why →
      ∃ w ∈ ws, ∃ v ∈ w, why.Below v.node
  | [], halt => by simp [walksCharFindings] at halt
  | w :: ws, halt => by
    unfold walksCharFindings at halt
    dsimp only at halt
    split at halt
    · next first =>
      obtain ⟨w', mem, rest⟩ := walksCharFindings_halt_cause halt
      exact ⟨w', List.mem_cons_of_mem w mem, rest⟩
    · next h first =>
      cases halt
      exact ⟨w, List.mem_cons_self, functionCharFindings_halt_cause first⟩

/-- The character checks break off only for a node within one of the
functions they check: a node whose kind cannot be read, a binary operator
without two operands, a conversion without a child, a reference to no
declaration, or an integer literal without a token. -/
theorem functionsCharFindings_halt_cause (cfg : Config) (fns : List Node) {why : BreakOff}
    (halt : (functionsCharFindings cfg fns).2 = some why) :
    ∃ f ∈ fns, ∃ n, n.Occurs f ∧ why.Cause n ∧ why ≠ .noPointee := by
  obtain ⟨w, mem, v, visited, ⟨n, below, cause⟩, other⟩ := walksCharFindings_halt_cause halt
  obtain ⟨f, hf, rfl⟩ := List.mem_map.mp mem
  exact ⟨f, hf, n, below.trans (occurs_of_mem_walk visited), cause, other⟩

/-- A node the character checks can take apart holds no node they break off
at. -/
theorem BreakOff.Below.not_charCheckable {why : BreakOff} {n : Node} (below : why.Below n)
    (checkable : n.every Node.charCheckable) : False := by
  obtain ⟨⟨m, occurs, cause⟩, other⟩ := below
  have shaped := every_self (every_of_occurs checkable occurs)
  simp only [Node.charCheckable, Node.convertsThrough, Node.pairsOperands, Node.refersOn,
    Node.hasToken, Bool.and_eq_true, Bool.or_eq_true, bne_iff_ne, ne_eq, beq_iff_eq,
    Bool.not_eq_true', List.isEmpty_eq_false_iff, Option.isSome_iff_ne_none] at shaped
  cases why <;> simp_all [BreakOff.Cause, Kind.readable]

/-- The character checks run to the end of a walk whose nodes they can all
take apart. -/
theorem functionCharFindings_halt_eq_none (cfg : Config) (tracked : Tracked) {vs : List Visit}
    (checkable : ∀ v ∈ vs, v.node.every Node.charCheckable) :
    (functionCharFindings cfg tracked vs).2 = none := by
  cases halt : (functionCharFindings cfg tracked vs).2 with
  | none => rfl
  | some why =>
    obtain ⟨v, mem, below⟩ := functionCharFindings_halt_cause halt
    exact (below.not_charCheckable (checkable v mem)).elim

/-- The character checks run to the end of every function whose nodes they
can all take apart. -/
theorem functionsCharFindings_halt_eq_none (cfg : Config) {fns : List Node}
    (checkable : ∀ f ∈ fns, f.every Node.charCheckable) : (functionsCharFindings cfg fns).2 = none := by
  cases halt : (functionsCharFindings cfg fns).2 with
  | none => rfl
  | some why =>
    obtain ⟨w, mem, v, visited, below⟩ := walksCharFindings_halt_cause halt
    obtain ⟨f, hf, rfl⟩ := List.mem_map.mp mem
    exact (below.not_charCheckable (every_of_mem_walk (checkable f hf) visited)).elim

/-! ### The body indentation check -/

mutual
theorem unreadableIn_eq_none :
    ∀ {up : List Node} {n : Node}, n.every (·.kind.readable) → unreadableIn up n = none
  | up, ⟨k, s, d, f, e, t, st, r, tk, key, children⟩, h => by
    have readable := every_self h
    simp only [Node.every, Bool.and_eq_true] at h
    unfold unreadableIn
    split
    · simp [Kind.readable] at readable
    · split
      · split
        · rfl
        · split
          · exact unreadableAmong_eq_none h.2
          · rfl
      · exact unreadableAmong_eq_none h.2

theorem unreadableAmong_eq_none :
    ∀ {up : List Node} {key : Option String} {cs : List Node},
      everyAmong (·.kind.readable) cs → unreadableAmong up key cs = none
  | _, _, [], _ => rfl
  | up, key, c :: cs, h => by
    simp only [everyAmong, Bool.and_eq_true] at h
    unfold unreadableAmong
    rw [unreadableAmong_eq_none h.2]
    split <;> simp [unreadableIn_eq_none h.1]
end

/-- On a tree whose kinds can all be read, no function has a kind the body
indentation check cannot read. -/
theorem findIdx?_unreadable_eq_none {root : Node} (readable : root.every (·.kind.readable)) :
    root.functions.findIdx? (fun f => (unreadableIn [] f).isSome) = none := by
  rw [List.findIdx?_eq_none_iff]
  intro f mem
  simp [unreadableIn_eq_none (every_child readable (List.mem_filter.mp mem).1)]

/-- The body indentation check judges every function of a tree whose kinds
can all be read. -/
theorem checkLayout_unreadable_eq_none (cfg : Config) (lines : List String) (file : String)
    {root : Node} (readable : root.every (·.kind.readable)) :
    (checkLayout cfg lines file root).unreadable = none := by
  have judged := findIdx?_unreadable_eq_none readable
  unfold checkLayout
  split
  · rfl
  · unfold layoutOf
    rw [judged]
    -- the functions are all judged, and what follows only lists lines
    dsimp only
    split
    · rfl
    · split <;> rfl

end CInspect.Check

namespace CInspect.Inspection

open CInspect.Tree CInspect.Check

/-! ### A file's checks -/

/-- When the checks that can break off run to their end, the only exception
a file's checks can still end with is the one raised when the listing of
incorrectly indented lines runs past the source. -/
theorem runChecks_crashed_listing {cfg : Config} {lines : List String} {file : String}
    {root : Node} (constructs : (checkConstructs cfg lines root).2.2 = none)
    (chars : (checkCharInput cfg lines root).2.2 = none)
    (layout : (checkLayout cfg lines file root).unreadable = none) {c : Crash}
    (crashed : (runChecks cfg lines file root).2 = .crashed c) :
    c = ⟨"IndexError", "list index out of range"⟩ := by
  unfold runChecks at crashed
  generalize checkConstructs cfg lines root = r1 at crashed constructs
  generalize checkCharInput cfg lines root = r2 at crashed chars
  obtain ⟨o1, l1, halt1⟩ := r1
  obtain ⟨o2, l2, halt2⟩ := r2
  dsimp only at constructs chars
  subst constructs chars
  simp only [layout] at crashed
  -- every other way the checks end is a verdict, not an exception
  repeat' split at crashed
  all_goals first
    | exact (Verdict.crashed.inj crashed).symm
    | cases crashed

/-- The checks of a file on a tree the reader could give them. The node
checks break off only at a node whose kind cannot be read, a binary
operator without two operands or a variable whose const pointers end at no
type; the character checks only for a node within a function definition
whose kind cannot be read, a binary operator without two operands, a
conversion without a child, a reference to no declaration or an integer
literal without a token. So on a tree whose kinds can all be read, whose
binary operators have two operands, whose integer literals have a token and
whose pointers all point to a type, and whose function definitions hold no
conversion without a child and no reference to no declaration, the node
checks, the character checks and the body indentation check run to their
end, and a file's checks can end with no exception but the one the listing
of incorrectly indented lines raises when it runs past the source. -/
theorem checks_run_to_end (cfg : Config) (lines : List String) (file : String) (root : Node)
    (readable : root.every (·.kind.readable)) (operands : root.every Node.pairsOperands)
    (literals : root.every Node.hasToken) (pointees : root.every Node.pointsOn)
    (conversions : ∀ f ∈ root.functions, f.every Node.convertsThrough)
    (references : ∀ f ∈ root.functions, f.every Node.refersOn) :
    (∀ why, (constructFindings cfg root).2 = some why →
      ∃ v ∈ root.sameFileNodes, why.Cause v.node ∧
        ((∃ code, why = .unreadableKind code) ∨ why = .noPointee ∨ ∃ count, why = .operands count)) ∧
    (∀ why, (functionsCharFindings cfg root.functions).2 = some why →
      ∃ f ∈ root.functions, ∃ n, n.Occurs f ∧ why.Cause n ∧ why ≠ .noPointee) ∧
    (checkConstructs cfg lines root).2.2 = none ∧
      (checkCharInput cfg lines root).2.2 = none ∧
      (checkLayout cfg lines file root).unreadable = none ∧
      ∀ c, (runChecks cfg lines file root).2 = .crashed c →
        c = ⟨"IndexError", "list index out of range"⟩ := by
  have checkable : root.every Node.checkable := every_of_forall_occurs fun m occurs => by
    simp [Node.checkable, every_self (every_of_occurs readable occurs),
      every_self (every_of_occurs operands occurs), every_self (every_of_occurs pointees occurs)]
  -- the conditions on functions and on the whole tree meet in the functions
  have charCheckable : ∀ f ∈ root.functions, f.every Node.charCheckable := fun f mem => by
    have inTree : f.Occurs root := .child (List.mem_filter.mp mem).1 .self
    exact every_of_forall_occurs fun m occurs => by
      have deep := occurs.trans inTree
      simp [Node.charCheckable, every_self (every_of_occurs readable deep),
        every_self (every_of_occurs operands deep), every_self (every_of_occurs literals deep),
        every_self (every_of_occurs (conversions f mem) occurs),
        every_self (every_of_occurs (references f mem) occurs)]
  have constructs : (checkConstructs cfg lines root).2.2 = none :=
    constructFindings_halt_eq_none cfg checkable
  have chars : (checkCharInput cfg lines root).2.2 = none :=
    functionsCharFindings_halt_eq_none cfg charCheckable
  have layout := checkLayout_unreadable_eq_none cfg lines file readable
  exact ⟨fun _ => constructFindings_halt_cause cfg root, fun _ => functionsCharFindings_halt_cause cfg _,
    constructs, chars, layout, fun _ crashed => runChecks_crashed_listing constructs chars layout crashed⟩

/-- The tree of `p.c`, holding `enum Flags { F1 = 1, F2 = 2 };`, with the
attributes `attrs` on the enum, and `int main(void) { return F1; }`. -/
def enumUnit (attrs : List Node) : Node :=
  let span (l a b : Nat) : Extent := ⟨⟨l, a⟩, ⟨l, b⟩⟩
  let literal (l : Nat) (v : String) : Node := ⟨.integerLiteral, "", "", some "p.c", span l 10 11,
    ⟨"int", [false], false⟩, false, none, [⟨v, span l 10 11⟩], 0, []⟩
  let constant (l : Nat) (name v : String) (key : Nat) : Node := ⟨.enumConstantDecl, name, name,
    some "p.c", span l 5 11, ⟨"int", [false], false⟩, false, none, [], key, [literal l v]⟩
  let flags : Node := ⟨.enumDecl, "Flags", "Flags", some "p.c", ⟨⟨1, 1⟩, ⟨4, 2⟩⟩,
    ⟨"enum Flags", [false], false⟩, false, none, [], 1, attrs ++ [constant 2 "F1" "1" 2, constant 3 "F2" "2" 3]⟩
  let ref : Node := ⟨.declRefExpr, "F1", "F1", some "p.c", span 7 12 14, ⟨"int", [false], false⟩, false,
    some ⟨"F1", "int", some "p.c", 2⟩, [⟨"F1", span 7 12 14⟩], 0, []⟩
  let conv : Node := ⟨.unexposedExpr, "F1", "F1", some "p.c", span 7 12 14, ⟨"int", [false], false⟩, false,
    none, [], 0, [ref]⟩
  let ret : Node := ⟨.returnStmt, "", "", some "p.c", span 7 5 15, TypeView.none, false, none, [], 0,
    [conv]⟩
  let body : Node := ⟨.compoundStmt, "", "", some "p.c", ⟨⟨6, 16⟩, ⟨8, 2⟩⟩, TypeView.none, false,
    none, [], 0, [ret]⟩
  let main : Node := ⟨.functionDecl, "main", "main", some "p.c", ⟨⟨6, 1⟩, ⟨8, 2⟩⟩,
    ⟨"int (void)", [false], false⟩, false, none, [], 4, [body]⟩
  ⟨.translationUnit, "p.c", "p.c", none, ⟨⟨0, 0⟩, ⟨0, 0⟩⟩, TypeView.none, false, none, [], 0,
    [flags, main]⟩

/-- The enum's attribute `flag_enum`, whose kind the reader does not know. -/
def flagEnumAttr : Node :=
  ⟨.unreadableAttr 437, "", "", some "p.c", ⟨⟨1, 21⟩, ⟨1, 30⟩⟩, TypeView.none, false, none, [], 0, []⟩

/-- Without the attribute every check runs to its end on that file. -/
theorem enumUnit_checks_run_to_end :
    let cfg := { Config.quiet with level := fun _ => some .error }
    (enumUnit []).every (·.kind.readable) ∧ (enumUnit []).every Node.pairsOperands ∧
      (enumUnit []).every Node.hasToken ∧ (enumUnit []).every Node.pointsOn ∧
      (∀ f ∈ (enumUnit []).functions, f.every Node.convertsThrough) ∧
      (∀ f ∈ (enumUnit []).functions, f.every Node.refersOn) ∧
      (checkConstructs cfg [] (enumUnit [])).2.2 = none ∧
      (checkCharInput cfg [] (enumUnit [])).2.2 = none ∧
      (checkLayout cfg [] "p.c" (enumUnit [])).unreadable = none ∧
      ∀ c, (runChecks cfg [] "p.c" (enumUnit [])).2 = .crashed c →
        c = ⟨"IndexError", "list index out of range"⟩ := by
  intro cfg
  have run := checks_run_to_end cfg [] "p.c" (enumUnit []) (by decide) (by decide) (by decide)
    (by decide) (by decide) (by decide)
  exact ⟨by decide, by decide, by decide, by decide, by decide, by decide, run.2.2⟩

/-- The tree of `p.c` holding `int f(int n, int a[__builtin_LINE() + n]) {
return a[0]; }`: the size of the array parameter adds `n` to a builtin
that the reader shows as a conversion without a child. -/
def vlaParamUnit : Node :=
  let span (l a b : Nat) : Extent := ⟨⟨l, a⟩, ⟨l, b⟩⟩
  let at_ (k : Kind) (s : String) (e : Extent) (t : String) (ref : Option DeclInfo) (key : Nat)
      (children : List Node) : Node :=
    ⟨k, s, s, some "p.c", e, ⟨t, [false], false⟩, false, ref, [], key, children⟩
  let refTo (name : String) (key : Nat) (a b : Nat) (t : String) : Node :=
    at_ .unexposedExpr name (span 1 a b) t none 0
      [at_ .declRefExpr name (span 1 a b) t (some ⟨name, t, some "p.c", key⟩) 0 []]
  let line : Node := at_ .unexposedExpr "" (span 1 20 36) "int" none 0 []
  let size : Node := at_ .binaryOperator "" (span 1 20 40) "int" none 0 [line, refTo "n" 1 39 40 "int"]
  let n : Node := at_ .parmDecl "n" (span 1 7 12) "int" none 1 []
  let a : Node := at_ .parmDecl "a" (span 1 14 41) "int *" none 2 [size]
  let zero : Node := ⟨.integerLiteral, "", "", some "p.c", span 2 14 15, ⟨"int", [false], false⟩, false,
    none, [⟨"0", span 2 14 15⟩], 0, []⟩
  let element : Node := at_ .arraySubscriptExpr "" (span 2 12 16) "int" none 0 [refTo "a" 2 12 13 "int *", zero]
  let ret : Node := at_ .returnStmt "" (span 2 5 17) "" none 0
    [at_ .unexposedExpr "" (span 2 12 16) "int" none 0 [element]]
  let body : Node := at_ .compoundStmt "" ⟨⟨1, 43⟩, ⟨3, 2⟩⟩ "" none 0 [ret]
  let f : Node := at_ .functionDecl "f" ⟨⟨1, 1⟩, ⟨3, 2⟩⟩ "int (int, int *)" none 3 [n, a, body]
  ⟨.translationUnit, "p.c", "p.c", none, ⟨⟨0, 0⟩, ⟨0, 0⟩⟩, TypeView.none, false, none, [], 0, [f]⟩

/-- Trees that meet every condition on the whole tree and on the bodies of
its functions, and on which the checks still break off: the node checks,
looking for unions, at the enum's `flag_enum` attribute, whose kind the
reader cannot read; the character checks at the conversion without a child
in the size of the array parameter, which is not in the body. -/
theorem bodyConditions_leave_break_offs :
    let unions := { Config.quiet with level := fun c => if c = .unionDecl then some .warning else none }
    let chars :=
      { Config.quiet with level := fun c => if c = .assignGetcharChar then some .warning else none }
    let bodiesShaped (root : Node) := ∀ f ∈ root.functions, ∀ b ∈ f.children,
      b.kind = .compoundStmt → b.every Node.convertsThrough ∧ b.every Node.refersOn
    ((enumUnit [flagEnumAttr]).every Node.wellShaped ∧
      (checkConstructs unions [] (enumUnit [flagEnumAttr])).2.2 = some (.unreadableKind 437)) ∧
    (vlaParamUnit.every (fun n => n.pairsOperands && n.hasToken && n.pointsOn) ∧
      bodiesShaped vlaParamUnit ∧
      (checkCharInput chars [] vlaParamUnit).2.2 = some .noChild) := by
  decide

end CInspect.Inspection
