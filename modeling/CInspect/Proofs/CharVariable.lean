import CInspect.Proofs.CodeTracking
/-!
What the character-variable check reports.

`getchar`, `getc` and `fgetc` return an `int`, so that the end of input can
be told apart from every character. The check reports a node that puts
such a result into a `char`: a binary operator whose left operand refers
to a `char` variable and whose right operand calls one of the three, or a
declaration of type `char` whose first child calls one
(`StoresInputInChar`, `charVariableFinding_eq_some_iff`).

The check does not read the operator of a binary operator, unlike the
character-code check beside it, which tells an assignment by its `=`: a
comparison of a `char` variable with such a call is reported as a store.
-/

namespace CInspect.Check

open CInspect.Tree

/-- A value calls an input function: under its conversions it is a call of
`getchar`, `getc` or `fgetc`. -/
def CallsInput (x call : Node) : Prop :=
  x.peel = some call ∧ call.kind = .callExpr ∧ isCharInputName call.spelling = true

theorem inputCall?_eq_some_some_iff {x call : Node} :
    x.inputCall? = some (some call) ↔ CallsInput x call := by
  unfold Node.inputCall? CallsInput
  rw [Option.map_eq_some_iff]
  constructor
  · rintro ⟨m, peeled, made⟩
    split at made
    · next calls =>
      cases made
      exact ⟨peeled, calls⟩
    · cases made
  · rintro ⟨peeled, kind, named⟩
    exact ⟨call, peeled, by simp [kind, named]⟩

/-- The finding `f` of the character-variable check at `n`, at level `lvl`:
`n` is a binary operator, of any operator, whose left operand refers to a
`char` variable and whose right operand calls an input function, or a
`char` declaration whose first child calls one; the finding is at `n` and
names the function and the variable. -/
def StoresInputInChar (lvl : Level) (n : Node) (f : Finding) : Prop :=
  (n.kind = .binaryOperator ∧ ∃ l r v call, n.children = [l, r] ∧ RefersTo l v ∧
      v.typeSpelling = "char" ∧ CallsInput r call ∧
      f = ⟨n, charVariableMessage call.spelling v.name, lvl, lvl⟩) ∨
    (n.kind = .varDecl ∧ n.type.spelling = "char" ∧ ∃ c cs call, n.children = c :: cs ∧
      CallsInput c call ∧ f = ⟨n, charVariableMessage call.spelling n.spelling, lvl, lvl⟩)

section Reports

variable {lvl : Level} {n : Node} {f : Finding}

theorem charVariableFinding_binary (binary : n.kind = .binaryOperator) :
    charVariableFinding lvl n = .ok (some f) ↔
      ∃ l r v call, n.children = [l, r] ∧ RefersTo l v ∧ v.typeSpelling = "char" ∧
        CallsInput r call ∧ f = ⟨n, charVariableMessage call.spelling v.name, lvl, lvl⟩ := by
  unfold charVariableFinding
  rw [if_pos binary]
  constructor
  · intro found
    split at found
    · next l r pair =>
      split at found
      · next ov oc refers calls =>
        simp only [Except.ok.injEq] at found
        split at found
        · next _ _ v call =>
          split at found
          · next isChar =>
            cases found
            exact ⟨l, r, v, call, pair, variable?_eq_some_some_iff.mp refers, isChar,
              inputCall?_eq_some_some_iff.mp calls, rfl⟩
          · cases found
        · cases found
      · cases found
    · cases found
  · rintro ⟨l, r, v, call, pair, refers, isChar, calls, rfl⟩
    simp [pair, variable?_eq_some_some_iff.mpr refers, inputCall?_eq_some_some_iff.mpr calls, isChar]

theorem charVariableFinding_varDecl (decl : n.kind = .varDecl) :
    charVariableFinding lvl n = .ok (some f) ↔
      n.type.spelling = "char" ∧ ∃ c cs call, n.children = c :: cs ∧ CallsInput c call ∧
        f = ⟨n, charVariableMessage call.spelling n.spelling, lvl, lvl⟩ := by
  unfold charVariableFinding
  rw [if_neg (by rw [decl]; decide), if_pos decl]
  constructor
  · intro found
    split at found
    · next c cs first =>
      split at found
      · next looked calls =>
        simp only [Except.ok.injEq] at found
        split at found
        · next call =>
          split at found
          · next isChar =>
            cases found
            exact ⟨isChar, c, cs, call, first, inputCall?_eq_some_some_iff.mp calls, rfl⟩
          · cases found
        · cases found
      · cases found
    · cases found
  · rintro ⟨isChar, c, cs, call, first, calls, rfl⟩
    simp [first, inputCall?_eq_some_some_iff.mpr calls, isChar]

/-- The character-variable check finds `f` at `n` exactly when `n` puts the
result of an input call into a `char`, as a binary operator of any
operator or as a declaration. -/
theorem charVariableFinding_eq_some_iff :
    charVariableFinding lvl n = .ok (some f) ↔ StoresInputInChar lvl n f := by
  unfold StoresInputInChar
  by_cases binary : n.kind = .binaryOperator
  · simp only [charVariableFinding_binary binary, binary, reduceCtorEq, true_and, false_and, or_false]
  · by_cases decl : n.kind = .varDecl
    · simp only [charVariableFinding_varDecl decl, decl, reduceCtorEq, true_and, false_and, false_or]
    · -- any other node is left alone
      have silent : charVariableFinding lvl n = .ok none := by
        unfold charVariableFinding
        rw [if_neg binary, if_neg decl]
      simp [silent, binary, decl]

end Reports

/-- `c == getchar()` in `p.c`, with `c` a `char`: a comparison of the
variable with an input call. -/
def charComparedWithInput : Node :=
  let tok (s : String) (a b : Nat) : Token := ⟨s, ⟨⟨2, a⟩, ⟨2, b⟩⟩⟩
  let ref : Node := ⟨.declRefExpr, "c", "c", some "p.c", ⟨⟨2, 5⟩, ⟨2, 6⟩⟩, ⟨"char", [false], false⟩, false,
    some ⟨"c", "char", some "p.c", 1⟩, [], 0, []⟩
  let widened : Node := ⟨.unexposedExpr, "c", "c", some "p.c", ⟨⟨2, 5⟩, ⟨2, 6⟩⟩, ⟨"int", [false], false⟩, false,
    none, [], 0, [ref]⟩
  let call : Node := ⟨.callExpr, "getchar", "getchar", some "p.c", ⟨⟨2, 10⟩, ⟨2, 19⟩⟩, ⟨"int", [false], false⟩,
    false, none, [], 0, []⟩
  ⟨.binaryOperator, "", "", some "p.c", ⟨⟨2, 5⟩, ⟨2, 19⟩⟩, ⟨"int", [false], false⟩, false, none,
    [tok "c" 5 6, tok "==" 7 9, tok "getchar" 10 17, tok "(" 17 18, tok ")" 18 19], 0, [widened, call]⟩

/-- The comparison is reported as a store of the call's result. -/
example : charComparedWithInput.operator? = some "==" ∧
    (charVariableFinding .warning charComparedWithInput).map (·.map (·.message)) =
      .ok (some " return value of getchar assigned to char variable 'c', change the type of 'c' to int") := by
  decide

end CInspect.Check
