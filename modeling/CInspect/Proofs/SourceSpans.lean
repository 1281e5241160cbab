import CInspect.Check.Construct
/-!
How the checks read the source through extents.

Positions are compared in reading order, as (line, column) pairs
(`Pos.le_iff`). Two readings rest on it.

* `operator?_of_operand_extents`: the operator of a binary operator node is
  found as the first of its tokens that lies between the end of the left
  operand and the start of the right one. When the tokens are source tokens
  (each covers at least one character) and those before the operator lie
  inside the left operand, that first token is the operator, whatever lines
  the operands span and however little space stands around it.
* `report_tail_of_echoes`, `report_tail_of_not_echoes`: a finding echoes its
  source line, with a caret line under its extent (`underline_get?`), exactly
  when the extent lies on one line of the source and its columns `a < b`
  satisfy `1 ≤ a` and `b ≤` the line's length (`Echoes`). The end column is
  exclusive, so an extent that ends with the line's last character, `b` one
  past the length, is not echoed (`report_not_echoed_at_line_end`).
-/

namespace CInspect.Tree

/-! ### Positions in reading order -/

theorem Pos.le_iff {a b : Pos} : a.le b = true ↔ a.line < b.line ∨ a.line = b.line ∧ a.col ≤ b.col := by
  simp [Pos.le]

theorem Pos.le_trans {a b c : Pos} (ab : a.le b = true) (bc : b.le c = true) : a.le c = true := by
  rw [Pos.le_iff] at *
  omega

/-- An extent lies inside another: it starts no earlier and stops no later. -/
def Extent.Within (inner outer : Extent) : Prop :=
  outer.start.le inner.start = true ∧ inner.stop.le outer.stop = true

/-- An extent covers at least one character: it stops after it starts. -/
def Extent.Covers (e : Extent) : Prop :=
  e.stop.le e.start = false

instance (inner outer : Extent) : Decidable (inner.Within outer) :=
  inferInstanceAs (Decidable (_ ∧ _))

instance (e : Extent) : Decidable e.Covers :=
  inferInstanceAs (Decidable (_ = _))

/-! ### The operator token -/

/-- A token that covers a character inside the left operand does not start
at or after the operand's end. -/
theorem not_after_of_within {t : Token} {l : Extent} (covers : t.extent.Covers) (inside : t.extent.Within l) :
    l.stop.le t.extent.start = false := by
  cases after : l.stop.le t.extent.start with
  | false => rfl
  | true =>
    -- the token would stop at or before its own start
    have ends := Pos.le_trans inside.2 after
    rw [Extent.Covers, ends] at covers
    cases covers

/-- When the tokens of a binary operator node cover a character each, and
those before the operator token lie inside the left operand, which ends at
or before the operator starts while the right operand starts at or after it
ends, the operator found is that token's spelling. -/
theorem operator?_of_operand_extents {n l r : Node} {pre post : List Token} {op : Token}
    (children : n.children = [l, r]) (tokens : n.tokens = pre ++ op :: post)
    (covers : ∀ t ∈ n.tokens, t.extent.Covers) (inLeft : ∀ t ∈ pre, t.extent.Within l.extent)
    (afterLeft : l.extent.stop.le op.extent.start = true)
    (beforeRight : op.extent.stop.le r.extent.start = true) :
    n.operator? = some op.spelling := by
  -- no token before the operator passes the test: each starts before the left operand ends
  have earlier : ∀ t ∈ pre, (l.extent.stop.le t.extent.start && t.extent.stop.le r.extent.start) = false := by
    intro t mem
    rw [not_after_of_within (covers t (tokens ▸ List.mem_append_left _ mem)) (inLeft t mem),
      Bool.false_and]
  unfold Node.operator?
  rw [children]
  dsimp only
  rw [tokens, List.find?_append, List.find?_eq_none.mpr fun t mem => by simp [earlier t mem],
    Option.none_or, List.find?_cons_of_pos (by rw [afterLeft, beforeRight]; rfl)]
  rfl

/-- A token on one line, between columns `a` and `b`. -/
def lineToken (s : String) (line a b : Nat) : Token :=
  ⟨s, ⟨⟨line, a⟩, ⟨line, b⟩⟩⟩

/-- An operand of the comparison below, without children. -/
def operand (k : Kind) (e : Extent) (ts : List Token) : Node :=
  ⟨k, "", "", some "p.c", e, TypeView.none, false, none, ts, 0, []⟩

/-- The left operand `(x +` on line 3 and `y)` on line 4. -/
def twoLineLeft : Node :=
  operand .parenExpr ⟨⟨3, 9⟩, ⟨4, 11⟩⟩
    [lineToken "(" 3 9 10, lineToken "x" 3 10 11, lineToken "+" 3 12 13, lineToken "y" 4 9 10,
      lineToken ")" 4 10 11]

/-- `(x +` on line 3 and `y) < z` on line 4. -/
def twoLineComparison : Node :=
  let right := operand .declRefExpr ⟨⟨4, 14⟩, ⟨4, 15⟩⟩ [lineToken "z" 4 14 15]
  ⟨.binaryOperator, "", "", some "p.c", ⟨⟨3, 9⟩, ⟨4, 15⟩⟩, TypeView.none, false, none,
    twoLineLeft.tokens ++ lineToken "<" 4 12 13 :: right.tokens, 0, [twoLineLeft, right]⟩

/-- The left operand spans two lines, and the `+` inside it ends at a column
before the right operand's start, yet the operator found is `<`. -/
theorem twoLineComparison_operator :
    (∀ t ∈ twoLineComparison.tokens, t.extent.Covers) ∧ twoLineComparison.operator? = some "<" :=
  have covers : ∀ t ∈ twoLineComparison.tokens, t.extent.Covers := by decide
  ⟨covers, @operator?_of_operand_extents twoLineComparison twoLineLeft
    (operand .declRefExpr ⟨⟨4, 14⟩, ⟨4, 15⟩⟩ [lineToken "z" 4 14 15]) twoLineLeft.tokens
    [lineToken "z" 4 14 15] (lineToken "<" 4 12 13) rfl rfl covers (by decide) rfl rfl⟩

end CInspect.Tree

namespace CInspect.Check

open CInspect.Tree

/-! ### The echoed line -/

/-- An extent is echoed from the source line `line`: it lies on one line of
the source, numbered from 1, which is `line`, and its columns `a < b` have
`1 ≤ a` and `b ≤ line.length`. -/
def Echoes (lines : List String) (e : Extent) (line : String) : Prop :=
  e.start.line = e.stop.line ∧ 1 ≤ e.start.line ∧ lines[e.start.line - 1]? = some line ∧
    1 ≤ e.start.col ∧ e.start.col < e.stop.col ∧ e.stop.col ≤ line.length

theorem echoSpan_eq_some_iff {lines : List String} {e : Extent} {line : String} {a b : Nat} :
    echoSpan lines e = some (line, a, b) ↔ Echoes lines e line ∧ a = e.start.col ∧ b = e.stop.col := by
  unfold echoSpan Echoes
  split
  · simp only [reduceCtorEq, false_iff]
    rintro ⟨⟨same, positive, -⟩, -⟩
    omega
  · split
    · next missing => simp_all
    · next found line' at_ =>
      dsimp only
      split
      · simp only [reduceCtorEq, false_iff]
        rintro ⟨⟨-, -, found, low, order, high⟩, -⟩
        rw [at_, Option.some.injEq] at found
        subst found
        omega
      · simp only [Option.some.injEq, Prod.mk.injEq]
        constructor
        · rintro ⟨rfl, rfl, rfl⟩
          exact ⟨⟨by omega, by omega, at_, by omega, by omega, by omega⟩, rfl, rfl⟩
        · rintro ⟨⟨-, -, found, -⟩, rfl, rfl⟩
          rw [at_, Option.some.injEq] at found
          exact ⟨found, rfl, rfl⟩

theorem echoSpan_eq_none_iff {lines : List String} {e : Extent} :
    echoSpan lines e = none ↔ ∀ line, ¬Echoes lines e line := by
  constructor
  · intro none_ line echoes
    have := echoSpan_eq_some_iff.mpr ⟨echoes, rfl, rfl⟩
    rw [none_] at this
    cases this
  · intro never
    cases span : echoSpan lines e with
    | none => rfl
    | some found =>
      obtain ⟨line, a, b⟩ := found
      exact absurd (echoSpan_eq_some_iff.mp span).1 (never line)

/-- The caret line under columns `a` to `b` (exclusive) has blanks before
column `a`, its caret at column `a` and tildes up to column `b - 1`. -/
theorem underline_get? {a b : Nat} (start : 1 ≤ a) (nonempty : a < b) (i : Nat) :
    (underline a b).toList[i]? =
      if i < a - 1 then some ' ' else if i = a - 1 then some '^' else if i < b - 1 then some '~' else none := by
  simp only [underline, String.toList_ofList]
  rw [List.getElem?_append]
  split
  · next blank =>
    rw [List.length_replicate] at blank
    rw [List.getElem?_replicate, if_pos blank, if_pos blank]
  · next past =>
    rw [List.length_replicate] at past
    rw [List.length_replicate, if_neg past]
    -- past the blanks: the caret, then the tildes
    obtain ⟨k, offset⟩ : ∃ k, i - (a - 1) = k := ⟨_, rfl⟩
    rw [offset]
    cases k with
    | zero => rw [if_pos (by omega)]; rfl
    | succ k =>
      rw [List.getElem?_cons_succ, List.getElem?_replicate, if_neg (show ¬i = a - 1 by omega)]
      by_cases within : i < b - 1
      · rw [if_pos within, if_pos (by omega)]
      · rw [if_neg within, if_neg (by omega)]

/-- A finding whose extent is echoed prints, after its first line, the
source line and the caret line under the extent's columns. -/
theorem report_tail_of_echoes {cfg : Config} {lines : List String} {n : Node} {message : String}
    {shownAs : Level} {line : String} (echoes : Echoes lines n.extent line) :
    (report cfg lines n message shownAs).tail = [line, underline n.extent.start.col n.extent.stop.col] := by
  unfold report
  rw [echoSpan_eq_some_iff.mpr ⟨echoes, rfl, rfl⟩]
  rfl

/-- A finding whose extent is not echoed prints its first line only. -/
theorem report_tail_of_not_echoes {cfg : Config} {lines : List String} {n : Node} {message : String}
    {shownAs : Level} (never : ∀ line, ¬Echoes lines n.extent line) :
    (report cfg lines n message shownAs).tail = [] := by
  unfold report
  rw [echoSpan_eq_none_iff.mpr never]
  rfl

/-- An extent on one line of the source that ends with the line's last
character is not echoed: its exclusive end column is one past the line's
length. -/
theorem report_not_echoed_at_line_end {cfg : Config} {lines : List String} {n : Node} {message : String}
    {shownAs : Level} {line : String} (onLine : lines[n.extent.start.line - 1]? = some line)
    (atEnd : n.extent.stop.col = line.length + 1) :
    (report cfg lines n message shownAs).tail = [] := by
  apply report_tail_of_not_echoes
  rintro line' ⟨-, -, found, -, -, within⟩
  rw [onLine, Option.some.injEq] at found
  subst found
  omega

end CInspect.Check
