import CInspect.Proofs.CodeTracking
import CInspect.Lex.Escape
/-!
The constants of the character-code check: the integer constant it reads,
and the character constant it suggests in its place.

The check reads the first token of a comparison's integer literal as a
decimal numeral (`decimalValue?`). On a decimal constant that is the value
the compiler gives the constant (`classifyNumber_decimal`,
`decimalValue?_digits`); an octal constant is read digit for digit in base
ten, where the compiler reads it in base eight (`classifyNumber_octal`).

The check warns for codes 7 to 12 and 32 to 125 and suggests the character
quoted. For every code it warns for but the single quote, 39, the
suggestion is a character constant whose value is the code
(`quoteChar_reads_back`); for the single quote it is a text in double
quotes (`quoteChar_single_quote`).

* `codeStep_decimal_constant`: at a comparison the check accepts whose
  literal is written as a decimal constant, the check warns exactly when the
  constant's value is between 7 and 12 or between 32 and 125, naming that
  value.
* `codeStep_octal_constant`: written as an octal constant, the literal is
  judged and named by its digits read in base ten, not by its value.
-/

namespace CInspect.Check

open CInspect.Tree CInspect.Text CInspect.Lex

/-! ### Reading digits -/

section Digits

variable {c : Char}

theorem digit_bounds (digit : c.isDigit = true) : '0' ≤ c ∧ c ≤ '9' := by
  simp only [Char.isDigit, Bool.and_eq_true, decide_eq_true_eq] at digit
  exact digit

theorem digitValue_of_isDigit (digit : c.isDigit = true) : Lex.digitValue c = some (c.toNat - 48) := by
  rw [Lex.digitValue, if_pos (digit_bounds digit)]
  rfl

theorem digitValue?_of_isDigit (digit : c.isDigit = true) : digitValue? c = some (c.toNat - 48) := by
  rw [digitValue?, if_pos (digit_bounds digit)]

theorem isDigit_of_octal (octal : '0' ≤ c ∧ c ≤ '7') : c.isDigit = true := by
  simp only [Char.isDigit, Bool.and_eq_true, decide_eq_true_eq]
  exact ⟨octal.1, Char.le_trans octal.2 (by decide)⟩

theorem isDigitIn_eight_of_octal (octal : '0' ≤ c ∧ c ≤ '7') : isDigitIn 8 c = true := by
  have bounds : 48 ≤ c.toNat ∧ c.toNat ≤ 55 := ⟨octal.1, octal.2⟩
  rw [isDigitIn, digitValue_of_isDigit (isDigit_of_octal octal)]
  simp only [decide_eq_true_eq]
  omega

end Digits

/-- Reading digits after the first accumulates them in base ten, as the
digits of a constant are accumulated. -/
theorem decimalRest_digits : ∀ (acc : Nat) (ds : List Char), (∀ c ∈ ds, c.isDigit = true) →
    decimalRest acc ds = some (ds.foldl (fun a c => a * 10 + (Lex.digitValue c).getD 0) acc)
  | acc, [], _ => rfl
  | acc, d :: rest, digits => by
    have digit := digits d List.mem_cons_self
    have notSeparator : d ≠ '_' := by
      rintro rfl
      exact absurd digit (by decide)
    rw [decimalRest.eq_3 acc d rest (fun _ _ separator _ => notSeparator separator),
      digitValue?_of_isDigit digit, Option.bind_some,
      decimalRest_digits _ rest (fun c mem => digits c (List.mem_cons_of_mem d mem)), List.foldl_cons,
      digitValue_of_isDigit digit]
    rfl

/-- A numeral of digits reads as its digits in base ten. -/
theorem decimalValue?_digits {s : String} {d : Char} {ds : List Char} (text : s.toList = d :: ds)
    (digits : ∀ c ∈ s.toList, c.isDigit = true) : decimalValue? s = some (digitsValue 10 s.toList) := by
  rw [text] at digits
  have digit := digits d List.mem_cons_self
  rw [decimalValue?, text]
  dsimp only
  rw [digitValue?_of_isDigit digit, Option.bind_some,
    decimalRest_digits _ ds (fun c mem => digits c (List.mem_cons_of_mem d mem)), digitsValue, List.foldl_cons,
    digitValue_of_isDigit digit, Option.getD_some, Nat.zero_mul, Nat.zero_add]

/-! ### The compiler's reading -/

theorem skipWhile_eq_size {cs : Array Char} {p : Char → Bool} :
    ∀ (n i : Nat), cs.size - i = n → i ≤ cs.size → (∀ j (h : j < cs.size), i ≤ j → p cs[j] = true) →
      skipWhile cs p i = cs.size
  | 0, i, measure, le, _ => by
    rw [skipWhile, dif_neg (by omega)]
    omega
  | n + 1, i, measure, le, all => by
    have inside : i < cs.size := by omega
    rw [skipWhile, dif_pos inside, if_pos (all i inside (Nat.le_refl i))]
    exact skipWhile_eq_size n (i + 1) (by omega) inside (fun j h after => all j h (by omega))

theorem charsBetween_all (cs : Array Char) : charsBetween cs 0 cs.size = cs.toList := by
  simp [charsBetween]

theorem charsBetween_end (cs : Array Char) : charsBetween cs cs.size cs.size = [] := by
  simp [charsBetween]

/-- An integer constant without suffix whose digits run to the end of the
text, in base `b`, has the value of its digits. -/
theorem finishInteger_unsuffixed (cs : Array Char) (b : Nat) (decimal : Bool)
    (fits : digitsValue b cs.toList ≤ maxIntLiteral) :
    finishInteger cs b 0 cs.size decimal = .integer ⟨digitsValue b cs.toList, decimal, false, 0, false⟩ := by
  unfold finishInteger
  simp only [charsBetween_end, charsBetween_all, readSuffix]
  rw [if_neg (Nat.not_lt.mpr fits)]

/-- A decimal constant: a digit other than 0, then digits, with no suffix. -/
def DecimalConstant (s : String) : Prop :=
  ∃ d ds, s.toList = d :: ds ∧ '1' ≤ d ∧ d ≤ '9' ∧ ∀ c ∈ ds, c.isDigit = true

/-- An octal constant: 0, then octal digits, with no suffix. -/
def OctalConstant (s : String) : Prop :=
  ∃ ds, s.toList = '0' :: ds ∧ ∀ c ∈ ds, '0' ≤ c ∧ c ≤ '7'

theorem DecimalConstant.digits {s : String} (decimal : DecimalConstant s) :
    ∀ c ∈ s.toList, c.isDigit = true := by
  obtain ⟨d, ds, text, lower, upper, rest⟩ := decimal
  rw [text]
  intro c mem
  rcases List.mem_cons.mp mem with rfl | later
  · simp only [Char.isDigit, Bool.and_eq_true, decide_eq_true_eq]
    exact ⟨Char.le_trans (by decide) lower, upper⟩
  · exact rest c later

/-- The compiler reads a decimal constant as its digits in base ten. -/
theorem classifyNumber_decimal {s : String} (decimal : DecimalConstant s)
    (fits : digitsValue 10 s.toList ≤ maxIntLiteral) :
    classifyNumber s = .integer ⟨digitsValue 10 s.toList, true, false, 0, false⟩ := by
  have digits := decimal.digits
  obtain ⟨d, ds, text, lower, -, -⟩ := decimal
  rw [text] at digits fits
  have notZero : d ≠ '0' := by
    rintro rfl
    exact absurd lower (by decide)
  have skipped : skipWhile (d :: ds).toArray Char.isDigit 0 = (d :: ds).toArray.size :=
    skipWhile_eq_size _ 0 rfl (Nat.zero_le _) (fun j h _ => digits _ (by simp))
  have first : (d :: ds).toArray.getD 0 ' ' = d := by simp
  unfold classifyNumber
  rw [text]
  dsimp only
  simp only [first, notZero, if_false, skipped, beq_self_eq_true, if_true]
  exact finishInteger_unsuffixed (d :: ds).toArray 10 true (by simpa using fits)

/-- The compiler reads an octal constant as its digits in base eight. -/
theorem classifyNumber_octal {s : String} (octal : OctalConstant s)
    (fits : digitsValue 8 s.toList ≤ maxIntLiteral) :
    classifyNumber s = .integer ⟨digitsValue 8 s.toList, false, false, 0, false⟩ := by
  obtain ⟨ds, text, rest⟩ := octal
  rw [text] at fits
  -- the character after the leading 0 is an octal digit or absent, so the
  -- constant is neither hexadecimal nor binary
  have second : ('0' :: ds).toArray.getD 1 ' ' = ' ' ∨
      ('0' ≤ ('0' :: ds).toArray.getD 1 ' ' ∧ ('0' :: ds).toArray.getD 1 ' ' ≤ '7') := by
    cases ds with
    | nil => exact Or.inl rfl
    | cons e es => exact Or.inr (by simpa using rest e List.mem_cons_self)
  have notLetter : ∀ x : Char, '7' < x → ('0' :: ds).toArray.getD 1 ' ' ≠ x := by
    intro x above same
    rcases second with blank | ⟨-, upper⟩
    · rw [same] at blank
      subst blank
      exact absurd above (by decide)
    · rw [same] at upper
      exact Char.not_le.mpr above upper
  have notHex : ¬(('0' :: ds).toArray.getD 1 ' ' = 'x' ∨ ('0' :: ds).toArray.getD 1 ' ' = 'X') :=
    fun hex => hex.elim (notLetter 'x' (by decide)) (notLetter 'X' (by decide))
  have notBinary : ¬(('0' :: ds).toArray.getD 1 ' ' = 'b' ∨ ('0' :: ds).toArray.getD 1 ' ' = 'B') :=
    fun binary => binary.elim (notLetter 'b' (by decide)) (notLetter 'B' (by decide))
  have skipped : skipWhile ('0' :: ds).toArray (isDigitIn 8) 1 = ('0' :: ds).toArray.size := by
    refine skipWhile_eq_size _ 1 rfl (by simp) (fun j h after => ?_)
    obtain ⟨k, rfl⟩ : ∃ k, j = k + 1 := ⟨j - 1, by omega⟩
    simp only [List.getElem_toArray, List.getElem_cons_succ]
    exact isDigitIn_eight_of_octal (rest _ (List.getElem_mem _))
  have first : ('0' :: ds).toArray.getD 0 ' ' = '0' := by simp
  unfold classifyNumber
  rw [text]
  dsimp only
  simp only [first, if_true, notHex, notBinary, false_and, if_false, skipped, beq_self_eq_true]
  exact finishInteger_unsuffixed ('0' :: ds).toArray 8 false (by simpa using fits)

theorem OctalConstant.digits {s : String} (octal : OctalConstant s) :
    ∀ c ∈ s.toList, c.isDigit = true := by
  obtain ⟨ds, text, rest⟩ := octal
  rw [text]
  intro c mem
  rcases List.mem_cons.mp mem with rfl | later
  · decide
  · exact isDigit_of_octal (rest c later)

/-- The check reads a decimal constant as its digits in base ten. -/
theorem DecimalConstant.decimalValue_eq {s : String} (decimal : DecimalConstant s) :
    decimalValue? s = some (digitsValue 10 s.toList) := by
  have digits := decimal.digits
  obtain ⟨d, ds, text, -⟩ := decimal
  exact decimalValue?_digits text digits

/-- The check reads an octal constant as its digits in base ten too. -/
theorem OctalConstant.decimalValue_eq {s : String} (octal : OctalConstant s) :
    decimalValue? s = some (digitsValue 10 s.toList) := by
  have digits := octal.digits
  obtain ⟨ds, text, -⟩ := octal
  exact decimalValue?_digits text digits

/-! ### The suggestion -/

theorem reportedCode_iff {c : Nat} : reportedCode c = true ↔ (7 ≤ c ∧ c ≤ 12) ∨ (32 ≤ c ∧ c ≤ 125) := by
  simp only [reportedCode, Bool.or_eq_true, Bool.and_eq_true, decide_eq_true_eq]
  omega

/-- The character the check suggests for a code it warns for: for every
code but the single quote, a plain character constant that the compiler
reads as the code without a message; for the single quote, the single
quote in double quotes, which is a string literal. -/
theorem quoteChar_reads_back (c : Nat) (reported : reportedCode c = true) :
    (c ≠ 39 → (charConstant (quoteChar (Char.ofNat c))).kind = .plain ∧
      (charConstant (quoteChar (Char.ofNat c))).value = c ∧
      (charConstant (quoteChar (Char.ofNat c))).issues.isEmpty = true ∧
      (charConstant (quoteChar (Char.ofNat c))).failed = false) ∧
    (c = 39 → quoteChar (Char.ofNat c) = "\"'\"") := by
  have below : c < 126 := by
    have := reportedCode_iff.mp reported
    omega
  -- the codes warned for are finitely many: read each suggestion back
  have each : ∀ c < 126, reportedCode c = true →
      (c ≠ 39 → (charConstant (quoteChar (Char.ofNat c))).kind = .plain ∧
        (charConstant (quoteChar (Char.ofNat c))).value = c ∧
        (charConstant (quoteChar (Char.ofNat c))).issues.isEmpty = true ∧
        (charConstant (quoteChar (Char.ofNat c))).failed = false) ∧
      (c = 39 → quoteChar (Char.ofNat c) = "\"'\"") := by
    decide +kernel
  exact each c below reported

/-! ### Where the check warns -/

section Step

variable {lvl : Level} {tracked tracked' : Tracked} {n lit : Node} {found : Option Finding} {tok : Token}

/-- At a comparison the check accepts whose literal's first token reads as
`D` in base ten, the check warns exactly when `D` is between 7 and 12 or
between 32 and 125, naming `D`. -/
theorem codeStep_reads (step : codeStep lvl tracked n = .ok (tracked', found)) (compares : IsComparison n)
    (literal : n.children.find? (·.kind = .integerLiteral) = some lit) (first : lit.tokens.head? = some tok)
    (holds : ∃ x ∈ n.children, ∃ m, x.peel = some m ∧ HoldsChar tracked m) {D : Nat}
    (value : decimalValue? tok.spelling = some D) :
    (found = some ⟨lit, codeMessage D, .warning, lvl⟩ ∧ ((7 ≤ D ∧ D ≤ 12) ∨ (32 ≤ D ∧ D ≤ 125))) ∨
      (found = none ∧ ¬((7 ≤ D ∧ D ≤ 12) ∨ (32 ≤ D ∧ D ≤ 125))) := by
  have warns : ∀ w, found = some w ↔ reportedCode D = true ∧ w = ⟨lit, codeMessage D, .warning, lvl⟩ :=
    fun w => (codeStep_warns_iff step).trans (codeWarning_iff compares literal first value holds)
  by_cases reported : reportedCode D = true
  · exact Or.inl ⟨(warns _).mpr ⟨reported, rfl⟩, reportedCode_iff.mp reported⟩
  · refine Or.inr ⟨?_, fun range => reported (reportedCode_iff.mpr range)⟩
    cases found with
    | none => rfl
    | some w => exact absurd ((warns w).mp rfl).1 reported

/-- At a comparison the check accepts whose literal is written as a decimal
constant, the check warns exactly when the value the compiler gives the
constant is between 7 and 12 or between 32 and 125, naming that value. -/
theorem codeStep_decimal_constant (step : codeStep lvl tracked n = .ok (tracked', found))
    (compares : IsComparison n) (literal : n.children.find? (·.kind = .integerLiteral) = some lit)
    (first : lit.tokens.head? = some tok) (holds : ∃ x ∈ n.children, ∃ m, x.peel = some m ∧ HoldsChar tracked m)
    (decimal : DecimalConstant tok.spelling) (fits : digitsValue 10 tok.spelling.toList ≤ maxIntLiteral) :
    classifyNumber tok.spelling = .integer ⟨digitsValue 10 tok.spelling.toList, true, false, 0, false⟩ ∧
      ((found = some ⟨lit, codeMessage (digitsValue 10 tok.spelling.toList), .warning, lvl⟩ ∧
          ((7 ≤ digitsValue 10 tok.spelling.toList ∧ digitsValue 10 tok.spelling.toList ≤ 12) ∨
            (32 ≤ digitsValue 10 tok.spelling.toList ∧ digitsValue 10 tok.spelling.toList ≤ 125))) ∨
        (found = none ∧ ¬((7 ≤ digitsValue 10 tok.spelling.toList ∧ digitsValue 10 tok.spelling.toList ≤ 12) ∨
            (32 ≤ digitsValue 10 tok.spelling.toList ∧ digitsValue 10 tok.spelling.toList ≤ 125)))) := by
  exact ⟨classifyNumber_decimal decimal fits,
    codeStep_reads step compares literal first holds decimal.decimalValue_eq⟩

/-- At a comparison the check accepts whose literal is written as an octal
constant, the compiler gives the constant the value of its digits in base
eight, and the check judges and names it by its digits read in base ten. -/
theorem codeStep_octal_constant (step : codeStep lvl tracked n = .ok (tracked', found))
    (compares : IsComparison n) (literal : n.children.find? (·.kind = .integerLiteral) = some lit)
    (first : lit.tokens.head? = some tok) (holds : ∃ x ∈ n.children, ∃ m, x.peel = some m ∧ HoldsChar tracked m)
    (octal : OctalConstant tok.spelling) (fits : digitsValue 8 tok.spelling.toList ≤ maxIntLiteral) :
    classifyNumber tok.spelling = .integer ⟨digitsValue 8 tok.spelling.toList, false, false, 0, false⟩ ∧
      ((found = some ⟨lit, codeMessage (digitsValue 10 tok.spelling.toList), .warning, lvl⟩ ∧
          ((7 ≤ digitsValue 10 tok.spelling.toList ∧ digitsValue 10 tok.spelling.toList ≤ 12) ∨
            (32 ≤ digitsValue 10 tok.spelling.toList ∧ digitsValue 10 tok.spelling.toList ≤ 125))) ∨
        (found = none ∧ ¬((7 ≤ digitsValue 10 tok.spelling.toList ∧ digitsValue 10 tok.spelling.toList ≤ 12) ∨
            (32 ≤ digitsValue 10 tok.spelling.toList ∧ digitsValue 10 tok.spelling.toList ≤ 125)))) := by
  exact ⟨classifyNumber_octal octal fits,
    codeStep_reads step compares literal first holds octal.decimalValue_eq⟩

/- The constant 012 has the value ten, and the check reads twelve. -/
example : digitsValue 8 "012".toList = 10 ∧ decimalValue? "012" = some 12 := by decide

end Step

end CInspect.Check
