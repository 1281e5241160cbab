import CInspect.Proofs.NodeChecks
import CInspect.Proofs.CharVariable
/-!
The word a finding is printed with, and the level it counts at.

A finding is printed on a line `location word: message`, the word `error`
for the two failing levels and `warning` for the others, and the two "not"
levels add a sentence and the where-text (`Finding.render_head`,
`Level.word_eq_error_iff`, `Level.addendum_eq_empty_iff`). It counts at the
configured level of its check, which decides whether the file fails. The
checks do not all print at that level:

* `nodeFinding_shown`, `mem_constructFindings`: a finding of the node checks
  is the finding a check makes at a visit (`nodeFinding`), printed at that
  check's level;
* `functionsCharFindings_shown`: so is a finding of the character-variable
  check, while a character-code finding is printed as a warning, with no
  sentence, whatever its check's level (`lineEndCode_notPermitted_prints_warning`);
* `checkMixing_out_congr`, `checkLayout_out_congr`: the two indentation
  reports print the same lines at every level;
* `checkConstructs_extraText`: the extra text follows the node checks'
  findings exactly when they ran to the end and one of them is at a "not"
  level; the other checks never print it (`checkCharInput_extraText` and its
  siblings).

`findings_print_check_level` puts these together.
-/

namespace CInspect.Check

open CInspect.Tree

/-! ### Words and sentences -/

theorem Level.word_eq_error_iff (l : Level) : l.word = "error" ↔ l.fails = true := by
  cases l <;> simp [Level.word, Level.fails]

/-- Only the two "not" levels add a sentence. -/
theorem Level.addendum_eq_empty_iff (cfg : Config) (l : Level) :
    l.addendum cfg = "" ↔ l = .error ∨ l = .warning := by
  -- the equations of `Level.addendum` are costly to generate; its cases are
  -- read off by unfolding instead
  cases l with
  | error | warning => exact iff_of_true rfl (by simp)
  | notPermitted | notRecommended =>
    refine iff_of_false ?_ (by simp)
    -- the sentence alone is not empty, whatever the where-text
    intro empty
    exact absurd (String.append_eq_empty_iff.mp empty).1 (by decide)

/-- The first line printed for a finding shown at level `l`: its place, the
word of `l`, its message and the sentence of `l`. -/
def Finding.headline (cfg : Config) (f : Finding) (l : Level) : String :=
  s!"{f.node.location} {l.word}: {f.message}{l.addendum cfg}"

theorem Finding.render_head (cfg : Config) (lines : List String) (f : Finding) :
    (f.render cfg lines).head? = some (f.headline cfg f.shownAs) := by
  unfold Finding.render report
  split <;> rfl

/-! ### The node checks -/

/-- A node check makes its finding at the level of the check, and shows it
at that level. -/
theorem nodeFinding_shown {cfg : Config} {c : Rule} {v : Visit} {allocs : Nat} {f : Finding}
    (found : nodeFinding cfg c v allocs = some f) : cfg.level c = some f.level ∧ f.shownAs = f.level := by
  unfold nodeFinding at found
  cases on : cfg.level c with
  | none => simp [on] at found
  | some lvl =>
    simp only [on, Option.bind_some, Option.map_eq_some_iff] at found
    obtain ⟨msg, -, rfl⟩ := found
    exact ⟨rfl, rfl⟩

/-- Every finding of the node checks on a translation unit is the finding a
node check makes at a visit of its walk. -/
theorem mem_constructFindings {cfg : Config} {root : Node} {f : Finding}
    (mem : f ∈ (constructFindings cfg root).1) :
    ∃ v ∈ root.sameFileNodes, ∃ c ∈ Rule.onNodes, ∃ allocs, nodeFinding cfg c v allocs = some f := by
  rw [constructFindings_eq] at mem
  obtain ⟨⟨before, v⟩, pair, here⟩ := List.mem_flatMap.mp mem
  obtain ⟨c, reached, found⟩ := List.mem_filterMap.mp here
  exact ⟨v, (reachedVisits_sublist _).subset (List.of_mem_zip pair).2, c,
    (List.takeWhile_sublist _).subset reached, _, found⟩

/-! ### The character checks -/

/-- A character-variable finding is shown at the level it counts at. -/
theorem charVariableFinding_shown {lvl : Level} {n : Node} {f : Finding}
    (found : charVariableFinding lvl n = .ok (some f)) : f.shownAs = lvl ∧ f.level = lvl := by
  rcases charVariableFinding_eq_some_iff.mp found with
    ⟨-, l, r, v, call, -, -, -, -, rfl⟩ | ⟨-, -, c, cs, call, -, -, rfl⟩
  all_goals exact ⟨rfl, rfl⟩

/-- A character-code finding is shown as a warning, whatever level it
counts at. -/
theorem codeStep_shown {lvl : Level} {tracked tracked' : Tracked} {n : Node} {f : Finding}
    (found : codeStep lvl tracked n = .ok (tracked', some f)) :
    f.shownAs = .warning ∧ f.level = lvl := by
  obtain ⟨-, lit, tok, code, -, -, -, -, -, made⟩ := (codeStep_warns_iff found).mp rfl
  cases made
  exact ⟨rfl, rfl⟩

/-- How a finding of the character checks is shown: a character-variable
finding at the level of its check, a character-code finding as a warning. -/
def CharShown (cfg : Config) (f : Finding) : Prop :=
  (cfg.level .assignGetcharChar = some f.level ∧ f.shownAs = f.level) ∨
    (cfg.level .integerAsciiCode = some f.level ∧ f.shownAs = .warning)

theorem firstFindings_shown {cfg : Config} {n : Node} {fs : List Finding}
    (found : firstFindings cfg n = .ok fs) : ∀ f ∈ fs, CharShown cfg f := by
  unfold firstFindings at found
  split at found
  · next lvl on =>
    cases made : charVariableFinding lvl n with
    | error e => simp [made, Except.map] at found
    | ok r =>
      simp only [made, Except.map, Except.ok.injEq] at found
      subst found
      intro f mem
      rw [Option.mem_toList] at mem
      subst mem
      obtain ⟨shown, level⟩ := charVariableFinding_shown made
      exact .inl ⟨level ▸ on, level ▸ shown⟩
  · cases found
    simp

theorem functionCharFindings_shown (cfg : Config) :
    ∀ (tracked : Tracked) (visits : List Visit),
      ∀ f ∈ (functionCharFindings cfg tracked visits).1, CharShown cfg f
  | _, [] => by simp [functionCharFindings]
  | tracked, v :: vs => by
    intro f mem
    rw [functionCharFindings.eq_2] at mem
    dsimp only at mem
    split at mem
    · simp at mem
    · split at mem
      · simp at mem
      · next fs first =>
        have early := firstFindings_shown (show firstFindings cfg v.node = .ok fs from first)
        split at mem
        · next lvl on =>
          split at mem
          · next tracked' code step =>
            simp only [List.mem_append] at mem
            rcases mem with (here | here) | later
            · exact early f here
            · rw [Option.mem_toList] at here
              subst here
              obtain ⟨shown, level⟩ := codeStep_shown step
              exact .inr ⟨level ▸ on, shown⟩
            · exact functionCharFindings_shown cfg tracked' vs f later
          · exact early f mem
        · rcases List.mem_append.mp mem with here | later
          · exact early f here
          · exact functionCharFindings_shown cfg tracked vs f later

theorem functionsCharFindings_shown (cfg : Config) (fns : List Node) :
    ∀ f ∈ (functionsCharFindings cfg fns).1, CharShown cfg f := by
  unfold functionsCharFindings
  induction fns.map (·.sameFileNodes) with
  | nil => simp [walksCharFindings]
  | cons w ws ih =>
    intro f mem
    rw [walksCharFindings.eq_2] at mem
    dsimp only at mem
    split at mem
    · rcases List.mem_append.mp mem with here | later
      · exact functionCharFindings_shown cfg [] w f here
      · exact ih f later
    · exact functionCharFindings_shown cfg [] w f mem

/-! ### What the checks read of the configuration -/

theorem checksAt_congr {cfg cfg' : Config} (same : cfg.level = cfg'.level) (v : Visit) :
    ∀ (cs : List Rule) (allocs : Nat), checksAt cfg v cs allocs = checksAt cfg' v cs allocs
  | [], _ => rfl
  | c :: cs, allocs => by simp only [checksAt, same, checksAt_congr same v cs]

theorem walkFindings_congr {cfg cfg' : Config} (same : cfg.level = cfg'.level)
    (visits : List Visit) (allocs : Nat) :
    walkFindings cfg visits allocs = walkFindings cfg' visits allocs := by
  induction visits generalizing allocs with
  | nil => rfl
  | cons v vs ih =>
    simp only [walkFindings, visitFindings, anyNodeCheck, same, checksAt_congr same, ih]

theorem functionCharFindings_congr {cfg cfg' : Config} (same : cfg.level = cfg'.level)
    (tracked : Tracked) (visits : List Visit) :
    functionCharFindings cfg tracked visits = functionCharFindings cfg' tracked visits := by
  induction visits generalizing tracked with
  | nil => rfl
  | cons v vs ih => simp only [functionCharFindings, same, ih]

theorem functionsCharFindings_congr {cfg cfg' : Config} (same : cfg.level = cfg'.level)
    (fns : List Node) : functionsCharFindings cfg fns = functionsCharFindings cfg' fns := by
  unfold functionsCharFindings
  induction fns.map (·.sameFileNodes) with
  | nil => rfl
  | cons w ws ih => simp only [walksCharFindings, functionCharFindings_congr same, ih]

/-- The node checks print the extra text after their findings when they ran
to the end and one of their findings is at a "not" level; nothing else they
print depends on it. -/
theorem checkConstructs_extraText (cfg : Config) (lines : List String) (root : Node) :
    (checkConstructs cfg lines root).1 =
      (checkConstructs { cfg with extraText := "" } lines root).1 ++
        (if (constructFindings cfg root).2 = none ∧ cfg.extraText ≠ "" ∧
            ∃ f ∈ (constructFindings cfg root).1,
              f.level = .notPermitted ∨ f.level = .notRecommended
          then [cfg.extraText] else []) := by
  have same : constructFindings { cfg with extraText := "" } root = constructFindings cfg root :=
    @walkFindings_congr { cfg with extraText := "" } cfg rfl _ _
  unfold checkConstructs constructsReport
  rw [same]
  simp only [ne_eq, not_true_eq_false, and_false, false_and, if_false, List.append_nil]
  -- the condition, read off the levels of the findings
  congr 2
  simp [Option.isNone_iff_eq_none, and_or_left, exists_or]

theorem checkCharInput_extraText (cfg : Config) (t : String) (lines : List String) (root : Node) :
    checkCharInput { cfg with extraText := t } lines root = checkCharInput cfg lines root := by
  unfold checkCharInput
  rw [@functionsCharFindings_congr { cfg with extraText := t } cfg rfl]
  rfl

theorem checkMixing_extraText (cfg : Config) (t : String) (lines : List String) (file : String)
    (root : Node) : checkMixing { cfg with extraText := t } lines file root = checkMixing cfg lines file root :=
  rfl

theorem checkLayout_extraText (cfg : Config) (t : String) (lines : List String) (file : String)
    (root : Node) : checkLayout { cfg with extraText := t } lines file root = checkLayout cfg lines file root :=
  rfl

/-! ### The indentation reports -/

/-- The tabs-and-spaces report prints the same lines at every level the
check is on at. -/
theorem checkMixing_out_congr {cfg cfg' : Config} {l l' : Level} (lines : List String)
    (file : String) (root : Node) (on : cfg.level .indenting = some l)
    (on' : cfg'.level .indenting = some l') (text : cfg.mixedIndentingText = cfg'.mixedIndentingText) :
    (checkMixing cfg lines file root).1 = (checkMixing cfg' lines file root).1 := by
  unfold checkMixing
  rw [on, on', text]
  dsimp only
  split
  · rfl
  · split <;> rfl

/-- So does the body indentation report, given the same switches. -/
theorem checkLayout_out_congr {cfg cfg' : Config} {l l' : Level} (lines : List String)
    (file : String) (root : Node) (on : cfg.level .indenting = some l)
    (on' : cfg'.level .indenting = some l') (debug : cfg.debug = cfg'.debug)
    (highlight : cfg.highlight = cfg'.highlight) (colorize : cfg.colorize = cfg'.colorize) :
    (checkLayout cfg lines file root).out = (checkLayout cfg' lines file root).out := by
  have judged : judgeFunction cfg = judgeFunction cfg' := by
    funext file f
    simp only [judgeFunction, judgeItems, debug, highlight]
  unfold checkLayout
  rw [on, on', judged]
  dsimp only
  unfold layoutOf
  rw [highlight, colorize]
  split
  · rfl
  · -- the levels differ, the lines do not
    simp only [apply_ite LayoutOutcome.out]

/-! ### Words against levels -/

/-- The configuration with check `c` on at level `l`. -/
def Config.setLevel (cfg : Config) (c : Rule) (l : Level) : Config :=
  { cfg with level := fun c' => if c' = c then some l else cfg.level c' }

/-- The word and sentence of each check's findings, and where the extra text
goes. A node check and the character-variable check print a finding with
the word and sentence of their level; the character-code check prints a
warning with no sentence, whatever its level; the two indentation reports
print the same lines at every level. Only the node checks print the extra
text, after their own findings. -/
theorem findings_print_check_level (cfg : Config) (lines : List String) (file : String)
    (root : Node) (l : Level) (t : String) :
    (∀ f ∈ (constructFindings cfg root).1, ∃ v ∈ root.sameFileNodes, ∃ c ∈ Rule.onNodes, ∃ allocs,
      nodeFinding cfg c v allocs = some f ∧ cfg.level c = some f.level ∧
      (f.render cfg lines).head? = some (f.headline cfg f.level)) ∧
    (∀ f ∈ (functionsCharFindings cfg root.functions).1,
      (cfg.level .assignGetcharChar = some f.level ∧
        (f.render cfg lines).head? = some (f.headline cfg f.level)) ∨
      (cfg.level .integerAsciiCode = some f.level ∧
        (f.render cfg lines).head? = some (f.headline cfg .warning))) ∧
    (checkMixing (cfg.setLevel .indenting l) lines file root).1 =
      (checkMixing (cfg.setLevel .indenting .warning) lines file root).1 ∧
    (checkLayout (cfg.setLevel .indenting l) lines file root).out =
      (checkLayout (cfg.setLevel .indenting .warning) lines file root).out ∧
    (checkConstructs cfg lines root).1 =
      (checkConstructs { cfg with extraText := "" } lines root).1 ++
        (if (constructFindings cfg root).2 = none ∧ cfg.extraText ≠ "" ∧
            ∃ f ∈ (constructFindings cfg root).1,
              f.level = .notPermitted ∨ f.level = .notRecommended
          then [cfg.extraText] else []) ∧
    checkCharInput { cfg with extraText := t } lines root = checkCharInput cfg lines root ∧
    checkMixing { cfg with extraText := t } lines file root = checkMixing cfg lines file root ∧
    checkLayout { cfg with extraText := t } lines file root = checkLayout cfg lines file root := by
  have setOn : ∀ l', (cfg.setLevel .indenting l').level .indenting = some l' := by
    simp [Config.setLevel]
  refine ⟨fun f mem => ?_, fun f mem => ?_,
    checkMixing_out_congr lines file root (setOn l) (setOn .warning) rfl,
    checkLayout_out_congr lines file root (setOn l) (setOn .warning) rfl rfl rfl,
    checkConstructs_extraText cfg lines root, checkCharInput_extraText cfg t lines root,
    checkMixing_extraText cfg t lines file root, checkLayout_extraText cfg t lines file root⟩
  · obtain ⟨v, visited, c, member, allocs, found⟩ := mem_constructFindings mem
    obtain ⟨on, shown⟩ := nodeFinding_shown found
    exact ⟨v, visited, c, member, allocs, found, on, by rw [f.render_head, shown]⟩
  · rcases functionsCharFindings_shown cfg root.functions f mem with ⟨on, shown⟩ | ⟨on, shown⟩
    · exact .inl ⟨on, by rw [f.render_head, shown]⟩
    · exact .inr ⟨on, by rw [f.render_head, shown]⟩

/-- The tree of `int main(void) { c == 10; }` in `p.c`, where `c` is a
`char`: a comparison of a character with the code of a line end. -/
def lineEndComparison : Node :=
  let tok (s : String) (a b : Nat) : Token := ⟨s, ⟨⟨2, a⟩, ⟨2, b⟩⟩⟩
  let var : Node := ⟨.declRefExpr, "c", "c", some "p.c", ⟨⟨2, 5⟩, ⟨2, 6⟩⟩, ⟨"char", [false], false⟩,
    false, some ⟨"c", "char", some "p.c", 1⟩, [tok "c" 5 6], 0, []⟩
  let code : Node := ⟨.integerLiteral, "", "", some "p.c", ⟨⟨2, 10⟩, ⟨2, 12⟩⟩, ⟨"int", [false], false⟩,
    false, none, [tok "10" 10 12], 0, []⟩
  let cmp : Node := ⟨.binaryOperator, "", "", some "p.c", ⟨⟨2, 5⟩, ⟨2, 12⟩⟩, ⟨"int", [false], false⟩,
    false, none, [tok "c" 5 6, tok "==" 7 9, tok "10" 10 12], 0, [var, code]⟩
  let body : Node := ⟨.compoundStmt, "", "", some "p.c", ⟨⟨1, 16⟩, ⟨3, 2⟩⟩, TypeView.none, false,
    none, [], 0, [cmp]⟩
  let main : Node := ⟨.functionDecl, "main", "main", some "p.c", ⟨⟨1, 1⟩, ⟨3, 2⟩⟩,
    ⟨"int (void)", [false], false⟩, false, none, [], 2, [body]⟩
  ⟨.translationUnit, "p.c", "p.c", none, ⟨⟨0, 0⟩, ⟨0, 0⟩⟩, TypeView.none, false, none, [], 0, [main]⟩

/-- With the character-code check not permitted, its finding fails the file
but is printed as a warning, without the sentence of its level. -/
theorem lineEndCode_notPermitted_prints_warning :
    let cfg := Config.quiet.setLevel .integerAsciiCode .notPermitted
    (checkCharInput cfg [] lineEndComparison).1 =
        ["p.c:2:10 warning: ASCII code 10 used, replace with '\\n'"] ∧
      (checkCharInput cfg [] lineEndComparison).2.1 = [.notPermitted] := by
  decide

end CInspect.Check
