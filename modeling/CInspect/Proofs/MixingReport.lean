import CInspect.Check.Mixing
/-!
How the tabs-and-spaces check numbers the lines it reports.

The check classifies each source line by its indentation and numbers the
lines from 0, one less than the numbers that every other message and the
indentation listing give them (`mem_linesOfClass`). A function's start and
end lines are counted from 1, so comparing them with these numbers judges a
function by its source lines from the one after its first line through the
one after its last (`mem_withinLines_linesOfClass`).

* `checkMixing_mixed_report`: when some line is indented with a mixture of
  tabs and spaces, the check reports it, naming for each such line the
  number one less than the line's.
* `checkMixing_function_report`: otherwise it reports the first function
  whose shifted lines hold both a line indented with tabs and one indented
  with spaces, naming those lines by numbers one less than theirs; when no
  function does, it reports nothing.
-/

namespace CInspect.Check

open CInspect.Tree CInspect.Indent

/-- Line `n` of the source, counted from 1, is indented in the way `k`. -/
def IndentedAs (lines : List String) (k : LineClass) (n : Nat) : Prop :=
  1 ≤ n ∧ ∃ line, lines[n - 1]? = some line ∧ classify line = some k

/-- The lines the check judges a function by, counted from 1: from the one
after its first line through the one after its last. -/
def ShiftedLine (f : Node) (n : Nat) : Prop :=
  f.extent.start.line + 1 ≤ n ∧ n ≤ f.extent.stop.line + 1

/-- The function `f` holds, among the lines the check judges it by, a line
indented with tabs and a line indented with spaces. -/
def MixesShifted (lines : List String) (f : Node) : Prop :=
  (∃ n, IndentedAs lines .tabs n ∧ ShiftedLine f n) ∧ ∃ n, IndentedAs lines .spaces n ∧ ShiftedLine f n

section Numbering

variable {lines : List String} {k : LineClass}

/-- A line numbered from 0 beside the line itself. -/
theorem mem_zip_range {α : Type} {l : List α} {p : Nat × α} :
    p ∈ (List.range l.length).zip l ↔ ∃ j, ∃ h : j < l.length, (j, l[j]) = p := by
  rw [List.mem_iff_getElem]
  simp

/-- The check numbers line `n` of the source as `n - 1`. -/
theorem mem_linesOfClass {i : Int} :
    i ∈ linesOfClass lines k ↔ ∃ n, IndentedAs lines k n ∧ i = (n : Int) - 1 := by
  simp only [linesOfClass, List.mem_filterMap, mem_zip_range]
  constructor
  · rintro ⟨_, ⟨j, bound, rfl⟩, found⟩
    split at found
    · next classified =>
      refine ⟨j + 1, ⟨by omega, lines[j], by simp, classified⟩, ?_⟩
      cases found
      omega
    · cases found
  · rintro ⟨n, ⟨pos, line, atN, classified⟩, rfl⟩
    obtain ⟨bound, rfl⟩ := List.getElem?_eq_some_iff.mp atN
    refine ⟨_, ⟨n - 1, bound, rfl⟩, ?_⟩
    simp only [classified, if_true, Option.some.injEq]
    omega

/- The second line of the source is the one indented with tabs; the check
names it 1. -/
example : linesOfClass ["int main(void) \x7b", "\treturn 0;", "    return 1;", "\x7d"] .tabs = [1] := by
  decide

theorem mem_withinLines {f : Node} {xs : List Int} {i : Int} :
    i ∈ withinLines f xs ↔ i ∈ xs ∧ (f.extent.start.line : Int) ≤ i ∧ i ≤ f.extent.stop.line := by
  simp [withinLines]

/-- The numbers the check takes from a function's lines are those of its
shifted lines, less one. -/
theorem mem_withinLines_linesOfClass {f : Node} {i : Int} :
    i ∈ withinLines f (linesOfClass lines k) ↔ ∃ n, IndentedAs lines k n ∧ ShiftedLine f n ∧ i = (n : Int) - 1 := by
  rw [mem_withinLines, mem_linesOfClass]
  constructor
  · rintro ⟨⟨n, indented, rfl⟩, lower, upper⟩
    exact ⟨n, indented, ⟨by omega, by omega⟩, rfl⟩
  · rintro ⟨n, indented, ⟨lower, upper⟩, rfl⟩
    exact ⟨⟨n, indented, rfl⟩, by omega, by omega⟩

theorem isEmpty_withinLines_eq_false_iff {f : Node} :
    (withinLines f (linesOfClass lines k)).isEmpty = false ↔ ∃ n, IndentedAs lines k n ∧ ShiftedLine f n := by
  rw [List.isEmpty_eq_false_iff_exists_mem]
  constructor
  · rintro ⟨i, mem⟩
    obtain ⟨n, indented, shifted, -⟩ := mem_withinLines_linesOfClass.mp mem
    exact ⟨n, indented, shifted⟩
  · rintro ⟨n, indented, shifted⟩
    exact ⟨_, mem_withinLines_linesOfClass.mpr ⟨n, indented, shifted, rfl⟩⟩

theorem isEmpty_linesOfClass_eq_false_iff :
    (linesOfClass lines k).isEmpty = false ↔ ∃ n, IndentedAs lines k n := by
  rw [List.isEmpty_eq_false_iff_exists_mem]
  constructor
  · rintro ⟨i, mem⟩
    obtain ⟨n, indented, -⟩ := mem_linesOfClass.mp mem
    exact ⟨n, indented⟩
  · rintro ⟨n, indented⟩
    exact ⟨_, mem_linesOfClass.mpr ⟨n, indented, rfl⟩⟩

end Numbering

section Report

variable {cfg : Config} {lines : List String} {file : String} {root : Node} {lvl : Level}

/-- The check skips a function exactly when it does not mix tabs and spaces
in its shifted lines. -/
theorem skips_iff {f : Node} :
    ((withinLines f (linesOfClass lines .tabs)).isEmpty ∨
      (withinLines f (linesOfClass lines .spaces)).isEmpty) ↔ ¬MixesShifted lines f := by
  rw [MixesShifted, ← isEmpty_withinLines_eq_false_iff, ← isEmpty_withinLines_eq_false_iff]
  cases (withinLines f (linesOfClass lines .tabs)).isEmpty <;>
    cases (withinLines f (linesOfClass lines .spaces)).isEmpty <;> simp

/-- The function the check reports is the first that mixes tabs and spaces
in its shifted lines, and the lines it names for it are those lines, each
numbered one less than its number; when no function mixes them it reports
none. -/
theorem mixingFunction_first : ∀ fs : List Node,
    (∃ pre f post, fs = pre ++ f :: post ∧ (∀ g ∈ pre, ¬MixesShifted lines g) ∧ MixesShifted lines f ∧
      ∃ t s, (∀ i, i ∈ t ↔ ∃ n, IndentedAs lines .tabs n ∧ ShiftedLine f n ∧ i = (n : Int) - 1) ∧
        (∀ i, i ∈ s ↔ ∃ n, IndentedAs lines .spaces n ∧ ShiftedLine f n ∧ i = (n : Int) - 1) ∧
        mixingFunction file (linesOfClass lines .tabs) (linesOfClass lines .spaces) fs =
          some [s!"{file}: warning: function {f.spelling} is indented with a mixture of tabs and spaces:",
            s!"\t{describeLines t} indented with tabs", s!"\t{describeLines s} indented with spaces"]) ∨
      ((∀ f ∈ fs, ¬MixesShifted lines f) ∧
        mixingFunction file (linesOfClass lines .tabs) (linesOfClass lines .spaces) fs = none)
  | [] => Or.inr ⟨by simp, rfl⟩
  | g :: gs => by
    by_cases mixes : MixesShifted lines g
    · refine Or.inl ⟨[], g, gs, rfl, by simp, mixes, _, _, fun _ => mem_withinLines_linesOfClass,
        fun _ => mem_withinLines_linesOfClass, ?_⟩
      rw [mixingFunction, if_neg (fun skips => skips_iff.mp skips mixes)]
    · have skip : mixingFunction file (linesOfClass lines .tabs) (linesOfClass lines .spaces) (g :: gs) =
          mixingFunction file (linesOfClass lines .tabs) (linesOfClass lines .spaces) gs := by
        rw [mixingFunction, if_pos (skips_iff.mpr mixes)]
      rw [skip]
      rcases mixingFunction_first gs with ⟨pre, f, post, rfl, before, found, named⟩ | ⟨none_, report⟩
      · refine Or.inl ⟨g :: pre, f, post, rfl, ?_, found, named⟩
        intro h mem
        rcases List.mem_cons.mp mem with rfl | earlier
        · exact mixes
        · exact before h earlier
      · refine Or.inr ⟨?_, report⟩
        intro h mem
        rcases List.mem_cons.mp mem with rfl | later
        · exact mixes
        · exact none_ h later

/-- When some line is indented with a mixture of tabs and spaces, the check
reports it, naming each such line by the number one less than its own. -/
theorem checkMixing_mixed_report (on : cfg.level .indenting = some lvl)
    (mixed : ∃ n, IndentedAs lines .mixed n) :
    ∃ ms, (∀ i, i ∈ ms ↔ ∃ n, IndentedAs lines .mixed n ∧ i = (n : Int) - 1) ∧
      checkMixing cfg lines file root =
        ([s!"{file}: warning: {describeLines ms} indented with a mixture of tabs and spaces"] ++
          (if cfg.mixedIndentingText = "" then [] else [cfg.mixedIndentingText]), [lvl]) := by
  refine ⟨linesOfClass lines .mixed, fun _ => mem_linesOfClass, ?_⟩
  have found := isEmpty_linesOfClass_eq_false_iff.mpr mixed
  simp [checkMixing, on, found]

/-- When no line is indented with a mixture of tabs and spaces, the check
reports the first function that holds a line indented with tabs and one
indented with spaces among its shifted lines, naming those lines by the
numbers one less than their own; when no function does, it reports
nothing. -/
theorem checkMixing_function_report (on : cfg.level .indenting = some lvl)
    (unmixed : ∀ n, ¬IndentedAs lines .mixed n) :
    (∃ pre f post, root.functions = pre ++ f :: post ∧ (∀ g ∈ pre, ¬MixesShifted lines g) ∧
      MixesShifted lines f ∧
      ∃ t s, (∀ i, i ∈ t ↔ ∃ n, IndentedAs lines .tabs n ∧ ShiftedLine f n ∧ i = (n : Int) - 1) ∧
        (∀ i, i ∈ s ↔ ∃ n, IndentedAs lines .spaces n ∧ ShiftedLine f n ∧ i = (n : Int) - 1) ∧
        checkMixing cfg lines file root =
          ([s!"{file}: warning: function {f.spelling} is indented with a mixture of tabs and spaces:",
            s!"\t{describeLines t} indented with tabs", s!"\t{describeLines s} indented with spaces"] ++
            (if cfg.mixedIndentingText = "" then [] else [cfg.mixedIndentingText]), [lvl])) ∨
    ((∀ f ∈ root.functions, ¬MixesShifted lines f) ∧ checkMixing cfg lines file root = ([], [])) := by
  have noneMixed : (linesOfClass lines .mixed).isEmpty = true := by
    cases empty : (linesOfClass lines .mixed).isEmpty
    · obtain ⟨n, mixed⟩ := isEmpty_linesOfClass_eq_false_iff.mp empty
      exact absurd mixed (unmixed n)
    · rfl
  rcases @mixingFunction_first lines file root.functions with
    ⟨pre, f, post, split, before, found, t, s, tabbed, spaced, report⟩ | ⟨none_, report⟩
  · refine Or.inl ⟨pre, f, post, split, before, found, t, s, tabbed, spaced, ?_⟩
    simp [checkMixing, on, noneMixed, report]
  · refine Or.inr ⟨none_, ?_⟩
    simp [checkMixing, on, noneMixed, report]

end Report

end CInspect.Check
