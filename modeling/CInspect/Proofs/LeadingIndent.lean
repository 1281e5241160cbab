import CInspect.Indent.LineClass
import Mathlib.Data.List.TakeWhile
/-!
A line's indentation class, read off its leading spaces and tabs.

`classify` tries three backtracking patterns `^[set]+\S`. Backtracking never
succeeds inside the run the repetition took: every character of that run is
a space or a tab, so blank, and `\S` refuses it. A pattern therefore matches
exactly when the longest leading run of its set is non-empty and is followed
by a character that is not blank (`runThenNonBlank_iff_run`); and that run is
then the line's longest leading run of spaces and tabs, since the character
after it is neither (`runs_agree_of_stop`). So each pattern reads the line's
leading indentation alone (`runThenNonBlank_iff_leading`), and:

* `classify_by_leading_indent`: a line has the class spaces, tabs or mixed
  exactly when its longest leading run of spaces and tabs is non-empty and
  is followed by a character that is not blank, with spaces when the run
  holds only spaces, tabs when it holds only tabs, and mixed when it holds
  both; every other line has no class: a blank line, an unindented one, and
  one whose indentation is followed by other whitespace.
-/

namespace CInspect.Indent

open CInspect.Text

/-- The longest leading run of spaces and tabs of a line. -/
def leadingIndent (line : String) : List Char := line.toList.takeWhile isIndentChar

/-- A line's longest leading run of spaces and tabs is non-empty and is
followed by a character that is not blank. -/
def Indented (line : String) : Prop :=
  leadingIndent line ≠ [] ∧
    ∃ c, (line.toList.dropWhile isIndentChar).head? = some c ∧ isBlank c = false

/-! ### Leading runs -/

section Runs

variable {α : Type} {p : α → Bool}

/-- A run of `p` followed by a character outside `p` is the longest leading
run of `p`, and the rest starts at that character. -/
theorem runs_of_split {r rest : List α} {c : α} (run : ∀ x ∈ r, p x = true) (stop : p c = false) :
    (r ++ c :: rest).takeWhile p = r ∧ (r ++ c :: rest).dropWhile p = c :: rest := by
  constructor
  · rw [List.takeWhile_append_of_pos run, List.takeWhile_cons_of_neg (by simp [stop]),
      List.append_nil]
  · rw [List.dropWhile_append_of_pos run, List.dropWhile_cons_of_neg (by simp [stop])]

/-- When the longest leading run of `q` lies within `p` and the character
after it is outside `p`, it is also the longest leading run of `p`, with the
same rest. -/
theorem runs_agree_of_stop {q : α → Bool} {l : List α} {c : α}
    (run : ∀ x ∈ l.takeWhile q, p x = true) (after : (l.dropWhile q).head? = some c)
    (stop : p c = false) : l.takeWhile p = l.takeWhile q ∧ l.dropWhile p = l.dropWhile q := by
  obtain ⟨rest, drop⟩ := List.head?_eq_some_iff.mp after
  have split := @List.takeWhile_append_dropWhile _ q l
  generalize l.takeWhile q = r at run split ⊢
  rw [drop] at split ⊢
  rw [← split]
  exact runs_of_split run stop

/-- The position right after the longest leading run holds the first
character of the rest. -/
theorem getElem?_length_takeWhile (l : List α) :
    l[(l.takeWhile p).length]? = (l.dropWhile p).head? := by
  induction l with
  | nil => rfl
  | cons x xs ih => by_cases hx : p x <;> simp [hx, ih]

/-- Each position inside the longest leading run of `p` holds a character
of `p`. -/
theorem getElem?_of_lt_length_takeWhile {l : List α} {k : Nat}
    (inside : k < (l.takeWhile p).length) : ∃ c, l[k]? = some c ∧ p c = true := by
  refine ⟨(l.takeWhile p)[k], ?_, List.mem_takeWhile_imp (List.getElem_mem inside)⟩
  rw [(List.takeWhile_prefix p).getElem inside]
  exact List.getElem?_eq_getElem _

end Runs

/-! ### The patterns -/

/-- Spaces and tabs are blank. -/
theorem blank_of_indentChar {c : Char} (indent : isIndentChar c = true) : isBlank c = true := by
  simp only [isIndentChar, Bool.or_eq_true, beq_iff_eq] at indent
  rcases indent with rfl | rfl <;> decide

/-- A character that is not blank is neither a space nor a tab. -/
theorem indentChar_eq_false {c : Char} (notBlank : isBlank c = false) : isIndentChar c = false :=
  Bool.eq_false_iff.mpr fun indent => by
    rw [blank_of_indentChar indent] at notBlank
    cases notBlank

section Pattern

variable {set : Char → Bool}

/-- A pattern `^[set]+\S` over a set of blank characters matches exactly when
the whole run its repetition takes is non-empty and followed by a character
that is not blank: backtracking to a shorter run puts `\S` on a character of
the set. -/
theorem runThenNonBlank_iff_run {cs : List Char} (blank : ∀ x, set x = true → isBlank x = true) :
    runThenNonBlank set cs = true ↔
      cs.takeWhile set ≠ [] ∧ ∃ c, (cs.dropWhile set).head? = some c ∧ isBlank c = false := by
  rw [runThenNonBlank, backOff_eq_true_iff, ← getElem?_length_takeWhile, ← nonBlankAt_eq_true_iff]
  constructor
  · rintro ⟨k, one, le, nonBlank⟩
    -- `\S` cannot match inside the run, where the character is of the set
    have whole : k = (cs.takeWhile set).length := by
      refine Nat.le_antisymm le (Nat.not_lt.mp fun inside => ?_)
      obtain ⟨c, at_k, inSet⟩ := getElem?_of_lt_length_takeWhile inside
      obtain ⟨c', at_k', notBlank⟩ := nonBlankAt_eq_true_iff.mp nonBlank
      rw [at_k, Option.some.injEq] at at_k'
      rw [← at_k', blank c inSet] at notBlank
      cases notBlank
    refine ⟨fun empty => ?_, whole ▸ nonBlank⟩
    rw [empty, List.length_nil] at le
    omega
  · rintro ⟨nonempty, nonBlank⟩
    exact ⟨_, List.length_pos_iff.mpr nonempty, Nat.le_refl _, nonBlank⟩

/-- A pattern `^[set]+\S` over a set of spaces and tabs matches exactly when
the line is indented and its leading indentation is of the set. -/
theorem runThenNonBlank_iff_leading (indent : ∀ x, set x = true → isIndentChar x = true)
    (line : String) :
    runThenNonBlank set line.toList = true ↔
      Indented line ∧ ∀ x ∈ leadingIndent line, set x = true := by
  have blank : ∀ x, set x = true → isBlank x = true := fun x h => blank_of_indentChar (indent x h)
  have outside : ∀ c, isBlank c = false → set c = false := fun c notBlank =>
    Bool.eq_false_iff.mpr fun inSet =>
      Bool.false_ne_true ((indentChar_eq_false notBlank).symm.trans (indent c inSet))
  rw [runThenNonBlank_iff_run blank]
  unfold Indented leadingIndent
  constructor
  · rintro ⟨nonempty, c, after, notBlank⟩
    have run : ∀ x ∈ line.toList.takeWhile set, isIndentChar x = true :=
      fun x inRun => indent x (List.mem_takeWhile_imp inRun)
    obtain ⟨lead, rest⟩ := runs_agree_of_stop run after (indentChar_eq_false notBlank)
    rw [lead, rest]
    exact ⟨⟨nonempty, c, after, notBlank⟩, fun x inRun => List.mem_takeWhile_imp inRun⟩
  · rintro ⟨⟨nonempty, c, after, notBlank⟩, ofSet⟩
    obtain ⟨lead, rest⟩ := runs_agree_of_stop ofSet after (outside c notBlank)
    rw [lead, rest]
    exact ⟨nonempty, c, after, notBlank⟩

end Pattern

/-! ### The three patterns in turn -/

/-- `^a+\S`, for `a` a space or a tab, matches exactly an indented line whose
indentation is all `a`: the first two patterns. -/
theorem charRun_pattern_iff (a : Char) (indentA : isIndentChar a = true) (line : String) :
    runThenNonBlank (· == a) line.toList = true ↔
      Indented line ∧ ∀ x ∈ leadingIndent line, x = a := by
  have indent : ∀ x, (x == a) = true → isIndentChar x = true := by
    intro x same
    rw [beq_iff_eq.mp same]
    exact indentA
  simpa using runThenNonBlank_iff_leading indent line

/-- `^[ \t]+\S` matches exactly an indented line. -/
theorem indent_pattern_iff (line : String) :
    runThenNonBlank isIndentChar line.toList = true ↔ Indented line := by
  rw [runThenNonBlank_iff_leading (fun _ indent => indent) line]
  exact and_iff_left fun _ inRun => List.mem_takeWhile_imp inRun

/-! ### The class of a line -/

/-- Every character of the leading indentation is a space or a tab. -/
theorem mem_leadingIndent {line : String} {x : Char} (mem : x ∈ leadingIndent line) :
    x = ' ' ∨ x = '\t' := by
  simpa [isIndentChar] using List.mem_takeWhile_imp mem

/-- In a list of two kinds of characters, the second kind is there exactly
when not every character is of the first. -/
theorem mem_iff_not_forall_eq {l : List Char} {a b : Char} (two : ∀ x ∈ l, x = a ∨ x = b)
    (differ : b ≠ a) : b ∈ l ↔ ¬ ∀ x ∈ l, x = a := by
  constructor
  · intro mem all
    exact differ (all b mem)
  · intro notAll
    obtain ⟨x, mem, other⟩ : ∃ x ∈ l, x ≠ a := by simpa using notAll
    rcases two x mem with same | second
    · exact absurd same other
    · exact second ▸ mem

section Classes

variable {line : String}

/-- An indented line's indentation is not empty, so it is not all spaces and
all tabs at once. -/
theorem not_all_spaces_and_tabs (indented : Indented line)
    (allSpaces : ∀ x ∈ leadingIndent line, x = ' ') : ¬ ∀ x ∈ leadingIndent line, x = '\t' := by
  intro allTabs
  obtain ⟨x, first⟩ := List.exists_mem_of_ne_nil _ indented.1
  exact absurd ((allSpaces x first).symm.trans (allTabs x first)) (by decide)

/-- A line that is not indented matches none of the patterns. -/
theorem classify_of_not_indented (indented : ¬ Indented line) : classify line = none := by
  have noSpaces := Bool.eq_false_iff.mpr fun first =>
    indented ((charRun_pattern_iff ' ' (by decide) line).mp first).1
  have noTabs := Bool.eq_false_iff.mpr fun second =>
    indented ((charRun_pattern_iff '\t' (by decide) line).mp second).1
  have noIndent := Bool.eq_false_iff.mpr fun third => indented ((indent_pattern_iff line).mp third)
  simp [classify, noSpaces, noTabs, noIndent]

/-- An indented line whose indentation is all spaces matches the first
pattern. -/
theorem classify_of_all_spaces (indented : Indented line)
    (allSpaces : ∀ x ∈ leadingIndent line, x = ' ') : classify line = some .spaces := by
  simp [classify, (charRun_pattern_iff ' ' (by decide) line).mpr ⟨indented, allSpaces⟩]

/-- An indented line whose indentation is all tabs matches the second
pattern, and not the first. -/
theorem classify_of_all_tabs (indented : Indented line)
    (allTabs : ∀ x ∈ leadingIndent line, x = '\t') : classify line = some .tabs := by
  have noSpaces := Bool.eq_false_iff.mpr fun first =>
    not_all_spaces_and_tabs indented ((charRun_pattern_iff ' ' (by decide) line).mp first).2 allTabs
  simp [classify, noSpaces, (charRun_pattern_iff '\t' (by decide) line).mpr ⟨indented, allTabs⟩]

/-- An indented line whose indentation holds both spaces and tabs matches
only the third pattern. -/
theorem classify_of_both (indented : Indented line) (space : ' ' ∈ leadingIndent line)
    (tab : '\t' ∈ leadingIndent line) : classify line = some .mixed := by
  have noSpaces := Bool.eq_false_iff.mpr fun first =>
    absurd (((charRun_pattern_iff ' ' (by decide) line).mp first).2 '\t' tab) (by decide)
  have noTabs := Bool.eq_false_iff.mpr fun second =>
    absurd (((charRun_pattern_iff '\t' (by decide) line).mp second).2 ' ' space) (by decide)
  simp [classify, noSpaces, noTabs, (indent_pattern_iff line).mpr indented]

end Classes

/-- A line has the class spaces, tabs or mixed exactly when its longest
leading run of spaces and tabs is non-empty and is followed by a character
that is not blank; the class is spaces when that run holds only spaces, tabs
when it holds only tabs, and mixed when it holds both. Every other line has
no class. -/
theorem classify_by_leading_indent (line : String) :
    (classify line = some .spaces ↔ Indented line ∧ ∀ x ∈ leadingIndent line, x = ' ') ∧
    (classify line = some .tabs ↔ Indented line ∧ ∀ x ∈ leadingIndent line, x = '\t') ∧
    (classify line = some .mixed ↔
      Indented line ∧ ' ' ∈ leadingIndent line ∧ '\t' ∈ leadingIndent line) ∧
    (classify line = none ↔ ¬ Indented line) := by
  by_cases indented : Indented line
  case neg =>
    rw [classify_of_not_indented indented]
    exact ⟨iff_of_false (by decide) fun h => indented h.1, iff_of_false (by decide) fun h => indented h.1,
      iff_of_false (by decide) fun h => indented h.1, iff_of_true rfl indented⟩
  case pos =>
    -- every character of the run is one of the two, so the cases below are all
    have two : ∀ x ∈ leadingIndent line, x = ' ' ∨ x = '\t' := fun _ => mem_leadingIndent
    have tabIn := mem_iff_not_forall_eq two (by decide)
    have spaceIn := mem_iff_not_forall_eq (fun x mem => (two x mem).symm) (by decide)
    by_cases allSpaces : ∀ x ∈ leadingIndent line, x = ' '
    · rw [classify_of_all_spaces indented allSpaces]
      exact ⟨iff_of_true rfl ⟨indented, allSpaces⟩,
        iff_of_false (by decide) fun h => not_all_spaces_and_tabs indented allSpaces h.2,
        iff_of_false (by decide) fun h => tabIn.mp h.2.2 allSpaces,
        iff_of_false (by decide) (not_not.mpr indented)⟩
    by_cases allTabs : ∀ x ∈ leadingIndent line, x = '\t'
    · rw [classify_of_all_tabs indented allTabs]
      exact ⟨iff_of_false (by decide) fun h => allSpaces h.2, iff_of_true rfl ⟨indented, allTabs⟩,
        iff_of_false (by decide) fun h => spaceIn.mp h.2.1 allTabs,
        iff_of_false (by decide) (not_not.mpr indented)⟩
    · rw [classify_of_both indented (spaceIn.mpr allTabs) (tabIn.mpr allSpaces)]
      exact ⟨iff_of_false (by decide) fun h => allSpaces h.2,
        iff_of_false (by decide) fun h => allTabs h.2,
        iff_of_true rfl ⟨indented, spaceIn.mpr allTabs, tabIn.mpr allSpaces⟩,
        iff_of_false (by decide) (not_not.mpr indented)⟩

end CInspect.Indent
