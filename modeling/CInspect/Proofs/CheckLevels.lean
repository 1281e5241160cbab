import CInspect.Proofs.ExitStatus
/-!
How the list options resolve to the level of every check.

The five list options are applied in a fixed order, not-recommended,
warning, error, not-permitted and do-not-check, each setting the checks
that the entries of its comma separated value name; an entry names a check
once trimmed and with each `-` read as `_`. An absent or empty value sets
nothing. The specification views say what that fold computes:

* `ListOption.entries`, `ListOption.names`: the entries of an option's
  value, and whether one of them names a check;
* `firstUnknownName`: the first entry, in the order the options are
  applied and then in the order of the value, that names no check, as it
  reads once trimmed;
* `resolvedLevel`: no level for a check that do-not-check names, and
  otherwise the level of the last option in the order that names it.

`levels_eq_resolved` proves that the arguments give these levels, or stop
at that name; `firstUnknownName_isSome_iff` says when there is one.
-/

namespace CInspect.CommandLine

open CInspect.Check

theorem ofName?_eq_some_iff {s : String} {c : Rule} : Rule.ofName? s = some c ↔ c.name = s := by
  constructor
  · intro found
    simpa using List.find?_some found
  · rintro rfl
    exact ofName?_name c

/-! ### Specification views -/

/-- The entries of a list option's value; none when it is absent or empty. -/
def ListOption.entries (a : Arguments) (l : ListOption) : List String :=
  match a.lists l with
  | none | some "" => []
  | some text => commaEntries text

/-- Whether an entry of a list option's value names check `c`. -/
def ListOption.names (a : Arguments) (l : ListOption) (c : Rule) : Bool :=
  (l.entries a).any fun raw => entryName raw == c.name

/-- A name that is the name of no check. -/
def unknownName (n : String) : Bool :=
  (Rule.ofName? n).isNone

/-- The first name that is no check among the entries of the list options,
in the order they are applied. -/
def firstUnknownName (a : Arguments) : Option String :=
  ((ListOption.order.flatMap (·.entries a)).map entryName).find? unknownName

/-- The level the list options give check `c`. -/
def resolvedLevel (a : Arguments) (c : Rule) : Option Level :=
  if ListOption.doNotCheck.names a c then none
  else (([ListOption.notRecommended, .warning, .error, .notPermitted].filter
    (·.names a c)).getLast?).bind ListOption.level

/-! ### One option -/

/-- Setting the checks a list names: the first name that is no check, or
each check the list names at the level and the others as they were. -/
theorem setLevels_eq (lvl : Option Level) (levels : Rule → Option Level) (raws : List String) :
    setLevels lvl levels raws =
      match (raws.map entryName).find? unknownName with
      | some n => .error n
      | none => .ok fun c => if raws.any (fun raw => entryName raw == c.name) then lvl else levels c := by
  induction raws generalizing levels with
  | nil => rfl
  | cons raw rest ih =>
    unfold setLevels
    cases known : Rule.ofName? (entryName raw) with
    | none => simp [unknownName, known]
    | some c =>
      have skip : unknownName (entryName raw) = false := by simp [unknownName, known]
      simp only [known, ih, List.map_cons, List.find?_cons, skip]
      cases (rest.map entryName).find? unknownName with
      | some n => rfl
      | none =>
        -- the entry names exactly the check `c`
        refine congrArg Except.ok (funext fun c' => ?_)
        by_cases same : c' = c
        · subst same
          simp [(ofName?_eq_some_iff.mp known).symm]
        · have other : entryName raw ≠ c'.name := fun named =>
            same (Option.some.inj ((ofName?_eq_some_iff.mpr named.symm).symm.trans known))
          simp [other, same]

/-! ### The options in order -/

/-- The last of a list of options that a test picks, after one more option
in front. -/
theorem getLast?_filter_cons (p : ListOption → Bool) (l : ListOption) (ls : List ListOption)
    (d : Option Level) :
    (((l :: ls).filter p).getLast?).elim d ListOption.level =
      ((ls.filter p).getLast?).elim (if p l then l.level else d) ListOption.level := by
  by_cases picked : p l
  · cases later : (ls.filter p).getLast? with
    | none => simp [picked, List.getLast?_cons, later]
    | some l' => simp [picked, List.getLast?_cons, later]
  · simp [picked]

/-- Applying list options in order: the first name that is no check among
all their entries, or each check at the level of the last option that
names it. -/
theorem foldlM_setLevels (a : Arguments) (ls : List ListOption) (levels : Rule → Option Level) :
    ls.foldlM (fun levels l => setLevels l.level levels (l.entries a)) levels =
      match ((ls.flatMap (·.entries a)).map entryName).find? unknownName with
      | some n => .error n
      | none => .ok fun c => ((ls.filter (·.names a c)).getLast?).elim (levels c) ListOption.level := by
  induction ls generalizing levels with
  | nil => rfl
  | cons l ls ih =>
    rw [List.foldlM_cons, setLevels_eq]
    simp only [List.flatMap_cons, List.map_append, List.find?_append]
    cases ((l.entries a).map entryName).find? unknownName with
    | some n => rfl
    | none =>
      -- the first option sets its checks and the rest go on from there
      simp only [Option.none_or, bind, Except.bind, ih]
      cases ((ls.flatMap (·.entries a)).map entryName).find? unknownName with
      | some n => rfl
      | none =>
        refine congrArg Except.ok (funext fun c => ?_)
        rw [getLast?_filter_cons]
        rfl

/-- The list options as the fold applies them: an absent or empty value
sets nothing. -/
theorem levels_eq_foldlM (a : Arguments) :
    a.levels = ListOption.order.foldlM
      (fun levels l => setLevels l.level levels (l.entries a)) (fun _ => none) := by
  unfold Arguments.levels ListOption.entries
  congr
  funext levels l
  -- the two values that set nothing give no entries
  split <;> simp_all [setLevels]

/-- The levels the arguments give: the first name that is no check, or the
resolved level of every check. -/
theorem levels_eq_resolved (a : Arguments) :
    a.levels = match firstUnknownName a with
      | some n => .error n
      | none => .ok (resolvedLevel a) := by
  rw [levels_eq_foldlM, foldlM_setLevels]
  unfold firstUnknownName
  cases ((ListOption.order.flatMap (·.entries a)).map entryName).find? unknownName with
  | some n => rfl
  | none =>
    refine congrArg Except.ok (funext fun c => ?_)
    -- do-not-check comes last in the order, so it wins over the others
    unfold resolvedLevel
    simp only [ListOption.order, List.filter_cons, List.filter_nil]
    -- each of the five options names `c` or not
    cases ListOption.doNotCheck.names a c <;> cases ListOption.notPermitted.names a c <;>
      cases ListOption.error.names a c <;> cases ListOption.warning.names a c <;>
      cases ListOption.notRecommended.names a c <;> rfl

/-- There is a name that is no check exactly when an entry of some option
names no check. -/
theorem firstUnknownName_isSome_iff (a : Arguments) :
    (firstUnknownName a).isSome ↔
      ∃ l ∈ ListOption.order, ∃ raw ∈ l.entries a, ∀ c : Rule, c.name ≠ entryName raw := by
  simp [firstUnknownName, List.find?_isSome, unknownName, Option.isNone_iff_eq_none,
    Option.eq_none_iff_forall_ne_some, ofName?_eq_some_iff]

end CInspect.CommandLine

namespace CInspect.Inspection

open CInspect.CommandLine CInspect.Check

/-- What a read command line does with its list options: the levels they
give every check, when one of their entries names no check, and the run.
With such an entry the run prints its name as trimmed, and the valid
names, with exit status 1 and before any file is read; otherwise it
inspects the sources with every check at its resolved level. -/
theorem runCommand_resolves_levels (s : Setting) (argv : List String) (a : Arguments)
    (read : readArguments argv = .read a) :
    a.levels = (match firstUnknownName a with
      | some name => .error name
      | none => .ok (resolvedLevel a)) ∧
    ((firstUnknownName a).isSome ↔
      ∃ l ∈ ListOption.order, ∃ raw ∈ l.entries a, ∀ c : Rule, c.name ≠ entryName raw) ∧
    runCommand s argv = match firstUnknownName a with
      | some name => ⟨"", invalidCheckText name, .ok 1⟩
      | none => inspectionOutcome s a (resolvedLevel a) := by
  refine ⟨levels_eq_resolved a, firstUnknownName_isSome_iff a, ?_⟩
  cases unknown : firstUnknownName a with
  | some name =>
    have stops : a.levels = .error name := by rw [levels_eq_resolved, unknown]
    simp only [runCommand, read, stops]
  | none => exact runCommand_of_read read (by rw [levels_eq_resolved, unknown])

/-- The arguments `--not-permitted goto, p.c` are read; the stray comma
leaves an empty entry, which names no check. -/
theorem runCommand_stray_comma :
    let a : Arguments := { Arguments.initial with
      lists := fun l => if l = .notPermitted then some "goto," else none, sources := ["p.c"] }
    let s : Setting := ⟨⟨[], [], ⟨∅, ∅⟩, ""⟩, none, true, .fixed []⟩
    readArguments ["--not-permitted", "goto,", "p.c"] = .read a ∧
      (a.levels = (match firstUnknownName a with
        | some name => .error name
        | none => .ok (resolvedLevel a)) ∧
      ((firstUnknownName a).isSome ↔
        ∃ l ∈ ListOption.order, ∃ raw ∈ l.entries a, ∀ c : Rule, c.name ≠ entryName raw) ∧
      runCommand s ["--not-permitted", "goto,", "p.c"] = match firstUnknownName a with
        | some name => ⟨"", invalidCheckText name, .ok 1⟩
        | none => inspectionOutcome s a (resolvedLevel a)) :=
  ⟨rfl, runCommand_resolves_levels _ _ _ rfl⟩

end CInspect.Inspection
