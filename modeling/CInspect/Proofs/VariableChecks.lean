import CInspect.Check.Construct
import CInspect.Parse.Cursor
import Mathlib.Tactic.Tauto
/-!
The variable checks and the const levels of a type.

The global-variable and static-variable checks accept a variable only
when its type, typedefs resolved, is const at every level: each pointer,
from the outermost in, and the type the last one points to. A node shows
those levels as `TypeView.constChain`, built by `Parse.constChain` from the
type with its typedefs resolved.

* `false_mem_constChain_iff`: a level of the chain is not const exactly when
  following the pointers some number of times reaches a type that is not
  const (`CType.pointeeAt`);
* `hasInfix_iff`: the test for `debug` in a name is the test for a run of
  characters;
* `variableChecks_report`: the global-variable check reports a variable
  declaration exactly when it is declared at file scope, its name holds no
  `debug` and some level of its type is not const; the static-variable
  check, under the same test of the levels, exactly when it is static, not
  at file scope and its name holds no `debug`.
-/

namespace CInspect.Types.CType

/-- The type `k` pointer levels below `t`: what following the pointee `k`
times reaches, while each type passed on the way is a pointer. -/
def pointeeAt : CType → Nat → Option CType
  | t, 0 => some t
  | .pointer p _, k + 1 => p.pointeeAt k
  | _, _ + 1 => none

end CInspect.Types.CType

namespace CInspect.Check

open CInspect.Tree CInspect.Types

/-- Some level of a type's chain is not const exactly when some type reached
through its pointers is not const. -/
theorem false_mem_constChain_iff :
    ∀ t : CType, false ∈ Parse.constChain t ↔ ∃ k u, t.pointeeAt k = some u ∧ u.constOfCanonical = false
  | .pointer p q => by
    simp only [Parse.constChain, List.mem_cons, false_mem_constChain_iff p]
    constructor
    · rintro (outer | ⟨k, u, below, writable⟩)
      · exact ⟨0, .pointer p q, rfl, outer.symm⟩
      · exact ⟨k + 1, u, below, writable⟩
    · rintro ⟨_ | k, u, reached, writable⟩
      · -- the pointer itself is the level that is not const
        cases reached
        exact .inl writable.symm
      · exact .inr ⟨k, u, reached, writable⟩
  | .basic .. | .complex .. | .array .. | .function .. | .tag .. | .typedef .. | .error => by
    -- a type that is not a pointer is the one level of its chain
    simp only [Parse.constChain, List.mem_singleton]
    constructor
    · intro writable
      exact ⟨0, _, rfl, writable.symm⟩
    · rintro ⟨_ | k, u, reached, writable⟩
      · cases reached
        exact writable.symm
      · cases reached

theorem hasInfix_go_iff (needle : List Char) :
    ∀ hay : List Char, hasInfix.go needle hay = true ↔ needle <:+: hay
  | [] => by simp [hasInfix.go, List.infix_nil]
  | c :: cs => by
    rw [hasInfix.go, Bool.or_eq_true, List.isPrefixOf_iff_prefix, hasInfix_go_iff needle cs,
      List.infix_cons_iff]

/-- `needle` occurs in `hay` exactly when its characters form a run of
`hay`'s. -/
theorem hasInfix_iff (hay needle : String) : hasInfix hay needle = true ↔ needle.toList <:+: hay.toList :=
  hasInfix_go_iff needle.toList hay.toList

/-- A type view is writable exactly when some type reached through the
pointers of the type it shows is not const. -/
theorem writable_iff {view : TypeView} {t : CType} (shows : view.constChain = Parse.constChain t) :
    view.writable = true ↔ ∃ k u, t.pointeeAt k = some u ∧ u.constOfCanonical = false := by
  rw [TypeView.writable, shows, ← false_mem_constChain_iff, List.any_eq_true]
  simp

/-- The global-variable check follows the type of a variable declared at
file scope whose name holds no `debug`. -/
theorem followsType_globalVariable (v : Visit) :
    followsType .globalVariable v = true ↔
      v.node.kind = .varDecl ∧ v.parent = some .translationUnit ∧
        ¬hasInfix v.node.displayName "debug" = true := by
  simp only [followsType, Bool.and_eq_true, beq_iff_eq, Bool.not_eq_true', Bool.not_eq_true]
  tauto

/-- The static-variable check follows the type of a static variable declared
elsewhere whose name holds no `debug`. -/
theorem followsType_staticLocalVariable (v : Visit) :
    followsType .staticLocalVariable v = true ↔
      v.node.kind = .varDecl ∧ v.node.isStatic = true ∧ v.parent ≠ some .translationUnit ∧
        ¬hasInfix v.node.displayName "debug" = true := by
  simp only [followsType, Bool.and_eq_true, beq_iff_eq, Bool.not_eq_true', Bool.not_eq_true, bne_iff_ne, ne_eq]
  tauto

/-- The two variable checks at a variable declaration whose node shows the
type `t`. The global-variable check reports it exactly when it is declared
at file scope, its name holds no `debug` and some level of `t`, typedefs
resolved, is not const: a pointer, or the type reached through all of
them; the static-variable check, under the same test of the levels,
exactly when it is static, not at file scope and its name holds no
`debug`. -/
theorem variableChecks_report (v : Visit) (allocs : Nat) (t : CType) (decl : v.node.kind = .varDecl)
    (shows : v.node.type.constChain = Parse.constChain t.canonical) :
    let writable := ∃ k u, t.canonical.pointeeAt k = some u ∧ u.constOfCanonical = false
    let debug := "debug".toList <:+: v.node.displayName.toList
    ((nodeMessage .globalVariable v allocs).1.isSome ↔
        v.parent = some .translationUnit ∧ ¬debug ∧ writable) ∧
      ((nodeMessage .staticLocalVariable v allocs).1.isSome ↔
        v.node.isStatic ∧ v.parent ≠ some .translationUnit ∧ ¬debug ∧ writable) := by
  have levels := writable_iff shows
  have named := hasInfix_iff v.node.displayName "debug"
  -- the tests of each check, as the checks make them
  have global : (nodeMessage .globalVariable v allocs).1.isSome ↔
      v.parent = some .translationUnit ∧ ¬hasInfix v.node.displayName "debug" = true ∧
        v.node.type.writable = true := by
    simp only [nodeMessage, followsType_globalVariable, decl, true_and, and_assoc]
    split
    · next reported => exact iff_of_true rfl reported
    · next silent => exact iff_of_false (by simp) silent
  have static : (nodeMessage .staticLocalVariable v allocs).1.isSome ↔
      v.node.isStatic = true ∧ v.parent ≠ some .translationUnit ∧
        ¬hasInfix v.node.displayName "debug" = true ∧ v.node.type.writable = true := by
    simp only [nodeMessage, followsType_staticLocalVariable, decl, true_and, and_assoc]
    split
    · next reported => exact iff_of_true rfl reported
    · next silent => exact iff_of_false (by simp) silent
  rw [named, levels] at global static
  exact ⟨global, static⟩

/-- The visit of a variable `p` declared at file scope with type `t`. -/
def fileScopeVariable (t : CType) : Visit :=
  ⟨⟨.varDecl, "p", "p", some "p.c", ⟨⟨1, 1⟩, ⟨1, 10⟩⟩, ⟨"", Parse.constChain t.canonical, false⟩, false, none,
    [], 1, []⟩, some .translationUnit, 1⟩

/-- A const pointer to `int`, as in `int *const p`. -/
def constPointerToInt : CType :=
  .pointer (.basic .int {}) { const := true }

/-- `int *const p` at file scope is reported: the `int` it points to can be
written. -/
theorem constPointerToInt_reported :
    (fileScopeVariable constPointerToInt).node.kind = .varDecl ∧
      (fileScopeVariable constPointerToInt).node.type.constChain =
        Parse.constChain constPointerToInt.canonical ∧
      (nodeMessage .globalVariable (fileScopeVariable constPointerToInt) 0).1.isSome := by
  have report := variableChecks_report (fileScopeVariable constPointerToInt) 0 constPointerToInt rfl rfl
  -- one level down, the `int` is not const
  exact ⟨rfl, rfl, report.1.mpr ⟨rfl, by decide, 1, .basic .int {}, rfl, rfl⟩⟩

/-- `const int *const p` is const at every level and is accepted, while
`const int *p` is reported. -/
example : (nodeMessage .globalVariable
    (fileScopeVariable (.pointer (.basic .int { const := true }) { const := true })) 0).1 = none := by
  decide

example : (nodeMessage .globalVariable
    (fileScopeVariable (.pointer (.basic .int { const := true }) {})) 0).1.isSome = true := by
  decide

end CInspect.Check
