import CInspect.Tree.Basic
/-!
Sample syntax trees for exercising the checks.

Each sample is a translation unit of `n` repeated parts, given as a tree and
the source lines it is checked against. The trees are built directly, not
parsed, and exercise corners a parsed file never shows: nodes at column 0,
extents that run past the end of the source, and a `const` pointer to
non-const data whose outermost level counts as const.

* `constructsTree`: one of every construct the node checks look for, and one
  `break` per part.
* `charInputTree`: per part, a function storing input calls into `char` and
  `int` variables and comparing them with integer literals.
* `nestingTree`: per part, a function with inconsistently indented statements,
  an `else if` chain and a bare block; then one consistent function.
* `mixedIndentTree`: per part, a function of six lines; the last part indents
  with both tabs and spaces.
-/

namespace CInspect.Workload

open CInspect.Tree

/-- The file every sample's nodes are located in. -/
def sampleFile : String := "src.c"

/-- An extent from line `l₀` column `c₀` to line `l₁` column `c₁`. -/
def span (l₀ c₀ l₁ c₁ : Nat) : Extent := ⟨⟨l₀, c₀⟩, ⟨l₁, c₁⟩⟩

/-- A type that is const at no level. -/
def plain (s : String) : TypeView := ⟨s, [false], false⟩

/-- A sample node with no reference, tokens or key. -/
def node (k : Kind) (name : String) (t : TypeView) (e : Extent) (children : List Node) : Node :=
  ⟨k, name, name, some sampleFile, e, t, false, none, [], 0, children⟩

/-- A sample node with the type `int` and a point extent. -/
def pointNode (k : Kind) (name : String) (l c : Nat) (children : List Node) : Node :=
  node k name (plain "int") (span l c l c) children

/-- A variable declaration with a key and a type. -/
def varNode (name : String) (t : TypeView) (static : Bool) (key : Nat) (e : Extent)
    (children : List Node) : Node :=
  ⟨.varDecl, name, name, some sampleFile, e, t, static, none, [], key, children⟩

/-- A reference to a declaration. -/
def reference (name : String) (t : TypeView) (target : Option DeclInfo) (e : Extent) : Node :=
  ⟨.declRefExpr, name, name, some sampleFile, e, t, false, target, [], 0, []⟩

/-- A binary operator whose operator token `op` stands between its operands. -/
def binary (e : Extent) (op : String) (opAt : Extent) (l r : Node) : Node :=
  ⟨.binaryOperator, "", "", some sampleFile, e, plain "int", false, none, [⟨op, opAt⟩], 0, [l, r]⟩

/-- An integer literal whose first token is `text`. -/
def literal (text : String) (e : Extent) : Node :=
  ⟨.integerLiteral, "", "", some sampleFile, e, plain "int", false, none, [⟨text, e⟩], 0, []⟩

/-- An implicit conversion to type `t` of `inner`. -/
def converted (t : String) (e : Extent) (inner : Node) : Node :=
  node .unexposedExpr "" (plain t) e [inner]

/-- The translation unit of a sample. -/
def unit (children : List Node) : Node :=
  ⟨.translationUnit, "", sampleFile, none, span 1 1 1 1, plain "int", false, none, [], 0, children⟩

/-! ### Constructs -/

/-- The lines of the constructs sample of `n` parts: five lines of
declarations, then at least five statement lines, one per part. -/
def constructLines (n : Nat) : List String :=
  ["int global_var;", "goto again;", "int x = (a , b);", "int numbers[4] = \x7b0\x7d;",
    "int y = cond ? 1 : 0;"] ++ List.replicate (max n 5) "    x = x + 1;"

/-- A `const` pointer to `int` as the sample sees it: const at both levels. -/
def constPointer : TypeView := ⟨"const int *", [true, true], false⟩

/-- The body of the constructs sample's function, with one `break` per part. -/
def constructBody (n : Nat) : List Node :=
  let library (path : String) (k : Nat) : Node :=
    reference "" (plain "int") (some ⟨"", "int", some path, k⟩) (span 1 1 1 8)
  [varNode "s_counter" (plain "int") true 11 (span 2 1 2 10) [],
    varNode "debug_local" (plain "int") true 12 (span 1 1 1 1) [],
    varNode "s_const" ⟨"const int", [true], false⟩ true 13 (span 1 1 1 1) [],
    varNode "s_ptr" ⟨"int *", [false, false], false⟩ true 14 (span 1 1 1 8) [],
    varNode "s_cptr" constPointer true 15 (span 1 1 1 1) [],
    varNode "numbers" (plain "int [4]") false 16 (span 4 1 4 20) [],
    varNode "letters" (plain "char [4]") false 17 (span 4 1 4 20) [],
    node .conditionalOperator "" (plain "int") (span 5 9 5 20) [],
    binary (span 3 10 3 15) "," (span 3 12 3 13)
      (reference "" (plain "int") none (span 3 10 3 11))
      (reference "" (plain "int") none (span 3 13 3 14)),
    node .callExpr "malloc" (plain "int") (span 3 1 3 9) [],
    node .callExpr "malloc" (plain "int") (span 3 1 3 9) [],
    library "/usr/include/string.h" 21,
    library "/usr/include/unistd.h" 22,
    reference "" (plain "int") (some ⟨"", "int", some sampleFile, 23⟩) (span 1 1 1 1),
    pointNode .switchStmt "" 2 1 [node .breakStmt "" (plain "int") (span 2 1 2 6) []],
    pointNode .doStmt "" 2 1 [],
    pointNode .whileStmt "" 1 1
      [node .continueStmt "" (plain "int") (span 2 1 2 9) [], node .breakStmt "" (plain "int") (span 99 1 99 6) []],
    node .gotoStmt "" (plain "int") (span 2 100 2 104) [],
    pointNode .gotoStmt "" 2 0 []] ++
  (List.range n).map (fun i => node .breakStmt "" (plain "int") (span (6 + i % 5) 5 (6 + i % 5) 10) [])

/-- The constructs sample: globals of every const shape, a union, and a
function whose body holds one of every reported construct. -/
def constructsTree (n : Nat) : Node × List String :=
  let root := unit
    [varNode "global_var" (plain "int") false 1 (span 1 1 1 14) [],
      varNode "const_global" ⟨"const int", [true], false⟩ false 2 (span 1 1 1 14) [],
      varNode "ptr_global" ⟨"int *", [false, false], false⟩ false 3 (span 1 1 1 8) [],
      varNode "cptr_global" constPointer false 4 (span 1 1 1 1) [],
      varNode "debug_flag" (plain "int") false 5 (span 1 1 1 1) [],
      pointNode .unionDecl "U" 1 1 [],
      node .functionDecl "helper" (plain "int") (span 1 1 99 2)
        [node .compoundStmt "" (plain "int") (span 1 16 99 2) (constructBody n)]]
  (root, constructLines n)

/-! ### Character input -/

/-- A call of a function whose result is converted to `int`. -/
def inputCall (fn : String) (l c : Nat) : Node :=
  converted "int" (span l c l c) (node .callExpr fn (plain "int") (span 1 1 1 1) [])

/-- The function of part `i` of the character-input sample. -/
def charInputFunction (i : Nat) : Node :=
  let b := 10 * i
  let key (slot : Nat) := 100 * (i + 1) + slot
  let decl (name : String) (t : String) (slot : Nat) : DeclInfo := ⟨name ++ toString i, t, some sampleFile, key slot⟩
  let ref (name : String) (t : String) (slot : Nat) (l c : Nat) : Node :=
    converted t (span l c l (c + 1))
      (reference (name ++ toString i) (plain t) (some (decl name t slot)) (span 1 1 1 1))
  let intVar (name : String) (slot : Nat) (init : List Node) : Node :=
    varNode (name ++ toString i) (plain "int") false (key slot) (span 1 1 1 1) init
  node .functionDecl s!"fn{i}" (plain "int") (span (b + 1) 1 (b + 9) 2)
    [node .compoundStmt "" (plain "int") (span (b + 1) 20 (b + 9) 1)
      [varNode s!"c{i}" (plain "char") false (key 1) (span (b + 2) 5 (b + 2) 24)
          [inputCall "getchar" 1 1],
        varNode s!"d{i}" (plain "char") false (key 2) (span 1 1 1 1) [],
        binary (span (b + 3) 5 (b + 3) 18) "=" (span (b + 3) 7 (b + 3) 8)
          (ref "d" "char" 2 (b + 3) 5) (inputCall "getc" (b + 3) 8),
        intVar "e" 3 [inputCall "getchar" 1 1],
        intVar "f" 4 [inputCall "fgetc" 1 1],
        intVar "g" 5 [converted "char" (span 1 1 1 1) (node .characterLiteral "" (plain "char") (span 1 1 1 1) [])],
        intVar "r" 6 [inputCall "getchar" 1 1],
        binary (span (b + 4) 1 (b + 4) 7) "=" (span (b + 4) 4 (b + 4) 5)
          (ref "r" "int" 6 (b + 4) 1) (literal "0" (span (b + 4) 6 (b + 4) 7)),
        intVar "bare" 7 [],
        binary (span (b + 5) 5 (b + 5) 14) "==" (span (b + 5) 8 (b + 5) 10)
          (ref "e" "int" 3 (b + 5) 5) (literal "65" (span (b + 5) 11 (b + 5) 14)),
        binary (span (b + 6) 5 (b + 6) 14) "==" (span (b + 6) 8 (b + 6) 10)
          (ref "f" "int" 4 (b + 6) 5) (literal "97" (span (b + 6) 11 (b + 6) 14)),
        binary (span (b + 7) 5 (b + 7) 14) "==" (span (b + 7) 8 (b + 7) 10)
          (ref "g" "int" 5 (b + 7) 5) (literal "48" (span (b + 7) 11 (b + 7) 14)),
        binary (span (b + 8) 1 (b + 8) 10) "==" (span (b + 8) 3 (b + 8) 5)
          (ref "e" "int" 3 (b + 8) 1) (literal "0x41" (span (b + 8) 6 (b + 8) 10)),
        binary (span (b + 8) 1 (b + 8) 8) "==" (span (b + 8) 3 (b + 8) 5)
          (ref "e" "int" 3 (b + 8) 1) (ref "f" "int" 4 (b + 8) 6),
        binary (span (b + 8) 1 (b + 8) 12) "==" (span (b + 8) 4 (b + 8) 6)
          (literal "65" (span (b + 8) 1 (b + 8) 3)) (ref "bare" "int" 7 (b + 8) 7),
        binary (span (b + 8) 1 (b + 8) 10) "<" (span (b + 8) 3 (b + 8) 4)
          (ref "e" "int" 3 (b + 8) 1) (literal "200" (span (b + 8) 7 (b + 8) 10)),
        binary (span (b + 8) 1 (b + 8) 8) "+" (span (b + 8) 3 (b + 8) 4)
          (ref "e" "int" 3 (b + 8) 1) (literal "65" (span (b + 8) 6 (b + 8) 8))]]

/-- The character-input sample: one function per part, then a declaration
without a body. -/
def charInputTree (n : Nat) : Node × List String :=
  (unit ((List.range n).map charInputFunction ++ [pointNode .functionDecl "decl_only" 1 1 []]),
    List.replicate (10 * n + 1) "    int x = getchar() == 65;")

/-! ### Nesting -/

/-- The lines of one part of the nesting sample. -/
def nestingLines (i : Nat) : List String :=
  [s!"int fn{i}(int x) \x7b", "    int a = 0;", "      int b = 1;", "        if (x) \x7b",
    "            return 1;", "r", "        \x7d else if (y) \x7b", "            return 3;", "        \x7d",
    "        \x7b return 9; \x7d", "    return a;", "\x7d", ""]

/-- The function of part `i` of the nesting sample. -/
def nestingFunction (i : Nat) : Node :=
  let b := 13 * i
  let stmt (k : Kind) (l c : Nat) := node k "" (plain "int") (span l c l (c + 1)) []
  node .functionDecl s!"fn{i}" (plain "int") (span (b + 1) 1 (b + 12) 2)
    [node .compoundStmt "" (plain "int") (span (b + 1) 20 (b + 12) 1)
      [stmt .declStmt (b + 2) 5, stmt .declStmt (b + 3) 7,
        node .ifStmt "" (plain "int") (span (b + 4) 9 (b + 9) 10)
          [node .ifStmt "" (plain "int") (span (b + 4) 9 (b + 7) 10)
            [node .compoundStmt "" (plain "int") (span (b + 4) 19 (b + 7) 9)
              [stmt .returnStmt (b + 5) 13, stmt .returnStmt (b + 6) 11]],
            node .ifStmt "" (plain "int") (span (b + 7) 9 (b + 9) 10)
              [node .compoundStmt "" (plain "int") (span (b + 7) 15 (b + 9) 9)
                [stmt .returnStmt (b + 8) 13]]],
        node .compoundStmt "" (plain "int") (span (b + 10) 9 (b + 10) 22) [stmt .returnStmt 1 1],
        stmt .returnStmt (b + 11) 5]]

/-- The nesting sample: one inconsistently indented function per part, then
one consistent function. -/
def nestingTree (n : Nat) : Node × List String :=
  let b := 13 * n
  let single := node .functionDecl "single" (plain "int") (span (b + 1) 1 (b + 3) 2)
    [node .compoundStmt "" (plain "int") (span (b + 1) 20 (b + 3) 2)
      [node .returnStmt "" (plain "int") (span (b + 2) 5 (b + 2) 14) []]]
  (unit ((List.range n).map nestingFunction ++ [single]),
    (List.range n).flatMap nestingLines ++ ["int single(void) \x7b", "    return 0;", "\x7d"])

/-! ### Mixed indentation -/

/-- The lines of part `i` of `n` of the mixed-indentation sample: the last
part indents two lines with tabs. -/
def mixedLines (n i : Nat) : List String :=
  let indent := if i + 1 = n then "\t" else "    "
  [s!"int mix{i}(void) \x7b", indent ++ "int a = 0;", "    int b = 1;", indent ++ "int c = 2;",
    "    return a + b + c;", "\x7d"]

/-- The function of part `i` of the mixed-indentation sample. -/
def mixedFunction (i : Nat) : Node :=
  let b := 6 * i
  node .functionDecl s!"mix{i}" (plain "int") (span (b + 1) 1 (b + 6) 2)
    [node .compoundStmt "" (plain "int") (span (b + 1) 18 (b + 6) 1)
      [node .returnStmt "" (plain "int") (span (b + 4) 5 (b + 4) 14) []]]

/-- The mixed-indentation sample. -/
def mixedIndentTree (n : Nat) : Node × List String :=
  (unit ((List.range n).map mixedFunction), (List.range n).flatMap (mixedLines n))

end CInspect.Workload
