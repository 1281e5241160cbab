/-!
Checks and the levels they report at.

There are eighteen checks. Fifteen look at single nodes of the syntax tree
(`Rule.onNodes`), three at function bodies and the layout of the source.
Each check is off or on at one of four levels: `error` and `notPermitted`
make a file fail, `warning` and `notRecommended` only report; the two
"not" levels add a sentence saying so.

A `Config` holds the level of every check and the texts and switches that
shape the report.
-/

namespace CInspect.Check

/-- The level a check reports at. -/
inductive Level where
  | error
  | notPermitted
  | warning
  | notRecommended
deriving DecidableEq, Repr, Inhabited

/-- The name of a level, as levels are listed in results. -/
def Level.name : Level → String
  | .error => "error"
  | .notPermitted => "not_permitted"
  | .warning => "warning"
  | .notRecommended => "not_recommended"

/-- The word a finding at this level is printed with. -/
def Level.word : Level → String
  | .error | .notPermitted => "error"
  | .warning | .notRecommended => "warning"

/-- A level at which a file fails. -/
def Level.fails : Level → Bool
  | .error | .notPermitted => true
  | .warning | .notRecommended => false

/-- The checks, each a rule a source file is held to. -/
inductive Rule where
  | array
  | breakStmt
  | comma
  | continueStmt
  | doWhile
  | globalVariable
  | gotoStmt
  | multipleMalloc
  | nonCharArray
  | staticLocalVariable
  | stringLibrary
  | switchStmt
  | ternary
  | unionDecl
  | unistdLibrary
  | assignGetcharChar
  | indenting
  | integerAsciiCode
deriving DecidableEq, Repr, Inhabited

/-- The name a check goes by on the command line. -/
def Rule.name : Rule → String
  | .array => "array"
  | .breakStmt => "break"
  | .comma => "comma"
  | .continueStmt => "continue"
  | .doWhile => "do_while"
  | .globalVariable => "global_variable"
  | .gotoStmt => "goto"
  | .multipleMalloc => "multiple_malloc"
  | .nonCharArray => "non_char_array"
  | .staticLocalVariable => "static_local_variable"
  | .stringLibrary => "string_library"
  | .switchStmt => "switch"
  | .ternary => "ternary"
  | .unionDecl => "union"
  | .unistdLibrary => "unistd_library"
  | .assignGetcharChar => "assign_getchar_char"
  | .indenting => "indenting"
  | .integerAsciiCode => "integer_ascii_code"

/-- What a check looks for, as the help text says it. -/
def Rule.description : Rule → String
  | .array => "check if array used (for exercises where ararys are not permitted)"
  | .breakStmt => "check if break used"
  | .comma => "check if comma operator used"
  | .continueStmt => "check if continue used"
  | .doWhile => "check if do while used"
  | .globalVariable => "check global variables used"
  | .gotoStmt => "check if goto used"
  | .multipleMalloc =>
    "check if malloc is called in more than 1 location  (for exercises where this is not permitted)"
  | .nonCharArray =>
    "check for use of array other than char array  (for exercises where this is not permitted)"
  | .staticLocalVariable => "check for use of static local variables"
  | .stringLibrary =>
    "check for use of functions from string.h (for exercises where this is not permitted)"
  | .switchStmt => "check if switch used"
  | .ternary => "check for use of the ?: operator"
  | .unionDecl => "check if union used"
  | .unistdLibrary => "check for use of functions from unistd.h"
  | .assignGetcharChar =>
    "check for common bug of getchar/fgetc/getc being assigned to char variable, e.g char c = getchar();"
  | .indenting =>
    "check indenting consistent with functions, and tabs/spaces not mixed within function"
  | .integerAsciiCode => "check integer constants not used for ASCII codes e.g. 10 instead of '\n'"

/-- The checks that look at single tree nodes, in the order they are tried
on each node. -/
def Rule.onNodes : List Rule :=
  [.array, .breakStmt, .comma, .continueStmt, .doWhile, .globalVariable, .gotoStmt,
    .multipleMalloc, .nonCharArray, .staticLocalVariable, .stringLibrary, .switchStmt,
    .ternary, .unionDecl, .unistdLibrary]

/-- All checks, in their listing order. -/
def Rule.all : List Rule :=
  Rule.onNodes ++ [.assignGetcharChar, .indenting, .integerAsciiCode]

/-- The check a name stands for. -/
def Rule.ofName? (s : String) : Option Rule :=
  Rule.all.find? (·.name == s)

theorem ofName?_name (c : Rule) : Rule.ofName? c.name = some c := by
  cases c <;> rfl

/-- The configuration of a check run. Texts that are empty count as absent. -/
structure Config where
  level : Rule → Option Level
  whereText : String
  extraText : String
  mixedIndentingText : String
  highlight : Bool
  colorize : Bool
  debug : Nat

/-- The configuration with every check off. -/
def Config.quiet : Config :=
  ⟨fun _ => none, "", "", "", true, false, 0⟩

end CInspect.Check
