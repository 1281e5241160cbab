import CInspect.Preprocess.Token
import Std.Data.HashMap
/-!
Macro definitions.

A macro is object-like or function-like. A function-like macro has named
parameters, the last of which may collect the variable arguments (named
`__VA_ARGS__` unless the definition names it). The replacement list is
kept as the tokens of the definition, spelled where it was written.

A few macros are built in: their replacement is computed where they are
used (the current file and line, a counter, the inclusion depth).

`Macro.ofDirective` reads the tokens of a `#define` line after the
directive name and gives the macro, or the reason the definition is
refused together with the token it points at.
-/

namespace CInspect.Preprocess

open CInspect.Source CInspect.Lex

/-- The macros whose replacement is computed at the point of use. -/
inductive Builtin where
  | file
  | line
  | counter
  | includeLevel
  | baseFile
  | fileName
  | date
  | time
  | timestamp
  /-- A test of what the compiler supports, such as `__has_include`: its
  operand follows in parentheses, and it gives a number. -/
  | featureTest
  /-- The `_Pragma` operator, which runs the pragma its string operand
  spells. -/
  | pragmaOperator
deriving DecidableEq, Repr, Inhabited

/-- A macro definition. -/
structure Macro where
  name : String
  /-- The parameters of a function-like macro; none for an object-like one. -/
  params : Option (List String)
  /-- Whether the last parameter collects the variable arguments. -/
  variadic : Bool
  body : List PpToken
  builtin : Option Builtin := none
  /-- Whether another definition may replace this one without a warning,
  as one saved by `#pragma push_macro` may. -/
  replaceable : Bool := false
deriving Inhabited

/-- The macros in force, by name. -/
abbrev MacroTable := Std.HashMap String Macro

/-- The feature tests, by name. -/
def featureTests : List String :=
  ["__has_include", "__has_include_next", "__has_attribute", "__has_builtin", "__has_feature",
   "__has_extension", "__has_c_attribute", "__has_declspec_attribute", "__has_warning",
   "__is_identifier", "__is_target_arch", "__is_target_vendor", "__is_target_os",
   "__is_target_environment", "__building_module"]

/-- The built-in macros. -/
def builtinMacros : List Macro :=
  let plain := [("__FILE__", Builtin.file), ("__LINE__", .line), ("__COUNTER__", .counter),
   ("__INCLUDE_LEVEL__", .includeLevel), ("__BASE_FILE__", .baseFile),
   ("__FILE_NAME__", .fileName), ("__DATE__", .date), ("__TIME__", .time),
   ("__TIMESTAMP__", .timestamp)] ++ featureTests.map (·, Builtin.featureTest)
  plain.map (fun (n, b) => { name := n, params := none, variadic := false, body := [], builtin := some b }) ++
    [{ name := "_Pragma", params := some ["x"], variadic := false, body := [], builtin := some .pragmaOperator }]

/-- The index of a parameter name, if `s` is one. -/
def Macro.paramIndex (m : Macro) (s : String) : Option Nat :=
  match m.params with
  | some ps => ps.idxOf? s
  | none => none

/-- Whether two definitions are the same: same parameters and the same
replacement tokens with the same spacing. -/
def Macro.sameAs (a b : Macro) : Bool :=
  a.params == b.params && a.variadic == b.variadic &&
    a.body.length == b.body.length &&
    (a.body.zip b.body).all (fun (x, y) =>
      x.text == y.text && x.kind == y.kind && (x.spaceBefore == y.spaceBefore))

/-- Why a definition is refused: the message and the token it points at,
none for the end of the line. -/
structure DefineError where
  text : String
  at_ : Option PpToken

/-- Read a parameter list after `(`: the names, whether it ends with
`...`, and the tokens after `)`. A name may not be given twice, and a
comma must be followed by another parameter. -/
def readParams : List PpToken → List String → Except DefineError (List String × Bool × List PpToken)
  | [], _ => .error ⟨"missing ')' in macro parameter list", none⟩
  | t :: rest, acc =>
    if t.isPunct ")" then
      if acc.isEmpty then .ok ([], false, rest)
      else .error ⟨"expected identifier in macro parameter list", some t⟩
    else if t.isPunct "..." then
      match rest with
      | r :: rest' =>
        if r.isPunct ")" then .ok ((acc ++ ["__VA_ARGS__"]), true, rest')
        else .error ⟨"missing ')' in macro parameter list", some r⟩
      | [] => .error ⟨"missing ')' in macro parameter list", none⟩
    else if t.kind == .identifier then
      if acc.contains t.text then .error ⟨s!"duplicate macro parameter name '{t.text}'", some t⟩
      else
        match rest with
        | r :: rest' =>
          if r.isPunct ")" then .ok (acc ++ [t.text], false, rest')
          else if r.isPunct "," then readParams rest' (acc ++ [t.text])
          else if r.isPunct "..." then
            match rest' with
            | s :: rest'' =>
              if s.isPunct ")" then .ok (acc ++ [t.text], true, rest'')
              else .error ⟨"missing ')' in macro parameter list", some s⟩
            | [] => .error ⟨"missing ')' in macro parameter list", none⟩
          else .error ⟨"expected comma in macro parameter list", some r⟩
        | [] => .error ⟨"expected comma in macro parameter list", none⟩
    else .error ⟨"invalid token in macro parameter list", some t⟩

/-- The first `#` in the body of a function-like macro that is not
followed by a parameter, as it must be: the token after it, or none when
the line ends there. -/
def strayHash (params : List String) : List PpToken → Option (Option PpToken)
  | [] => none
  | t :: rest =>
    if t.isPunct "#" then
      match rest with
      | p :: _ =>
        if p.kind == .identifier && params.contains p.text then strayHash params rest
        else some (some p)
      | [] => some none
    else strayHash params rest

/-- Check a replacement list: every `#` of a function-like macro stands
before a parameter, and `##` is at neither end. -/
def checkBody (params : Option (List String)) (body : List PpToken) : Except DefineError (List PpToken) :=
  let hashes := match params with
    | some ps => strayHash ps body
    | none => none
  match hashes with
  | some at_ => .error ⟨"'#' is not followed by a macro parameter", at_⟩
  | none =>
    match body.head?, body.getLast? with
    | some f, some l =>
      if f.isPunct "##" then .error ⟨"'##' cannot appear at start of macro expansion", some f⟩
      else if l.isPunct "##" then .error ⟨"'##' cannot appear at end of macro expansion", some l⟩
      else .ok body
    | _, _ => .ok body

/-- The macro that the tokens of a `#define` line define. -/
def Macro.ofDirective (toks : List PpToken) : Except DefineError Macro :=
  match toks with
  | [] => .error ⟨"macro name missing", none⟩
  | n :: rest =>
    if n.kind != .identifier then .error ⟨"macro name must be an identifier", some n⟩
    else if n.text == "defined" then .error ⟨"'defined' cannot be used as a macro name", some n⟩
    else
      match rest with
      | p :: afterParen =>
        if p.isPunct "(" ∧ ¬ p.spaceBefore then
          match readParams afterParen [] with
          | .ok (ps, va, body) =>
            match checkBody (some ps) body with
            | .ok b => .ok { name := n.text, params := some ps, variadic := va, body := b }
            | .error e => .error e
          | .error e => .error e
        else
          match checkBody none rest with
          | .ok b =>
            let b := match b with
              | f :: more => { f with spaceBefore := false } :: more
              | [] => []
            .ok { name := n.text, params := none, variadic := false, body := b }
          | .error e => .error e
      | [] => .ok { name := n.text, params := none, variadic := false, body := [] }

end CInspect.Preprocess
