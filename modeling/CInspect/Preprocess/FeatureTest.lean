import CInspect.Preprocess.Token
import CInspect.Source.Diagnostic
import CInspect.Language.Attributes
import CInspect.Language.Keywords
import CInspect.Language.Features
import CInspect.Language.Warnings
import CInspect.Language.Builtins
/-!
Feature tests: the built-in macros that ask what the compiler supports.

A test such as `__has_attribute(packed)` reads one operand between
parentheses and takes the place of the whole by a number: 1 or 0, or for
a few operands the date of the version that brought them in, written with
an `L` suffix (`201904L`).

The operand is read token by token. A comma, a second opening parenthesis
or a second operand is an error, and so is a line that ends first; only
the first of these errors is reported, and the test gives 0 when its
operand is faulty. Most tests want an identifier (a keyword will do);
`__has_warning` wants string literals, which it joins, and
`__has_c_attribute` reads the token after its name as well, so that a
message about a missing `)` names that token.
-/

namespace CInspect.Preprocess

open CInspect.Source CInspect.Lex CInspect.Language

/-- The feature tests that read one operand and give a number. -/
inductive FeatureCheck where
  | feature
  | extension
  | attribute
  /-- An attribute written in the syntax of the next C standard. -/
  | standardAttribute
  | declspecAttribute
  | builtin
  | warning
  | identifier
  /-- A test of the target, by the test's name. -/
  | target (test : String)
deriving DecidableEq, Repr

/-- The test a built-in macro name stands for. -/
def FeatureCheck.ofName? (name : String) : Option FeatureCheck :=
  match name with
  | "__has_feature" => some .feature
  | "__has_extension" => some .extension
  | "__has_attribute" => some .attribute
  | "__has_c_attribute" => some .standardAttribute
  | "__has_declspec_attribute" => some .declspecAttribute
  | "__has_builtin" => some .builtin
  | "__has_warning" => some .warning
  | "__is_identifier" => some .identifier
  | n =>
    if ["__is_target_arch", "__is_target_vendor", "__is_target_os",
        "__is_target_environment"].contains n then some (.target n)
    else none

/-- How a message names the token that ended an operand: an identifier
or punctuator by its spelling in quotes, a literal by its kind. -/
def PpToken.describe (t : PpToken) : String :=
  match t.kind with
  | .identifier => "'" ++ t.text ++ "'"
  | .punctuator => "'" ++ canonicalPunctuator t.text ++ "'"
  | .number => "<numeric_constant>"
  | .stringLit =>
    if t.text.startsWith "u8" then "<utf8_string_literal>"
    else if t.text.startsWith "u" then "<utf16_string_literal>"
    else if t.text.startsWith "U" then "<utf32_string_literal>"
    else if t.text.startsWith "L" then "<wide_string_literal>"
    else "<string_literal>"
  | .charConst =>
    if t.text.startsWith "u8" then "<utf8_char_constant>"
    else if t.text.startsWith "u" then "<utf16_char_constant>"
    else if t.text.startsWith "U" then "<utf32_char_constant>"
    else if t.text.startsWith "L" then "<wide_char_constant>"
    else "<char_constant>"
  | _ => "<unknown>"

/-- A name without the two underscores on each side, if it has them. -/
def bareName (w : String) : String :=
  if w.length ≥ 4 && w.startsWith "__" && w.endsWith "__" then
    String.ofList ((w.toList.drop 2).take (w.length - 4))
  else w

/-- What reading an operand gives: its value, the token that a message
about a missing `)` names, the tokens after what was read, and the
messages. -/
structure OperandRead where
  value : Nat
  named : PpToken
  rest : List PpToken
  diags : List Diagnostic

/-- Whether a token is a string literal without a prefix. -/
def PpToken.isPlainString (t : PpToken) : Bool :=
  t.kind == .stringLit && t.text.startsWith "\""

/-- The value of a test for an identifier operand. -/
def FeatureCheck.valueOf (c : FeatureCheck) (w : String) : Nat :=
  let bit (b : Bool) : Nat := if b then 1 else 0
  match c with
  | .feature => bit (hasFeature (bareName w))
  | .extension => bit (hasExtension (bareName w))
  | .attribute => bit (hasGnuAttribute (bareName w))
  | .standardAttribute => standardAttributeVersion (bareName w)
  | .declspecAttribute => 0
  | .builtin => builtinCheckValue w
  | .identifier => bit (!isKeyword w)
  | .target test => bit (isTarget test w)
  | .warning => 0

/-- Read the operand of a test at its first token `t`, with the tokens
after it. -/
def FeatureCheck.read (c : FeatureCheck) (t : PpToken) (more : List PpToken) : OperandRead :=
  let malformed : Diagnostic :=
    .error t.reportLoc "builtin feature check macro requires a parenthesized identifier"
  match c with
  | .identifier => ⟨if t.kind == .identifier then c.valueOf t.text else 0, t, more, []⟩
  | .warning =>
    if t.isPlainString then
      let strings := more.takeWhile PpToken.isPlainString
      let after := more.drop strings.length
      let option := String.join ((t :: strings).map fun s =>
        String.ofList ((s.text.toList.drop 1).dropLast))
      let named := (after.head?).getD t
      if option.length < 3 || !option.startsWith "-W" then
        ⟨0, named, after, [.warning t.reportLoc
          "__has_warning expected option name (e.g. \"-Wundef\")" "-Wmalformed-warning-check"]⟩
      else ⟨if isNamedWarningGroup (String.ofList (option.toList.drop 2)) then 1 else 0, named, after, []⟩
    else ⟨0, t, more, [.error t.reportLoc "expected string literal in '__has_warning'"]⟩
  | .standardAttribute =>
    if t.kind == .identifier then
      -- The token after the name is read too, to look for a scope.
      ⟨c.valueOf t.text, (more.head?).getD t, more, []⟩
    else ⟨0, t, more, [malformed]⟩
  | _ =>
    if t.kind == .identifier then ⟨c.valueOf t.text, t, more, []⟩
    else ⟨0, t, more, [malformed]⟩

/-- Read the tokens between the parentheses of a test named `name`, the
opening one already read, with `fuel` bounding the steps: the value and
the tokens after the closing parenthesis, or none when the line ends
first at `lineEnd`; and the messages. The state is the depth of
parentheses, the operand read so far with the token a missing `)` is
reported after, and whether a first fault has silenced later ones. -/
def FeatureCheck.scan (c : FeatureCheck) (name : String) (lineEnd : Loc) :
    Nat → Nat → Option (Nat × PpToken) → Bool → List PpToken → List Diagnostic →
    Option Nat × List PpToken × List Diagnostic
  | 0, _, _, _, toks, ds => (none, toks, ds)
  | _ + 1, _, _, _, [], ds =>
    (none, [], ds ++ [.error lineEnd "unterminated function-like macro invocation"])
  | f + 1, depth, result, quiet, tok :: more, ds =>
    -- A token after a complete operand: a `)` should have come.
    let missing (depth : Nat) : Option Nat × List PpToken × List Diagnostic :=
      match result, quiet with
      | some (_, named), false =>
        c.scan name lineEnd f depth result true more
          (ds ++ [.error tok.reportLoc s!"missing ')' after {named.describe}"])
      | _, _ => c.scan name lineEnd f depth result quiet more ds
    if tok.isPunct "," then
      if quiet then c.scan name lineEnd f depth result quiet more ds
      else c.scan name lineEnd f depth result true more
        (ds ++ [.error tok.reportLoc "too many arguments provided to function-like macro invocation"])
    else if tok.isPunct "(" then
      if result.isSome then missing (depth + 1)
      else if quiet then c.scan name lineEnd f (depth + 1) result quiet more ds
      else c.scan name lineEnd f (depth + 1) result true more
        (ds ++ [.error tok.reportLoc s!"nested parentheses not permitted in '{name}'"])
    else if tok.isPunct ")" then
      if depth > 1 then c.scan name lineEnd f (depth - 1) result quiet more ds
      else
        match result with
        | some (v, _) => (some v, more, ds)
        | none =>
          (some 0, more, if quiet then ds
            else ds ++ [.error tok.reportLoc "too few arguments provided to function-like macro invocation"])
    else if result.isSome then missing depth
    else
      let r := c.read tok more
      c.scan name lineEnd f depth (some (r.value, r.named)) quiet r.rest (ds ++ r.diags)

/-- Run the test named by `t` on the tokens after it: the number that
takes its place with the tokens after its operand, or none when the line
ends before a number can be formed; and the messages. Without an opening
parenthesis the token that stands there is taken for the operand. -/
def FeatureCheck.run (c : FeatureCheck) (lineEnd : Loc) (t : PpToken) (rest : List PpToken) :
    Option Nat × List PpToken × List Diagnostic :=
  match rest with
  | p :: more =>
    if p.isPunct "(" then c.scan t.text lineEnd (more.length + 1) 1 none false more []
    else (some 0, more, [.error p.reportLoc s!"missing '(' after '{t.text}'"])
  | [] => (none, [], [.error lineEnd s!"missing '(' after '{t.text}'"])

/-- The test `__building_module(name)`, named by `t`, on the tokens after
it: whether the module being built is `name`, which it never is, since no
module is being built; the tokens after the test; and the messages. The
token where a fault is found is taken into the test. -/
def buildingModuleTest (lineEnd : Loc) (t : PpToken) (rest : List PpToken) :
    Nat × List PpToken × List Diagnostic :=
  match rest with
  | [] => (0, [], [.error lineEnd s!"missing '(' after '{t.text}'"])
  | p :: more =>
    if !p.isPunct "(" then (0, more, [.error p.reportLoc s!"missing '(' after '{t.text}'"])
    else
      let noName (l : Loc) : Diagnostic := .error l "expected a module name in '__building_module' expression"
      match more with
      | [] => (0, [], [noName lineEnd])
      | m :: more =>
        if m.kind != .identifier || isKeyword m.text then (0, more, [noName m.reportLoc])
        else
          match more with
          | [] => (0, [], [.error lineEnd s!"missing ')' after '{t.text}'"])
          | r :: more =>
            if r.isPunct ")" then (0, more, [])
            else (0, more, [.error r.reportLoc s!"missing ')' after '{t.text}'"])

/-- The text of the number a test gives: a date carries the suffix `L`. -/
def featureNumberText (n : Nat) : String :=
  if n > 1 then toString n ++ "L" else toString n

end CInspect.Preprocess
