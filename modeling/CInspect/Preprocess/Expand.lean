import CInspect.Preprocess.Macro
import CInspect.Preprocess.FeatureTest
import CInspect.Lex.Scan
import CInspect.Source.Diagnostic
/-!
Macro expansion.

Expanding a macro replaces its invocation by its replacement list, in which
each parameter stands for its argument: fully expanded, or as written where
it is an operand of `#` (which makes a string literal of it) or of `##`
(which joins two tokens into one). The result is scanned again together
with the tokens after it.

A token is not expanded again by a macro in its hide set; every token that
an expansion produces gets that macro added to the hide set of the
invocation, which for a function-like macro is what the macro name and the
closing parenthesis share. This stops every recursion.

Tokens made here, by stringizing, pasting and the built-in macros, are
spelled in the scratch buffer, where each one stands on a line of its own
and ends with a zero byte.

`expandList` expands a list of tokens on its own, as an argument is
expanded before it is substituted; the translation unit expands the file
with the same `substitute`.
-/

namespace CInspect.Preprocess

open CInspect.Source CInspect.Lex CInspect.Language

/-- The index of the scratch buffer among the files of a translation unit. -/
def scratchFile : Nat := 0

/-- What expansion needs to know about the translation unit. -/
structure ExpandEnv where
  macros : MacroTable
  /-- The name and line that `__FILE__` and `__LINE__` give for a place. -/
  presumedFile : Loc → String
  presumedLine : Loc → Nat
  mainFile : String
  includeDepth : Nat
  /-- Whether a header can be found: its name, whether it was written
  with angle brackets, and whether the search continues after the
  current file's directory. -/
  hasInclude : String → Bool → Bool → Bool
  /-- Whether expansion is for the condition of `#if`, where `defined`
  and the feature tests are read. -/
  inCondition : Bool
  /-- Where the line of a directive ends, for the messages about a
  feature test that the line cuts short. -/
  lineEnd : Loc := ⟨0, 0⟩

/-- What expansion changes: the scratch buffer, the counter, and the
messages. -/
structure ExpandState where
  scratch : ByteArray
  counter : Nat
  diags : Array Diagnostic

/-- Write a token into the scratch buffer: its offset, and the buffer. -/
def ExpandState.write (s : ExpandState) (text : String) : Nat × ExpandState :=
  let b := s.scratch.push 10
  let off := b.size
  (off, { s with scratch := (b.append text.toUTF8).push 0 })

/-- Report a message. -/
def ExpandState.report (s : ExpandState) (d : Diagnostic) : ExpandState :=
  { s with diags := s.diags.push d }

/-- A new token written into the scratch buffer, read as one lexeme. -/
def ExpandState.make (s : ExpandState) (kind : TokenKind) (text : String) (origin : Origin)
    (space : Bool) (hide : List String) : PpToken × ExpandState :=
  let (off, s) := s.write text
  ({ kind := kind, text := text, spell := ⟨scratchFile, off⟩, len := text.utf8ByteSize,
     origin := some origin, spaceBefore := space, hide := hide }, s)

/-- A text with backslashes and double quotes escaped. -/
def escapeForString (s : String) : String :=
  String.join (s.toList.map (fun c => if c = '\\' then "\\\\" else if c = '"' then "\\\"" else c.toString))

/-- The text of the string literal that stringizing `toks` gives: the
spellings, with one space where blank space stood between two tokens, and
with quotes and backslashes of literals escaped. -/
def stringizeText (toks : List PpToken) : String :=
  let pieces := toks.zipIdx.map (fun (t, i) =>
    let body := if t.kind == .stringLit || t.kind == .charConst then escapeForString t.text else t.text
    (if i > 0 && t.spaceBefore then " " else "") ++ body)
  let inner := String.join pieces
  -- A final lone backslash cannot end a literal and is dropped.
  let trailing := inner.toList.reverse.takeWhile (· == '\\')
  let inner := if trailing.length % 2 == 1 then String.ofList (inner.toList.dropLast) else inner
  "\"" ++ inner ++ "\""

/-- The single token that `text` spells, if it spells exactly one. -/
def lexOne (text : String) : Option TokenKind :=
  let bs := text.toUTF8
  let sc := scanToken bs ⟨false⟩ 0 true []
  match sc.lexeme with
  | some l => if l.start == 0 && l.stop == bs.size && sc.issues.isEmpty then some l.kind else none
  | none => none

/-- Whether a name counts as a defined macro. The built-in macros and the
feature tests count too. -/
def ExpandEnv.isDefined (env : ExpandEnv) (s : String) : Bool :=
  env.macros.contains s

/-- The text of a header name written between the parentheses of a
feature test: a string literal without its quotes, or the tokens between
angle brackets. -/
def headerNameOf (inner : List PpToken) : Option (String × Bool) :=
  match inner with
  | [t] => if t.kind == .stringLit && t.text.length ≥ 2 then
      some (String.ofList ((t.text.toList.drop 1).dropLast), false) else none
  | t :: more =>
    if t.isPunct "<" then
      match more.getLast? with
      | some l =>
        if l.isPunct ">" then
          let mid := more.dropLast
          some (String.join (mid.zipIdx.map (fun (x, i) => (if i > 0 && x.spaceBefore then " " else "") ++ x.text)), true)
        else none
      | none => none
    else none
  | [] => none

/-- Whether the header that `__has_include` or `__has_include_next` is
given between its parentheses can be found. -/
def hasIncludeValue (env : ExpandEnv) (name : String) (inner : List PpToken) : Bool :=
  match headerNameOf inner with
  | some (h, angled) => env.hasInclude h angled (name == "__has_include_next")
  | none => false

/-- The tokens before the parenthesis that closes an open one, and the
tokens after it. -/
def closingParen : List PpToken → Nat → List PpToken → Option (List PpToken × List PpToken)
  | [], _, _ => none
  | t :: rest, depth, acc =>
    if t.isPunct ")" then
      if depth = 0 then some (acc.reverse, rest) else closingParen rest (depth - 1) (t :: acc)
    else if t.isPunct "(" then closingParen rest (depth + 1) (t :: acc)
    else closingParen rest depth (t :: acc)

/-- An argument as collected: its tokens as written. -/
abbrev Arg := List PpToken

/-- Collect the arguments of an invocation from `toks`, which start after
the opening parenthesis: the arguments, the closing parenthesis, and the
tokens after it; none if the list ends first. Commas inside parentheses do
not separate, and neither do those that fall into the variable arguments. -/
def collectArgs (nParams : Nat) (variadic : Bool) :
    List PpToken → Nat → List PpToken → List Arg → Option (List Arg × PpToken × List PpToken)
  | [], _, _, _ => none
  | t :: rest, depth, cur, acc =>
    if t.isPunct ")" ∧ depth = 0 then some (acc ++ [cur], t, rest)
    else if t.isPunct "," ∧ depth = 0 ∧ ¬ (variadic ∧ acc.length + 1 ≥ nParams) then
      collectArgs nParams variadic rest 0 [] (acc ++ [cur])
    else if t.isPunct "(" then collectArgs nParams variadic rest (depth + 1) (cur ++ [t]) acc
    else if t.isPunct ")" then collectArgs nParams variadic rest (depth - 1) (cur ++ [t]) acc
    else collectArgs nParams variadic rest depth (cur ++ [t]) acc

/-- The arguments a macro gets from the collected ones, or the message
that refuses the invocation. One empty argument counts as none for a
macro without parameters; a variadic macro may be given no variable
arguments at all. -/
def fitArgs (m : Macro) (args : List Arg) : Except String (List Arg) :=
  let n := (m.params.getD []).length
  let args := if n == 0 && args.length == 1 && (args.head?.map List.isEmpty) == some true then [] else args
  if args.length == n then .ok args
  else if m.variadic && args.length + 1 == n then .ok (args ++ [[]])
  else if args.length > n then .error "too many arguments provided to function-like macro invocation"
  else .error "too few arguments provided to function-like macro invocation"

/-- One step of substitution: a token, the mark of an empty operand of
`##`, or the `##` operator itself. -/
inductive Piece where
  | token (t : PpToken) (fromArgument : Bool)
  | placeholder
  | paste (op : PpToken)
  /-- The variable arguments of a `, ## __VA_ARGS__`, which keep the
  comma when given and drop it when empty. -/
  | commaArgs (comma : PpToken) (toks : List PpToken)

/-- Copy an argument's tokens, the first taking the spacing of the
parameter it replaces. -/
def argPieces (param : PpToken) (toks : List PpToken) : List Piece :=
  match toks with
  | [] => []
  | t :: ts => Piece.token { t with spaceBefore := param.spaceBefore } true :: ts.map (Piece.token · true)

/-- What an invocation needs for substitution besides the arguments. -/
structure Invocation where
  definition : Macro
  name : PpToken
  last : PpToken
  hide : List String

/-- The origin of the tokens an invocation produces. -/
def Invocation.origin (inv : Invocation) (arg : Bool) (rep : Loc) : Origin :=
  expansionOrigin inv.name inv.last arg rep

/-- The hide set of a produced token. -/
def Invocation.hideOf (inv : Invocation) (own : List String) : List String :=
  let hs := inv.hide.foldl (fun acc x => if acc.contains x then acc else acc ++ [x]) own
  if hs.contains inv.definition.name then hs else hs ++ [inv.definition.name]

/-- Place a produced token at the invocation. -/
def Invocation.place (inv : Invocation) (t : PpToken) (arg : Bool) : PpToken :=
  let o := inv.origin arg (if arg then t.reportLoc else inv.name.reportLoc)
  { t with origin := some { o with functionBody := !arg && inv.definition.params.isSome },
           hide := inv.hideOf t.hide }

/-- Join two tokens by `##`: the new token, or the message if their
spellings do not form one token. -/
def pasteTokens (inv : Invocation) (op l r : PpToken) (s : ExpandState) : PpToken × ExpandState :=
  let text := l.text ++ r.text
  match lexOne text with
  | some k => s.make k text (inv.origin false inv.name.reportLoc) l.spaceBefore (inv.hideOf [])
  | none =>
    let s := s.report (Diagnostic.error (op.reportLoc) s!"pasting formed '{text}', an invalid preprocessing token")
    (l, s)

/-- Resolve the `##` operators of a substitution, left to right. -/
def resolvePastes (inv : Invocation) : List Piece → List Piece → ExpandState → List Piece × ExpandState
  | acc, [], s => (acc.reverse, s)
  | .token l la :: accRest, .paste op :: .token r ra :: rest, s =>
    let (t, s) := pasteTokens inv op (inv.place l la) (inv.place r ra) s
    resolvePastes inv (.token t false :: accRest) rest s
  | .token l la :: accRest, .paste _ :: .placeholder :: rest, s =>
    resolvePastes inv (.token l la :: accRest) rest s
  | .placeholder :: accRest, .paste _ :: r :: rest, s => resolvePastes inv (r :: accRest) rest s
  | acc, .paste _ :: rest, s => resolvePastes inv acc rest s
  | acc, p :: rest, s => resolvePastes inv (p :: acc) rest s

/-- The tokens of the resolved pieces, placed at the invocation. -/
def piecesTokens (inv : Invocation) : List Piece → List PpToken
  | [] => []
  | .token t arg :: rest =>
    let placed := if t.spell.file == scratchFile ∧ t.origin.isSome ∧ ¬ arg then t else inv.place t arg
    placed :: piecesTokens inv rest
  | .placeholder :: rest => piecesTokens inv rest
  | .paste _ :: rest => piecesTokens inv rest
  | .commaArgs c toks :: rest =>
    if toks.isEmpty then piecesTokens inv rest
    else inv.place c false :: (toks.map (inv.place · true) ++ piecesTokens inv rest)

/-- The token a built-in macro gives where it is used. -/
def builtinToken (env : ExpandEnv) (b : Builtin) (t : PpToken) (s : ExpandState) : PpToken × ExpandState :=
  let o := expansionOrigin t t false t.reportLoc
  let lineLoc := (o.stop.shift 0)
  let str (x : String) := "\"" ++ escapeForString x ++ "\""
  let (kind, text, s) : TokenKind × String × ExpandState := match b with
    | .file => (.stringLit, str (env.presumedFile t.loc), s)
    | .line => (.number, toString (env.presumedLine ⟨lineLoc.file, lineLoc.offset - 1⟩), s)
    | .counter => (.number, toString s.counter, { s with counter := s.counter + 1 })
    | .includeLevel => (.number, toString env.includeDepth, s)
    | .baseFile => (.stringLit, str env.mainFile, s)
    | .fileName => (.stringLit, str (((env.presumedFile t.loc).splitOn "/").getLastD ""), s)
    | .date => (.stringLit, "\"Jan  1 2000\"", s)
    | .time => (.stringLit, "\"00:00:00\"", s)
    | .timestamp => (.stringLit, "\"Sat Jan  1 00:00:00 2000\"", s)
    | .featureTest | .pragmaOperator => (t.kind, t.text, s)
  s.make kind text o t.spaceBefore t.hide

/-- A feature test at `t` with the tokens after it: its value, which
takes the place of the test and its parenthesized operand, or nothing
when the line ends too soon. -/
def featureTest (env : ExpandEnv) (t : PpToken) (rest : List PpToken) (s : ExpandState) :
    (List PpToken × ExpandState) ⊕ (PpToken × List PpToken × ExpandState) :=
  let number (n : Nat) : PpToken := { t with kind := .number, text := featureNumberText n }
  match FeatureCheck.ofName? t.text with
  | some c =>
    let (v, rest', ds) := c.run env.lineEnd t rest
    let s := ds.foldl ExpandState.report s
    match v with
    | some n => .inr (number n, rest', s)
    | none => .inl (rest', s)
  | none =>
    if t.text == "__building_module" then
      let (n, rest', ds) := buildingModuleTest env.lineEnd t rest
      .inr (number n, rest', ds.foldl ExpandState.report s)
    else
      match rest with
      | p :: afterParen =>
        if p.isPunct "(" then
          match closingParen afterParen 0 [] with
          | some (inner, rest') =>
            .inr (number (if hasIncludeValue env t.text inner then 1 else 0), rest', s)
          | none => .inr (t, rest, s.report (Diagnostic.error p.reportLoc "missing ')' after '('"))
        else .inr (t, rest, s.report (Diagnostic.error t.reportLoc s!"missing '(' after '{t.text}'"))
      | [] => .inr (t, rest, s.report (Diagnostic.error t.reportLoc s!"missing '(' after '{t.text}'"))

/-- Give the first token of an expansion the spacing of the name it
replaced. -/
def leadWith (space : Bool) : List PpToken → List PpToken
  | [] => []
  | t :: ts => { t with spaceBefore := space } :: ts


mutual

/-- Expand the tokens of `toks` on their own, with `fuel` bounding the
work; tokens left when the fuel runs out stay as they are. -/
def expandList (env : ExpandEnv) (fuel : Nat) (toks : List PpToken) (s : ExpandState) :
    List PpToken × ExpandState :=
  match fuel, toks with
  | 0, toks => (toks, s)
  | _ + 1, [] => ([], s)
  | f + 1, t :: rest =>
    match expandOne env f t rest s with
    | .inl (rest', s) => expandList env f rest' s
    | .inr (t', rest', s) =>
      let (more, s) := expandList env f rest' s
      (t' :: more, s)
termination_by (fuel, 0, 0)

/-- Look at one token with the tokens after it: either its expansion
placed before the rest (left), or the token itself, final (right). -/
def expandOne (env : ExpandEnv) (fuel : Nat) (t : PpToken) (rest : List PpToken) (s : ExpandState) :
    (List PpToken × ExpandState) ⊕ (PpToken × List PpToken × ExpandState) :=
  if t.kind != TokenKind.identifier then .inr (t, rest, s)
  else if env.inCondition ∧ t.text = "defined" then
    let (value, rest') := match rest with
      | n :: r =>
        if n.kind == TokenKind.identifier then (env.isDefined n.text, r)
        else if n.isPunct "(" then
          match r with
          | m :: c :: r' => if c.isPunct ")" then (env.isDefined m.text, r') else (false, rest)
          | _ => (false, rest)
        else (false, rest)
      | [] => (false, rest)
    let s := match t.origin with
      | some o =>
        if o.functionBody then s
        else s.report (.warning t.reportLoc "macro expansion producing 'defined' has undefined behavior"
          "-Wexpansion-to-defined")
      | none => s
    .inr ({ t with kind := .number, text := if value then "1" else "0" }, rest', s)
  else if t.hide.contains t.text then .inr (t, rest, s)
  else
    match env.macros.get? t.text with
    | none => .inr (t, rest, s)
    | some m =>
      match m.builtin with
      | some .featureTest => featureTest env t rest s
      | some .pragmaOperator => .inr (t, rest, s)
      | some b =>
        let (tok, s) := builtinToken env b t s
        .inr (tok, rest, s)
      | none =>
        match m.params with
        | none =>
          let inv : Invocation := ⟨m, t, t, t.hide⟩
          let (out, s) := substitute env fuel inv [] s
          .inl (leadWith t.spaceBefore out ++ rest, s)
        | some ps =>
          match rest with
          | p :: afterParen =>
            if p.isPunct "(" then
              match collectArgs ps.length m.variadic afterParen 0 [] [] with
              | some (args, rparen, rest') =>
                match fitArgs m args with
                | .ok args =>
                  let hide := t.hide.filter (rparen.hide.contains ·)
                  let inv : Invocation := ⟨m, t, rparen, hide⟩
                  let (out, s) := substitute env fuel inv args s
                  .inl (leadWith t.spaceBefore out ++ rest', s)
                | .error msg =>
                  .inr (t, rest, s.report (Diagnostic.error t.reportLoc msg))
              | none => .inr (t, rest, s)
            else .inr (t, rest, s)
          | [] => .inr (t, rest, s)
termination_by (fuel, 3, 0)

/-- The replacement of an invocation with its arguments. -/
def substitute (env : ExpandEnv) (fuel : Nat) (inv : Invocation) (args : List Arg)
    (s : ExpandState) : List PpToken × ExpandState :=
  let m := inv.definition
  let body := m.body.toArray
  let argOf (t : PpToken) : Option Arg :=
    if t.kind == .identifier then (m.paramIndex t.text).bind (args[·]?) else none
  let rec walk (i : Nat) (acc : List Piece) (s : ExpandState) : List Piece × ExpandState :=
    if h : i < body.size then
      let t := body[i]
      let prevPaste := i > 0 && (body[i - 1]?.map (·.isPunct "##")).getD false
      let nextPaste := ((body[i + 1]?).map (·.isPunct "##")).getD false
      if t.isPunct "#" ∧ m.params.isSome then
        match body[i + 1]? with
        | some p =>
          match argOf p with
          | some a =>
            let (st, s) := s.make .stringLit (stringizeText a)
              (inv.origin false inv.name.reportLoc) t.spaceBefore (inv.hideOf [])
            walk (i + 2) (.token st false :: acc) s
          | none => walk (i + 1) (.token t false :: acc) s
        | none => walk (i + 1) (.token t false :: acc) s
      else if t.isPunct "##" then
        -- A comma pasted to empty variable arguments disappears.
        match acc, body[i + 1]? with
        | .token c false :: accRest, some v =>
          if c.isPunct "," ∧ m.variadic ∧ v.kind == .identifier ∧
              m.paramIndex v.text == some ((m.params.getD []).length - 1) then
            walk (i + 2) (.commaArgs c ((argOf v).getD []) :: accRest) s
          else walk (i + 1) (.paste t :: acc) s
        | _, _ => walk (i + 1) (.paste t :: acc) s
      else
        match argOf t with
        | some a =>
          if prevPaste || nextPaste then
            let ps := if a.isEmpty then [Piece.placeholder] else argPieces t a
            walk (i + 1) (ps.reverse ++ acc) s
          else
            let (ex, s) := expandList env fuel a s
            walk (i + 1) ((argPieces t ex).reverse ++ acc) s
        | none => walk (i + 1) (.token t false :: acc) s
    else (acc.reverse, s)
  termination_by (fuel, 1, body.size - i)
  let (pieces, s) := walk 0 [] s
  let (resolved, s) := resolvePastes inv [] pieces s
  (piecesTokens inv resolved, s)
termination_by (fuel, 2, 0)

end

end CInspect.Preprocess
