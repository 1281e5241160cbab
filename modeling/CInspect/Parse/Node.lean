import CInspect.Preprocess.Token
import CInspect.Types.Spelling
import CInspect.Types.Floating
import CInspect.Tree.Basic
import CInspect.Source.Diagnostic
import CInspect.Language.FormatString
import Std.Data.HashMap
/-!
What the parser builds and keeps.

The parser reads the tokens of a translation unit and builds its tree at
once, checking the program as it goes. A node under construction
(`Built`) names its tokens by their indices in the token list: the token
that gives its location and the first and last tokens of its extent;
positions in files are worked out when the tree is finished.

Expressions carry their type, whether they designate an object, and their
value when they are integer constants. Declarations of ordinary names go
into a table, numbered in order, and so do the tags of structures, unions
and enumerations; the scopes map names to those numbers, innermost scope
first.

Parsing stops at the first error, giving the message and how far the
token list had been read, which orders it among the preprocessor's
messages.
-/

namespace CInspect.Parse

open CInspect.Types CInspect.Preprocess CInspect.Source CInspect.Lex

/-- A node of the tree under construction. -/
structure Built where
  kind : Tree.Kind
  spelling : String := ""
  /-- The display name, when it differs from the spelling. -/
  display : Option String := none
  /-- The token that gives the node's location. -/
  locTok : Nat
  /-- The first and last tokens of the node's extent. -/
  first : Nat
  last : Nat
  /-- The first token of the extent when it is not `first`'s expansion
  start but the token itself (a later declarator of a local declaration). -/
  ty : Option CType := none
  static : Bool := false
  /-- The declaration a reference refers to. -/
  referenced : Option Nat := none
  key : Nat := 0
  /-- The value of an expression that is an integer constant. -/
  value : Option Int := none
  /-- The value of an expression that is a floating constant. -/
  real : Option FloatValue := none
  /-- Whether the node is a conversion the compiler inserted. -/
  converted : Bool := false
  /-- The width and signedness of the bit-field a member access designates. -/
  bits : Option (Nat × Bool) := none
  /-- The type `sizeof` or `_Alignof` measures. -/
  argType : Option CType := none
  /-- Whether `sizeof` or `_Alignof` is applied to a type name rather than
  to an expression. -/
  typeOperand : Bool := false
  /-- Whether the node is a signed operation on constants whose value does
  not fit its type, so that `value` is the value wrapped around. -/
  overflowed : Bool := false
  /-- The type a tree shows for the node when it is not `ty`: the type a
  parameter of array or function type was written with, which it goes on
  showing where its value is used as the pointer it became. -/
  shown : Option CType := none
  /-- The values of a string literal's elements, its terminating zero left
  out. -/
  units : List Int := []
  /-- The child a generic selection or a compile-time choice selects. -/
  selected : Option Nat := none
  children : List Built := []
deriving Inhabited

/-- An expression: its node, type, whether it designates an object, and
its value if it is an integer or floating constant. -/
structure TExpr where
  node : Built
  ty : CType
  lvalue : Bool := false
  value : Option Int := none
  /-- Its value when it is a floating constant. -/
  real : Option FloatValue := none
  /-- Whether it is a null pointer constant. -/
  nullPointer : Bool := false
  /-- Whether it is a string literal, which may initialize a char array. -/
  stringLit : Bool := false
  /-- The values of a string literal's elements, its terminating zero left
  out. -/
  units : List Int := []
  /-- Whether it designates (part of) a variable declared `register`,
  through parentheses and `.` member access. -/
  registerObject : Bool := false
  /-- Whether it designates a bit-field. -/
  bitField : Bool := false
deriving Inhabited

/-- The kinds of ordinary declarations. -/
inductive DeclKind where
  | variable
  | function
  | parameter
  | typedef
  | enumerator
  | field
deriving DecidableEq, Repr, Inhabited

/-- What the attributes of a declaration say of a use of it: nothing,
that it is deprecated, or that it may not be used at all; each with the
message the attribute gives, which may be empty. -/
inductive Availability where
  | available
  | deprecated (message : String)
  | unavailable (message : String)
deriving Inhabited

/-- How bad a use is: the worse of two availabilities is kept when a
declaration is given again. -/
def Availability.rank : Availability → Nat
  | .available => 0
  | .deprecated _ => 1
  | .unavailable _ => 2

/-- The availability a declaration given again has: the worse of what
the earlier and the new declaration say, the earlier on a tie. -/
def Availability.join (earlier later : Availability) : Availability :=
  if later.rank > earlier.rank then later else earlier

/-- What an address found by constant folding is counted from. -/
inductive AddressBase where
  /-- A declared object or function, by its number among the declarations. -/
  | decl (id : Nat)
  /-- A compound literal or a label, by its first token, and whether it
  lasts as long as the program does. -/
  | literal (tok : Nat) (lasting : Bool)
  /-- A string literal, by its first token, with the values of its
  elements (the terminating zero left out) and their size in bytes. -/
  | text (tok : Nat) (units : List Int) (unit : Nat)
  /-- Nothing: the address is the offset itself, as a number converted to a
  pointer gives. -/
  | absolute
deriving DecidableEq, Repr, Inhabited

/-- A value constant folding finds for an expression: an integer, a
floating value, or an address with its offset in bytes, unknown when a
member or an element of unknown size was stepped to. An integer that holds
an address is an address too. -/
inductive Folded where
  | int (v : Int)
  | real (v : FloatValue)
  | address (base : AddressBase) (offset : Option Int)
deriving Inhabited

/-- A declaration of an ordinary name. -/
structure DeclEntry where
  kind : DeclKind
  name : String
  ty : CType
  nameTok : Nat
  static : Bool := false
  defined : Bool := false
  /-- Its value, for an enumerator. -/
  value : Int := 0
  /-- The names of its parameters, for a function. -/
  paramNames : List String := []
  /-- The alignment in bytes an attribute asks for, for a typedef name or
  an object. -/
  align : Option Nat := none
  /-- Whether it is an object declared `register`. -/
  register : Bool := false
  /-- The enumeration an enumerator belongs to. -/
  tag : Option Nat := none
  /-- The attributes of a function that say its result matters:
  `warn_unused_result`, `pure` or `const`, in that order of precedence. -/
  resultAttr : Option String := none
  /-- Whether it is a function declared `_Noreturn`. -/
  noreturn : Bool := false
  /-- Whether it is a function the compiler knows by name. -/
  builtin : Bool := false
  /-- For a function, whether a declaration gave its parameter types; a
  definition that lists only their names does not. -/
  prototypeWritten : Bool := true
  /-- The parameters, counted from 1, that must not be given a null
  pointer: none if the function says nothing, the empty list if it says
  so of every pointer parameter. -/
  nonnull : Option (List Nat) := none
  /-- The format strings its `format` attributes say it takes. -/
  formats : List Language.FormatRole := []
  /-- The parameter, counted from 1, whose value the `alloc_align`
  attribute says the result is aligned to. -/
  allocAlign : Option Nat := none
  /-- The initializer of a variable whose value may not change: an array
  of constant elements, or a constant pointer to a constant. -/
  constantInit : Option Built := none
  /-- What its attributes say of a use of it. -/
  availability : Availability := .available
  /-- For a parameter written with an array or function type, that type. -/
  shown : Option CType := none
  /-- For a function, each parameter's type as written when that is an
  array or function type: a value converted to such a parameter's type is
  shown with the type as written. -/
  paramShown : List (Option CType) := []
  /-- For a function, whether a declaration of it so far says `inline`. -/
  inlined : Bool := false
  /-- For a variable, whether it is declared at file scope, and whether
  that declaration is a tentative definition: no initializer, and not
  `extern`. -/
  fileScope : Bool := false
  tentative : Bool := false
  /-- For a variable whose type is `const` and not `volatile`, the value
  its initializer folds to. -/
  folded : Option Folded := none
deriving Inhabited

/-- The cursor kind of a declaration. -/
def DeclKind.cursor : DeclKind → Tree.Kind
  | .variable => .varDecl
  | .function => .functionDecl
  | .parameter => .parmDecl
  | .typedef => .typedefDecl
  | .enumerator => .enumConstantDecl
  | .field => .fieldDecl

/-- A member of a structure or union. -/
structure Member where
  name : String
  ty : CType
  decl : Nat
  /-- Its width in bits, for a bit-field. -/
  bits : Option Nat := none
  /-- Whether it is packed, and the alignment in bytes an attribute asks
  for. -/
  packed : Bool := false
  align : Option Nat := none
deriving Inhabited

/-- A structure, union or enumeration. -/
structure TagEntry where
  kind : TagKind
  name : Option String
  /-- The token of its name, or of its keyword when it has none. -/
  locTok : Nat
  complete : Bool := false
  members : List Member := []
  /-- The name a typedef gave it when it has none of its own. -/
  typedefName : Option String := none
  /-- For an enumeration, whether a value is negative, and the integer
  type that holds its values. -/
  negative : Bool := false
  underlying : Basic := .uint
  /-- Whether it is packed, the alignment in bytes an attribute asks for,
  and the largest alignment of a member that a `#pragma pack` allows. -/
  packed : Bool := false
  align : Option Nat := none
  maxFieldAlign : Option Nat := none
  /-- Where its keyword stands (`file:line:col`), which names it when it
  has no name of its own. -/
  place : String := ""
  /-- Whether it is an unnamed member of a structure or union, whose own
  members belong to the enclosing one. -/
  anonymousMember : Bool := false
  /-- For an enumeration, its enumerators and their values, in order. -/
  enumerators : List (String × Int) := []
deriving Inhabited

/-- The members an initializer gives values to: all but the bit-fields
without a name. -/
def TagEntry.initialized (t : TagEntry) : List Member :=
  t.members.filter fun m => !(m.name.isEmpty && m.bits.isSome)

/-- A scope: the ordinary names and tags declared in it. -/
structure Scope where
  names : Std.HashMap String Nat := {}
  tags : Std.HashMap String Nat := {}
deriving Inhabited

/-- A bound of a `case` label: its value in the type it is written in,
that type's width and signedness, where the bound begins, and the
declaration it names when it is written as one (through parentheses and
casts). -/
structure CaseBound where
  value : Int
  width : Nat
  unsigned : Bool
  start : Source.Loc
  name : Option String := none
deriving Inhabited

/-- A label of a `switch` statement, in the order written: a `case` with
its bound or the two bounds of its range, or a `default`. -/
inductive SwitchLabel where
  | case (low : CaseBound) (high : Option CaseBound) (order : Nat)
  | default (loc : Source.Loc)
deriving Inhabited

/-- A `switch` statement being read: the type of its condition before and
after promotion, where the condition is reported and its value when it is
constant, and the labels seen so far. -/
structure SwitchFrame where
  promoted : CType
  written : CType
  condAt : Source.Loc
  condValue : Option Int := none
  labels : Array SwitchLabel := #[]
deriving Inhabited

/-- The state of parsing. -/
structure PState where
  toks : Array PpToken
  files : Array SourceFile
  pos : Nat := 0
  /-- The furthest token index looked at. -/
  seen : Nat := 0
  decls : Array DeclEntry := #[]
  tags : Array TagEntry := #[]
  scopes : List Scope := [{}]
  warnings : Array (Nat × Diagnostic) := #[]
  /-- Warnings about what the function being defined does when it runs,
  given once its body is complete. -/
  pending : Array (Diagnostic × Nat) := #[]
  /-- The `switch` statements, by first token, on an enumeration with a
  label for each of its values. -/
  coveredSwitches : List Nat := []
  /-- The return type and name of the function being defined. -/
  function : Option (CType × String) := none
  /-- The declaration of the function being defined. -/
  functionDecl : Option Nat := none
  /-- How deep parentheses, square brackets and braces are nested. -/
  parens : Nat := 0
  squares : Nat := 0
  braces : Nat := 0
  /-- Loop nesting, for `break` and `continue`, and the enclosing `switch`
  statements, innermost first. -/
  loops : Nat := 0
  switches : List SwitchFrame := []
  /-- The `else` that ended the statement just read, when it ended with
  one, for the warning about an `else` that belongs to an inner `if`. -/
  trailingElse : Option Nat := none
  /-- The labels defined and used in the current function. -/
  labelsDefined : List String := []
  labelsUsed : List (String × Nat) := []
  /-- The `#pragma pack` directives, each with the index of the token it
  stands before. -/
  packs : Array (Nat × PackAction) := #[]
  /-- The files that are system headers, where the warnings raised to
  errors by default are not given. -/
  systemFiles : List Nat := []
  /-- Where the macro `NULL` comes to be defined (true) or undefined
  (false), each with the index of the token it stands before. -/
  nullMacro : Array (Nat × Bool) := #[]
  /-- The functions used while not defined that must be defined in this
  unit (those declared `static` or `inline`), each with its first use. -/
  undefinedUses : Array (String × Nat) := #[]
  /-- How many operands that are never evaluated (of `sizeof`, `typeof`,
  `_Generic`'s choice) enclose the current token. -/
  unevaluated : Nat := 0
  /-- How many expressions whose value the compiler must find before the
  program runs (an array size in a declarator, a case label, an
  enumerator's value, a bit-field's width, an alignment, a static
  assertion, an array designator) enclose the current token. -/
  constantEvaluated : Nat := 0

/-- Why parsing stopped: an error, with how far the tokens had been read
and the warnings given before it, or a nesting deeper than the parser
follows. -/
inductive Stop where
  | failed (d : Diagnostic) (seen : Nat) (warnings : Array (Nat × Diagnostic))
  | exhausted
deriving Inhabited

/-- Parsing actions. -/
abbrev P := StateT PState (Except Stop)

/-- The largest member alignment `#pragma pack` allows at token `i`. -/
def PState.packAt (st : PState) (i : Nat) : Option Nat :=
  packLimit ((st.packs.toList.filter (·.1 ≤ i)).map (·.2))

/-- Whether the macro `NULL` is defined where token `i` stands. -/
def PState.nullDefinedAt (st : PState) (i : Nat) : Bool :=
  ((st.nullMacro.toList.filter (·.1 ≤ i)).getLast?.map (·.2)).getD false

/-- The token at index `i`, or the last token (the end of input). -/
def PState.tokAt (st : PState) (i : Nat) : PpToken :=
  st.toks[i]?.getD (st.toks.back?.getD default)

/-- Whether token `i` is the first of its line: the line it is said to be
on is not that of the token before it. -/
def PState.startsLine (st : PState) (i : Nat) : Bool :=
  let line (l : Loc) : Nat := ((st.files[l.file]?).map (fun f => (f.pos l.offset).line)).getD 0
  match i with
  | 0 => true
  | k + 1 =>
    let a := (st.tokAt k).loc
    let b := (st.tokAt (k + 1)).loc
    a.file != b.file || line a != line b

/-- The current token. -/
def cur : P PpToken := do
  let st ← get
  set { st with seen := max st.seen st.pos }
  return st.tokAt st.pos

/-- The token `k` places ahead. -/
def peekAt (k : Nat) : P PpToken := do
  let st ← get
  set { st with seen := max st.seen (st.pos + k) }
  return st.tokAt (st.pos + k)

/-- The index of the current token. -/
def curIndex : P Nat := do return (← get).pos

/-- Move past the current token, returning its index. -/
def advance : P Nat := do
  let st ← get
  let i := st.pos
  set { st with pos := min (i + 1) (st.toks.size - 1), seen := max st.seen (i + 1) }
  return i

/-- Whether the input has ended. -/
def atEnd : P Bool := do
  let st ← get
  return st.pos + 1 ≥ st.toks.size

/-- Stop with an error. -/
def failAt {α : Type} (l : Loc) (text : String) : P α := do
  let st ← get
  throw (.failed (.error l text) st.seen st.warnings)

/-- Stop with an error at a token. -/
def failTok {α : Type} (t : PpToken) (text : String) : P α :=
  failAt t.reportLoc text

/-- Stop with an error at the current token. -/
def failHere {α : Type} (text : String) : P α := do
  failTok (← cur) text

/-- Stop with a fatal error. -/
def fatalAt {α : Type} (l : Loc) (text : String) : P α := do
  let st ← get
  throw (.failed ⟨.fatal, some l, text, none⟩ st.seen st.warnings)

/-- Stop with an error that a warning option controls, raised to an
error. -/
def failWithOption {α : Type} (l : Loc) (text : String) (option : String) : P α := do
  let st ← get
  throw (.failed ⟨.error, some l, text, some option⟩ st.seen st.warnings)

/-- Parse an operand that is never evaluated. -/
def unevaluatedOperand {α : Type} (x : P α) : P α := do
  modify fun st => { st with unevaluated := st.unevaluated + 1 }
  let r ← x
  modify fun st => { st with unevaluated := st.unevaluated - 1 }
  return r

/-- Run a parser over an expression whose value is needed before the
program runs: warnings about what it would do when run are not given. -/
def constantOperand {α : Type} (x : P α) : P α := do
  modify fun st => { st with constantEvaluated := st.constantEvaluated + 1 }
  let r ← x
  modify fun st => { st with constantEvaluated := st.constantEvaluated - 1 }
  return r

/-- Whether a place is in a system header. -/
def inSystemHeader (l : Loc) : P Bool := do
  return (← get).systemFiles.contains l.file

/-- Record a warning. -/
def warn (l : Loc) (text : String) (option : String) : P Unit :=
  modify fun st => { st with warnings := st.warnings.push (st.seen, .warning l text option) }

/-- Record a warning at token `at_` about what the program does when it
runs: inside a function it is given once the function's body is complete,
after the warnings given while the body was read, and only if the code at
`at_` can run; outside one, at once. In an operand that is never evaluated
it is not given. -/
def warnLater (at_ : Nat) (text : String) (option : String) : P Unit :=
  modify fun st =>
    let d := Diagnostic.warning (st.tokAt at_).reportLoc text option
    if st.unevaluated > 0 || st.constantEvaluated > 0 then st
    else if st.function.isSome then { st with pending := st.pending.push (d, at_) }
    else { st with warnings := st.warnings.push (st.seen, d) }

/-- Give the warnings kept for the end of the function body, but those
about code that never runs. -/
def flushPending (unreached : Nat → Bool) : P Unit :=
  modify fun st =>
    let kept := (st.pending.filter fun (_, at_) => !unreached at_).map fun (d, _) => (st.seen, d)
    { st with warnings := st.warnings ++ kept, pending := #[] }

/-- Record a message that is not an error: a warning, or a note that
belongs to the warning before it. -/
def remark (d : Diagnostic) : P Unit :=
  modify fun st => { st with warnings := st.warnings.push (st.seen, d) }

/-- Record a warning that no option controls. -/
def warnAlways (l : Loc) (text : String) : P Unit := remark ⟨.warning, some l, text, none⟩

/-- Record a note. -/
def note (l : Loc) (text : String) : P Unit := remark (.note l text)

/-- Whether the current token is the punctuator `p`. -/
def isPunct (p : String) : P Bool := do return (← cur).isPunct p

/-- Whether the current token is the keyword or identifier `s`. -/
def isWord (s : String) : P Bool := do return (← cur).isIdent s

/-- Move past the punctuator `p` if it is current. -/
def eatPunct (p : String) : P (Option Nat) := do
  if ← isPunct p then return some (← advance) else return none

/-- Where a missing token is reported: just after the previous token when
that token ends a piece of the file or an expansion, else at the current
token. -/
def missingLoc : P Loc := do
  let st ← get
  let t := st.tokAt st.pos
  if st.pos = 0 then return t.reportLoc
  let prev := st.tokAt (st.pos - 1)
  match prev.origin with
  | none => return prev.spellEnd
  | some o =>
    let sameExpansion := match t.origin with
      | some o' => o'.start == o.start
      | none => false
    if sameExpansion then return t.reportLoc else return o.stop

/-- Expect the punctuator `p`, or stop with `text` at the place a missing
token is reported. -/
def expectPunct (p : String) (text : String) : P Nat := do
  match ← eatPunct p with
  | some i => return i
  | none => failAt (← missingLoc) text

/-- The deepest nesting of one kind of bracket the parser accepts. -/
def bracketLimit : Nat := 256

/-- How deep the brackets of the kind that `p` opens are nested. -/
def PState.depthOf (st : PState) (p : String) : Nat :=
  if p == "(" then st.parens else if p == "[" then st.squares else st.braces

/-- Change the nesting count of the brackets of the kind `p` opens or closes. -/
def PState.withDepth (st : PState) (p : String) (f : Nat → Nat) : PState :=
  if p == "(" || p == ")" then { st with parens := f st.parens }
  else if p == "[" || p == "]" then { st with squares := f st.squares }
  else { st with braces := f st.braces }

/-- Move past an opening bracket, which is current; past the limit of
nesting this stops with a fatal error. -/
def openBracket (p : String) : P Nat := do
  let st ← get
  if st.depthOf p ≥ bracketLimit then
    fatalAt (← cur).reportLoc s!"bracket nesting level exceeded maximum of {bracketLimit}"
  let i ← advance
  modify fun st => st.withDepth p (· + 1)
  return i

/-- Expect a closing bracket, reporting `expected 'p'` at the current token
when it is missing. -/
def closeBracket (p : String) : P Nat := do
  match ← eatPunct p with
  | some i =>
    modify fun st => st.withDepth p (· - 1)
    return i
  | none => failHere s!"expected '{p}'"

/-- Enter a scope. -/
def pushScope : P Unit := modify fun st => { st with scopes := {} :: st.scopes }

/-- Leave a scope. -/
def popScope : P Unit := modify fun st => { st with scopes := st.scopes.drop 1 }

/-- The declaration a name refers to, searching from the innermost scope. -/
def lookupName (name : String) : P (Option Nat) := do
  let st ← get
  return st.scopes.findSome? (·.names.get? name)

/-- The tag a name refers to, searching from the innermost scope. -/
def lookupTag (name : String) : P (Option Nat) := do
  let st ← get
  return st.scopes.findSome? (·.tags.get? name)

/-- The tag a name refers to in the innermost scope. -/
def lookupTagHere (name : String) : P (Option Nat) := do
  let st ← get
  return (st.scopes.head?.bind (·.tags.get? name))

/-- The declaration a name refers to in the innermost scope. -/
def lookupNameHere (name : String) : P (Option Nat) := do
  let st ← get
  return (st.scopes.head?.bind (·.names.get? name))

/-- Whether a name is a typedef name in scope. -/
def isTypedefName (name : String) : P Bool := do
  match ← lookupName name with
  | some d => return ((← get).decls[d]?.map (·.kind == .typedef)).getD false
  | none => return false

/-- Add a declaration, visible in the innermost scope (or the file scope
when `fileScope`), and give its number. -/
def declare (e : DeclEntry) (fileScope : Bool := false) : P Nat := do
  let st ← get
  let id := st.decls.size
  let bind (sc : Scope) : Scope := { sc with names := sc.names.insert e.name id }
  let scopes := if fileScope then
      match st.scopes.reverse with
      | last :: more => (bind last :: more).reverse
      | [] => [bind {}]
    else
      match st.scopes with
      | sc :: more => bind sc :: more
      | [] => [bind {}]
  set { st with decls := st.decls.push e, scopes := scopes }
  return id

/-- Add a declaration to the table without making its name visible. -/
def record (e : DeclEntry) : P Nat := do
  let st ← get
  set { st with decls := st.decls.push e }
  return st.decls.size

/-- The declaration with a number. -/
def declOf (id : Nat) : P DeclEntry := do
  return (← get).decls[id]?.getD default

/-- Check a use, at token `t`, of the declaration `d`: using one that may
not be used is an error, and using a deprecated one a warning. Neither is
reported inside a function that is itself marked so. -/
def checkAvailability (t : PpToken) (d : DeclEntry) : P Unit := do
  let within ← match (← get).functionDecl with
    | some id => pure (← declOf id).availability
    | none => pure .available
  let withMessage (base m : String) : String := if m.isEmpty then base else base ++ ": " ++ m
  match d.availability with
  | .unavailable m =>
    if within.rank < 2 then failTok t (withMessage s!"'{d.name}' is unavailable" m)
  | .deprecated m =>
    if within.rank < 1 then
      warn t.reportLoc (withMessage s!"'{d.name}' is deprecated" m) "-Wdeprecated-declarations"
  | .available => pure ()

/-- The tag with a number. -/
def tagOf (id : Nat) : P TagEntry := do
  return (← get).tags[id]?.getD default

/-- Change the tag with a number. -/
def updateTag (id : Nat) (f : TagEntry → TagEntry) : P Unit :=
  modify fun st => { st with tags := st.tags.modify id f }

/-- Add a tag, visible in the innermost scope when it has a name. -/
def declareTag (e : TagEntry) : P Nat := do
  let st ← get
  let id := st.tags.size
  let scopes := match e.name, st.scopes with
    | some n, sc :: more => { sc with tags := sc.tags.insert n id } :: more
    | _, scs => scs
  set { st with tags := st.tags.push e, scopes := scopes }
  return id

/-- How a tag without a name is written: `(unnamed struct at file:line:col)`,
or `(anonymous union at ...)` for a member that has none. The declaration
itself leaves out the second keyword, since its type already starts with one. -/
def TagEntry.unnamedText (t : TagEntry) (declared : Bool) : String :=
  let word := if t.anonymousMember then "anonymous" else "unnamed"
  let kind := if declared then "" else " " ++ t.kind.keyword
  if t.place.isEmpty then "(" ++ word ++ kind ++ ")"
  else "(" ++ word ++ kind ++ " at " ++ t.place ++ ")"

/-- How a tag is written in a type, given the table of tags; `declared`
for the type of the tag's own declaration. -/
def tagSpelling (declared : Bool) (tags : Array TagEntry) (id : Nat) : String :=
  match tags[id]? with
  | some t =>
    match t.name, t.typedefName with
    | some n, _ => t.kind.keyword ++ " " ++ n
    | none, some n => n
    | none, none => t.kind.keyword ++ " " ++ t.unnamedText declared
  | none => "int"

/-- How a tag is written in a type, given the table of tags. -/
def tagName (tags : Array TagEntry) (id : Nat) : String := tagSpelling false tags id

/-- How a tag is written in a type. -/
def PState.tagText (st : PState) (id : Nat) : String := tagName st.tags id

/-- The text of a type in the current state. -/
def spellType (t : CType) : P String := do
  let st ← get
  return t.spell st.tagText

/-- The text of a type in quotes, as messages give it: followed by what
its typedef names stand for when that reads differently. -/
def quoteType (t : CType) : P String := do
  return t.quotedWithAka (← get).tagText

/-- The node reached by stepping into the first child while `p` holds. -/
def Built.stripWhile (p : Built → Bool) : Nat → Built → Built
  | 0, n => n
  | f + 1, n =>
    if p n then
      match n.children with
      | c :: _ => stripWhile p f c
      | [] => n
    else n

/-- The expression without the parentheses around it. -/
def Built.withoutParens (n : Built) : Built := n.stripWhile (·.kind == .parenExpr) 256

/-- The expression without the conversions the compiler put around it. -/
def Built.withoutConversions (n : Built) : Built := n.stripWhile (·.converted) 256

/-- The expression without parentheses and inserted conversions around it. -/
def Built.bare (n : Built) : Built :=
  n.stripWhile (fun m => m.kind == .parenExpr || m.converted) 256

/-- Whether a unary operator node is written after its operand. -/
def Built.isPostfix (n : Built) : Bool :=
  match n.children with
  | c :: _ => c.first == n.first
  | [] => false

/-- The token of an operator: the first token of a prefix operator, the
last of a postfix one, and for a binary, assignment or conditional operator
the token after its first operand. -/
def Built.operatorTok (n : Built) : Nat :=
  if n.kind == .unaryOperator then (if n.isPostfix then n.last else n.first)
  else
    match n.children with
    | c :: _ => c.last + 1
    | [] => n.first

/-- The operator of an operator node as written. -/
def PState.operatorOf (st : PState) (n : Built) : String :=
  if n.kind == .unaryOperator || n.kind == .binaryOperator ||
      n.kind == .compoundAssignmentOperator then (st.tokAt n.operatorTok).text
  else ""

end CInspect.Parse
