import CInspect.Parse.ExprChecks
import CInspect.Language.FormatString
/-!
The check of a call's format string against its data arguments.

A function takes a format string by a `format` attribute of one of its
declarations or, for a function of the C library that the compiler knows,
by its entry in the catalogue. The format argument is followed through
parentheses, conversions and casts, a constant offset (`"..." + k`,
`&"..."[k]`) and a conditional operator to the string literals it may be;
each is read by `Language.checkFormat`, and what that finds is reported at
the place in the source text that the byte concerned is written at, or at
the data argument concerned. Once every literal is read, a data argument
that none of them uses is reported. A format argument that is no literal at
all is reported when no data arguments follow it: the call then prints text
that the program did not write as its format.
-/

namespace CInspect.Parse

open CInspect.Types CInspect.Source CInspect.Preprocess CInspect.Lex CInspect.Language

/-- The formats a function takes: those its declarations' attributes give,
or else the one the catalogue gives a library function. -/
def DeclEntry.formatRoles (d : DeclEntry) : List FormatRole :=
  if !d.formats.isEmpty then d.formats
  else if d.builtin then ((findBuiltin? d.name).bind (·.formatRole?)).toList
  else []

/-- Whether converting a value of type `t` to `passed` is one of the
promotions an argument of a variadic function gets: a type narrower than
`int` to `int`, an enumeration to its promoted type, `float` to `double`. -/
def PState.isArgumentPromotion (st : PState) (t passed : CType) : Bool :=
  match t.canonical, passed.canonical with
  | .basic b _, .basic p _ =>
    (b.isInteger && b.rank < 3 && p == b.promote) ||
      (b.isFloating && p.isFloating && b.floatOrder < p.floatOrder)
  | .tag i .enum _, .basic p _ => p == (st.enumBasic i).promote
  | _, _ => false

/-- What the format check needs to know of an argument as passed. -/
def PState.formatArgument (st : PState) (c : TExpr) : FormatArgument :=
  let n := c.node
  let before : Option CType :=
    if n.converted && n.kind == .unexposedExpr then
      match n.children with
      | [inner] => inner.ty.filter (fun t => st.isArgumentPromotion t c.ty)
      | _ => none
    else none
  let byte := n.kind == .characterLiteral && (c.value.map (fun v => 0 ≤ v && v < 256)).getD false
  { passed := c.ty, beforePromotion := before, byteCharacter := byte, boolean := st.knownBoolean 64 n }

/-- The bytes of the string literal spelled by tokens `i` to `j`, and for
each the token and the byte offset in its text that it is written at; the
closing quote of the last token comes last, as the place of the end. -/
def PState.literalPlaces (st : PState) (i j : Nat) : Array Char × Array (Nat × Nat) :=
  let toks := List.range (j + 1 - i)
  let (bytes, places) := toks.foldl (fun (acc : Array Char × Array (Nat × Nat)) k =>
      let t := st.tokAt (i + k)
      let (units, _, _) := stringUnits t.text .plain
      (acc.1 ++ (units.map Char.ofNat).toArray,
        acc.2 ++ ((stringUnitOffsets t.text).map (fun o => (i + k, o))).toArray)) (#[], #[])
  (bytes, places.push (j, (st.tokAt j).text.utf8ByteSize - 1))

/-- Whether a literal spelled by tokens `i` to `j` is a wide one (`L`, `u`
or `U`), whose characters are no bytes. -/
def PState.wideLiteral (st : PState) (i j : Nat) : Bool :=
  (List.range (j + 1 - i)).any fun k =>
    let text := (st.tokAt (i + k)).text
    let kind := LiteralKind.ofPrefix (String.ofList (text.toList.takeWhile (· != '"')))
    kind == .wide || kind == .utf16 || kind == .utf32

/-- How a format argument turned out: no literal, so that the call may be
given any text; nothing to check, a null pointer; or literals checked. -/
inductive LiteralCheck where
  | notLiteral
  | unchecked
  | checked
deriving DecidableEq, Inhabited

/-- The order of the outcomes, a conditional taking the lower of its two. -/
def LiteralCheck.rank : LiteralCheck → Nat
  | .notLiteral => 0
  | .unchecked => 1
  | .checked => 2

/-- The truth of a condition whose value is a constant. -/
def Built.constantTruth (n : Built) : Option Bool :=
  match n.value, n.real with
  | some v, _ => some (v != 0)
  | none, some r => some (!r.isZero)
  | none, none => none

/-- Report what reading a literal found, its bytes written at `places`,
read from byte `offset`, against data arguments `data`. A literal that is
not the call's argument itself but the value of a constant it names has
what points into it reported at that argument, `named`. -/
def reportFormatIssues (places : Array (Nat × Nat)) (offset : Nat) (literal : Nat) (named : Option Loc)
    (data : List TExpr) (issues : List FormatIssue) : P Unit := do
  for issue in issues do
    let st ← get
    let inLiteral (l : Loc) : Loc :=
      match named, issue with
      | some _, .privacyMark _ _ => l
      | some n, _ => n
      | none, _ => l
    let loc : Option Loc := match issue.place with
      | .byte b =>
        let (tok, off) := places.getD (offset + b) (places.back?.getD (literal, 0))
        some (inLiteral ((st.tokAt tok).charLoc off))
      | .argumentStart k => (data[k]?).map fun a => (st.tokAt a.node.first).reportLoc
      | .argument k => (data[k]?).map fun a => (st.tokAt a.node.locTok).reportLoc
      | .literal => some (inLiteral (st.tokAt literal).reportLoc)
    if let some l := loc then
      warn l (issue.message (CType.quotedWithAka st.tagText)) issue.option

/-- Check the literals that the format argument `n` may be, read from byte
`offset` on, against the call's data arguments `data`: report what each
holds, and give how the argument turned out and which data arguments the
literals leave unused. -/
def checkFormatSource (call : FormatCall) (data : List TExpr) (named : Option Loc) : Nat → Built → Int →
    P (LiteralCheck × Coverage)
  | 0, _, _ => return (.notLiteral, .unknown)
  | f + 1, n, offset => do
    let st ← get
    let n := n.withoutCasts 256
    let integer := (n.ty.map (·.isInteger)).getD false
    if integer && n.value == some 0 then return (.unchecked, .unknown)
    match n.kind, n.children with
    | .conditionalOperator, [c, a, b] =>
      let truth := c.constantTruth
      let (left, leftUnused) ←
        if truth == some false then pure (LiteralCheck.unchecked, Coverage.unknown)
        else checkFormatSource call data named f a offset
      if left == .notLiteral || truth == some true then return (left, leftUnused)
      let (right, rightUnused) ← checkFormatSource call data named f b offset
      let outcome := if truth != some false && left.rank < right.rank then left else right
      return (outcome, leftUnused.join rightUnused)
    | .stringLiteral, _ =>
      if st.wideLiteral n.first n.last then
        warn (named.getD (st.tokAt n.first).reportLoc) "format string should not be a wide string" "-Wformat"
        return (.checked, .unknown)
      let (bytes, places) := st.literalPlaces n.first n.last
      if offset < 0 || offset > bytes.size then return (.notLiteral, .unknown)
      let (issues, unused) := checkFormat call (bytes.extract offset.toNat bytes.size)
      reportFormatIssues places offset.toNat n.first named data issues
      return (.checked, unused)
    | .binaryOperator, [l, r] =>
      let o := st.operatorOf n
      let constant (m : Built) : Option Int :=
        if (m.ty.map (·.isInteger)).getD false then m.value else none
      if o != "+" && o != "-" then return (.notLiteral, .unknown)
      match constant l, constant r with
      | some v, none => if o == "+" then checkFormatSource call data named f r (offset + v) else return (.notLiteral, .unknown)
      | none, some v => checkFormatSource call data named f l (if o == "+" then offset + v else offset - v)
      | _, _ => return (.notLiteral, .unknown)
    | .unaryOperator, [m] =>
      match st.operatorOf n, m.withoutParens.kind, m.withoutParens.children with
      | "&", .arraySubscriptExpr, [base, index] =>
        match index.value with
        | some v => checkFormatSource call data named f base (offset + v)
        | none => return (.notLiteral, .unknown)
      | _, _, _ => return (.notLiteral, .unknown)
    | .declRefExpr, _ =>
      let some id := n.referenced | return (.notLiteral, .unknown)
      let e ← declOf id
      let some init := e.constantInit | return (.notLiteral, .unknown)
      -- a brace around the literal that initializes a character array
      let init := match init.kind, init.children with
        | .initListExpr, [only] => if only.withoutParens.kind == .stringLiteral then only.withoutParens else init
        | _, _ => init
      let here := named.getD (st.tokAt n.locTok).reportLoc
      checkFormatSource call data (some here) f init offset
    | _, _ => return (.notLiteral, .unknown)

/-- Check a call of function `d`, whose closing parenthesis is token `rp`,
against the formats it takes: `args` are the arguments as written and
`converted` as passed. -/
def formatCheck (d : DeclEntry) (rp : Nat) (args converted : List TExpr) : P Unit := do
  for role in d.formatRoles do
    let st ← get
    if role.formatParam == 0 then continue
    let some format := args[role.formatParam - 1]?
      | do warn (st.tokAt rp).reportLoc "format string missing" "-Wformat"; continue
    let firstData := if role.firstData == 0 then 0 else role.firstData - 1
    let data := converted.drop firstData
    let call : FormatCall := { family := role.family, args := (data.map st.formatArgument).toArray,
                               vaList := role.firstData == 0, enumBasic := st.enumBasic }
    let (outcome, unused) ← checkFormatSource call data none 64 format.node 0
    if let .firstUnused k := unused then
      if let some a := data[k]? then
        warn (st.tokAt a.node.first).reportLoc "data argument not used by format string" "-Wformat-extra-args"
    if outcome == .notLiteral && role.family != .strftime && args.length == firstData then
      warn (st.tokAt format.node.first).reportLoc "format string is not a string literal (potentially insecure)"
        "-Wformat-security"

end CInspect.Parse
