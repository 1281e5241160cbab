import CInspect.Parse.Declaration
import CInspect.Parse.Switch
import CInspect.Parse.Jumps
import CInspect.Parse.Flow
/-!
Statements and function bodies.

A statement's extent runs from its first token to the end of its last
part: a `return` to its value, a `do` loop to the parenthesis after its
condition, a jump to its keyword or label; the semicolon that ends a
statement is not part of it, except for a declaration's. An expression
used as a statement, or as the first or third part of a `for`, gives way
to its value when it designates an object; a condition is converted to
its value as well, and a `switch` condition is promoted.

Only a compound statement holds declarations: the statement after a
label or a `case`, and the body of a loop or an `if`, is read as a
statement even when it starts like a declaration. A `case` label is an
integer constant converted to the promoted type of its `switch`; the
labels of a `switch` are checked together when its body ends
(`switchChecks`).

A function body shares its scope with the parameters. The labels a
function's `goto` statements name are checked when its body ends.
-/

namespace CInspect.Parse

open CInspect.Types CInspect.Lex CInspect.Preprocess CInspect.Source

/-- A node spanning tokens `first` to `last`, located at `first`. -/
def spanNode (kind : Tree.Kind) (first last : Nat) (children : List Built) (spelling : String := "") :
    Built :=
  { kind := kind, spelling := spelling, locTok := first, first := first, last := last,
    children := children }

/-- A condition of `if`, `while`, `do` or `for`: its value, which must be
scalar, checked as a truth value and as a completed expression. -/
def condition (e : TExpr) : P TExpr := do
  checkWrittenCondition e.node
  let e ← e.load
  if !e.ty.isScalar then
    failAt (← exprLoc e) s!"statement requires expression of scalar type ({← quoteType e.ty} invalid)"
  checkTruth e.node
  checkCompleted e.node
  return e

/-- An expression whose value is discarded, checked for a value that goes
unused and as a completed expression. -/
def discarded (e : TExpr) : P TExpr := do
  let e := e.rvalue
  unusedResult e.node
  checkCompleted e.node
  return e

/-- Expect the `;` after a statement of the kind `what`. -/
def expectStatementEnd (what : String) : P Nat :=
  expectPunct ";" s!"expected ';' after {what} statement"

/-- The width and signedness of an integer type. -/
def intShape (t : CType) : P IntShape := do
  match ← basicOf t with
  | some b => return { width := if b == .bool then 1 else b.width, unsigned := b.isUnsigned }
  | none => return { width := 32, unsigned := false }

/-- What the checks at the end of a switch need to know of it. -/
def SwitchFrame.shape (fr : SwitchFrame) : P SwitchShape := do
  let enumeration ← match fr.written.canonical with
    | .tag id .enum _ =>
      let t ← tagOf id
      if t.complete then pure (some (← quoteType fr.written, t.enumerators)) else pure none
    | _ => pure none
  return { promoted := ← intShape fr.promoted, written := ← intShape fr.written, condAt := fr.condAt,
           condValue := fr.condValue, enumeration := enumeration }

/-- Stop with an error given as a message. -/
def stopWith {α : Type} (d : Diagnostic) : P α := do
  let st ← get
  throw (.failed d st.seen st.warnings)

/-- Record the messages of a check, stopping at the first error. -/
def reportAll (ds : List Diagnostic) : P Unit := do
  for d in ds do
    if d.severity.isError then stopWith d
    remark d

/-- The declaration an expression names, through parentheses and casts. -/
def Built.namedThroughCasts : Built → Nat → Option String
  | _, 0 => none
  | n, f + 1 =>
    if n.kind == .declRefExpr then some n.spelling
    else if n.kind == .parenExpr || n.kind == .unexposedExpr || n.kind == .cStyleCastExpr then
      match n.children.getLast? with
      | some c => c.namedThroughCasts f
      | none => none
    else none

/-- The place an expression is reported at when a message concerns its
value: an operator's token for a binary or unary operator, else its
first token. -/
def exprPoint (e : TExpr) : P Source.Loc := do
  let st ← get
  let n := e.node
  if n.kind == .binaryOperator || n.kind == .compoundAssignmentOperator then
    match n.children.head? with
    | some a => return (st.tokAt (a.last + 1)).reportLoc
    | none => return (st.tokAt n.first).reportLoc
  else if n.kind == .unaryOperator then
    match n.children.head? with
    | some a => return (st.tokAt (if a.first == n.first then n.last else n.first)).reportLoc
    | none => return (st.tokAt n.first).reportLoc
  else return (st.tokAt n.first).reportLoc

/-- A bound of a `case` label inside a switch whose condition has the
promoted type `promoted`: it must be an integer constant; it is converted
to that type, the conversion naming nothing. -/
def caseBound (e : TExpr) (promoted : CType) : P (TExpr × CaseBound) := do
  if !e.ty.isInteger then
    failAt (← exprLoc e) s!"integer constant expression must have integer type, not {← quoteType e.ty}"
  let value ← match ← foldedConstant e with
    | some v => pure v
    | none => failAt (← exprLoc e) "expression is not an integer constant expression"
  let shape ← intShape e.ty
  let bound : CaseBound := { value := value, width := shape.width, unsigned := shape.unsigned,
                             start := ← exprLoc e, name := e.node.namedThroughCasts 64 }
  let r := e.rvalue
  let c ← castTo r promoted
  let c := if c.node.kind == .unexposedExpr && c.node.children.length == 1 && c.ty.canonical != r.ty.canonical
    then { c with node := { c.node with spelling := "" } } else c
  return (c, bound)

/-- Expect the `:` of a label; a `;` in its place is reported where it
stands. -/
def labelColon (what : String) : P Nat := do
  match ← eatPunct ":" with
  | some i => return i
  | none =>
    if ← isPunct ";" then failHere s!"expected ':' after {what}"
    failAt (← missingLoc) s!"expected ':' after {what}"

/-- Stop when a label ends a compound statement, reporting just after
its colon. -/
def labelNotLast (colon : Nat) : P Unit := do
  if ← isPunct "\x7d" then
    failAt ((← get).tokAt colon).spellEnd "label at end of compound statement: expected statement"

/-- Warn about a body that is an empty statement on the same line as
`anchor`, the end of the head of its statement. -/
def emptyBodyCheck (anchor : Nat) (body : Built) (text : String) : P Unit := do
  if body.kind == .nullStmt then
    let st ← get
    let semi := st.tokAt body.first
    let lineOf (l : Source.Loc) : Nat := ((st.files[l.file]?).map (·.pos l.offset |>.line)).getD 0
    let a := (st.tokAt anchor).reportLoc
    if semi.origin.isNone && a.file == semi.spell.file && lineOf a == lineOf semi.spell then
      warn semi.spell text "-Wempty-body"

/-- Forget the `else` that ended the statement just read. -/
def clearTrailingElse : P Unit := modify fun st => { st with trailingElse := none }

/-- The words that begin a statement other than an expression or a
declaration. -/
def statementWords : List String :=
  ["if", "while", "do", "for", "switch", "case", "default", "break", "continue", "goto", "return",
   "__attribute__", "__attribute", "asm", "__asm", "__asm__"]

/-- Whether the statement that starts at the current token is an
expression followed by `;`, in a compound statement where declarations
may stand. -/
def startsExpressionStatement : P Bool := do
  let t ← cur
  if t.isPunct "\x7b" || t.isPunct ";" || t.isPunct "\x7d" then return false
  if t.kind == .identifier then
    if (← peekAt 1).isPunct ":" && !reservedWords.contains t.text then return false
    if statementWords.contains t.text then return false
    if ← startsDeclaration then return false
  return true

/-- Look up the word a statement starts with as a name is looked up there:
one that declares nothing in scope (and is not called), or that names no
type while a name follows it, is a type written without its keyword when
it is the tag of a structure, union or enumeration. -/
def checkStatementWord : P Unit := do
  let t ← cur
  if t.kind != .identifier || reservedWords.contains t.text then return
  let n ← peekAt 1
  let nameFollows := n.kind == .identifier && !reservedWords.contains n.text
  let hidden ← match ← lookupName t.text with
    | none => pure !(n.isPunct "(")
    | some id =>
      let d ← declOf id
      pure (d.kind != .typedef && (nameFollows || ((n.isPunct "&" || n.isPunct "*") && d.ty.isFunction)))
  if hidden then
    if let some keyword ← tagKeywordOf? t.text then
      failTok t s!"must use '{keyword}' tag to refer to type '{t.text}'"

/-- The value of a statement expression: its last expression gives way to
its value, as an initializer's would, and is a completed expression. -/
def statementValue (e : TExpr) : P TExpr := do
  let e ← if e.ty.isVoid then pure e else e.load
  checkCompleted e.node
  return e

/-- An operand of an `asm` statement, `[name] "constraint" (expression)`;
an output must designate an object. -/
def asmOperand (e : TExpr) (output : Bool) (constraint : String) : P TExpr := do
  if output then
    if !e.lvalue then failAt (← exprLoc e) "invalid lvalue in asm output"
    return e
  -- an operand that may only be in memory is used as the object itself
  let memoryOnly := constraint.toList.all fun c => c == 'm' || c == 'o' || c == 'V' || c == '<' || c == '>' || c == '"'
  if memoryOnly then return e
  e.load

mutual

/-- A statement. Declarations are read only when `declarations` holds,
that is, directly inside a compound statement. -/
def statement (h : Hooks) : Nat → Bool → P Built
  | 0, _ => throw .exhausted
  | f + 1, declarations => do
    let t ← cur
    if t.isPunct "\x7b" then
      let r ← compound h f true
      clearTrailingElse
      return r
    if t.isPunct ";" then
      let i ← advance
      return spanNode .nullStmt i i []
    if t.isPunct "\x7d" then failHere "expected statement"
    if t.kind == .identifier then
      if (← peekAt 1).isPunct ":" && !reservedWords.contains t.text then
        let r ← labeled h f
        clearTrailingElse
        return r
      match t.text with
      | "if" => return ← ifStatement h f
      | "while" => return ← whileStatement h f
      | "do" =>
        let r ← doStatement h f
        clearTrailingElse
        return r
      | "for" => return ← forStatement h f
      | "switch" => return ← switchStatement h f
      | "case" =>
        let r ← caseStatement h f
        clearTrailingElse
        return r
      | "default" =>
        let r ← defaultStatement h f
        clearTrailingElse
        return r
      | "break" =>
        let i ← advance
        if (← get).loops == 0 && (← get).switches.isEmpty then
          failTok t "'break' statement not in loop or switch statement"
        let _ ← expectStatementEnd "break"
        return spanNode .breakStmt i i []
      | "continue" =>
        let i ← advance
        if (← get).loops == 0 then failTok t "'continue' statement not in loop statement"
        let _ ← expectStatementEnd "continue"
        return spanNode .continueStmt i i []
      | "goto" =>
        let i ← advance
        if ← isPunct "*" then
          let star ← advance
          let e ← expression h f
          let target : CType := .pointer (.basic .void { const := true }) {}
          let e ← convertFor .passing e target (some ((← get).tokAt star).reportLoc)
          checkCompleted e.node
          let _ ← expectStatementEnd "goto"
          return spanNode .indirectGotoStmt i e.node.last [e.node]
        let lt ← cur
        if lt.kind != .identifier then failHere "expected identifier"
        let li ← advance
        modify fun st => { st with labelsUsed := st.labelsUsed ++ [(lt.text, li)] }
        let _ ← expectStatementEnd "goto"
        return spanNode .gotoStmt i li [leafNode .labelRef li .error lt.text |> fun n => { n with ty := none }]
      | "return" => return ← returnStatement h f
      | "asm" | "__asm" | "__asm__" => return ← asmStatement h f
      | "__attribute__" | "__attribute" =>
        -- attributes before a lone `;` annotate an empty statement
        let saved ← get
        let first ← curIndex
        let attrs ← attributes h f
        if ← isPunct ";" then
          for a in attrs do
            if a.name != "fallthrough" then
              failTok ((← get).tokAt a.tok) s!"'{a.name}' attribute cannot be applied to a statement"
          let semi ← advance
          let empty := spanNode .nullStmt semi semi []
          return if attrs.isEmpty then empty else spanNode .unexposedStmt first semi [empty]
        set saved
        if declarations && (← startsDeclaration) then
          match ← declaration h f .block with
          | .done nodes first last _ => return spanNode .declStmt first last nodes
          | .function _ _ => failHere "function definition is not allowed here"
      | _ =>
        checkStatementWord
        if declarations && (← startsDeclaration) then
          match ← declaration h f .block with
          | .done nodes first last _ => return spanNode .declStmt first last nodes
          | .function _ _ => failHere "function definition is not allowed here"
    let e ← expression h f
    let _ ← expectPunct ";" "expected ';' after expression"
    return (← discarded e).node

/-- A compound statement; `{` is current. `scope` says whether it opens a
scope of its own. -/
def compound (h : Hooks) : Nat → Bool → P Built
  | 0, _ => throw .exhausted
  | f + 1, scope => do
    let lb ← openBracket "\x7b"
    if scope then pushScope
    let mut items : Array Built := #[]
    let bound := (← get).toks.size
    for _ in [0:bound] do
      if (← isPunct "\x7d") || (← atEnd) then break
      items := items.push (← statement h f true)
    let rb ← closeBracket "\x7d"
    if scope then popScope
    return spanNode .compoundStmt lb rb items.toList

/-- The braces of a statement expression; `{` is current. Its value is
that of its last statement when that is an expression, which is then
neither discarded nor warned about. -/
def statementExpressionBody (h : Hooks) : Nat → P (Built × Option TExpr)
  | 0 => throw .exhausted
  | f + 1 => do
    let lb ← openBracket "\x7b"
    pushScope
    let mut items : Array Built := #[]
    let mut value : Option TExpr := none
    let bound := (← get).toks.size
    for _ in [0:bound] do
      if (← isPunct "\x7d") || (← atEnd) then break
      value := none
      if ← startsExpressionStatement then
        checkStatementWord
        let e ← expression h f
        let _ ← expectPunct ";" "expected ';' after expression"
        if ← isPunct "\x7d" then
          let v ← statementValue e
          items := items.push v.node
          value := some v
        else items := items.push (← discarded e).node
      else items := items.push (← statement h f true)
    let rb ← closeBracket "\x7d"
    popScope
    return (spanNode .compoundStmt lb rb items.toList, value)

/-- An `asm` statement: qualifiers, then in parentheses the assembly text
and, after colons, the outputs, inputs, clobbered registers and labels. Its
node holds the output and input expressions. -/
def asmStatement (h : Hooks) : Nat → P Built
  | 0 => throw .exhausted
  | f + 1 => do
    let i ← advance
    let bound := (← get).toks.size
    for _ in [0:bound] do
      if (← isWord "volatile") || (← isWord "__volatile__") || (← isWord "__volatile") ||
          (← isWord "inline") || (← isWord "__inline__") || (← isWord "goto") then
        let _ ← advance
      else break
    if !(← isPunct "(") then failHere "expected '(' after 'asm'"
    let _ ← openBracket "("
    if (← cur).kind != .stringLit then failHere "expected string literal in 'asm'"
    let _ ← stringRun (← advance)
    let mut operands : Array Built := #[]
    -- the sections after the text: outputs, inputs, clobbers, labels
    for part in [0:4] do
      if (← eatPunct ":").isNone then break
      if part < 2 then
        for _ in [0:bound] do
          if (← cur).kind != .stringLit && !(← isPunct "[") then break
          if ← isPunct "[" then
            let _ ← advance
            if (← cur).kind != .identifier then failHere "expected identifier"
            let _ ← advance
            let _ ← closeBracket "]"
          let ct ← cur
          if ct.kind != .stringLit then failHere "expected string literal in 'asm'"
          let _ ← stringRun (← advance)
          let _ ← openAfter "asm operand"
          let e ← expression h f
          let _ ← closeBracket ")"
          let e ← asmOperand e (part == 0) ct.text
          operands := operands.push e.node
          if (← eatPunct ",").isNone then break
      else
        for _ in [0:bound] do
          if (← cur).kind != .stringLit && (← cur).kind != .identifier then break
          let _ ← advance
          if (← eatPunct ",").isNone then break
    let rp ← closeBracket ")"
    let _ ← expectPunct ";" "expected ';' after asm statement"
    return spanNode .asmStmt i rp operands.toList

/-- A labeled statement. -/
def labeled (h : Hooks) : Nat → P Built
  | 0 => throw .exhausted
  | f + 1 => do
    let t ← cur
    let i ← advance
    let _ ← advance
    if (← get).labelsDefined.contains t.text then failTok t s!"redefinition of label '{t.text}'"
    modify fun st => { st with labelsDefined := st.labelsDefined ++ [t.text] }
    if ← isPunct "\x7d" then failHere "expected statement"
    let sub ← statement h f false
    return spanNode .labelStmt i sub.last [sub] t.text

/-- An `if` statement. -/
def ifStatement (h : Hooks) : Nat → P Built
  | 0 => throw .exhausted
  | f + 1 => do
    let i ← advance
    if !(← isPunct "(") then failHere "expected '(' after 'if'"
    let _ ← openBracket "("
    let c ← condition (← expression h f)
    let rp ← closeBracket ")"
    clearTrailingElse
    let thenPart ← statement h f false
    let inner := (← get).trailingElse
    if ← isWord "else" then
      let e ← advance
      let elsePart ← statement h f false
      modify fun st => { st with trailingElse := some e }
      return spanNode .ifStmt i elsePart.last [c.node, thenPart, elsePart]
    if let some e := inner then
      warn ((← get).tokAt e).reportLoc "add explicit braces to avoid dangling else" "-Wdangling-else"
    emptyBodyCheck rp thenPart "if statement has empty body"
    clearTrailingElse
    return spanNode .ifStmt i thenPart.last [c.node, thenPart]

/-- A `while` loop. -/
def whileStatement (h : Hooks) : Nat → P Built
  | 0 => throw .exhausted
  | f + 1 => do
    let i ← advance
    if !(← isPunct "(") then failHere "expected '(' after 'while'"
    let _ ← openBracket "("
    let c ← condition (← expression h f)
    let _ ← closeBracket ")"
    modify fun st => { st with loops := st.loops + 1 }
    let body ← statement h f false
    modify fun st => { st with loops := st.loops - 1 }
    return spanNode .whileStmt i body.last [c.node, body]

/-- A `do` loop. -/
def doStatement (h : Hooks) : Nat → P Built
  | 0 => throw .exhausted
  | f + 1 => do
    let i ← advance
    modify fun st => { st with loops := st.loops + 1 }
    let body ← statement h f false
    modify fun st => { st with loops := st.loops - 1 }
    if !(← isWord "while") then failHere "expected 'while' in do/while loop"
    let _ ← advance
    if !(← isPunct "(") then failHere "expected '(' after 'while'"
    let _ ← openBracket "("
    let c ← condition (← expression h f)
    let rp ← closeBracket ")"
    let _ ← expectStatementEnd "do/while"
    return spanNode .doStmt i rp [body, c.node]

/-- A `for` loop. -/
def forStatement (h : Hooks) : Nat → P Built
  | 0 => throw .exhausted
  | f + 1 => do
    let i ← advance
    if !(← isPunct "(") then failHere "expected '(' after 'for'"
    let _ ← openBracket "("
    pushScope
    let (init, nonLocal) ← do
      if (← eatPunct ";").isSome then pure (none, none)
      else if ← startsDeclaration then
        match ← declaration h f .forInit with
        | .done nodes first last nonLocal => pure (some (spanNode .declStmt first last nodes), nonLocal)
        | .function _ _ => failHere "function definition is not allowed here"
      else
        let e ← expression h f
        let _ ← expectPunct ";" "expected ';' in 'for' statement specifier"
        pure (some (← discarded e).node, none)
    let cond ← do
      if (← eatPunct ";").isSome then pure none
      else
        let c ← condition (← expression h f)
        let _ ← expectPunct ";" "expected ';' in 'for' statement specifier"
        pure (some c.node)
    let inc ← do
      if ← isPunct ")" then pure none
      else pure (some (← discarded (← expression h f)).node)
    let _ ← closeBracket ")"
    modify fun st => { st with loops := st.loops + 1 }
    let body ← statement h f false
    modify fun st => { st with loops := st.loops - 1 }
    popScope
    match nonLocal with
    | some n => failTok ((← get).tokAt n) "declaration of non-local variable in 'for' loop"
    | none => pure ()
    return spanNode .forStmt i body.last (init.toList ++ cond.toList ++ inc.toList ++ [body])

/-- A `switch` statement. Its labels are checked once its body has been
read. -/
def switchStatement (h : Hooks) : Nat → P Built
  | 0 => throw .exhausted
  | f + 1 => do
    let i ← advance
    if !(← isPunct "(") then failHere "expected '(' after 'switch'"
    let _ ← openBracket "("
    let raw ← expression h f
    let c ← promote raw
    if !c.ty.isInteger then
      failAt (← exprLoc c) s!"statement requires expression of integer type ({← quoteType c.ty} invalid)"
    checkCompleted c.node
    let _ ← closeBracket ")"
    if (← get).knownBoolean 64 c.node then
      warn ((← get).tokAt i).reportLoc "switch condition has boolean value" "-Wswitch-bool"
    let frame : SwitchFrame := { promoted := c.ty, written := raw.rvalue.ty, condAt := ← exprPoint c,
                                 condValue := c.value }
    modify fun st => { st with switches := frame :: st.switches }
    let body ← statement h f false
    let frame := ((← get).switches.head?).getD frame
    modify fun st => { st with switches := st.switches.drop 1 }
    let shape ← frame.shape
    reportAll (switchChecks shape frame.labels.toList)
    if enumerationCovered shape frame.labels.toList then
      modify fun st => { st with coveredSwitches := i :: st.coveredSwitches }
    emptyBodyCheck c.node.last body "switch statement has empty body"
    return spanNode .switchStmt i body.last [c.node, body]

/-- A `case` label and its statement. Outside a switch its value is not
checked, and the label is refused once read. -/
def caseStatement (h : Hooks) : Nat → P Built
  | 0 => throw .exhausted
  | f + 1 => do
    let t ← cur
    let i ← advance
    let frame? := (← get).switches.head?
    let low ← constantOperand (conditional h f)
    let low ← match frame? with
      | some fr => (fun (e, b) => (e, some b)) <$> caseBound low fr.promoted
      | none => pure (low, none)
    let high ← do
      if (← eatPunct "...").isSome then
        let e ← constantOperand (conditional h f)
        match frame? with
        | some fr => (fun (e, b) => some (e, some b)) <$> caseBound e fr.promoted
        | none => pure (some (e, none))
      else pure none
    let colon ← labelColon "'case'"
    match frame?, low.2 with
    | some _, some lowBound =>
      modify fun st => { st with switches := match st.switches with
        | fr :: more =>
          { fr with labels := fr.labels.push (.case lowBound (high.bind (·.2)) fr.labels.size) } :: more
        | [] => [] }
    | _, _ => failTok t "'case' statement not in switch statement"
    labelNotLast colon
    let sub ← statement h f false
    return spanNode .caseStmt i sub.last ([low.1.node] ++ (high.map (·.1.node)).toList ++ [sub])

/-- A `default` label and its statement. Outside a switch the label is
refused once its statement has been read. -/
def defaultStatement (h : Hooks) : Nat → P Built
  | 0 => throw .exhausted
  | f + 1 => do
    let t ← cur
    let i ← advance
    let colon ← labelColon "'default'"
    labelNotLast colon
    let sub ← statement h f false
    if (← get).switches.isEmpty then failTok t "'default' statement not in switch statement"
    modify fun st => { st with switches := match st.switches with
      | fr :: more => { fr with labels := fr.labels.push (.default t.reportLoc) } :: more
      | [] => [] }
    return spanNode .defaultStmt i sub.last [sub]

/-- A `return` statement. -/
def returnStatement (h : Hooks) : Nat → P Built
  | 0 => throw .exhausted
  | f + 1 => do
    let t ← cur
    let i ← advance
    let (ret, name) := ((← get).function).getD (.int, "")
    let fnDecl := (← get).functionDecl
    let noreturnReturn : P Unit := do
      if let some id := fnDecl then
        if (← declOf id).neverReturns then
          warn t.reportLoc s!"function '{name}' declared 'noreturn' should not return" "-Winvalid-noreturn"
    if ← isPunct ";" then
      noreturnReturn
      let _ ← advance
      if !ret.isVoid then
        failWithOption t.reportLoc s!"non-void function '{name}' should return a value" "-Wreturn-type"
      return spanNode .returnStmt i i []
    let e ← expression h f
    noreturnReturn
    let e ← do
      if ret.isVoid then
        if !e.ty.isVoid then
          failWithOption t.reportLoc s!"void function '{name}' should not return a value" "-Wreturn-type"
        e.load
      else convertFor .returning e ret
    checkCompleted e.node
    let _ ← expectStatementEnd "return"
    return spanNode .returnStmt i e.node.last [e.node]

end

/-- Warn about a function whose body's end is reached: one that never
returns should not, and one with a result does not give it, always or on
some paths. `main` returning `int` gives 0 there. -/
def fallOffCheck (head : FunctionHead) (body : Built) (flow : FlowSummary) : P Unit := do
  if !flow.fallsOff then return
  let d ← declOf head.decl
  let at_ := ((← get).tokAt body.last).reportLoc
  if d.neverReturns then
    warn at_ "function declared 'noreturn' should not return" "-Winvalid-noreturn"
    return
  if head.ret.isVoid then return
  if head.name == "main" && head.ret.canonical.unqualified == CType.int.canonical then return
  let some_ := flow.returns || flow.abnormal
  let text := "non-void function does not return a value" ++ (if some_ then " in all control paths" else "")
  warn at_ text "-Wreturn-type"

/-- The body of a function whose head has been read; `{` is current.
Gives the function's node with its body. -/
def functionBody (h : Hooks) (fuel : Nat) (head : FunctionHead) : P Built := do
  for p in head.params do
    if p.name.isNone then
      warn ((← get).tokAt p.nameTok).reportLoc "omitting the parameter name in a function definition is a C2x extension"
        "-Wc2x-extensions"
  pushScope
  modify fun st =>
    let bind (sc : Scope) : Scope := head.params.foldl (fun sc p =>
      match p.name with
      | some n => { sc with names := sc.names.insert n p.decl }
      | none => sc) sc
    { st with scopes := match st.scopes with
                | sc :: more => bind sc :: more
                | [] => [bind {}]
              function := some (head.ret, head.name), functionDecl := some head.decl,
              labelsDefined := [], labelsUsed := [] }
  let body ← compound h fuel false
  popScope
  let st ← get
  for (name, tok) in st.labelsUsed do
    if !st.labelsDefined.contains name then
      failTok (st.tokAt tok) s!"use of undeclared label '{name}'"
  match jumpError (jumpEvents [] body) with
  | some (tok, text) => failTok (st.tokAt tok) text
  | none => pure ()
  let flow := bodyFlow st body
  flushPending flow.unreached
  fallOffCheck head body flow
  modify fun st => { st with function := none, functionDecl := none }
  return { head.node with last := body.last, children := head.node.children ++ [body] }

end CInspect.Parse
