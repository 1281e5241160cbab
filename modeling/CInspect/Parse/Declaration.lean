import CInspect.Parse.Decl
/-!
Whole declarations: what each declarator declares.

A declarator under `typedef` names a type; one whose type is a function
declares a function, and at file scope may begin its definition; any
other declares an object, with an optional initializer. Each name is
checked against the declarations of its scope: an object of file scope
may be declared again with the same type, a function with a compatible
one; anything else declared twice in one scope is an error.

An object's extent starts at the declaration's first token, except for an
object that is not the first declaration of a group inside a function,
whose extent starts at its name. It ends at its initializer, or at its
declarator when the type has a level after the name, or at its name.
-/

namespace CInspect.Parse

open CInspect.Types CInspect.Lex CInspect.Preprocess CInspect.Source

/-- Whether two function types agree: the same result, and the same
parameters when both have prototypes. -/
def compatibleFunctions (a b : CType) : Bool :=
  match a.canonical, b.canonical with
  | .function r ps va pr _, .function r' ps' va' pr' _ =>
    r.canonical.unqualified == r'.canonical.unqualified &&
      (!pr || !pr' || (va == va' && ps.length == ps'.length &&
        (ps.zip ps').all (fun (x, y) => x.canonical.unqualified == y.canonical.unqualified)))
  | _, _ => false

/-- Whether two function types are one type: both have prototypes, and
their results and parameters are alike but for the qualifiers at the top. -/
def sameFunctions (a b : CType) : Bool :=
  match a.canonical, b.canonical with
  | .function r ps va true _, .function r' ps' va' true _ =>
    r.canonical.unqualified == r'.canonical.unqualified && va == va' && ps.length == ps'.length &&
      (ps.zip ps').all (fun (x, y) => x.canonical.unqualified == y.canonical.unqualified)
  | _, _ => false

/-- The type a function has once declared again: the earlier type when it
has a prototype, else the new one. Both are compatible, so they differ only
in what the prototype adds and in how they are written; a function either
declaration says never returns never returns. -/
def mergedFunctionType (earlier later : CType) : CType :=
  let noreturn := match earlier.canonical, later.canonical with
    | .function _ _ _ _ a, .function _ _ _ _ b => a || b
    | _, _ => false
  let kept := match earlier.canonical with
    | .function _ _ _ true _ => earlier
    | _ => later
  if noreturn then kept.markNoreturn else kept

/-- What the `nonnull` attributes of a declaration with parameters of
types `params` say: nothing, every pointer parameter (an attribute left
without positions), or the positions its attributes list. A position of a
parameter that is no pointer is left out. -/
def nonnullPositions (params : List CType) (attrs : List Attr) : Option (List Nat) :=
  let written := attrs.filter (·.name == "nonnull")
  let kept (a : Attr) : List Nat :=
    (a.values.filter fun v => ((params[v.toNat - 1]?).map pointerAttributeType).getD true).map Int.toNat
  if written.isEmpty then none
  else if written.any (fun a => (kept a).isEmpty) then some []
  else some (written.flatMap kept)

/-- The parameters a function declared again must not be given a null
pointer: those either declaration names. -/
def joinNonnull : Option (List Nat) → Option (List Nat) → Option (List Nat)
  | none, b => b
  | a, none => a
  | some [], _ => some []
  | _, some [] => some []
  | some a, some b => some (a ++ b)

/-- The format strings the `format` attributes of a declaration say a
function takes; an attribute names its family, the parameter holding the
format and the first data parameter. -/
def formatRolesOf (attrs : List Attr) : List Language.FormatRole :=
  attrs.filterMap fun a =>
    match a.name, a.word, a.values with
    | "format", some w, [f, d] =>
      some { family := Language.FormatFamily.ofName w, formatParam := f.toNat, firstData := d.toNat }
    | _, _, _ => none

/-- The formats of a function declared again: those of the earlier
declarations, then the new ones they do not have. -/
def joinFormats (earlier later : List Language.FormatRole) : List Language.FormatRole :=
  earlier ++ later.filter (fun r => !earlier.contains r)

/-- The type a typedef name at file scope, token `tok`, stands for: a
run-time size may not stand there, so the compiler folds each such size it
can to a constant, with a warning; otherwise the typedef is an error. -/
def fileScopeTypedefType (tok : PpToken) (ty : CType) : P CType := do
  if !ty.variablyModified then return ty
  match ty.foldSizes with
  | some fixed =>
    warn tok.reportLoc "variable length array folded to constant array as an extension" "-Wgnu-folding-constant"
    return fixed
  | none =>
    if ty.foldsNegative then failTok tok "array size is negative"
    if ty.isVariableArray then failTok tok "variable length array declaration not allowed at file scope"
    failTok tok "variably modified type declaration not allowed at file scope"

/-- Declare the typedef name a declarator gives. -/
def typedefDeclaration (fileScope : Bool) (specs : Specs) (d : Declarator) (name : String) (ty : CType)
    (children : List Built) : P Built := do
  let nameTok := d.locTok
  let ty ← if fileScope then fileScopeTypedefType ((← get).tokAt nameTok) ty else pure ty
  match ← lookupNameHere name with
  | some id =>
    let e ← declOf id
    if e.kind != .typedef then
      failTok ((← get).tokAt nameTok) s!"redefinition of '{name}' as different kind of symbol"
    if !(e.ty.canonical == ty.canonical) then
      failTok ((← get).tokAt nameTok)
        s!"typedef redefinition with different types ({← quoteType ty} vs {← quoteType e.ty})"
  | none => pure ()
  let id ← declare { kind := .typedef, name := name, ty := ty, nameTok := nameTok,
                     align := alignedBy (specs.attrs ++ d.attrs),
                     availability := availabilityOf (specs.attrs ++ d.attrs) }
  match ty with
  | .tag tid _ q =>
    if q.isEmpty then
      let t ← tagOf tid
      if t.name.isNone && t.typedefName.isNone then
        updateTag tid fun t => { t with typedefName := some name }
  | _ => pure ()
  let last := if d.shape.isPostfix then d.last.getD nameTok else nameTok
  return { kind := .typedefDecl, spelling := name, locTok := nameTok, first := specs.first, last := last,
           ty := some (.typedef name ty {}), key := id, children := children }

/-- Whether a parameter type of `main` is one its second or third
parameter may have: a pointer to a pointer to `char`, with `const` allowed
at any level. -/
def argumentArrayType (t : CType) : Bool :=
  let onlyConst (q : Quals) : Bool := !q.volatile && !q.restrict
  match t.canonical with
  | .pointer p q =>
    onlyConst q &&
      match p.canonical with
      | .pointer c q' =>
        onlyConst q' &&
          match c.canonical with
          | .basic .char q'' => onlyConst q''
          | _ => false
      | _ => false
  | _ => false

/-- The checks of a declaration of `main` at file scope: no `static`,
`inline` or `_Noreturn`, an `int` result, and parameters that are none, or
`int` and then up to two `char **`. -/
def checkMain (specs : Specs) (nameTok : Nat) (ty : CType) : P Unit := do
  let st ← get
  let at_ (i : Nat) : Source.Loc := (st.tokAt i).reportLoc
  if specs.storage == .static then
    if let some i := specs.storageTok then
      warn (at_ i) "'main' should not be declared static" "-Wmain"
  if let some i := specs.inlineTok then failTok (st.tokAt i) "'main' is not allowed to be declared inline"
  if let some i := specs.noreturnTok then
    warn (at_ i) "'main' is not allowed to be declared _Noreturn" "-Wmain"
  match ty.canonical with
  | .function ret ps variadic prototyped _ =>
    if !(ret.canonical.unqualified == CType.int.canonical) then
      warn (at_ (specs.typeFirst.getD specs.first)) "return type of 'main' is not 'int'" "-Wmain-return-type"
    if !prototyped then return
    if variadic then warn (at_ nameTok) "'main' is not allowed to be declared variadic" "-Wmain"
    let n := ps.length
    if n > 3 then failTok (st.tokAt nameTok) s!"too many parameters ({n}) for 'main': must be 0, 2, or 3"
    let ordinal := ["first", "second", "third"]
    let role := ["argument count", "argument array", "environment"]
    for (p, i) in ps.zipIdx do
      let fine := if i == 0 then p.canonical.unqualified == CType.int.canonical else argumentArrayType p
      if !fine then
        let expected := if i == 0 then "'int'" else "'char **'"
        let which := ordinal.getD i ""
        let what := role.getD i ""
        failTok (st.tokAt nameTok) s!"{which} parameter of 'main' ({what}) must be of type {expected}"
    if n == 1 then warn (at_ nameTok) "only one parameter on 'main' declaration" "-Wmain"
  | _ => pure ()

/-- The declarations of a definition's parameters when its head lists only
their names, up to the body. Each declares some of the names, with no
storage class but `register`; a name that none declares is an `int`. In the
function's type each parameter has its promoted type. -/
def namedParameters (h : Hooks) (fuel : Nat) (names : List (String × Nat)) : P (List Param) := do
  let mut found : Array (Option Param) := names.toArray.map fun _ => none
  pushScope
  let bound := (← get).toks.size
  for _ in [0:bound] do
    if !(← startsDeclaration) then break
    let start ← cur
    let specs ← declSpecifiers h fuel .parameter
    if ← isPunct ";" then failTok start "declaration does not declare a parameter"
    if specs.storage != .none && specs.storage != .register then
      if let some i := specs.storageTok then
        failTok ((← get).tokAt i) "invalid storage class specifier in function declarator"
    for _ in [0:bound] do
      let d ← declarator h fuel false
      rejectIdentifierList d
      let (written, children) := d.shape.apply specs.ty specs.refs
      d.shape.check d.name (hasOverloadable (specs.attrs ++ d.attrs)) 64 specs.ty
      let written := applyMode d.attrs written
      let ty := parameterType written
      let shown := if written.isArray || written.isFunction then some written else none
      let children := attributeNodes (specs.attrs ++ d.attrs) ++ children
      let name := d.name.getD ""
      let nameTok := (← get).tokAt d.locTok
      match names.findIdx? (·.1 == name) with
      | none => failTok nameTok s!"parameter named '{name}' is missing"
      | some k =>
        if (found[k]?.bind id).isSome then failTok nameTok s!"redefinition of parameter '{name}'"
        let id ← declare { kind := .parameter, name := name, ty := ty, nameTok := d.locTok,
                           register := specs.storage == .register, shown := shown }
        let last := if d.shape.isPostfix then d.last.getD d.locTok else d.locTok
        let node : Built := { kind := .parmDecl, spelling := name, locTok := d.locTok, first := specs.first,
                              last := last, ty := some ty, key := id, shown := shown, children := children }
        found := found.set! k (some { node := node, ty := promotedParameterType ty, name := some name,
                                      nameTok := d.locTok, decl := id })
      if (← eatPunct ",").isNone then break
    let _ ← expectPunct ";" "expected ';' at end of declaration"
  let mut params : Array Param := #[]
  for ((name, tok), p) in names.zip found.toList do
    match p with
    | some p => params := params.push p
    | none =>
      let id ← declare { kind := .parameter, name := name, ty := .int, nameTok := tok }
      let node : Built := { kind := .parmDecl, spelling := name, locTok := tok, first := tok, last := tok,
                            ty := some .int, key := id }
      params := params.push { node := node, ty := .int, name := some name, nameTok := tok, decl := id }
  popScope
  return params.toList

/-- Declare the function a declarator gives. -/
def functionDeclaration (place : Place) (specs : Specs) (d : Declarator) (name : String) (ty : CType)
    (children : List Built) (definition : Bool) (namesOnly : Bool := false) : P (Built × Nat) := do
  let nameTok := d.locTok
  let nonnull := nonnullPositions (((ty.functionParts?).map (·.2.1)).getD []) (specs.attrs ++ d.attrs)
  let formats := formatRolesOf (specs.attrs ++ d.attrs)
  if place == .file && name == "main" then checkMain specs nameTok ty
  let params := d.shape.nearestParams.getD []
  let existing ← if place == .file then lookupNameHere name else lookupName name
  let mut ty := ty
  let mut isBuiltin := false
  -- the first declaration at file scope of a library function, with its
  -- very type, takes the attributes the compiler knows it by
  let mut knownResult : Option String := none
  match existing with
  | some id =>
    let e ← declOf id
    if e.kind != .function then
      if place == .file || (← lookupNameHere name).isSome then
        failTok ((← get).tokAt nameTok) s!"redefinition of '{name}' as different kind of symbol"
    else
      if !compatibleFunctions e.ty ty then
        failTok ((← get).tokAt nameTok) s!"conflicting types for '{name}'"
      if definition && e.defined then
        failTok ((← get).tokAt nameTok) s!"redefinition of '{name}'"
      ty := mergedFunctionType e.ty ty
      isBuiltin := e.builtin
  | none =>
    let loc := ((← get).tokAt nameTok).reportLoc
    match Language.findBuiltin? name with
    | some b =>
      match ← typeOfBuiltin b with
      | .ok builtin =>
        if compatibleFunctions builtin ty then
          if place == .file && specs.storage != .static && sameFunctions builtin ty then
            knownResult := b.resultAttr?
          ty := mergedFunctionType builtin ty
          isBuiltin := true
        else if b.isLibrary then
          warn loc s!"incompatible redeclaration of library function '{name}'"
            "-Wincompatible-library-redeclaration"
          let shown ← quoteType builtin
          modify fun st => { st with warnings := st.warnings.push (st.seen, .note loc
            s!"'{name}' is a builtin with type {shown}") }
        else failTok ((← get).tokAt nameTok) s!"conflicting types for '{name}'"
      | .error (.missing header) =>
        warn loc s!"declaration of built-in function '{name}' requires inclusion of the header <{header}>"
          "-Wbuiltin-requires-header"
      | .error _ => pure ()
    | none => pure ()
  let earlierNonnull ← match existing with
    | some id => do let e ← declOf id; pure (if e.kind == .function then e.nonnull else none)
    | none => pure none
  let earlierFormats ← match existing with
    | some id => do let e ← declOf id; pure (if e.kind == .function then e.formats else [])
    | none => pure []
  let earlierAvailability ← match existing with
    | some id => do let e ← declOf id; pure (if e.kind == .function then e.availability else .available)
    | none => pure .available
  let earlierParamShown ← match existing with
    | some id => do let e ← declOf id; pure (if e.kind == .function then e.paramShown else [])
    | none => pure []
  let earlierAllocAlign ← match existing with
    | some id => do let e ← declOf id; pure (if e.kind == .function then e.allocAlign else none)
    | none => pure none
  let allocAlign := ((specs.attrs ++ d.attrs).find? (·.name == "alloc_align")).bind
    fun a => a.values.head?.map Int.toNat
  let earlierResultAttr ← match existing with
    | some id => do let e ← declOf id; pure (if e.kind == .function then e.resultAttr else none)
    | none => pure none
  let earlierStatic ← match existing with
    | some id => do let e ← declOf id; pure (e.kind == .function && e.static)
    | none => pure false
  let earlierInline ← match existing with
    | some id => do let e ← declOf id; pure (e.kind == .function && e.inlined)
    | none => pure false
  let earlierDefined ← match existing with
    | some id => do let e ← declOf id; pure (e.kind == .function && e.defined)
    | none => pure false
  let earlierNoreturn ← match existing with
    | some id => do let e ← declOf id; pure (e.kind == .function && e.noreturn)
    | none => pure false
  -- a definition listing only names keeps a prototype an earlier declaration gave
  let earlierPrototype ← match existing with
    | some id => do
      let e ← declOf id
      pure (e.kind == .function && e.prototypeWritten && (e.ty.functionParts?.map (·.2.2.2)).getD false)
    | none => pure false
  let id ← declare { kind := .function, name := name, ty := ty, nameTok := nameTok,
                     noreturn := specs.noreturnTok.isSome || earlierNoreturn, builtin := isBuiltin,
                     static := specs.storage == .static || earlierStatic,
                     defined := definition || earlierDefined,
                     inlined := specs.inlineTok.isSome || earlierInline,
                     paramNames := params.map (fun p => p.name.getD ""),
                     prototypeWritten := !namesOnly || earlierPrototype,
                     nonnull := joinNonnull earlierNonnull nonnull,
                     formats := joinFormats earlierFormats formats,
                     allocAlign := allocAlign.orElse fun _ => earlierAllocAlign,
                     paramShown := if params.isEmpty then earlierParamShown else params.map (·.node.shown),
                     availability := earlierAvailability.join (availabilityOf (specs.attrs ++ d.attrs)),
                     resultAttr := resultAttrOf ((specs.attrs ++ d.attrs) ++
                       ((earlierResultAttr.toList ++ knownResult.toList).map
                         fun n => { name := n, tok := nameTok, last := nameTok })) }
  let last := d.last.getD nameTok
  return ({ kind := .functionDecl, spelling := name, locTok := nameTok, first := specs.first, last := last,
            ty := some ty, static := specs.storage == .static, key := id, children := children }, id)

/-- The type of a variable whose storage or linkage keeps it from having a
run-time size: one declared at file scope, `static` or `extern`. The
compiler folds the sizes it can to constants, with a warning at the name;
otherwise the declaration is an error. -/
def lastingVariableType (nameLoc : Loc) (place : Place) (storage : Storage) (ty : CType) : P CType := do
  let fileScope := place == .file
  let isExtern := storage == .external
  let linkage := fileScope || isExtern
  let lasting := linkage || storage == .static
  let modified := ty.variablyModified
  if !((modified && linkage) || (ty.isVariableArray && lasting)) then return ty
  match ty.foldSizes with
  | some fixed =>
    warn nameLoc "variable length array folded to constant array as an extension" "-Wgnu-folding-constant"
    return fixed
  | none =>
    if ty.isVariableArray then
      if fileScope then failAt nameLoc "variable length array declaration not allowed at file scope"
      else if storage == .static then
        failAt nameLoc "variable length array declaration cannot have 'static' storage duration"
      else failAt nameLoc "variable length array declaration cannot have 'extern' linkage"
    else if fileScope then failAt nameLoc "variably modified type declaration not allowed at file scope"
    else failAt nameLoc "variably modified type declaration cannot have 'extern' linkage"

/-- Declare the object a declarator gives and read its initializer. -/
def objectDeclaration (h : Hooks) (fuel : Nat) (place : Place) (specs : Specs) (d : Declarator)
    (name : String) (ty : CType) (children : List Built) (firstInGroup : Bool) : P Built := do
  let nameTok := d.locTok
  let nameLoc := ((← get).tokAt nameTok).reportLoc
  let isExtern := specs.storage == .external
  let local_ := place == .block || place == .forInit
  let ty ← lastingVariableType nameLoc place specs.storage ty
  match ← lookupNameHere name with
  | some id =>
    let e ← declOf id
    if e.kind != .variable && e.kind != .parameter then
      failAt nameLoc s!"redefinition of '{name}' as different kind of symbol"
    if local_ && !(isExtern && e.static == false && e.kind == .variable && e.defined == false) then
      failAt nameLoc s!"redefinition of '{name}'"
    if !(e.ty.canonical == ty.canonical) && !local_ then
      failAt nameLoc s!"redefinition of '{name}' with a different type: {← quoteType ty} vs {← quoteType e.ty}"
    if place == .file && e.kind == .variable then
      -- the linkage the first declaration gave stays
      if specs.storage == .static && !e.static then
        failAt nameLoc s!"static declaration of '{name}' follows non-static declaration"
      if specs.storage != .static && !isExtern && e.static then
        failAt nameLoc s!"non-static declaration of '{name}' follows static declaration"
  | none => pure ()
  let hasInit ← isPunct "="
  if specs.deduced && !hasInit then
    failAt nameLoc s!"declaration of variable '{name}' with deduced type '__auto_type' requires an initializer"
  if local_ && !isExtern then
    if ty.isArray && !hasInit then
      match ty.canonical with
      | .array _ .unknown =>
        failAt nameLoc "definition of variable with array type needs an explicit size or an initializer"
      | _ => pure ()
    if !ty.isArray && !(← isComplete ty) then
      failAt nameLoc s!"variable has incomplete type {← quoteType ty}"
  let earlier ← match ← lookupNameHere name with
    | some id => do let e ← declOf id; pure (if e.kind == .variable then some e else none)
    | none => pure none
  let earlierAvailability := (earlier.map (·.availability)).getD .available
  -- an `extern` declaration keeps the internal linkage an earlier one gave
  let inheritsStatic := isExtern && place == .file && (earlier.map (·.static)).getD false
  let id ← declare { kind := .variable, name := name, ty := ty, nameTok := nameTok,
                     static := specs.storage == .static || inheritsStatic, defined := hasInit,
                     folded := earlier.bind (·.folded),
                     register := specs.storage == .register,
                     fileScope := place == .file,
                     tentative := place == .file && !hasInit && !isExtern,
                     availability := earlierAvailability.join (availabilityOf (specs.attrs ++ d.attrs)) }
  let mut declTy := ty
  let mut init : Option Built := none
  if (← eatPunct "=").isSome then
    if local_ && specs.storage != .static && !isExtern && ty.isVariableArray then
      -- an array of run-time size may not be initialized; one whose size
      -- folds to a constant is made an array of that size
      match ty.foldSizes with
      | some fixed =>
        warn nameLoc "variable length array folded to constant array as an extension" "-Wgnu-folding-constant"
        declTy := fixed
        modify fun st => { st with decls := st.decls.modify id (fun e => { e with ty := fixed }) }
      | none => pure ()
    let ty := declTy
    if specs.deduced && (← isPunct "\x7b") then
      failHere "cannot use __auto_type with initializer list in C"
    if specs.deduced then
      -- the type is the initializer's, without typedef names or qualifiers
      let e ← assignment h fuel
      let source ← if e.ty.isArray || e.ty.isFunction then pure (← e.load).ty else pure e.ty
      declTy := d.shape.apply source.canonical.unqualified [] |>.1
      let c ← initValue e declTy (some nameLoc)
      checkCompleted c.node
      init := some c.node
    else if ← isPunct "\x7b" then
      let (node, completed) ← initList h fuel ty
      declTy := completed
      checkCompleted node
      init := some node
    else
      let e ← assignment h fuel
      if local_ && isExtern then failAt nameLoc "'extern' variable cannot have an initializer"
      if e.stringLit && isCharArray ty then
        declTy := stringInitType ty e
        match ty.canonical, e.ty with
        | .array _ (.fixed n), .array _ (.fixed m) =>
          if m > n + 1 then
            warn (← exprLoc e) "initializer-string for char array is too long" "-Wexcess-initializers"
        | _, _ => pure ()
        init := some (stringInit e ty).node
      else
        let c ← initValue e ty (some nameLoc)
        checkCompleted c.node
        init := some c.node
    if local_ && isExtern then failAt nameLoc "'extern' variable cannot have an initializer"
    if place == .file && isExtern && !(!declTy.isArray && declTy.canonical.quals.const) then
      warn nameLoc "'extern' variable has an initializer" "-Wextern-initializer"
    if place == .file || specs.storage == .static then
      -- an object that lasts as long as the program is initialized with
      -- constants
      if let some node := init then
        if let some tok := (← get).nonConstantPart foldFuel node then
          failAt ((← get).tokAt tok).reportLoc "initializer element is not a compile-time constant"
    let constant := match declTy.canonical with
      | .array e _ => e.quals.const
      | .pointer p q => q.const && p.quals.const
      | _ => false
    let kept := if constant then init else none
    let st ← get
    let folded := if declTy.canonical.quals.const && !declTy.canonical.quals.volatile && declTy.isScalar then
        init.bind fun node => (st.foldValue foldFuel node).bind fun (v, notes) =>
          if notes.sideEffect then none else (st.convertFolded v declTy).map (·.1)
      else none
    modify fun st => { st with decls := st.decls.modify id (fun e =>
      { e with ty := declTy, constantInit := kept, folded := folded }) }
  let first := if local_ && !firstInGroup then nameTok else specs.first
  let last := match init with
    | some n => n.last
    | none => if d.shape.isPostfix then d.last.getD nameTok else nameTok
  return { kind := .varDecl, spelling := name, locTok := nameTok, first := first, last := last,
           ty := some declTy, static := specs.storage == .static, key := id,
           children := children ++ init.toList }

/-- A declaration: specifiers, then declarators up to the semicolon, or a
function definition's head. -/
def declaration (h : Hooks) (fuel : Nat) (place : Place) : P DeclResult := do
  let first ← curIndex
  if ← isWord "_Static_assert" then
    -- the first part of a `for` holds declarations only, of which a
    -- static assertion is none
    if place == .forInit then failHere "expected identifier or '('"
    let node ← staticAssertion h fuel
    let next ← curIndex
    return .done [node] first (next - 1) none
  let specs ← declSpecifiers h fuel place
  if ← isPunct ";" then
    let semi ← advance
    if specs.tags.isEmpty then
      warn ((← get).tokAt first).reportLoc "declaration does not declare anything" "-Wmissing-declarations"
    return .done specs.tags first semi none
  let mut nodes : Array Built := specs.tags.toArray
  let mut firstInGroup := specs.tags.isEmpty
  let mut nonLocal : Option Nat := none
  let bound := (← get).toks.size
  let mut opening := true
  for _ in [0:bound] do
    let d ← declarator h fuel false
    -- the first declarator of a file-scope group whose nearest level is a
    -- function must be followed by what may follow a declaration, by a body,
    -- or by a declaration specifier (a missing semicolon)
    if place == .file && opening && d.shape.nearestParams.isSome then
      let after := (← get).tokAt ((d.last.getD (← curIndex)) + 1)
      let declarationFollows := after.isPunct "=" || after.isPunct "," || after.isPunct ";" ||
        ["asm", "__asm", "__asm__", "__attribute__", "__attribute"].any after.isIdent
      let specifier := (← startsDeclaration) && !(← isWord "_Static_assert")
      if !declarationFollows && !(← isPunct "\x7b") && !specifier then
        failHere "expected function body after function declarator"
    opening := false
    -- a head listing only the names of the parameters begins a definition
    -- when their declarations or the body follow
    let namesOnly ← match d.shape.nearestIdentifiers? with
      | some names =>
        if place == .file && specs.storage != .typedef && ((← isPunct "\x7b") || (← startsDeclaration)) then
          some <$> namedParameters h fuel names
        else pure none
      | none => pure none
    let d := match namesOnly with
      | some params => { d with shape := d.shape.withParams params }
      | none => d
    if namesOnly.isNone then rejectIdentifierList d
    if namesOnly.isSome && !(← isPunct "\x7b") then failHere "expected function body after function declarator"
    let (ty, children) := d.shape.apply specs.ty specs.refs
    let name := d.name.getD ""
    if specs.implicitInt then
      warn ((← get).tokAt d.locTok).reportLoc "type specifier missing, defaults to 'int'" "-Wimplicit-int"
    d.shape.check d.name (hasOverloadable (specs.attrs ++ d.attrs)) 64 specs.ty
    -- the attributes of the type are checked with it, then those of the
    -- declaration, each declarator checking the specifiers' again
    let written := applyMode d.attrs ty
    functionTypeAttributeChecks (d.shape.hasFunction || reachesFunction 16 specs.ty) written
      (specs.attrs ++ d.attrs)
    let automatic := (place == .block || place == .forInit) && specs.storage != .static &&
      specs.storage != .external
    let bearer : Bearer :=
      if specs.storage == .typedef then .typedef written
      else if written.isFunction then .function written specs.inlineTok.isSome
      else .variable automatic written
    let specs := { specs with attrs := ← keptAttributes bearer specs.first d.locTok specs.attrs }
    let d := { d with attrs := ← keptAttributes bearer specs.first d.locTok d.attrs }
    let ty := applyNoreturn (specs.attrs ++ d.attrs) written
    let children := declarationAttributeNodes (specs.attrs ++ d.attrs) ty.isFunction ++ children
    if specs.storage == .typedef then
      nodes := nodes.push (← typedefDeclaration (place == .file) specs d name ty children)
    else if ty.isFunction then
      let definition ← isPunct "\x7b"
      if definition && place != .file then failHere "function definition is not allowed here"
      let (node, id) ← functionDeclaration place specs d name ty children definition namesOnly.isSome
      if ← isPunct "=" then
        -- the initializer is read, then refused
        let _ ← advance
        if ← isPunct "\x7b" then let _ ← initList h fuel .int
        else let _ ← assignment h fuel
        failTok ((← get).tokAt d.locTok) "illegal initializer (only variables can be initialized)"
      if definition then
        -- only the library's functions among those the compiler knows may
        -- be given a body
        if (Language.findBuiltin? name).any (!·.isLibrary) then
          failTok ((← get).tokAt d.locTok) s!"definition of builtin function '{name}'"
        let (ret, _, _, _) := (ty.functionParts?).getD (.int, [], false, false)
        return .function nodes.toList
          { node := node, decl := id, params := d.shape.nearestParams.getD [], ret := ret, name := name }
      nodes := nodes.push node
    else
      if (specs.storage == .static || specs.storage == .external) && nonLocal.isNone then
        nonLocal := some d.locTok
      nodes := nodes.push (← objectDeclaration h fuel place specs d name ty children firstInGroup)
    firstInGroup := false
    if (← eatPunct ",").isNone then break
  let semi ← expectPunct ";"
    (if place == .file then "expected ';' after top level declarator" else "expected ';' at end of declaration")
  return .done nodes.toList first semi nonLocal

end CInspect.Parse
