import CInspect.Parse.Stmt
import CInspect.Preprocess.Unit
/-!
A translation unit: the external declarations of the preprocessed tokens.

The parts of the parser reach each other through `Hooks`: reading a type
name, an initializer list or the statements of a statement expression
inside an expression goes one level down
(`hooksAt`), which bounds the recursion; every level and every nested
construct within one level costs at least one token, so a depth of a few
times the number of tokens is never reached by a real program.

Each function a call declared implicitly becomes a declaration of the unit
right after the declaration being read. The result is the unit's
declarations, the tables they refer to, and the diagnostics: the
warnings, and the first error if there was one, each with how far the
tokens had been read, which orders them among the preprocessor's.
-/

namespace CInspect.Parse

open CInspect.Types CInspect.Lex CInspect.Preprocess CInspect.Source

/-- The hooks of one level of nesting: type names and initializer lists
read with the hooks of the level below. -/
def hooksAt : Nat → Hooks
  | 0 => { typeName := throw .exhausted, initializer := fun _ => throw .exhausted,
           statementExpression := throw .exhausted }
  | n + 1 =>
    { typeName := fun st => typeName (hooksAt n) n st
      initializer := fun ty st => initList (hooksAt n) n ty st
      statementExpression := fun st => statementExpressionBody (hooksAt n) n st }

/-- The tag every unit starts with: the structure `__builtin_va_list`
arrays hold. -/
def vaListTag : TagEntry :=
  let u : CType := .basic .uint {}
  { kind := .struct, name := some "__va_list_tag", locTok := 0, complete := true,
    members := [{ name := "gp_offset", ty := u, decl := 0 }, { name := "fp_offset", ty := u, decl := 0 },
                { name := "overflow_arg_area", ty := .pointer .void {}, decl := 0 },
                { name := "reg_save_area", ty := .pointer .void {}, decl := 0 }] }

/-- The typedef names every unit starts with. -/
def builtinTypedefs : List (String × CType) :=
  [("__int128_t", .basic .int128 {}), ("__uint128_t", .basic .uint128 {})]

/-- The state a unit is parsed from. -/
def PState.initial (toks : Array PpToken) (files : Array SourceFile) : PState :=
  let decls : Array DeclEntry := (builtinTypedefs.map fun (n, t) =>
    ({ kind := .typedef, name := n, ty := t, nameTok := 0 } : DeclEntry)).toArray
  let names : Std.HashMap String Nat :=
    (List.range builtinTypedefs.length).foldl (fun m i =>
      m.insert ((builtinTypedefs[i]?.map (·.1)).getD "") i) {}
  { toks := toks, files := files, decls := decls, tags := #[vaListTag], scopes := [{ names := names }] }

/-- Warn about the functions used but never defined that no other unit
may define: those with internal linkage, and those declared `inline`.
The warning stands at the first declaration. -/
def undefinedButUsed : P Unit := do
  let st ← get
  for (name, _) in st.undefinedUses do
    let latest := (st.scopes.getLast?.bind (·.names.get? name)).bind (st.decls[·]?)
    if (latest.map (·.defined)).getD false then continue
    match st.decls.toList.find? (fun e => e.kind == .function && e.name == name) with
    | some first =>
      let loc := (st.tokAt first.nameTok).reportLoc
      if (latest.map (·.static)).getD first.static then
        warn loc s!"function '{name}' has internal linkage but is not defined" "-Wundefined-internal"
      else warn loc s!"inline function '{name}' is not defined" "-Wundefined-inline"
    | none => pure ()

/-- The variables whose last tentative definition leaves them an array of
unknown size, and never defined with an initializer: they are given one
element, with a warning at that definition, in the order of their first
tentative definitions. The result is their declarations' numbers. -/
def tentativeArrays : P (List Nat) := do
  let st ← get
  let indexed := (List.range st.decls.size).filterMap fun k => (st.decls[k]?).map (k, ·)
  let tentative := indexed.filter fun (_, e) => e.kind == .variable && e.tentative
  let names := tentative.foldl (fun acc (_, e) => if acc.contains e.name then acc else acc ++ [e.name]) []
  let mut completed : List Nat := []
  for name in names do
    if indexed.any (fun (_, e) => e.kind == .variable && e.fileScope && e.defined && e.name == name) then continue
    match (tentative.filter (·.2.name == name)).getLast? with
    | some (k, e) =>
      match e.ty.canonical with
      | .array _ .unknown =>
        remark ⟨.warning, some (st.tokAt e.nameTok).reportLoc,
          "tentative array definition assumed to have one element", none⟩
        completed := completed ++ [k]
      | _ => pure ()
    | none => pure ()
  return completed

/-- The external declarations up to the end of the tokens. -/
def externalDeclarations (fuel : Nat) : P (Array Built) := do
  let h := hooksAt fuel
  let mut items : Array Built := #[]
  let bound := (← get).toks.size
  for _ in [0:bound] do
    if ← atEnd then break
    let t ← cur
    if t.isPunct ";" then
      let _ ← advance
      continue
    if t.isPunct "\x7d" then failHere "extraneous closing brace ('\x7d')"
    if !(← startsDeclaration) then
      if t.kind == .identifier && !reservedWords.contains t.text then
        if !mayFollowDeclaredName (← peekAt 1) then rejectTypeWord t
      else failHere "expected identifier or '('"
    match ← declaration h fuel .file with
    | .done nodes _ _ _ => items := items ++ nodes.toArray
    | .function nodes head =>
      items := items ++ nodes.toArray
      let fn ← functionBody h fuel head
      items := items.push fn
  undefinedButUsed
  let completed ← tentativeArrays
  return items.map fun n =>
    if n.kind == .varDecl && completed.contains n.key then
      { n with ty := n.ty.map fun t => .array (arrayElement t) (.fixed 1) }
    else n

/-- What parsing a unit gives. -/
structure Parsed where
  items : List Built
  decls : Array DeclEntry
  tags : Array TagEntry
  /-- The warnings, each with how far the tokens had been read. -/
  warnings : Array (Nat × Diagnostic)
  /-- The first error and how far the tokens had been read. -/
  error : Option (Nat × Diagnostic)

/-- Parse the tokens of a unit. -/
def parseUnit (toks : Array PpToken) (files : Array SourceFile) (packs : Array (Nat × PackAction) := #[])
    (systemFiles : List Nat := []) (nullMacro : Array (Nat × Bool) := #[]) : Parsed :=
  let st := { PState.initial toks files with packs := packs, systemFiles := systemFiles, nullMacro := nullMacro }
  let fuel := 8 * toks.size + 1024
  match (externalDeclarations fuel).run st with
  | .ok (items, st') => ⟨items.toList, st'.decls, st'.tags, st'.warnings, none⟩
  | .error (.failed d seen ws) => ⟨[], st.decls, st.tags, ws, some (seen, d)⟩
  | .error .exhausted => ⟨[], st.decls, st.tags, #[], none⟩

end CInspect.Parse
