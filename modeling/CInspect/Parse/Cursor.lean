import CInspect.Parse.Unit
import CInspect.Tree.Basic
import CInspect.Lex.Scan
/-!
From a parsed unit to the syntax tree the checks read.

A node's place comes from its tokens. A token produced by a macro
expansion is placed at the expansion: its extent starts where the
invocation starts, and ends where the invocation ends, or, for a token
that stood for an argument, where the invocation starts. The node's file is
the file of the token that locates it.

The tokens of an operator or literal are read again from the text: from
where its first token is spelled to where its last one ends, in one file,
comments included, at least one.

Only the unit's own declarations are kept: a walk over the tree never
enters a declaration located in another file.
-/

namespace CInspect.Parse

open CInspect.Types CInspect.Lex CInspect.Preprocess CInspect.Source

/-- What turning built nodes into tree nodes needs. -/
structure TreeContext where
  toks : Array PpToken
  files : Array SourceFile
  decls : Array DeclEntry
  tags : Array TagEntry

/-- The token at an index, or the end of input. -/
def TreeContext.tok (c : TreeContext) (i : Nat) : PpToken :=
  c.toks[i]?.getD (c.toks.back?.getD default)

/-- The line and column of a place. -/
def TreeContext.pos (c : TreeContext) (l : Loc) : Tree.Pos :=
  match c.files[l.file]? with
  | some f => let p := f.pos l.offset; ⟨p.line, p.col⟩
  | none => ⟨0, 0⟩

/-- The name of a file. -/
def TreeContext.fileName (c : TreeContext) (i : Nat) : Option String :=
  c.files[i]?.map (·.name)

/-- Where the extent of a node whose last token is `t` ends. -/
def extentEnd (t : PpToken) : Loc :=
  match t.origin with
  | none => t.spellEnd
  | some o => if o.fromArgument then o.start else o.stop

/-- Where the spelled text of a node whose last token is `t` ends. -/
def spelledEnd (t : PpToken) : Loc :=
  match t.origin with
  | none => t.spellEnd
  | some o => if o.fromArgument then t.spellEnd else o.stop

/-- The tokens of a file from offset `start`, up to the first that reaches
`stop`, comments included. -/
def rawTokens (f : SourceFile) (start stop : Nat) : List Tree.Token :=
  let rec go (fuel : Nat) (i : Nat) (lineStart : Bool) (acc : Array Tree.Token) : Array Tree.Token :=
    match fuel with
    | 0 => acc
    | k + 1 =>
      let s := scanToken f.bytes ⟨true⟩ i lineStart []
      match s.lexeme with
      | none => acc
      | some lx =>
        let a := f.pos lx.start
        let b := f.pos lx.stop
        let acc := acc.push ⟨lx.text, ⟨⟨a.line, a.col⟩, ⟨b.line, b.col⟩⟩⟩
        if lx.stop ≥ stop || s.next ≤ i then acc else go k s.next false acc
  (go (f.bytes.size + 1) start false #[]).toList

/-- The tokens of a node from token `first` to token `last`. -/
def TreeContext.tokensOf (c : TreeContext) (first last : Nat) : List Tree.Token :=
  let b := (c.tok first).spell
  let e := spelledEnd (c.tok last)
  if b.file != e.file then []
  else
    match c.files[b.file]? with
    | some f => rawTokens f b.offset e.offset
    | none => []

/-- Whether each level of a type is const, from the outermost pointer in
to the first level that is not a pointer. -/
def constChain : CType → List Bool
  | .pointer p q => q.const :: constChain p
  | t => [CType.constOfCanonical t]

/-- How a node shows its type; `declared` for the declaration of a tag. -/
def TreeContext.typeView (c : TreeContext) (t : CType) (declared : Bool := false) : Tree.TypeView :=
  ⟨t.spell (tagSpelling declared c.tags), constChain t.canonical, false⟩

/-- What a reference shows of the declaration it refers to. -/
def TreeContext.declInfo (c : TreeContext) (id : Nat) : Option Tree.DeclInfo :=
  c.decls[id]?.map fun d =>
    { name := d.name, typeSpelling := d.ty.spell (tagName c.tags),
      file := c.fileName (c.tok d.nameTok).loc.file, key := id }

mutual

/-- The tree node of a built node. -/
def TreeContext.node (c : TreeContext) : Built → Tree.Node
  | ⟨kind, spelling, display, locTok, first, last, ty, static, referenced, key, _, _, _, _, _, _, _, shown, _, _, children⟩ =>
    let startTok := c.tok first
    let lastTok := c.tok last
    let tokens := if kind == .binaryOperator || kind == .integerLiteral then c.tokensOf first last else []
    { kind := kind, spelling := spelling, displayName := display.getD spelling,
      file := c.fileName (c.tok locTok).loc.file,
      extent := ⟨c.pos startTok.loc, c.pos (extentEnd lastTok)⟩,
      type := ((shown.orElse fun _ => ty).map fun t => c.typeView t
        (kind == .structDecl || kind == .unionDecl || kind == .enumDecl)).getD Tree.TypeView.none,
      isStatic := static,
      referenced := if kind == .declRefExpr then referenced.bind c.declInfo else none,
      tokens := tokens, key := key, children := c.nodes children }

/-- The tree nodes of built nodes. -/
def TreeContext.nodes (c : TreeContext) : List Built → List Tree.Node
  | [] => []
  | b :: bs => c.node b :: c.nodes bs

end

/-- The tree of a translation unit whose main file is file `main`. -/
def TreeContext.unit (c : TreeContext) (main : Nat) (items : List Built) : Tree.Node :=
  let name := (c.fileName main).getD ""
  let own := items.filter fun b => (c.tok b.locTok).loc.file == main
  let size := (c.files[main]?.map (·.bytes.size)).getD 0
  { kind := .translationUnit, spelling := name, displayName := name, file := none,
    extent := ⟨⟨1, 1⟩, c.pos ⟨main, size⟩⟩, type := Tree.TypeView.none, isStatic := false,
    referenced := none, tokens := [], key := 0, children := c.nodes own }

end CInspect.Parse
