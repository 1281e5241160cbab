/-!
Syntax trees of C translation units, as the checks see them.

A `Node` is one element of a parsed C file: a declaration, a statement, an
expression, or a reference inside one. It carries what the checks read:

* its `kind` and `spelling` (the declared or referenced name, or nothing);
  the kind of a few attributes cannot be asked for, and a reader that asks
  breaks off (`Kind.readable`);
* the file it is located in, and its `extent`, a range of 1-based lines and
  1-based byte columns whose end is exclusive;
* its `type`: the spelling of the type as written, and the const
  qualification of each level of the type with typedefs resolved;
* for a reference, the declaration it refers to;
* its source tokens, for operators and literals;
* a `key` that identifies a declaration, so that references to one variable
  can be recognised.

The children are in source order, as a walk over the translation unit
visits them.
-/

namespace CInspect.Tree

/-- The kinds of tree node. -/
inductive Kind where
  | translationUnit
  | varDecl
  | parmDecl
  | functionDecl
  | fieldDecl
  | structDecl
  | unionDecl
  | enumDecl
  | enumConstantDecl
  | typedefDecl
  | typeRef
  | memberRef
  | labelRef
  | compoundStmt
  | declStmt
  | returnStmt
  | ifStmt
  | whileStmt
  | doStmt
  | forStmt
  | switchStmt
  | caseStmt
  | defaultStmt
  | breakStmt
  | continueStmt
  | gotoStmt
  | labelStmt
  | nullStmt
  | unexposedExpr
  | declRefExpr
  | memberRefExpr
  | callExpr
  | integerLiteral
  | floatingLiteral
  | characterLiteral
  | stringLiteral
  | parenExpr
  | unaryOperator
  | binaryOperator
  | compoundAssignmentOperator
  | conditionalOperator
  | cStyleCastExpr
  | arraySubscriptExpr
  | initListExpr
  | compoundLiteralExpr
  | unaryExpr
  | unexposedStmt
  | unexposedDecl
  | staticAssert
  | imaginaryLiteral
  | stmtExpr
  | addrLabelExpr
  | indirectGotoStmt
  | asmStmt
  | genericSelectionExpr
  | packedAttr
  | alignedAttr
  | unexposedAttr
  | pureAttr
  | constAttr
  | visibilityAttr
  | warnUnusedResultAttr
  | noDuplicateAttr
  | convergentAttr
  | asmLabelAttr
  | warnUnusedAttr
  | annotateAttr
  /-- An attribute whose kind, numbered `code`, the reader of the tree does
  not know: asking for it fails. -/
  | unreadableAttr (code : Nat)
deriving DecidableEq, Repr, Inhabited

/-- Whether the kind of a node can be asked for. -/
def Kind.readable : Kind → Bool
  | .unreadableAttr _ => false
  | _ => true

/-- The upper-case name a tree dump shows for a kind. -/
def Kind.name : Kind → String
  | .translationUnit => "TRANSLATION_UNIT"
  | .varDecl => "VAR_DECL"
  | .parmDecl => "PARM_DECL"
  | .functionDecl => "FUNCTION_DECL"
  | .fieldDecl => "FIELD_DECL"
  | .structDecl => "STRUCT_DECL"
  | .unionDecl => "UNION_DECL"
  | .enumDecl => "ENUM_DECL"
  | .enumConstantDecl => "ENUM_CONSTANT_DECL"
  | .typedefDecl => "TYPEDEF_DECL"
  | .typeRef => "TYPE_REF"
  | .memberRef => "MEMBER_REF"
  | .labelRef => "LABEL_REF"
  | .compoundStmt => "COMPOUND_STMT"
  | .declStmt => "DECL_STMT"
  | .returnStmt => "RETURN_STMT"
  | .ifStmt => "IF_STMT"
  | .whileStmt => "WHILE_STMT"
  | .doStmt => "DO_STMT"
  | .forStmt => "FOR_STMT"
  | .switchStmt => "SWITCH_STMT"
  | .caseStmt => "CASE_STMT"
  | .defaultStmt => "DEFAULT_STMT"
  | .breakStmt => "BREAK_STMT"
  | .continueStmt => "CONTINUE_STMT"
  | .gotoStmt => "GOTO_STMT"
  | .labelStmt => "LABEL_STMT"
  | .nullStmt => "NULL_STMT"
  | .unexposedExpr => "UNEXPOSED_EXPR"
  | .declRefExpr => "DECL_REF_EXPR"
  | .memberRefExpr => "MEMBER_REF_EXPR"
  | .callExpr => "CALL_EXPR"
  | .integerLiteral => "INTEGER_LITERAL"
  | .floatingLiteral => "FLOATING_LITERAL"
  | .characterLiteral => "CHARACTER_LITERAL"
  | .stringLiteral => "STRING_LITERAL"
  | .parenExpr => "PAREN_EXPR"
  | .unaryOperator => "UNARY_OPERATOR"
  | .binaryOperator => "BINARY_OPERATOR"
  | .compoundAssignmentOperator => "COMPOUND_ASSIGNMENT_OPERATOR"
  | .conditionalOperator => "CONDITIONAL_OPERATOR"
  | .cStyleCastExpr => "CSTYLE_CAST_EXPR"
  | .arraySubscriptExpr => "ARRAY_SUBSCRIPT_EXPR"
  | .initListExpr => "INIT_LIST_EXPR"
  | .compoundLiteralExpr => "COMPOUND_LITERAL_EXPR"
  | .unaryExpr => "CXX_UNARY_EXPR"
  | .unexposedStmt => "UNEXPOSED_STMT"
  | .unexposedDecl => "UNEXPOSED_DECL"
  | .staticAssert => "STATIC_ASSERT"
  | .imaginaryLiteral => "IMAGINARY_LITERAL"
  | .stmtExpr => "StmtExpr"
  | .addrLabelExpr => "ADDR_LABEL_EXPR"
  | .indirectGotoStmt => "INDIRECT_GOTO_STMT"
  | .asmStmt => "ASM_STMT"
  | .genericSelectionExpr => "GENERIC_SELECTION_EXPR"
  | .packedAttr => "PACKED_ATTR"
  | .alignedAttr => "ALIGNED_ATTR"
  | .unexposedAttr => "UNEXPOSED_ATTR"
  | .pureAttr => "PURE_ATTR"
  | .constAttr => "CONST_ATTR"
  | .visibilityAttr => "VISIBILITY_ATTR"
  | .warnUnusedResultAttr => "WARN_UNUSED_RESULT_ATTR"
  | .noDuplicateAttr => "NODUPLICATE_ATTR"
  | .convergentAttr => "CONVERGENT_ATTR"
  | .asmLabelAttr => "ASM_LABEL_ATTR"
  | .warnUnusedAttr => "WARN_UNUSED_ATTR"
  | .annotateAttr => "ANNOTATE_ATTR"
  | .unreadableAttr _ => ""

/-- A place in a file: 1-based line and 1-based byte column (0 where unknown). -/
structure Pos where
  line : Nat
  col : Nat
deriving DecidableEq, Repr, Inhabited

/-- Positions in reading order: by line, then by column. -/
def Pos.le (a b : Pos) : Bool :=
  a.line < b.line || (a.line == b.line && a.col ≤ b.col)

/-- A range of a file; `stop` is just past its last character. -/
structure Extent where
  start : Pos
  stop : Pos
deriving DecidableEq, Repr, Inhabited

/-- A type as a node shows it: its spelling, and whether each level of the
type with typedefs resolved is const, from the outermost pointer inwards and
ending with the first level that is not a pointer. When `pointeeMissing`,
the levels end instead at a pointer that points to no type. -/
structure TypeView where
  spelling : String
  constChain : List Bool
  pointeeMissing : Bool
deriving DecidableEq, Repr, Inhabited

/-- The type a node without a type shows. -/
def TypeView.none : TypeView := ⟨"", [false], false⟩

/-- A source token of a node: its text and its extent. -/
structure Token where
  spelling : String
  extent : Extent
deriving DecidableEq, Repr, Inhabited

/-- The declaration a reference refers to: its name, the spelling of its
type, the file it is declared in, and its identity. -/
structure DeclInfo where
  name : String
  typeSpelling : String
  file : Option String
  key : Nat
deriving DecidableEq, Repr, Inhabited

/-- A node of a syntax tree. -/
structure Node where
  kind : Kind
  spelling : String
  displayName : String
  file : Option String
  extent : Extent
  type : TypeView
  isStatic : Bool
  referenced : Option DeclInfo
  tokens : List Token
  key : Nat
  children : List Node
deriving Inhabited

/-- The name a node's file goes by when the node is compared with its
parent: the file's name, or the node's display name when it has no file. -/
def Node.fileKey (n : Node) : String :=
  n.file.getD n.displayName

/-- How a node's file is printed: its name, or `None`. -/
def Node.fileText (n : Node) : String :=
  n.file.getD "None"

/-- The place a node is reported at: `file:line:column` of its start. -/
def Node.location (n : Node) : String :=
  s!"{n.fileText}:{n.extent.start.line}:{n.extent.start.col}"

end CInspect.Tree
