import CInspect.Preprocess.Expand
import CInspect.Preprocess.Condition
import CInspect.Preprocess.Predefined
import CInspect.Source.Workspace
/-!
Preprocessing a translation unit.

The preprocessor reads the predefined macros and then the main file,
token by token. A `#` that starts a line begins a directive, which runs to
the end of the line: it includes a header, defines or removes a macro,
opens, switches or closes a conditional group, or reports a message.
Lines in a group whose condition fails are skipped, apart from the
directives that keep track of the groups.

Every other token is expanded: an object-like macro is replaced at once; a
function-like macro is replaced when its name is followed by `(`, after its
arguments are collected, up to the matching `)`, from the tokens still to
be rescanned and then from the file. The tokens that come out are the
input of the parser.

A header named `"h"` is searched for first in the directory of the file
that includes it, then, like a header named `<h>`, in the include
directories in order. `#include_next` goes on after the directory the
current file was found in. Every file is known by the name it was found
under, which is how messages and locations name it.

The first error ends preprocessing: a translation with an error is not
inspected, and only the first error is shown. Each message is kept with the
number of tokens given out before it, which orders it among the parser's.
-/

namespace CInspect.Preprocess

open CInspect.Source CInspect.Lex CInspect.Language

/-- How a translation unit is set up: the files, the include directories
given by the user and those of the system, and the main file. -/
structure UnitConfig where
  workspace : Workspace
  includeDirs : List String
  systemDirs : List String
  mainName : String
  mainBytes : ByteArray

/-- The directories the compiler searches after those it is given. -/
def builtinDirs : List String := ["/usr/local/include", "/usr/include/x86_64-linux-gnu", "/usr/include"]

/-- The directories searched for headers, in order: those that exist, each
once. -/
def UnitConfig.searchDirs (c : UnitConfig) : List String :=
  let all := (c.includeDirs.map stripSlash ++ c.systemDirs.map stripSlash ++ builtinDirs).filter
    (fun d => c.workspace.isDirectory d)
  all.foldl (fun acc d => if acc.any (fun e => Path.ofString e == Path.ofString d) then acc else acc ++ [d]) []
where
  /-- A directory name without the slashes at its end. -/
  stripSlash (d : String) : String :=
    let cs := d.toList
    let kept := (cs.reverse.dropWhile (· == '/')).reverse
    if kept.isEmpty && !cs.isEmpty then "/" else String.ofList kept

/-- A file name under a directory: joined by one slash. -/
def joinDir (dir name : String) : String :=
  if dir.endsWith "/" then dir ++ name else dir ++ "/" ++ name

/-- The directory of a file name, as the compiler names it: `.` for a name
without a slash. -/
def dirOfName (name : String) : String :=
  let parts := name.splitOn "/"
  match parts.dropLast with
  | [] => "."
  | ps =>
    let d := "/".intercalate ps
    let trimmed := String.ofList ((d.toList.reverse.dropWhile (· == '/')).reverse)
    if trimmed.isEmpty then (if name.startsWith "/" then "/" else ".") else trimmed

/-- A group of lines under a conditional directive. -/
structure Cond where
  /-- The directive's name token, which messages about the group point at. -/
  start : Loc
  /-- Whether lines of the current branch are read. -/
  active : Bool
  /-- Whether a branch was taken already, or none can be. -/
  taken : Bool
  sawElse : Bool

/-- A file being read. -/
structure Frame where
  file : Nat
  pos : Nat
  atLineStart : Bool
  conds : List Cond
  /-- The search directory the file was found in, if it was found by a
  search. -/
  foundIn : Option Nat
  depth : Nat

/-- The index of the main file among a unit's files: after the scratch
buffer and the predefined macros. -/
def mainFile : Nat := 2

/-- Whether lines are read in a frame: every open group is on its taken
branch. -/
def Frame.active (f : Frame) : Bool :=
  match f.conds with
  | c :: _ => c.active
  | [] => true

/-- What the reader is doing with macro invocations. -/
inductive Mode where
  | normal
  /-- A function-like macro name was read; is the next token `(`? -/
  | afterName (name : PpToken) (m : Macro)
  /-- Collecting arguments of an invocation. -/
  | collecting (name : PpToken) (m : Macro) (depth : Nat) (cur : List PpToken) (args : List Arg)

/-- A line directive: from the line after `line` of file `file`, lines
are numbered from `number` and the file is called `name`. -/
structure LineMark where
  file : Nat
  line : Nat
  number : Nat
  name : Option String

/-- The state of preprocessing. -/
structure PpState where
  config : UnitConfig
  dirs : List String
  files : Array SourceFile
  expand : ExpandState
  macros : MacroTable
  frames : List Frame
  pending : List PpToken
  mode : Mode
  out : Array PpToken
  /-- Messages, each with the number of tokens given out before it. -/
  diags : Array (Nat × Diagnostic)
  onceFiles : List Path
  lineMarks : List LineMark
  finished : Bool
  /-- The `#pragma pack` directives, each with the number of tokens given
  out before it. -/
  packs : Array (Nat × PackAction) := #[]
  /-- Where the macro `NULL` comes to be defined (true) or undefined
  (false), each with the number of tokens given out before it. -/
  nullMacro : Array (Nat × Bool) := #[]
  /-- The identifiers that `#pragma GCC poison` forbids. -/
  poisoned : List String := []
  /-- The definitions saved by `#pragma push_macro`, the latest first. -/
  savedMacros : List (String × Option Macro) := []
  /-- The `#pragma diagnostic` directives, each with the number of tokens
  given out before it. -/
  severityActions : Array (Nat × SeverityAction) := #[]
  /-- The files that are system headers. -/
  systemFiles : List Nat := []

/-- Report a message; an error ends preprocessing. -/
def PpState.report (st : PpState) (d : Diagnostic) : PpState :=
  { st with diags := st.diags.push (st.out.size, d), finished := st.finished || d.severity.isError }

/-- Move the messages of expansion into the state. -/
def PpState.takeExpandDiags (st : PpState) : PpState :=
  let ds := st.expand.diags
  let st := { st with expand := { st.expand with diags := #[] } }
  ds.foldl PpState.report st

/-- The line of a place, as the file's text counts it. -/
def PpState.physicalLine (st : PpState) (l : Loc) : Nat :=
  match st.files[l.file]? with
  | some f => (f.pos l.offset).line
  | none => 0

/-- The line of a place as `#line` directives renumber it. -/
def PpState.presumedLine (st : PpState) (l : Loc) : Nat :=
  let phys := st.physicalLine l
  match st.lineMarks.find? (fun m => m.file == l.file && m.line < phys) with
  | some m => m.number + (phys - m.line - 1)
  | none => phys

/-- The name of a place's file as `#line` directives rename it. -/
def PpState.presumedFile (st : PpState) (l : Loc) : String :=
  let phys := st.physicalLine l
  let marked := st.lineMarks.find? (fun m => m.file == l.file && m.line < phys && m.name.isSome)
  match marked with
  | some m => m.name.getD ""
  | none =>
    match st.files[l.file]? with
    | some f => f.name
    | none => ""

/-- Whether a file name leads to a regular file. -/
def PpState.fileExists (st : PpState) (name : String) : Bool :=
  (st.config.workspace.file? name).isSome

/-- Search for a header: the name it is found under, and the index of the
search directory, if it was found by searching the directories. -/
def PpState.findHeader (st : PpState) (name : String) (angled : Bool) (next : Bool) :
    Option (String × Option Nat) :=
  if name.startsWith "/" then
    if st.fileExists name then some (name, none) else none
  else
    let current := st.frames.head?
    let fromIncluder : Option (String × Option Nat) :=
      if angled || next then none
      else
        match current with
        | some fr =>
          match st.files[fr.file]? with
          | some f =>
            if fr.file == 1 then none
            else
              let cand := dirOfName f.name ++ "/" ++ name
              if st.fileExists cand then some (cand, none) else none
          | none => none
        | none => none
    match fromIncluder with
    | some r => some r
    | none =>
      let startAt := if next then
          match current with
          | some fr => match fr.foundIn with
            | some i => i + 1
            | none => 0
          | none => 0
        else 0
      let rec search (ds : List String) (i : Nat) : Option (String × Option Nat) :=
        match ds with
        | [] => none
        | d :: more =>
          if i < startAt then search more (i + 1)
          else
            let cand := joinDir d name
            if st.fileExists cand then some (cand, some i) else search more (i + 1)
      search st.dirs 0

/-- The expansion environment of the current state. -/
def PpState.env (st : PpState) (inCondition : Bool) : ExpandEnv where
  macros := st.macros
  presumedFile := st.presumedFile
  presumedLine := st.presumedLine
  mainFile := st.config.mainName
  includeDepth := (st.frames.head?.map (·.depth)).getD 0
  hasInclude := fun n angled next => (st.findHeader n angled next).isSome
  inCondition := inCondition

/-- The message of a scanner report, with its place in file `file`. -/
def issueDiagnostic (file : Nat) : LexIssue → Diagnostic
  | .unterminatedComment p => .error ⟨file, p⟩ "unterminated /* comment"
  | .unterminatedLiteral p q =>
    .warning ⟨file, p⟩ (if q = '\'' then "missing terminating ' character"
      else "missing terminating '\"' character") "-Winvalid-pp-token"
  | .emptyCharacter p => .warning ⟨file, p⟩ "empty character constant" "-Winvalid-pp-token"
  | .trigraph p => .warning ⟨file, p⟩ "trigraph ignored" "-Wtrigraphs"
  | .nonAscii p => .error ⟨file, p⟩ "non-ASCII characters are not allowed outside of literals and identifiers"
  | .invalidUtf8 p => .error ⟨file, p⟩ "source file is not valid UTF-8"
  | .unicodeSpace p => .warning ⟨file, p⟩ "treating Unicode character as whitespace" "-Wunicode-whitespace"
  | .nullCharacter p => .warning ⟨file, p⟩ "null character ignored" "-Wnull-character"
  | .badCharacterName p text error =>
    if error then .error ⟨file, p⟩ text else .warning ⟨file, p⟩ text "-Wunicode"

/-- A lexeme of file `file` as a preprocessing token. -/
def tokenOfLexeme (file : Nat) (l : Lexeme) : PpToken :=
  { kind := l.kind, text := if l.kind == .punctuator then canonicalPunctuator l.text else l.text,
    spell := ⟨file, l.start⟩, len := l.stop - l.start, spaceBefore := l.spaceBefore || l.lineStart }

/-- Read the rest of a directive line from `pos`: its lexemes, the scanner
reports, and where the next line starts. -/
def readLine (bs : ByteArray) (pos : Nat) (issues : List LexIssue) (acc : Array Lexeme) (fuel : Nat) :
    Array Lexeme × List LexIssue × Nat :=
  match fuel with
  | 0 => (acc, issues, bs.size)
  | f + 1 =>
    let sc := scanToken bs ⟨false⟩ pos false issues
    match sc.lexeme with
    | some l =>
      if l.lineStart then (acc, issues, l.start)
      else readLine bs sc.next sc.issues (acc.push l) f
    | none => (acc, sc.issues, bs.size)

/-- The text of a directive line from its first token to its last, as
written. -/
def lineText (bs : ByteArray) (ls : List Lexeme) : String :=
  match ls.head?, ls.getLast? with
  | some a, some b => cleanText bs a.start b.stop
  | _, _ => ""

/-- Where the text of a file starts: after the byte order mark of UTF-8,
if the file begins with one. -/
def textStart (bytes : ByteArray) : Nat :=
  if bytes.size ≥ 3 && bytes.get! 0 == 0xEF && bytes.get! 1 == 0xBB && bytes.get! 2 == 0xBF then 3 else 0

/-- Count a file among the system headers. -/
def PpState.markSystem (st : PpState) (file : Nat) : PpState :=
  { st with systemFiles := file :: st.systemFiles }

/-- Start reading a file at the top of the stack; `system` says whether it
is a system header. -/
def PpState.enterFile (st : PpState) (name : String) (bytes : ByteArray) (foundIn : Option Nat)
    (system : Bool) : PpState :=
  let idx := st.files.size
  let depth := match st.frames.head? with
    | some fr => fr.depth + 1
    | none => 0
  let st := if system then st.markSystem idx else st
  { st with files := st.files.push (SourceFile.ofBytes name bytes),
            frames := ⟨idx, textStart bytes, true, [], foundIn, depth⟩ :: st.frames }

/-- The include directories the user gave, as they are searched. -/
def PpState.userDirs (st : PpState) : List String :=
  st.config.includeDirs.map UnitConfig.searchDirs.stripSlash

/-- Replace the frame at the top of the stack. -/
def PpState.setTop (st : PpState) (fr : Frame) : PpState :=
  match st.frames with
  | _ :: rest => { st with frames := fr :: rest }
  | [] => st

/-- Warn about the tokens that stand after the end of the directive `dir`;
the first of them is reported. -/
def PpState.extraTokens (st : PpState) (dir : String) (extra : List PpToken) : PpState :=
  match extra with
  | t :: _ => st.report (.warning t.reportLoc s!"extra tokens at end of #{dir} directive" "-Wextra-tokens")
  | [] => st

/-- Warn about the tokens after the end of the directive `dir` once their
macros are expanded: tokens that expand to nothing are allowed. -/
def PpState.extraExpanded (st : PpState) (dir : String) (extra : List PpToken) : PpState :=
  if extra.isEmpty then st
  else
    let (ex, _) := expandList (st.env false) 100000 extra st.expand
    match ex with
    | t :: _ => st.report (.warning t.loc s!"extra tokens at end of #{dir} directive" "-Wextra-tokens")
    | [] => st

/-- The offset of the `>` that closes a header name whose text starts at
offset `i`, if one stands on the same line. The characters between are
taken as they are: a `//` or a quote there starts nothing. -/
def angledNameEnd (bs : ByteArray) (i : Nat) : Option Nat :=
  go i (bs.size + 1)
where
  /-- Look from offset `j` on, with `fuel` bounding the steps. -/
  go (j : Nat) : Nat → Option Nat
    | 0 => none
    | f + 1 =>
      if j ≥ bs.size then none
      else
        let b := byteAt bs j
        if b == 62 then some j
        else if b == 10 || b == 13 then none
        else
          match spliceAt bs j with
          | some k => go k f
          | none => go (j + 1) f

/-- The header name at the head of a directive's lexemes, as written: a
string literal, or the text between `<` and the next `>` on the line.
Gives the name, whether it is written with angle brackets, the token it
starts at, and the lexemes after it. -/
def writtenHeaderName (bs : ByteArray) (file : Nat) (rest : List Lexeme) :
    Option (String × Bool × PpToken × List Lexeme) :=
  match rest with
  | l :: more =>
    if l.kind == .stringLit && l.text.startsWith "\"" then
      some (String.ofList ((l.text.toList.drop 1).dropLast), false, tokenOfLexeme file l, more)
    else if l.kind == .punctuator && l.text == "<" then
      match angledNameEnd bs (l.start + 1) with
      | some close =>
        let (after, _, _) := readLine bs (close + 1) [] #[] (bs.size + 1)
        some (cleanText bs (l.start + 1) close, true, tokenOfLexeme file l, after.toList)
      | none => none
    else none
  | [] => none

/-- The header name that the expanded tokens of a directive spell: a
string literal, or the tokens between `<` and `>` joined, with the tokens
after it. -/
def expandedHeaderName (ex : List PpToken) : Option (String × Bool × PpToken × List PpToken) :=
  match ex with
  | t :: more =>
    if t.kind == .stringLit && t.text.startsWith "\"" then
      some (String.ofList ((t.text.toList.drop 1).dropLast), false, t, more)
    else if t.isPunct "<" then
      let inner := more.takeWhile (fun x => !x.isPunct ">")
      if inner.length < more.length then
        some (String.join (inner.zipIdx.map (fun (x, i) =>
          (if i > 0 && x.spaceBefore then " " else "") ++ x.text)), true, t, more.drop (inner.length + 1))
      else none
    else none
  | [] => none

/-- Handle `#include`, `#import` and `#include_next` with the lexemes
after the directive name `dir`; `eol` is where the line ends. -/
def PpState.include (st : PpState) (fr : Frame) (bs : ByteArray) (dir : PpToken) (rest : List Lexeme)
    (eol : Loc) : PpState :=
  -- `#include_next` goes on after the directory the current file was
  -- found in, when it was found by a search.
  let (st, next) : PpState × Bool :=
    if dir.text != "include_next" then (st, false)
    else if fr.file == mainFile then
      (st.report (.warning dir.spell
        "#include_next in primary source file; will search from start of include path"
        "-Winclude-next-outside-header"), false)
    else if fr.foundIn.isNone then
      (st.report (.warning dir.spell "#include_next with absolute path" "-Winclude-next-absolute-path"), false)
    else (st, true)
  let toks := rest.map (tokenOfLexeme fr.file)
  let named : Option (String × Bool × PpToken × List PpToken) :=
    match writtenHeaderName bs fr.file rest with
    | some (name, angled, t, after) => some (name, angled, t, after.map (tokenOfLexeme fr.file))
    | none => expandedHeaderName (expandList (st.env false) 100000 toks st.expand).1
  match named with
  | none =>
    let at_ := (toks.head?.map (·.spell)).getD eol
    st.report (.error at_ "expected \"FILENAME\" or <FILENAME>")
  | some (name, angled, nameTok, extra) =>
    let st := st.extraExpanded dir.text extra
    if name.isEmpty then st.report (.error nameTok.spell "empty filename")
    else if fr.depth ≥ 199 then st.report (.error nameTok.spell "#include nested too deeply")
    else
      match st.findHeader name angled next with
      | none => st.report ⟨.fatal, some nameTok.spell, s!"'{name}' file not found", none⟩
      | some (found, foundIn) =>
        if st.onceFiles.contains (Path.ofString found) then st
        else
          -- A header is a system header when it is found in a system
          -- directory, or next to a system header that includes it.
          let system := match foundIn with
            | some i => !(st.userDirs.contains ((st.dirs[i]?).getD ""))
            | none => !name.startsWith "/" && st.systemFiles.contains fr.file
          match st.config.workspace.file? found with
          | some bytes => st.enterFile found bytes foundIn system
          | none => st.report ⟨.fatal, some nameTok.spell, s!"'{name}' file not found", none⟩

/-- Handle `#define` with the lexemes after the directive name. -/
def PpState.define (st : PpState) (fr : Frame) (rest : List Lexeme) (eol : Loc) : PpState :=
  let toks : List PpToken := rest.map (tokenOfLexeme fr.file)
  -- The body of an object-like macro must be set off from its name.
  let st := match toks with
    | nameTok :: body :: _ =>
      if nameTok.kind == TokenKind.identifier && nameTok.text != "defined" && !body.spaceBefore && !body.isPunct "(" then
        st.report (.warning body.spell "ISO C99 requires whitespace after the macro name" "-Wc99-extensions")
      else st
    | _ => st
  match Macro.ofDirective toks with
  | .error e => st.report (.error ((e.at_.map PpToken.spell).getD eol) e.text)
  | .ok m =>
    let st := match st.macros.get? m.name, toks.head? with
      | some old, some n =>
        if old.builtin.isSome then
          st.report (.warning n.spell "redefining builtin macro" "-Wbuiltin-macro-redefined")
        else if !old.replaceable && !(old.sameAs m) then
          st.report (.warning n.spell s!"'{m.name}' macro redefined" "-Wmacro-redefined")
        else st
      | _, _ => st
    let st := if m.name == "NULL" then { st with nullMacro := st.nullMacro.push (st.out.size, true) } else st
    { st with macros := st.macros.insert m.name m }

/-- Handle `#undef` with the lexemes after the directive name. -/
def PpState.undefine (st : PpState) (fr : Frame) (rest : List Lexeme) (eol : Loc) : PpState :=
  match rest.map (tokenOfLexeme fr.file) with
  | n :: more =>
    if n.kind != .identifier then st.report (.error n.spell "macro name must be an identifier")
    else if n.text == "defined" then st.report (.error n.spell "'defined' cannot be used as a macro name")
    else
      let builtin := match st.macros.get? n.text with
        | some m => m.builtin.isSome
        | none => false
      let st := if builtin then
          st.report (.warning n.spell "undefining builtin macro" "-Wbuiltin-macro-redefined")
        else st
      let st := st.extraTokens "undef" more
      let st := if n.text == "NULL" then { st with nullMacro := st.nullMacro.push (st.out.size, false) } else st
      { st with macros := st.macros.erase n.text }
  | [] => st.report (.error eol "macro name missing")

/-- The number of a `#line` directive: decimal digits, between which
quotes may stand, computed in 32 bits. A character that is not a digit is
refused with its offset; so is, with none, a digit after which the value
comes out smaller than before. -/
def lineNumberValue (text : String) : Except (Option Nat) Nat :=
  go text.toList 0 0
where
  /-- Read on from offset `i` with the value `v` so far. -/
  go : List Char → Nat → Nat → Except (Option Nat) Nat
    | [], _, v => .ok v
    | c :: cs, i, v =>
      if c == '\'' then go cs (i + 1) v
      else if c.isDigit then
        let next := (v * 10 + (c.toNat - 48)) % 4294967296
        if next < v then .error none else go cs (i + 1) next
      else .error (some i)

/-- Handle `#line` on line `line` of the file, with the lexemes after the
directive name: a number, then perhaps the name the file takes. -/
def PpState.lineDirective (st : PpState) (fr : Frame) (line : Nat) (rest : List Lexeme) (eol : Loc) :
    PpState :=
  let (toks, _) := expandList (st.env false) 100000 (rest.map (tokenOfLexeme fr.file)) st.expand
  let needsNumber (l : Loc) : PpState :=
    st.report (.error l "#line directive requires a positive integer argument")
  match toks with
  | [] => needsNumber eol
  | d :: more =>
    if d.kind != .number then needsNumber d.reportLoc
    else
      match lineNumberValue d.text with
      | .error (some i) => st.report (.error (d.charLoc i) "#line directive requires a simple digit sequence")
      | .error none => needsNumber d.reportLoc
      | .ok v =>
        let st := if d.text.startsWith "0" && v != 0 then
            st.report ⟨.warning, some d.reportLoc, "#line directive interprets number as decimal, not octal", none⟩
          else st
        let mark (st : PpState) (name : Option String) : PpState :=
          { st with lineMarks := ⟨fr.file, line, v, name⟩ :: st.lineMarks }
        match more with
        | [] => mark st none
        | s :: after =>
          if s.kind == .stringLit && s.text.startsWith "\"" then
            mark (st.extraTokens "line" after) (some (String.ofList ((s.text.toList.drop 1).dropLast)))
          else st.report (.error s.reportLoc "invalid filename for #line directive")

/-- Handle `#ident` and `#sccs`, whose string literal is otherwise
ignored. -/
def PpState.ident (st : PpState) (fr : Frame) (rest : List Lexeme) (eol : Loc) : PpState :=
  let (toks, _) := expandList (st.env false) 100000 (rest.map (tokenOfLexeme fr.file)) st.expand
  match toks with
  | s :: after =>
    if s.kind == .stringLit && (s.text.startsWith "\"" || s.text.startsWith "L\"") then
      st.extraTokens "ident" after
    else st.report (.error s.reportLoc "invalid #ident directive")
  | [] => st.report (.error eol "invalid #ident directive")

/-- Handle a conditional directive in a frame whose lines are read or
skipped; gives the new frame. -/
def PpState.conditional (st : PpState) (fr : Frame) (name : PpToken) (rest : List Lexeme)
    (eol : Loc) : PpState × Frame :=
  let toks := rest.map (tokenOfLexeme fr.file)
  let evalIf (st : PpState) : PpState × Bool :=
    let (ex, es) := expandList { st.env true with lineEnd := eol } 100000 toks st.expand
    let st := { st with expand := es }.takeExpandDiags
    if ex.isEmpty then (st.report (.error eol "expected value in expression"), false)
    else
      let (warnings, r) := evalCondition eol ex
      let st := warnings.foldl PpState.report st
      match r with
      | .ok b => (st, b)
      | .error (msg, l) => (if msg.isEmpty then st else st.report (.error l msg), false)
  -- The test of `#ifdef` and its kin: whether the name is defined, or
  -- none when there is no name.
  let defTest (st : PpState) : PpState × Option Bool :=
    match toks with
    | n :: more =>
      if n.kind == .identifier then (st.extraTokens name.text more, some ((st.env true).isDefined n.text))
      else (st.report (.error n.spell "macro name must be an identifier"), none)
    | [] => (st.report (.error eol "macro name missing"), none)
  let tested (positive : Bool) (r : Option Bool) : Bool :=
    match r with
    | some d => if positive then d else !d
    | none => false
  let outerActive (outer : List Cond) : Bool :=
    match outer with
    | c :: _ => c.active
    | [] => true
  match name.text with
  | "if" | "ifdef" | "ifndef" =>
    if !fr.active then
      (st, { fr with conds := ⟨name.spell, false, true, false⟩ :: fr.conds })
    else
      let (st, b) := if name.text == "if" then evalIf st
        else
          let (st, r) := defTest st
          (st, tested (name.text == "ifdef") r)
      (st, { fr with conds := ⟨name.spell, b, b, false⟩ :: fr.conds })
  | "elif" | "elifdef" | "elifndef" =>
    match fr.conds with
    | [] => (st.report (.error name.spell s!"#{name.text} without #if"), fr)
    | c :: outer =>
      if c.sawElse then (st.report (.error name.spell s!"#{name.text} after #else"), fr)
      else if c.taken then (st, { fr with conds := { c with active := false } :: outer })
      else
        let (st, b) := if name.text == "elif" then evalIf st
          else
            let (st, r) := defTest st
            (st, tested (name.text == "elifdef") r)
        (st, { fr with conds := { c with active := b, taken := b } :: outer })
  | "else" =>
    match fr.conds with
    | [] => ((st.extraTokens "else" toks).report (.error name.spell "#else without #if"), fr)
    | c :: outer =>
      -- The rest of the line is checked when the group was read, or when
      -- its `#else` branch is the one taken.
      let st := if c.active then st.extraTokens "else" toks else st
      let st := if c.sawElse then st.report (.error name.spell "#else after #else") else st
      let st := if !c.active && !c.taken then st.extraTokens "else" toks else st
      (st, { fr with conds := { c with active := !c.taken, taken := true, sawElse := true } :: outer })
  | _ =>
    match fr.conds with
    | [] => ((st.extraTokens "endif" toks).report (.error name.spell "#endif without #if"), fr)
    | _ :: outer =>
      let st := if outerActive outer then st.extraTokens "endif" toks else st
      (st, { fr with conds := outer })

/-- Whether a directive name opens, switches or closes a conditional group. -/
def isConditionalDirective (s : String) : Bool :=
  ["if", "ifdef", "ifndef", "elif", "elifdef", "elifndef", "else", "endif"].contains s

/-- The value of a `#pragma pack` argument: a power of two up to 16, or
zero for no limit; none when it is not one. -/
def packValue (t : PpToken) : Option (Option Nat) :=
  if t.kind == .number && t.text.all Char.isDigit then
    let v := t.text.toNat!
    if v == 0 then some none
    else if v == 1 || v == 2 || v == 4 || v == 8 || v == 16 then some (some v)
    else none
  else none

/-- Record a `#pragma pack` whose tokens after `pack` are `ts`. A
malformed one is ignored with a warning. -/
def PpState.pragmaPack (st : PpState) (at_ : Loc) (ts : List PpToken) : PpState :=
  let record (a : PackAction) : PpState := { st with packs := st.packs.push (st.out.size, a) }
  let invalid : PpState :=
    st.report (.warning at_ "expected #pragma pack parameter to be '1', '2', '4', '8', or '16'"
      "-Wignored-pragmas")
  let withValue (t : PpToken) (k : Option Nat → PackAction) : PpState :=
    match packValue t with
    | some v => record (k v)
    | none => invalid
  match ts with
  | lp :: inner =>
    if lp.text != "(" then
      st.report (.warning lp.reportLoc "missing '(' after '#pragma pack' - ignoring" "-Wignored-pragmas")
    else
      let args := inner.takeWhile (·.text != ")")
      let texts := args.map (·.text)
      match texts, args with
      | [], _ => record (.set none)
      | ["show"], _ => st
      | ["push"], _ => record (.push none)
      | ["pop"], _ => record (.pop none)
      | ["push", ",", _], [_, _, v] => if v.kind == .identifier then record (.push none) else withValue v .push
      | ["pop", ",", _], [_, _, v] => if v.kind == .identifier then record (.pop none) else withValue v .pop
      | ["push", ",", _, ",", _], [_, _, _, _, v] => withValue v .push
      | ["pop", ",", _, ",", _], [_, _, _, _, v] => withValue v .pop
      | [_], [v] => withValue v .set
      | _, _ => invalid
  | [] => st.report (.warning at_ "missing '(' after '#pragma pack' - ignoring" "-Wignored-pragmas")

/-- The characters of a string literal between its quotes, with its
escapes read. -/
def literalContents (text : String) : String :=
  String.ofList (unescape (((text.toList.dropWhile (· != '"')).drop 1).dropLast))
where
  /-- Read the escapes of a literal's characters. -/
  unescape : List Char → List Char
    | '\\' :: c :: rest => (if c == 'n' then '\n' else if c == 't' then '\t' else c) :: unescape rest
    | c :: rest => c :: unescape rest
    | [] => []

/-- The text of the string literals at the head of `ts`, joined, and the
tokens after them; none when `ts` does not start with one. -/
def leadingStrings (ts : List PpToken) : Option (String × List PpToken) :=
  let strs := ts.takeWhile (·.kind == .stringLit)
  if strs.isEmpty then none
  else some (String.join (strs.map (literalContents ·.text)), ts.drop strs.length)

/-- Handle a pragma that shows a message: `message`, or `GCC warning` or
`GCC error`, whose word is `word`, with the expanded tokens after it. The
message is one or more string literals, which may stand in parentheses. -/
def PpState.pragmaMessage (st : PpState) (word : PpToken) (ts : List PpToken) (eol : Loc) : PpState :=
  let kind := word.text
  let locOf (ts : List PpToken) : Loc := (ts.head?.map (·.reportLoc)).getD eol
  let malformed (l : Loc) : PpState := st.report (.error l s!"pragma {kind} requires parenthesized string")
  let paren := ts.head?.any (·.isPunct "(")
  let ts := if paren then ts.drop 1 else ts
  if !paren && !(ts.head?.any (·.kind == .stringLit)) then malformed word.reportLoc
  else
    match leadingStrings ts with
    | none => st.report (.error (locOf ts) s!"expected string literal in pragma {kind}")
    | some (text, after) =>
      let closed : Option (List PpToken) :=
        if !paren then some after
        else match after with
          | t :: more => if t.isPunct ")" then some more else none
          | [] => none
      match closed with
      | none => malformed (locOf after)
      | some (t :: _) => malformed t.reportLoc
      | some [] =>
        if kind == "error" then st.report (.error word.reportLoc text)
        else st.report (.warning word.reportLoc text "-W#pragma-messages")

/-- Handle `#pragma GCC poison`: the identifiers after it may no longer be
used. -/
def PpState.poison (st : PpState) : List PpToken → PpState
  | [] => st
  | t :: more =>
    if t.kind != .identifier then st.report (.error t.reportLoc "can only poison identifier tokens")
    else if st.poisoned.contains t.text then st.poison more
    else
      let st := if st.macros.contains t.text then
          st.report ⟨.warning, some t.reportLoc, "poisoning existing macro", none⟩
        else st
      { st with poisoned := t.text :: st.poisoned }.poison more

/-- The severity that a word of `#pragma clang diagnostic` gives: none to
leave warnings out. -/
def severityNamed : String → Option (Option Severity)
  | "ignored" => some none
  | "warning" => some (some .warning)
  | "error" => some (some .error)
  | "fatal" => some (some .fatal)
  | _ => none

/-- Handle `#pragma GCC diagnostic` and `#pragma clang diagnostic` with the
tokens after the word `diagnostic`. -/
def PpState.pragmaDiagnostic (st : PpState) (ts : List PpToken) (eol : Loc) : PpState :=
  let unknown (l : Loc) (text : String) : PpState := st.report (.warning l text "-Wunknown-pragmas")
  let invalid (l : Loc) : PpState :=
    unknown l "pragma diagnostic expected 'error', 'warning', 'ignored', 'fatal', 'push', or 'pop'"
  let record (a : SeverityAction) : PpState :=
    { st with severityActions := st.severityActions.push (st.out.size, a) }
  let depth := st.severityActions.foldl (fun d (_, a) => match a with
    | .push => d + 1
    | .pop => d - 1
    | .set _ _ => d) 0
  match ts with
  | [] => invalid eol
  | t :: more =>
    if t.kind != .identifier then invalid t.reportLoc
    else if t.text == "push" then record .push
    else if t.text == "pop" then
      if depth > 0 then record .pop
      else unknown t.reportLoc "pragma diagnostic pop could not pop, no matching push"
    else
      match severityNamed t.text with
      | none => invalid t.reportLoc
      | some sev =>
        match more with
        | [] => st.report (.error eol "expected string literal in pragma diagnostic")
        | s :: _ =>
          match leadingStrings more with
          | none => st.report (.error s.reportLoc "expected string literal in pragma diagnostic")
          | some (option, after) =>
            match after with
            | a :: _ => unknown a.reportLoc "unexpected token in pragma diagnostic"
            | [] =>
              if option.length < 3 || !(option.startsWith "-W" || option.startsWith "-R") then
                unknown s.reportLoc "pragma diagnostic expected option name (e.g. \"-Wundef\")"
              else if option.startsWith "-R" then st
              else
                let group := String.ofList (option.toList.drop 2)
                if isWarningGroup group then record (.set group sev)
                else st.report (.warning s.reportLoc s!"unknown warning group '{option}', ignored"
                  "-Wunknown-warning-option")

/-- The latest saved definition of a name, and the saved definitions
without it. -/
def takeSaved (name : String) : List (String × Option Macro) → Option (Option Macro × List (String × Option Macro))
  | [] => none
  | (n, m) :: rest =>
    if n == name then some (m, rest)
    else (takeSaved name rest).map fun (x, r) => (x, (n, m) :: r)

/-- Handle `#pragma push_macro("name")`, which saves the definition of a
macro, and `#pragma pop_macro("name")`, which brings back the one saved
last; `word` is `push_macro` or `pop_macro`. -/
def PpState.pushPopMacro (st : PpState) (word : PpToken) (ts : List PpToken) : PpState :=
  let malformed : PpState :=
    st.report (.error word.reportLoc s!"pragma {word.text} requires a parenthesized string")
  match ts with
  | lp :: s :: rp :: _ =>
    if lp.isPunct "(" && s.kind == .stringLit && s.text.startsWith "\"" && rp.isPunct ")" then
      let name := String.ofList ((s.text.toList.drop 1).dropLast)
      if word.text == "push_macro" then
        let cur := (st.macros.get? name).map ({ · with replaceable := true })
        let macros := match cur with
          | some m => st.macros.insert name m
          | none => st.macros
        { st with macros := macros, savedMacros := (name, cur) :: st.savedMacros }
      else
        match takeSaved name st.savedMacros with
        | some (saved, rest) =>
          let macros := match saved with
            | some m => st.macros.insert name m
            | none => st.macros.erase name
          { st with macros := macros, savedMacros := rest }
        | none =>
          st.report (.warning word.reportLoc
            s!"pragma pop_macro could not pop '{name}', no matching push_macro" "-Wignored-pragmas")
    else malformed
  | _ => malformed

/-- Handle a pragma whose tokens after the word `pragma` are `ts`, in the
file of frame `fr`; `eol` is where its line ends. Pragmas the compiler
does not know are ignored. -/
def PpState.pragma (st : PpState) (fr : Frame) (ts : List PpToken) (eol : Loc) : PpState :=
  let expand (ts : List PpToken) : List PpToken := (expandList (st.env false) 100000 ts st.expand).1
  match ts with
  | [] => st
  | p :: rest =>
    match p.text with
    | "once" =>
      let st := st.extraTokens "pragma once" rest
      if fr.file == mainFile then
        st.report (.warning p.reportLoc "#pragma once in main file" "-Wpragma-once-outside-header")
      else
        match st.files[fr.file]? with
        | some f => { st with onceFiles := Path.ofString f.name :: st.onceFiles }
        | none => st
    | "pack" => st.pragmaPack p.reportLoc rest
    | "message" => st.pragmaMessage p (expand rest) eol
    | "push_macro" | "pop_macro" => st.pushPopMacro p (expand rest)
    | "GCC" | "clang" =>
      match rest with
      | q :: more =>
        match q.text with
        | "poison" => st.poison more
        | "diagnostic" => st.pragmaDiagnostic more eol
        | "system_header" =>
          if fr.file == mainFile then
            st.report (.warning q.reportLoc "#pragma system_header ignored in main file"
              "-Wpragma-system-header-outside-header")
          else st.extraTokens "pragma" more |>.markSystem fr.file
        | "warning" | "error" => if p.text == "GCC" then st.pragmaMessage q (expand more) eol else st
        | _ => st
      | [] => st
    | _ => st

/-- The error for the first poisoned identifier among a line's lexemes. -/
def PpState.checkPoison (st : PpState) (file : Nat) (ls : List Lexeme) : PpState :=
  if st.poisoned.isEmpty then st
  else
    match ls.find? (fun l => l.kind == .identifier && st.poisoned.contains l.text) with
    | some l => st.report (.error ⟨file, l.start⟩ "attempt to use a poisoned identifier")
    | none => st

/-- Handle a directive line that starts at the `#` lexeme `hash`. -/
def PpState.directive (st : PpState) (fr : Frame) (hash : Lexeme) : PpState :=
  match st.files[fr.file]? with
  | none => st
  | some f =>
    let bs := f.bytes
    let (lexemes, issues, nextLine) := readLine bs hash.stop [] #[] (bs.size + 1)
    let ls := lexemes.toList
    let eol : Loc := ⟨fr.file, (match ls.getLast? with
      | some l => lineEndAfter bs l.stop
      | none => lineEndAfter bs hash.stop)⟩
    let fr' := { fr with pos := nextLine, atLineStart := true }
    match ls with
    | [] => st.setTop fr'
    | nameLex :: rest =>
      let name := tokenOfLexeme fr.file nameLex
      if nameLex.kind == .identifier && isConditionalDirective nameLex.text then
        let (st, fr'') := st.conditional fr' name rest eol
        st.setTop fr''
      else if !fr.active then st.setTop fr'
      else
        let st := issues.foldl (fun s i => s.report (issueDiagnostic fr.file i)) st
        let st := st.setTop fr'
        let st := if nameLex.text == "pragma" then st else st.checkPoison fr.file rest
        let line := (f.pos hash.start).line
        if st.finished then st
        else if nameLex.kind == .number then
          -- A line marker: # number "file" flags.
          let fname := match rest with
            | s :: _ => if s.kind == .stringLit then some (String.ofList ((s.text.toList.drop 1).dropLast)) else none
            | [] => none
          { st with lineMarks := ⟨fr.file, line, nameLex.text.toNat!, fname⟩ :: st.lineMarks }
        else if nameLex.kind != .identifier then
          st.report (.error name.spell "invalid preprocessing directive")
        else
          match nameLex.text with
          | "include" | "import" | "include_next" => st.include fr' bs name rest eol
          | "define" => st.define fr' rest eol
          | "undef" => st.undefine fr' rest eol
          | "error" => st.report (.error name.spell (lineText bs rest))
          | "warning" => st.report (.warning name.spell (lineText bs rest) "-W#warnings")
          | "line" => st.lineDirective fr' line rest eol
          | "pragma" => st.pragma fr' (rest.map (tokenOfLexeme fr.file)) eol
          | "ident" | "sccs" => st.ident fr' rest eol
          | _ => st.report (.error name.spell "invalid preprocessing directive")
where
  /-- The end of the line that offset `i` is on. -/
  lineEndAfter (bs : ByteArray) (i : Nat) : Nat :=
    let rec go (j : Nat) (fuel : Nat) : Nat :=
      match fuel with
      | 0 => j
      | f + 1 =>
        if j ≥ bs.size then bs.size
        else
          let b := bs.get! j
          if b == 10 || b == 13 then j
          else if b == 92 then
            match spliceAt bs j with
            | some k => go k f
            | none => go (j + 1) f
          else go (j + 1) f
    go i (bs.size + 1)

/-- What reading the files gives: a token, nothing yet (a directive or a
skipped line was handled), or the end of the input. -/
inductive FileRead where
  | token (t : PpToken)
  | nothing
  | finished

/-- Read from the files: the next token of a line that is read, handling
directives and the ends of files. -/
def PpState.readFile (st : PpState) : PpState × FileRead :=
  match st.frames with
  | [] => (st, .finished)
  | fr :: rest =>
    match st.files[fr.file]? with
    | none => ({ st with frames := rest }, .nothing)
    | some f =>
      let bs := f.bytes
      let sc := scanToken bs ⟨false⟩ fr.pos fr.atLineStart []
      match sc.lexeme with
      | none =>
        -- The end of the file: every group must be closed.
        let st := match fr.conds with
          | c :: _ => st.report (.error c.start "unterminated conditional directive")
          | [] => st
        let st := if fr.active then sc.issues.foldl (fun s i => s.report (issueDiagnostic fr.file i)) st else st
        let st := { st with frames := rest }
        if rest.isEmpty then (st, .finished) else (st, .nothing)
      | some l =>
        if l.lineStart && l.kind == .punctuator && canonicalPunctuator l.text == "#" then
          (st.directive fr l, .nothing)
        else if !fr.active then
          (st.setTop { fr with pos := sc.next, atLineStart := false }, .nothing)
        else
          let st := sc.issues.foldl (fun s i => s.report (issueDiagnostic fr.file i)) st
          let st := st.setTop { fr with pos := sc.next, atLineStart := false }
          let st := st.checkPoison fr.file [l]
          (st, .token (tokenOfLexeme fr.file l))

/-- The next token to scan: one left by an expansion, or one from the
files. -/
def PpState.readRaw (st : PpState) : PpState × FileRead :=
  match st.pending with
  | t :: rest => ({ st with pending := rest }, .token t)
  | [] => st.readFile

/-- Give out a token to the parser. -/
def PpState.emit (st : PpState) (t : PpToken) : PpState :=
  { st with out := st.out.push t }

/-- The text a `_Pragma` operand spells: the string literal without its
prefix and quotes, with each escaped quote and backslash read. -/
def destringize (text : String) : String :=
  String.ofList (go (((text.toList.dropWhile (· != '"')).drop 1).dropLast))
where
  /-- Read the escapes of quotes and backslashes. -/
  go : List Char → List Char
    | '\\' :: c :: rest => if c == '"' || c == '\\' then c :: go rest else '\\' :: go (c :: rest)
    | c :: rest => c :: go rest
    | [] => []

/-- Run the `_Pragma` operator whose name token is `name`, with its
collected operand: a string literal, whose text is handled as the tokens
of a `#pragma` line placed where the operator stands. -/
def PpState.pragmaOperator (st : PpState) (name rparen : PpToken) (args : List Arg) : PpState :=
  let st := { st with mode := .normal }
  let operand := match args with
    | [a] => (expandList (st.env false) 100000 a st.expand).1
    | _ => []
  let malformed : PpState := st.report (.error name.reportLoc "_Pragma takes a parenthesized string literal")
  match operand with
  | [s] =>
    if s.kind == .stringLit then
      let bytes := (destringize s.text).toUTF8
      let (lexemes, _, _) := readLine bytes 0 [] #[] (bytes.size + 1)
      let o := expansionOrigin name rparen false name.reportLoc
      let toks := lexemes.toList.map fun l => { tokenOfLexeme scratchFile l with origin := some o }
      match st.frames.head? with
      | some fr => st.pragma fr toks name.reportLoc
      | none => st
    else malformed
  | _ => malformed

/-- Expand an invocation with its arguments and put the result before the
tokens still to be scanned. -/
def PpState.invoke (st : PpState) (name : PpToken) (m : Macro) (rparen : PpToken) (args : List Arg) :
    PpState :=
  if m.builtin == some .pragmaOperator then st.pragmaOperator name rparen args else
  match fitArgs m args with
  | .error msg =>
    st.report (.error (if msg.startsWith "too few" then rparen.reportLoc else name.reportLoc) msg)
  | .ok args =>
    let hide := name.hide.filter (rparen.hide.contains ·)
    let inv : Invocation := ⟨m, name, rparen, hide⟩
    let (out, es) := substitute (st.env false) 100000 inv args st.expand
    { st with expand := es, pending := leadWith name.spaceBefore out ++ st.pending, mode := .normal }.takeExpandDiags

/-- One step of preprocessing. -/
def PpState.step (st : PpState) : PpState :=
  let (st, r) := st.readRaw
  match st.mode, r with
  | _, .nothing => st
  | .normal, .finished => { st with finished := true }
  | .afterName name _, .finished => { (st.emit name) with finished := true, mode := .normal }
  | .collecting name _ _ _ _, .finished =>
    st.report (.error name.reportLoc "unterminated function-like macro invocation")
  | .afterName name m, .token t =>
    if t.isPunct "(" then { st with mode := .collecting name m 0 [] [] }
    else { (st.emit name) with mode := .normal, pending := t :: st.pending }
  | .collecting name m depth cur args, .token t =>
    let nParams := (m.params.getD []).length
    if t.isPunct ")" ∧ depth = 0 then st.invoke name m t (args ++ [cur])
    else if t.isPunct "," ∧ depth = 0 ∧ ¬ (m.variadic ∧ args.length + 1 ≥ nParams) then
      { st with mode := .collecting name m 0 [] (args ++ [cur]) }
    else if t.isPunct "(" then { st with mode := .collecting name m (depth + 1) (cur ++ [t]) args }
    else if t.isPunct ")" then { st with mode := .collecting name m (depth - 1) (cur ++ [t]) args }
    else { st with mode := .collecting name m depth (cur ++ [t]) args }
  | .normal, .token t =>
    if t.kind != TokenKind.identifier || t.hide.contains t.text then st.emit t
    else
      match st.macros.get? t.text with
      | none => st.emit t
      | some m =>
        match m.builtin with
        | some .featureTest => st.emit t
        | some .pragmaOperator => { st with mode := .afterName t m }
        | some b =>
          let (tok, es) := builtinToken (st.env false) b t st.expand
          { st with expand := es }.emit tok
        | none =>
          match m.params with
          | none =>
            let inv : Invocation := ⟨m, t, t, t.hide⟩
            let (out, es) := substitute (st.env false) 100000 inv [] st.expand
            { st with expand := es, pending := leadWith t.spaceBefore out ++ st.pending }.takeExpandDiags
          | some _ => { st with mode := .afterName t m }

/-- Run preprocessing steps until the input ends, an error stops it, or the
fuel runs out. -/
def PpState.run : Nat → PpState → PpState
  | 0, st => st
  | f + 1, st => if st.finished then st else PpState.run f st.step

/-- What preprocessing gives: the tokens for the parser, ending with the
end-of-input token; the messages, each with the number of tokens given out
before it; and the files read, the scratch buffer first. -/
structure Preprocessed where
  tokens : Array PpToken
  diags : Array (Nat × Diagnostic)
  files : Array SourceFile
  packs : Array (Nat × PackAction) := #[]
  /-- The `#pragma diagnostic` directives, each with the number of tokens
  given out before it. -/
  severityActions : Array (Nat × SeverityAction) := #[]
  /-- The files that are system headers. -/
  systemFiles : List Nat := []
  /-- Where the macro `NULL` comes to be defined or undefined. -/
  nullMacro : Array (Nat × Bool) := #[]

/-- The offset the end of a file is reported at: on its last line break
(`\n`, `\r`, or the two together) when it ends with one, so that a
diagnostic at the end names the last line that was written, not an empty
one after it. -/
def endOfText (bs : ByteArray) : Nat :=
  let n := bs.size
  let isBreak (i : Nat) : Bool := byteAt bs i == 10 || byteAt bs i == 13
  if n == 0 || !isBreak (n - 1) then n
  else if n ≥ 2 && isBreak (n - 2) && byteAt bs (n - 2) != byteAt bs (n - 1) then n - 2
  else n - 1

/-- Preprocess a translation unit. -/
def preprocess (c : UnitConfig) : Preprocessed :=
  let macros : MacroTable := builtinMacros.foldl (fun t m => t.insert m.name m) {}
  let predefined := predefinedText c.workspace.compilerBuild
  let st0 : PpState := {
    config := c, dirs := c.searchDirs,
    files := #[SourceFile.ofBytes "<scratch space>" ByteArray.empty,
               SourceFile.ofBytes "<built-in>" predefined.toUTF8],
    expand := ⟨ByteArray.empty, 0, #[]⟩, macros := macros, frames := [⟨1, 0, true, [], none, 0⟩],
    pending := [], mode := .normal, out := #[], diags := #[], onceFiles := [], lineMarks := [],
    finished := false }
  -- The predefined macros are read first, from a buffer of their own.
  let st1 := PpState.run (predefined.length * 4 + 100) st0
  let st2 := { st1 with finished := false, frames := [] }.enterFile c.mainName c.mainBytes none false
  let fuel := 400 * (c.mainBytes.size + 1000) + 4000000
  let st3 := PpState.run fuel st2
  let endLoc : Loc := ⟨mainFile, endOfText c.mainBytes⟩
  let files := st3.files.set! scratchFile (SourceFile.ofBytes "<scratch space>" st3.expand.scratch)
  { tokens := st3.out.push (PpToken.endOfInput endLoc), diags := st3.diags, files := files,
    packs := st3.packs, severityActions := st3.severityActions, systemFiles := st3.systemFiles,
    nullMacro := st3.nullMacro }

end CInspect.Preprocess
