/-!
Lexemes of C source text.

A lexeme is a run of bytes of one file that the scanner reads as one
token: an identifier, a preprocessing number, a character constant, a
string literal, a punctuator, a comment (kept only when asked for), or a
character that starts no token. It records its byte range, its text with
line splices removed, and whether it starts a line or follows blank space,
which the preprocessor needs for directives and macro definitions.
-/

namespace CInspect.Lex

/-- The kinds of lexeme. -/
inductive TokenKind where
  | identifier
  | number
  | charConst
  | stringLit
  | punctuator
  | comment
  | unknown
deriving DecidableEq, Repr, Inhabited

/-- A lexeme: kind, byte range `[start, stop)`, text without line splices,
and its position relative to line breaks and blanks. -/
structure Lexeme where
  kind : TokenKind
  start : Nat
  stop : Nat
  text : String
  lineStart : Bool
  spaceBefore : Bool
deriving Repr, Inhabited

/-- Something the scanner reports while reading. -/
inductive LexIssue where
  /-- A block comment that the file ends inside. -/
  | unterminatedComment (pos : Nat)
  /-- A character constant or string literal that the line ends inside. -/
  | unterminatedLiteral (pos : Nat) (quote : Char)
  /-- A character constant with nothing between its quotes. -/
  | emptyCharacter (pos : Nat)
  /-- A character beyond ASCII that may not start an identifier. -/
  | nonAscii (pos : Nat)
  /-- Bytes that are not UTF-8. -/
  | invalidUtf8 (pos : Nat)
  /-- A Unicode space, read as a blank. -/
  | unicodeSpace (pos : Nat)
  /-- A zero byte, read as a blank. -/
  | nullCharacter (pos : Nat)
  /-- A backslash that starts a universal character name that is not
  valid: the message, and whether it is an error rather than a warning. -/
  | badCharacterName (pos : Nat) (text : String) (error : Bool)
  /-- Two question marks and a character that with them would make a
  trigraph, which is not replaced. -/
  | trigraph (pos : Nat)
deriving Repr, Inhabited

/-- The punctuators of C, digraphs included, longest first within each
first character. -/
def punctuators : List String :=
  ["%:%:", "...", "<<=", ">>=", "->", "++", "--", "<<", ">>", "<=", ">=", "==", "!=",
   "&&", "||", "*=", "/=", "%=", "+=", "-=", "&=", "^=", "|=", "##", "<:", ":>", "<%",
   "%>", "%:", "[", "]", "(", ")", "\x7b", "\x7d", ".", "&", "*", "+", "-", "~", "!", "/", "%",
   "<", ">", "^", "|", "?", ":", ";", "=", ",", "#"]

/-- The punctuator a digraph stands for; other punctuators stand for
themselves. -/
def canonicalPunctuator : String → String
  | "<:" => "["
  | ":>" => "]"
  | "<%" => "\x7b"
  | "%>" => "\x7d"
  | "%:" => "#"
  | "%:%:" => "##"
  | s => s

end CInspect.Lex
