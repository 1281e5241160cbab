/-!
Lines of a text.

A text is cut into lines at every line boundary that Unicode text knows:
line feed, carriage return, the pair carriage return + line feed (one
boundary), vertical tab, form feed, the file/group/record separators
`U+001C`–`U+001E`, next line `U+0085`, and the line and paragraph separators
`U+2028`, `U+2029`. The boundaries themselves are dropped, and a boundary at
the very end of the text does not start another, empty line.

This is the reading of a source file that the checks echo lines from; a C
compiler counts lines differently (it breaks only at line feed and carriage
return), so the two can disagree on a line's number.
-/

namespace CInspect.Text

/-- A character that ends a line of text. -/
def isLineBreak (c : Char) : Bool :=
  c == '\n' || c == '\r' || c == '\x0b' || c == '\x0c' || c == '\x1c' || c == '\x1d' ||
    c == '\x1e' || c == '\x85' || c == '\u2028' || c == '\u2029'

/-- Cut `cs` into lines; `cur` holds the current line reversed, `acc` the
finished lines reversed. -/
def splitLinesAux : List Char → List Char → List String → List String
  | [], cur, acc => if cur.isEmpty then acc.reverse else (String.ofList cur.reverse :: acc).reverse
  | '\r' :: '\n' :: rest, cur, acc => splitLinesAux rest [] (String.ofList cur.reverse :: acc)
  | c :: rest, cur, acc =>
    if isLineBreak c then splitLinesAux rest [] (String.ofList cur.reverse :: acc)
    else splitLinesAux rest (c :: cur) acc

/-- The lines of a text, without their line boundaries. -/
def splitLines (s : String) : List String :=
  splitLinesAux s.toList [] []

example : splitLines "a\nb\r\nc\rd" = ["a", "b", "c", "d"] := by decide +kernel
example : splitLines "a\n" = ["a"] ∧ splitLines "" = [] ∧ splitLines "\n" = [""] := by
  decide +kernel
example : splitLines "x\u2028y\x0cz" = ["x", "y", "z"] := by decide +kernel

end CInspect.Text
