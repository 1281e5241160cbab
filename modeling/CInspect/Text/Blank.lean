/-!
Blank characters of Unicode text.

`isBlank` is the whitespace class that pattern matching over text uses for
`\s`: the ASCII controls tab to carriage return, the information separators
`U+001C`–`U+001F`, space, next line, no-break space, and the Unicode space
separators and line/paragraph separators.
-/

namespace CInspect.Text

/-- A character that counts as whitespace in Unicode text: the class of `\s`. -/
def isBlank (c : Char) : Bool :=
  let n := c.toNat
  (0x09 ≤ n && n ≤ 0x0D) || (0x1C ≤ n && n ≤ 0x20) || n == 0x85 || n == 0xA0 ||
    n == 0x1680 || (0x2000 ≤ n && n ≤ 0x200A) || n == 0x2028 || n == 0x2029 ||
    n == 0x202F || n == 0x205F || n == 0x3000

example : isBlank '\u3000' = true ∧ isBlank '\x0c' = true ∧ isBlank 'x' = false := by decide

end CInspect.Text
