/-!
Quoting a character, and reading a decimal numeral.

`quoteChar` writes a character the way a one-character string is quoted
for display: in single quotes, or in double quotes when the character is a
single quote; backslash, tab, line feed and carriage return as `\\`, `\t`,
`\n`, `\r`; other ASCII control characters as `\xNN` with two lower-case hex
digits.

`quoteText` quotes a whole text the same way: in single quotes unless the
text holds a single quote and no double quote; the chosen quote and the
backslash are escaped, and characters that do not print are written as
`\xNN`, `\uNNNN` or `\UNNNNNNNN`.

`decimalValue?` reads a decimal numeral whose digits may be separated by
single underscores, as integer conversion of text accepts it; leading zeros
are allowed and change nothing.
-/

namespace CInspect.Text

/-- The lower-case hex digit of `d < 16`. -/
def hexDigit (d : Nat) : Char :=
  if d < 10 then Char.ofNat (48 + d) else Char.ofNat (87 + d)

/-- The text of one character inside quotes. -/
def escapeChar (c : Char) : String :=
  if c = '\\' then "\\\\"
  else if c = '\t' then "\\t"
  else if c = '\n' then "\\n"
  else if c = '\r' then "\\r"
  else if c.toNat < 0x20 ∨ c.toNat = 0x7f then
    String.ofList ['\\', 'x', hexDigit (c.toNat / 16), hexDigit (c.toNat % 16)]
  else String.singleton c

/-- A character quoted for display. -/
def quoteChar (c : Char) : String :=
  if c = '\'' then "\"'\"" else "'" ++ escapeChar c ++ "'"

example : quoteChar '\n' = "'\\n'" ∧ quoteChar 'A' = "'A'" ∧ quoteChar '\'' = "\"'\"" := by
  decide +kernel
example : quoteChar '\x0b' = "'\\x0b'" ∧ quoteChar '\\' = "'\\\\'" := by decide +kernel

/-- The hex digits of `n`, at least `width` of them. -/
def hexDigits (width n : Nat) : String :=
  String.ofList ((List.range width).reverse.map (fun i => hexDigit (n / Nat.pow 16 i % 16)))

/-- Characters beyond ASCII that do not print: the C1 controls, no-break and
other spaces, format controls and the line and paragraph separators. -/
def isHiddenWide (n : Nat) : Bool :=
  (0x80 ≤ n && n ≤ 0xA0) || n == 0xAD || n == 0x1680 || (0x2000 ≤ n && n ≤ 0x200F) ||
    (0x2028 ≤ n && n ≤ 0x202F) || (0x205F ≤ n && n ≤ 0x206F) || n == 0x3000 ||
    n == 0xFEFF || (0xFFF9 ≤ n && n ≤ 0xFFFB) || (0xE000 ≤ n && n ≤ 0xF8FF)

/-- One character of a quoted text whose quote is `q`. -/
def escapeIn (q c : Char) : String :=
  let n := c.toNat
  if c = q ∨ c = '\\' then String.ofList ['\\', c]
  else if c = '\t' then "\\t"
  else if c = '\n' then "\\n"
  else if c = '\r' then "\\r"
  else if n < 0x20 ∨ n = 0x7f then "\\x" ++ hexDigits 2 n
  else if n < 0x7f then String.singleton c
  else if isHiddenWide n then
    if n ≤ 0xFF then "\\x" ++ hexDigits 2 n
    else if n ≤ 0xFFFF then "\\u" ++ hexDigits 4 n
    else "\\U" ++ hexDigits 8 n
  else String.singleton c

/-- A text quoted for display. -/
def quoteText (s : String) : String :=
  let q := if s.contains '\'' ∧ ¬ s.contains '"' then '"' else '\''
  String.singleton q ++ String.join (s.toList.map (escapeIn q)) ++ String.singleton q

/-- The value of a decimal digit character. -/
def digitValue? (c : Char) : Option Nat :=
  if '0' ≤ c ∧ c ≤ '9' then some (c.toNat - 48) else none

/-- Read digits `cs` after a digit, accumulating `acc`: each underscore must
stand between two digits. -/
def decimalRest (acc : Nat) : List Char → Option Nat
  | [] => some acc
  | '_' :: d :: rest => (digitValue? d).bind (fun v => decimalRest (acc * 10 + v) rest)
  | d :: rest => (digitValue? d).bind (fun v => decimalRest (acc * 10 + v) rest)

/-- The value of a decimal numeral, digits optionally separated by single
underscores. -/
def decimalValue? (s : String) : Option Nat :=
  match s.toList with
  | d :: rest => (digitValue? d).bind (fun v => decimalRest v rest)
  | [] => none

example : decimalValue? "012" = some 12 ∧ decimalValue? "0x41" = none ∧ decimalValue? "65u" = none := by
  decide +kernel

end CInspect.Text
