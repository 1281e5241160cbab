import CInspect.Lex.Token
import CInspect.Text.Utf8
/-!
Scanning C source bytes into lexemes.

The scanner works on the bytes of one file and byte offsets into them. A
backslash that is followed by blanks and a line break is a line splice: it
joins two lines and is invisible inside any token (`skipSplices`).

Between tokens the scanner skips blanks (space, tab, vertical tab, form
feed, line breaks) and zero bytes, and, outside raw scanning, comments and
the Unicode spaces; outside raw scanning zero bytes and Unicode spaces are
reported. A line break seen there makes the next
token start a line; a line break inside a block comment does not.

A token is the longest run that forms an identifier (ASCII letters, digits,
`_`, `$`, and the characters beyond ASCII that C allows in identifiers), a
preprocessing number, a character constant or string literal with an
optional encoding prefix, or a punctuator. A literal that a line break
interrupts ends before the break and is reported. Outside raw scanning a
character beyond ASCII that cannot start an identifier is reported and
dropped, and so are bytes that are not UTF-8; raw scanning keeps each of
them as a token of its own.

Main statements: `le_skipSplices` (skipping splices never moves back) and
`spliceAt_gt` (a splice has length).
-/

namespace CInspect.Lex

/-- The byte at `i`, or 0 past the end. -/
def byteAt (bs : ByteArray) (i : Nat) : UInt8 :=
  bs.get! i

/-- Space, tab, vertical tab and form feed: the blanks inside a line. -/
def isLineBlank (b : UInt8) : Bool :=
  b == 32 || b == 9 || b == 11 || b == 12

/-- The index after the line blanks starting at `i`. -/
def lineBlankEnd (bs : ByteArray) (i : Nat) : Nat :=
  if h : i < bs.size ∧ isLineBlank (byteAt bs i) = true then lineBlankEnd bs (i + 1) else i
termination_by bs.size - i

theorem le_lineBlankEnd (bs : ByteArray) (i : Nat) : i ≤ lineBlankEnd bs i := by
  unfold lineBlankEnd
  split
  · have := le_lineBlankEnd bs (i + 1); omega
  · omega
termination_by bs.size - i

/-- If a line break starts at `j`, the index just after it. -/
def lineBreakEnd (bs : ByteArray) (j : Nat) : Option Nat :=
  if byteAt bs j = 10 then some (j + 1)
  else if byteAt bs j = 13 then some (if byteAt bs (j + 1) = 10 then j + 2 else j + 1)
  else none

theorem lineBreakEnd_gt {bs : ByteArray} {j k : Nat} (h : lineBreakEnd bs j = some k) : j < k := by
  unfold lineBreakEnd at h
  split at h
  · simp at h; omega
  · split at h
    · simp at h; split at h <;> omega
    · simp at h

/-- If a line splice starts at `i`, the index just after it. -/
def spliceAt (bs : ByteArray) (i : Nat) : Option Nat :=
  if i < bs.size ∧ byteAt bs i = 92 then lineBreakEnd bs (lineBlankEnd bs (i + 1)) else none

theorem spliceAt_gt {bs : ByteArray} {i k : Nat} (h : spliceAt bs i = some k) :
    i < k ∧ i < bs.size := by
  unfold spliceAt at h
  have hj := le_lineBlankEnd bs (i + 1)
  split at h
  · rename_i hc
    have := lineBreakEnd_gt h
    exact ⟨by omega, hc.1⟩
  · simp at h

/-- The index after any line splices starting at `i`. -/
def skipSplices (bs : ByteArray) (i : Nat) : Nat :=
  match _found : spliceAt bs i with
  | some k => skipSplices bs k
  | none => i
termination_by bs.size - i
decreasing_by have := spliceAt_gt _found; omega

theorem le_skipSplices (bs : ByteArray) (i : Nat) : i ≤ skipSplices bs i := by
  unfold skipSplices
  split
  · rename_i k h
    have := spliceAt_gt h
    have := le_skipSplices bs k
    omega
  · omega
termination_by bs.size - i
decreasing_by
  all_goals
    have := spliceAt_gt (by assumption)
    omega

/-- The code point and length of the UTF-8 sequence at `i`, if it is one. -/
def utf8At (bs : ByteArray) (i : Nat) : Option (Nat × Nat) :=
  let b0 := (byteAt bs i).toNat
  let cont (k : Nat) := let b := (byteAt bs (i + k)).toNat; if i + k < bs.size ∧ 0x80 ≤ b ∧ b < 0xC0 then some (b - 0x80) else none
  if b0 < 0x80 then some (b0, 1)
  else if 0xC2 ≤ b0 ∧ b0 < 0xE0 then
    (cont 1).map (fun c1 => ((b0 - 0xC0) * 64 + c1, 2))
  else if 0xE0 ≤ b0 ∧ b0 < 0xF0 then
    match cont 1, cont 2 with
    | some c1, some c2 =>
      let cp := (b0 - 0xE0) * 4096 + c1 * 64 + c2
      if cp < 0x800 ∨ (0xD800 ≤ cp ∧ cp < 0xE000) then none else some (cp, 3)
    | _, _ => none
  else if 0xF0 ≤ b0 ∧ b0 < 0xF5 then
    match cont 1, cont 2, cont 3 with
    | some c1, some c2, some c3 =>
      let cp := (b0 - 0xF0) * 262144 + c1 * 4096 + c2 * 64 + c3
      if cp < 0x10000 ∨ cp > 0x10FFFF then none else some (cp, 4)
    | _, _, _ => none
  else none

/-- Characters beyond ASCII that C allows in identifiers. -/
def isIdentifierWide (cp : Nat) : Bool :=
  let r (a b : Nat) := a ≤ cp && cp ≤ b
  cp == 0xA8 || cp == 0xAA || cp == 0xAD || cp == 0xAF || r 0xB2 0xB5 || r 0xB7 0xBA ||
  r 0xBC 0xBE || r 0xC0 0xD6 || r 0xD8 0xF6 || r 0xF8 0xFF || r 0x100 0x167F ||
  r 0x1681 0x180D || r 0x180F 0x1FFF || r 0x200B 0x200D || r 0x202A 0x202E ||
  r 0x203F 0x2040 || cp == 0x2054 || r 0x2060 0x206F || r 0x2070 0x218F || r 0x2460 0x24FF ||
  r 0x2776 0x2793 || r 0x2C00 0x2DFF || r 0x2E80 0x2FFF || r 0x3004 0x3007 ||
  r 0x3021 0x302F || r 0x3031 0x303F || r 0x3040 0xD7FF || r 0xF900 0xFD3D ||
  r 0xFD40 0xFDCF || r 0xFDF0 0xFE44 || r 0xFE47 0xFFFD ||
  (cp ≥ 0x10000 && cp % 0x10000 ≤ 0xFFFD && cp < 0xF0000)

/-- Characters beyond ASCII that may continue but not start an identifier:
combining marks. -/
def isCombiningWide (cp : Nat) : Bool :=
  let r (a b : Nat) := a ≤ cp && cp ≤ b
  r 0x300 0x36F || r 0x1DC0 0x1DFF || r 0x20D0 0x20FF || r 0xFE20 0xFE2F

/-- The Unicode spaces that are read as blanks. -/
def isWideSpace (cp : Nat) : Bool :=
  cp == 0x85 || cp == 0xA0 || cp == 0x1680 || cp == 0x180E || (0x2000 ≤ cp && cp ≤ 0x200A) ||
    cp == 0x2028 || cp == 0x2029 || cp == 0x202F || cp == 0x205F || cp == 0x3000

/-- ASCII bytes that continue an identifier. -/
def isIdentifierByte (b : UInt8) : Bool :=
  (97 ≤ b && b ≤ 122) || (65 ≤ b && b ≤ 90) || (48 ≤ b && b ≤ 57) || b == 95 || b == 36

/-- ASCII bytes that start an identifier. -/
def isIdentifierStart (b : UInt8) : Bool :=
  (97 ≤ b && b ≤ 122) || (65 ≤ b && b ≤ 90) || b == 95 || b == 36

/-- A decimal digit byte. -/
def isDigitByte (b : UInt8) : Bool :=
  48 ≤ b && b ≤ 57

/-- A hexadecimal digit byte. -/
def isHexByte (b : UInt8) : Bool :=
  (48 ≤ b && b ≤ 57) || (97 ≤ b && b ≤ 102) || (65 ≤ b && b ≤ 70)

/-- What a backslash may start: a universal character name, with its code
point and end, or one that is not valid, with the message it gives and
whether that is an error. -/
inductive CharacterName where
  | none
  | valid (cp : Nat) (stop : Nat)
  | invalid (text : String) (error : Bool)

/-- The universal character name, `\u` and four hexadecimal digits or
`\U` and eight, whose backslash is at `j`. A code point below `0xA0`
other than `$`, `@` and the grave accent, or a surrogate, is not valid. -/
def characterNameAt (bs : ByteArray) (j : Nat) : CharacterName :=
  let at_ (k : Nat) : UInt8 := if k < bs.size then byteAt bs k else 0
  let kind := at_ (j + 1)
  if !(kind == 117 || kind == 85) then .none
  else
    let n := if kind == 117 then 4 else 8
    let digits := (List.range n).map (fun d => at_ (j + 2 + d))
    let count := (digits.takeWhile isHexByte).length
    let letter := if kind == 117 then "u" else "U"
    if count == 0 then
      .invalid ("\\" ++ letter ++ " used with no following hex digits; treating as '\\' followed by identifier") false
    else if count < n then
      .invalid "incomplete universal character name; treating as '\\' followed by identifier" false
    else
      let cp := digits.foldl (fun acc b =>
        let v := if b ≤ 57 then b.toNat - 48 else if b ≤ 70 then b.toNat - 55 else b.toNat - 87
        acc * 16 + v) 0
      if cp < 0xA0 && cp != 0x24 && cp != 0x40 && cp != 0x60 then
        if 0x20 ≤ cp && cp < 0x7F then
          .invalid ("character '" ++ String.singleton (Char.ofNat cp) ++
            "' cannot be specified by a universal character name") true
        else .invalid "universal character name refers to a control character" true
      else if 0xD800 ≤ cp && cp ≤ 0xDFFF then .invalid "invalid universal character" true
      else .valid cp (j + 2 + n)

/-- The end of an identifier whose first character ends at `i`. -/
def identifierEnd (bs : ByteArray) (i : Nat) : Nat :=
  let j := skipSplices bs i
  if _h : j < bs.size then
    let b := byteAt bs j
    if isIdentifierByte b then identifierEnd bs (j + 1)
    else if b == 92 then
      match characterNameAt bs j with
      | .valid cp stop => if _h : j < stop ∧ isIdentifierWide cp = true then identifierEnd bs stop else i
      | _ => i
    else if b ≥ 0x80 then
      match utf8At bs j with
      | some (cp, n) =>
        if isIdentifierWide cp then
          if n ≥ 1 then identifierEnd bs (j + n) else i
        else i
      | none => i
    else i
  else i
termination_by bs.size - i
decreasing_by all_goals (dsimp +zetaDelta only at *; have := le_skipSplices bs i; omega)

/-- The end of a preprocessing number whose character before `i` is
`prev`. -/
def numberEnd (bs : ByteArray) (i : Nat) (prev : UInt8) : Nat :=
  let j := skipSplices bs i
  if h : j < bs.size then
    let b := byteAt bs j
    if isIdentifierByte b || b == 46 then numberEnd bs (j + 1) b
    else if (b == 43 || b == 45) && (prev == 101 || prev == 69 || prev == 112 || prev == 80) then
      numberEnd bs (j + 1) b
    else i
  else i
termination_by bs.size - i
decreasing_by all_goals (dsimp +zetaDelta only at *; have := le_skipSplices bs i; omega)

/-- The end of a character constant or string literal closed by `quote`,
scanning from `i`, and whether the closing quote was found. An unclosed
literal ends before the line break or at the end of the file. -/
def literalEnd (bs : ByteArray) (quote : UInt8) (i : Nat) : Nat × Bool :=
  let j := skipSplices bs i
  have hj : i ≤ j := le_skipSplices bs i
  if h : j < bs.size then
    let b := byteAt bs j
    if b == quote then (j + 1, true)
    else if b == 10 || b == 13 then (j, false)
    else if b == 92 then
      let k := skipSplices bs (j + 1)
      have hk : j + 1 ≤ k := le_skipSplices bs (j + 1)
      if h' : k < bs.size then
        let c := byteAt bs k
        if c == 10 || c == 13 then (k, false) else literalEnd bs quote (k + 1)
      else (k, false)
    else literalEnd bs quote (j + 1)
  else (j, false)
termination_by bs.size - i
decreasing_by all_goals (dsimp +zetaDelta only at *; omega)

/-- The end of a line comment whose text starts at `i`: the line break
that ends it, or the end of the file. -/
def lineCommentEnd (bs : ByteArray) (i : Nat) : Nat :=
  let j := skipSplices bs i
  if h : j < bs.size then
    let b := byteAt bs j
    if b == 10 || b == 13 then j else lineCommentEnd bs (j + 1)
  else j
termination_by bs.size - i
decreasing_by all_goals (dsimp +zetaDelta only at *; have := le_skipSplices bs i; omega)

/-- The end of a block comment whose text starts at `i`, just past the
closing star and slash; none if the file ends first. -/
def blockCommentEnd (bs : ByteArray) (i : Nat) : Option Nat :=
  let j := skipSplices bs i
  if h : j < bs.size then
    if byteAt bs j == 42 then
      let k := skipSplices bs (j + 1)
      if k < bs.size ∧ byteAt bs k = 47 then some (k + 1) else blockCommentEnd bs (j + 1)
    else blockCommentEnd bs (j + 1)
  else none
termination_by bs.size - i
decreasing_by all_goals (dsimp +zetaDelta only at *; have := le_skipSplices bs i; omega)

/-- How the scanner reads: raw scanning keeps comments as tokens and reports
nothing, as when the tokens of a range are listed. -/
structure ScanMode where
  raw : Bool
deriving Repr, Inhabited

/-- What lies before a token: where the token starts, whether a line break
or a blank was passed, and what was reported on the way. -/
structure Gap where
  next : Nat
  newline : Bool
  space : Bool
  issues : List LexIssue

/-- Skip blanks and, outside raw scanning, comments, zero bytes and Unicode
spaces, starting at `i`. -/
def skipGap (bs : ByteArray) (mode : ScanMode) (i : Nat) (g : Gap) : Gap :=
  let j := skipSplices bs i
  if _h : j < bs.size then
    let b := byteAt bs j
    if isLineBlank b then skipGap bs mode (j + 1) { g with space := true }
    else if b == 10 || b == 13 then skipGap bs mode (j + 1) { g with newline := true, space := true }
    else if b == 0 then
      let issues := if mode.raw then g.issues else g.issues ++ [.nullCharacter j]
      skipGap bs mode (j + 1) { g with space := true, issues := issues }
    else if b == 47 ∧ ¬ mode.raw then
      let k := skipSplices bs (j + 1)
      let c := byteAt bs k
      if k < bs.size ∧ c = 47 then
        let e := lineCommentEnd bs (k + 1)
        if _he : e ≥ j + 1 then skipGap bs mode e { g with space := true } else { g with next := j }
      else if k < bs.size ∧ c = 42 then
        match blockCommentEnd bs (k + 1) with
        | some e => if _he : e ≥ j + 1 then skipGap bs mode e { g with space := true } else { g with next := j }
        | none => { g with next := bs.size, space := true, issues := g.issues ++ [.unterminatedComment j] }
      else { g with next := j }
    else if b ≥ 0x80 then
      match utf8At bs j with
      | some (cp, n) =>
        if _hn : n = 0 then { g with next := j }
        else if isWideSpace cp ∧ ¬ mode.raw then
          skipGap bs mode (j + n) { g with space := true, issues := g.issues ++ [.unicodeSpace j] }
        else if (isIdentifierWide cp ∧ ¬ isCombiningWide cp) ∨ mode.raw then { g with next := j }
        else skipGap bs mode (j + n) { g with issues := g.issues ++ [.nonAscii j] }
      | none =>
        if mode.raw then { g with next := j }
        else skipGap bs mode (j + 1) { g with issues := g.issues ++ [.invalidUtf8 j] }
    else { g with next := j }
  else { g with next := j }
termination_by bs.size - i
decreasing_by all_goals (dsimp +zetaDelta only at *; have := le_skipSplices bs i; omega)

/-- The bytes of `[start, stop)` with line splices removed, read as UTF-8,
with bytes that are not UTF-8 replaced. -/
def cleanText (bs : ByteArray) (start stop : Nat) : String :=
  let raw := bs.extract start stop
  if raw.toList.contains 92 then
    let rec go (i : Nat) (acc : Array UInt8) : Array UInt8 :=
      if _h : i < stop then
        match spliceAt bs i with
        | some k => if k > i then go k acc else go (i + 1) (acc.push (byteAt bs i))
        | none => go (i + 1) (acc.push (byteAt bs i))
      else acc
    termination_by stop - i
    String.ofList (Text.decodeUtf8 (go start #[]).toList)
  else
    match String.fromUTF8? raw with
    | some s => s
    | none => String.ofList (Text.decodeUtf8 raw.toList)

/-- The punctuator spelled at `i`, with its end. -/
def punctuatorAt (bs : ByteArray) (i : Nat) : Option (String × Nat) :=
  let c0 := byteAt bs i
  let i1 := skipSplices bs (i + 1)
  let c1 := byteAt bs i1
  let i2 := skipSplices bs (i1 + 1)
  let c2 := byteAt bs i2
  let i3 := skipSplices bs (i2 + 1)
  let c3 := byteAt bs i3
  let chars := [c0, c1, c2, c3]
  let ends := [i + 1, i1 + 1, i2 + 1, i3 + 1]
  let fits (p : String) : Bool :=
    let ps := p.toList.map (fun ch => ch.toNat.toUInt8)
    ps == chars.take ps.length && (ends.getD (ps.length - 1) 0) ≤ bs.size
  (punctuators.find? fits).map (fun p => (p, ends.getD (p.length - 1) (i + 1)))

/-- Whether `p` is the encoding prefix of a literal at `i`: the bytes of
`p` and then a quote; the quote and the end of the prefix. -/
def prefixedQuote (bs : ByteArray) (i : Nat) (p : List UInt8) : Option (UInt8 × Nat) :=
  let rec go : List UInt8 → Nat → Option (UInt8 × Nat)
    | [], j =>
      let k := skipSplices bs j
      let b := byteAt bs k
      if k < bs.size ∧ (b = 34 ∨ b = 39) then some (b, k + 1) else none
    | c :: cs, j =>
      let k := skipSplices bs j
      if k < bs.size ∧ byteAt bs k = c then go cs (k + 1) else none
  go p i

/-- An identifier's name: its spelling with each universal character
name replaced by the character it names. -/
def identifierName (text : String) : String :=
  if !text.toList.contains '\\' then text
  else
    let bs := text.toUTF8
    let rec go (fuel : Nat) (i : Nat) (acc : List Char) : List Char :=
      match fuel with
      | 0 => acc.reverse
      | f + 1 =>
        if i ≥ bs.size then acc.reverse
        else
          match characterNameAt bs i with
          | .valid cp stop => go f stop (Char.ofNat cp :: acc)
          | _ =>
            match utf8At bs i with
            | some (cp, n) => go f (i + max n 1) (Char.ofNat cp :: acc)
            | none => go f (i + 1) (Char.ofNat (byteAt bs i).toNat :: acc)
    String.ofList (go (bs.size + 1) 0 [])

/-- A token of kind `k` over `[start, stop)`, after gap `g`. -/
def makeLexeme (bs : ByteArray) (k : TokenKind) (start stop : Nat) (lineStart : Bool) (g : Gap) :
    Lexeme :=
  let text := cleanText bs start stop
  ⟨k, start, stop, if k == .identifier then identifierName text else text, lineStart, g.space⟩

/-- The places in `[start, stop)` where a trigraph is written: two
question marks and one of `=()/'<>!-`. -/
def trigraphsIn (bs : ByteArray) (start stop : Nat) : List Nat :=
  (List.range (stop - start)).filterMap fun k =>
    let p := start + k
    if byteAt bs p == 63 && byteAt bs (p + 1) == 63 && p + 2 < bs.size &&
        [61, 40, 41, 47, 39, 60, 62, 33, 45].contains (byteAt bs (p + 2)).toNat then some p
    else none

/-- What one call of the scanner gives: the next token, if any, where
scanning goes on, and what was reported. -/
structure Scan where
  lexeme : Option Lexeme
  next : Nat
  issues : List LexIssue

/-- Scan the next token from `i`. `lineStart` says whether `i` is at the
start of a line (the start of the file, or just after a line break that the
caller saw). -/
def scanToken (bs : ByteArray) (mode : ScanMode) (i : Nat) (lineStart : Bool)
    (issues : List LexIssue) : Scan :=
  let g := skipGap bs mode i ⟨i, false, false, issues⟩
  let j := g.next
  let ls := lineStart || g.newline
  if _h : j < bs.size then
    let b := byteAt bs j
    let trigraphs (stop : Nat) : List LexIssue :=
      if mode.raw then [] else (trigraphsIn bs j stop).map .trigraph
    let tok (k : TokenKind) (stop : Nat) : Scan :=
      ⟨some (makeLexeme bs k j stop ls g), stop, g.issues ++ (if k == .comment then [] else trigraphs stop)⟩
    let literal (quote : UInt8) (from_ : Nat) : Scan :=
      let (stop, closed) := literalEnd bs quote from_
      if closed && quote == 39 && stop == from_ + 1 then
        let issues := if mode.raw then g.issues else g.issues ++ [.emptyCharacter j]
        ⟨some (makeLexeme bs .unknown j stop ls g), stop, issues⟩
      else if closed then tok (if quote == 39 then .charConst else .stringLit) stop
      else
        let issues := if mode.raw then g.issues
          else g.issues ++ trigraphs stop ++ [.unterminatedLiteral j (if quote == 39 then '\'' else '"')]
        ⟨some (makeLexeme bs .unknown j stop ls g), stop, issues⟩
    if b == 47 ∧ mode.raw then
      let k := skipSplices bs (j + 1)
      let c := byteAt bs k
      if k < bs.size ∧ c = 47 then tok .comment (lineCommentEnd bs (k + 1))
      else if k < bs.size ∧ c = 42 then
        match blockCommentEnd bs (k + 1) with
        | some e => tok .comment e
        | none => tok .comment bs.size
      else
        match punctuatorAt bs j with
        | some (_, stop) => tok .punctuator stop
        | none => tok .unknown (j + 1)
    else if isIdentifierStart b then
      let lit :=
        if b == 117 then
          match prefixedQuote bs (j + 1) [56] with
          | some (34, e) => some (34, e)
          | _ => prefixedQuote bs (j + 1) []
        else if b == 85 || b == 76 then prefixedQuote bs (j + 1) []
        else none
      match lit with
      | some (q, e) => literal q e
      | none => tok .identifier (identifierEnd bs (j + 1))
    else if isDigitByte b then tok .number (numberEnd bs (j + 1) b)
    else if b == 46 ∧ isDigitByte (byteAt bs (skipSplices bs (j + 1))) then
      tok .number (numberEnd bs (j + 1) b)
    else if b == 39 ∨ b == 34 then literal b (j + 1)
    else if b == 92 then
      match characterNameAt bs j with
      | .valid cp stop =>
        if isIdentifierWide cp ∧ ¬ isCombiningWide cp then tok .identifier (identifierEnd bs stop)
        else tok .unknown stop
      | .invalid text error =>
        let issues := if mode.raw then g.issues else g.issues ++ [.badCharacterName j text error]
        ⟨some (makeLexeme bs .unknown j (j + 1) ls g), j + 1, issues⟩
      | .none => tok .unknown (j + 1)
    else if b ≥ 0x80 then
      match utf8At bs j with
      | some (cp, n) =>
        if isIdentifierWide cp ∧ ¬ isCombiningWide cp then tok .identifier (identifierEnd bs (j + n))
        else tok .unknown (j + max n 1)
      | none => tok .unknown (j + 1)
    else
      match punctuatorAt bs j with
      | some (_, stop) => tok .punctuator stop
      | none => tok .unknown (j + 1)
  else ⟨none, j, g.issues⟩

end CInspect.Lex
