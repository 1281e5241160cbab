import CInspect.Types.Spelling
import CInspect.Types.Convert
import CInspect.Language.Builtins
/-!
Format strings of the formatted input and output functions.

A function of the `printf` family prints its data arguments as its format
string says; one of the `scanf` family stores what it reads through its
data arguments, which are pointers. When the format is a string literal the
compiler reads it the way the library does and checks each conversion
against the argument it takes:

* a conversion starts at `%` and reads, in order: an argument position
  `n$`, flags, a field width, a precision after `.`, a length modifier and
  the conversion character; a `scanf` conversion has `*` for one that
  stores nothing, a width that is only a number, and no flags or precision;
* a width or precision written `*` takes an `int` argument;
* a conversion takes the next argument, or the one its position names; the
  conversions of one format all use positions or none of them does;
* an argument must have the type that the conversion and its length
  modifier ask for (`printArgType`, `scanArgType`); a signed and an
  unsigned type of one rank are taken for each other, and an argument
  promoted to `int` is judged by its type before the promotion as well;
* a fault that leaves the rest of the format unreadable ends the reading;
  otherwise, once the whole format is read, an argument that no conversion
  took is reported (`Coverage`).

`checkFormat` reads a format and gives what it finds, in order, as
`FormatIssue`s; the caller words them and says where they point.
-/

namespace CInspect.Language

open CInspect.Types

/-- The rules a function reads its format string by. -/
inductive FormatFamily where
  | printf
  | scanf
  /-- `strftime`'s, whose format may be any string. -/
  | strftime
  /-- Rules the compiler knows by name but does not check. -/
  | other
deriving DecidableEq, Repr, Inhabited

/-- The family an attribute `format(name, ...)` names. -/
def FormatFamily.ofName : String → FormatFamily
  | "printf" | "printf0" => .printf
  | "scanf" => .scanf
  | "strftime" => .strftime
  | _ => .other

/-- Where a function's format and data are: the family of its format, the
parameter that holds the format, counted from 1, and the first data
parameter, 0 when the data come as one `va_list`. -/
structure FormatRole where
  family : FormatFamily
  formatParam : Nat
  firstData : Nat
deriving DecidableEq, Repr, Inhabited

/-- The number written in decimal digits at the front of a list of
characters. -/
def leadingNumber (cs : List Char) : Nat :=
  (cs.takeWhile Char.isDigit).foldl (fun n c => n * 10 + (c.toNat - 48)) 0

/-- The format a library function has by its catalogue entry: `p:N:` for
one that prints and `s:N:` for one that reads, its format the parameter
`N` counted from 0, the letter upper case when the data come as a
`va_list`. -/
def Builtin.formatRole? (b : Builtin) : Option FormatRole :=
  let cs := b.attributes.toList
  let find (family : FormatFamily) (lower upper : Char) : Option FormatRole :=
    match cs.dropWhile (fun c => c != lower && c != upper) with
    | c :: ':' :: rest =>
      let n := leadingNumber rest
      some { family := family, formatParam := n + 1, firstData := if c == upper then 0 else n + 2 }
    | _ => none
  (find .printf 'p' 'P').orElse fun _ => find .scanf 's' 'S'

/-! ## Length modifiers -/

/-- A length modifier: the size of the integer, floating or character
value a conversion takes. -/
inductive LengthModifier where
  | none
  | char
  | short
  | long
  | longLong
  | quad
  | intMax
  | size
  | ptrDiff
  | longDouble
  /-- `m` of `scanf`: the library allocates the string it stores. -/
  | allocate
  | int32
  | int64
  | int3264
  | wide
deriving DecidableEq, Repr, Inhabited

/-- How a length modifier is written. -/
def LengthModifier.text : LengthModifier → String
  | .none => ""
  | .char => "hh"
  | .short => "h"
  | .long => "l"
  | .longLong => "ll"
  | .quad => "q"
  | .intMax => "j"
  | .size => "z"
  | .ptrDiff => "t"
  | .longDouble => "L"
  | .allocate => "m"
  | .int32 => "I32"
  | .int64 => "I64"
  | .int3264 => "I"
  | .wide => "w"

/-- The byte at index `i` of a format, the terminating zero past its end. -/
def byteAt (s : Array Char) (i : Nat) : Char := s.getD i '\x00'

/-- The length modifier at index `i`, if one is written there, and the index
after it. `scan` for a `scanf` format, which knows `m` and not `I32`. -/
def readLength (s : Array Char) (i : Nat) (scan : Bool) : Option LengthModifier × Nat :=
  let at? (k : Nat) : Option Char := s[k]?
  match at? i with
  | some 'h' => if at? (i + 1) == some 'h' then (some .char, i + 2) else (some .short, i + 1)
  | some 'l' => if at? (i + 1) == some 'l' then (some .longLong, i + 2) else (some .long, i + 1)
  | some 'j' => (some .intMax, i + 1)
  | some 'z' => (some .size, i + 1)
  | some 't' => (some .ptrDiff, i + 1)
  | some 'L' => (some .longDouble, i + 1)
  | some 'q' => (some .quad, i + 1)
  | some 'm' => if scan then (some .allocate, i + 1) else (none, i)
  | some 'I' =>
    if i + 2 < s.size then
      if at? (i + 1) == some '6' && at? (i + 2) == some '4' then (some .int64, i + 3)
      else if scan then (none, i)
      else if at? (i + 1) == some '3' && at? (i + 2) == some '2' then (some .int32, i + 3)
      else (some .int3264, i + 1)
    else (some .int3264, i + 1)
  | some 'w' => (some .wide, i + 1)
  | _ => (none, i)

/-- Whether a conversion character converts a floating value. -/
def isFloatingConversion (c : Char) : Bool := "aAeEfFgG".contains c

/-- Whether a conversion character converts an integer. -/
def isIntegerConversion (c : Char) : Bool := "diouxX".contains c

/-- Whether a length modifier means something for a conversion character
(`[` for a `scanf` scan list). `L` is taken with the integer conversions,
as the GNU library does. -/
def lengthAllowed (lm : LengthModifier) (c : Char) : Bool :=
  match lm with
  | .none => true
  | .char | .short | .longLong | .quad | .intMax | .size | .ptrDiff => isIntegerConversion c || c == 'n'
  | .long => isFloatingConversion c || isIntegerConversion c || "ncs[".contains c
  | .longDouble => isFloatingConversion c || isIntegerConversion c
  | .allocate => "cCsS[".contains c
  | .int32 | .int64 | .int3264 | .wide => false

/-! ## The types conversions ask for -/

/-- The kind of value a conversion asks for. -/
inductive ArgShape where
  /-- Any character type, or `_Bool`. -/
  | anyChar
  /-- This basic type, or the one of the other signedness and same rank. -/
  | exactly (b : Basic)
  /-- A pointer to characters or to `void`. -/
  | cString
  /-- A pointer to wide characters. -/
  | wideString
  /-- A wide character as passed, `wint_t`. -/
  | wideInt
  /-- Any object pointer; one not to `void` only bends the standard. -/
  | anyPointer
  /-- Anything at all. -/
  | anything
deriving DecidableEq, Repr, Inhabited

/-- The type a conversion asks for: its kind, the name the library gives
it (`size_t`), and whether the argument is a pointer to it. -/
structure ArgType where
  shape : ArgShape
  name : Option String := none
  pointer : Bool := false
deriving DecidableEq, Repr, Inhabited

/-- The type written for a kind of value in a message. -/
def ArgShape.text : ArgShape → String
  | .anyChar => "char"
  | .exactly b => b.name
  | .cString => "char *"
  | .wideString => "int *"
  | .wideInt => "unsigned int"
  | .anyPointer => "void *"
  | .anything => "void"

/-- A type text with a pointer added. -/
def pointerText (t : String) : String := if t.endsWith "*" then t ++ "*" else t ++ " *"

/-- The type a conversion asks for in quotes as a message gives it: the
library's name for it with the type it stands for, `'size_t' (aka
'unsigned long')`, when the two differ. -/
def ArgType.describe (a : ArgType) : String :=
  let written := if a.pointer then pointerText a.shape.text else a.shape.text
  match a.name with
  | some n =>
    let libraryName := if a.pointer then pointerText n else n
    if libraryName == written then "'" ++ written ++ "'"
    else "'" ++ libraryName ++ "' (aka '" ++ written ++ "')"
  | none => "'" ++ written ++ "'"

/-- How an argument fits the type a conversion asks for: it fits, it does
not, it does only by a reading the standard does not allow, or it fits
but looks like a mistake of size. Only a plain misfit is reported. -/
inductive ArgFit where
  | fits
  | misfit
  | pedantic
  | confused
deriving DecidableEq, Repr, Inhabited

/-- The integer type a type behaves as: a basic type itself, an
enumeration its integer type. -/
def integerBasic (enumBasic : Nat → Basic) : CType → Option Basic
  | .basic b _ => some b
  | .tag i .enum _ => some (enumBasic i)
  | _ => none

/-- Whether a basic type is a character type or `_Bool`. -/
def characterLike (b : Basic) : Bool :=
  b == .char || b == .schar || b == .uchar || b == .bool

/-- How a value of type `t` (typedef names resolved) fits a kind of value. -/
def ArgShape.fit (enumBasic : Nat → Basic) : ArgShape → CType → ArgFit
  | .anything, _ => .fits
  | .anyChar, t =>
    match integerBasic enumBasic t with
    | some b => if characterLike b then .fits else .misfit
    | none => .misfit
  | .exactly want, t =>
    match integerBasic enumBasic t with
    | some b =>
      if b == want then .fits
      else if characterLike b then
        if want == Basic.short || want == Basic.ushort then .confused
        else if want == Basic.uchar || want == Basic.schar then .fits else .misfit
      else if b.isInteger && b.rank ≥ 2 && b.rank ≤ 5 && b.toUnsigned == want.toUnsigned &&
          b.isUnsigned != want.isUnsigned then .fits
      else .misfit
    | none => .misfit
  | .cString, .pointer (.basic b _) _ =>
    if b == .void || b == .char || b == .schar || b == .uchar then .fits else .misfit
  | .cString, _ => .misfit
  | .wideString, .pointer (.basic .int _) _ => .fits
  | .wideString, _ => .misfit
  | .wideInt, t =>
    match integerBasic enumBasic t with
    | some b =>
      let promoted := b.promote
      if b == .uint || promoted == .uint || promoted == .int then .fits else .misfit
    | none => .misfit
  | .anyPointer, .pointer (.basic .void _) _ => .fits
  | .anyPointer, .pointer _ _ => .pedantic
  | .anyPointer, _ => .misfit

/-- How an argument of type `t` fits the type a conversion asks for: a
pointer to it must be a pointer through which the value may be stored. -/
def ArgType.fit (enumBasic : Nat → Basic) (a : ArgType) (t : CType) : ArgFit :=
  let t := t.canonical
  if a.pointer then
    match t with
    | .pointer p _ => if p.quals.const then .misfit else a.shape.fit enumBasic p
    | _ => .misfit
  else a.shape.fit enumBasic t

/-- A type a conversion asks for by the basic type it names, the library's
name for it, and whether it is pointed to. -/
def basicArg (b : Basic) (name : Option String) (pointer : Bool) : ArgType :=
  { shape := .exactly b, name := name, pointer := pointer }

/-- The type a `printf` conversion asks for with a length modifier; none
when the two do not go together or the conversion takes no argument. -/
def printArgType (lm : LengthModifier) (c : Char) : Option ArgType :=
  if c == 'c' then
    match lm with
    | .none => some (basicArg .int none false)
    | .long | .wide => some { shape := .wideInt, name := some "wint_t" }
    | _ => none
  else if c == 'd' || c == 'i' then
    match lm with
    | .longDouble => some (basicArg .longlong none false)
    | .none => some (basicArg .int none false)
    | .int32 => some (basicArg .int (some "__int32") false)
    | .char => some { shape := .anyChar }
    | .short => some (basicArg .short none false)
    | .long => some (basicArg .long none false)
    | .longLong | .quad => some (basicArg .longlong none false)
    | .int64 | .int3264 => some (basicArg .longlong (some "__int64") false)
    | .intMax => some (basicArg .long (some "intmax_t") false)
    | .size => some (basicArg .long (some "ssize_t") false)
    | .ptrDiff => some (basicArg .long (some "ptrdiff_t") false)
    | _ => none
  else if "ouxX".contains c then
    match lm with
    | .longDouble => some (basicArg .ulonglong none false)
    | .none => some (basicArg .uint none false)
    | .int32 => some (basicArg .uint (some "unsigned __int32") false)
    | .char => some (basicArg .uchar none false)
    | .short => some (basicArg .ushort none false)
    | .long => some (basicArg .ulong none false)
    | .longLong | .quad => some (basicArg .ulonglong none false)
    | .int64 | .int3264 => some (basicArg .ulonglong (some "unsigned __int64") false)
    | .intMax => some (basicArg .ulong (some "uintmax_t") false)
    | .size => some (basicArg .ulong (some "size_t") false)
    | .ptrDiff => some (basicArg .ulong (some "unsigned ptrdiff_t") false)
    | _ => none
  else if isFloatingConversion c then
    some (basicArg (if lm == .longDouble then .longDouble else .double) none false)
  else if c == 'n' then
    match lm with
    | .none => some (basicArg .int none true)
    | .char => some (basicArg .schar none true)
    | .short => some (basicArg .short none true)
    | .long => some (basicArg .long none true)
    | .longLong | .quad => some (basicArg .longlong none true)
    | .intMax => some (basicArg .long (some "intmax_t") true)
    | .size => some (basicArg .long (some "ssize_t") true)
    | .ptrDiff => some (basicArg .long (some "ptrdiff_t") true)
    | .longDouble => some { shape := .anything }
    | _ => none
  else if c == 's' then
    if lm == .long || lm == .wide then some { shape := .wideString, name := some "wchar_t *" }
    else some { shape := .cString }
  else if c == 'S' then some { shape := .wideString, name := some "wchar_t *" }
  else if c == 'C' then some (basicArg .int (some "wchar_t") false)
  else if c == 'p' || c == 'P' then some { shape := .anyPointer }
  else none

/-- The type a `scanf` conversion asks for with a length modifier: always
a pointer, through which the value read is stored. -/
def scanArgType (lm : LengthModifier) (c : Char) : Option ArgType :=
  let pointerTo (b : Basic) : Option ArgType := some (basicArg b none true)
  let named (b : Basic) (n : String) : Option ArgType := some (basicArg b (some n) true)
  let wideChar : Option ArgType := named .int "wchar_t"
  if c == 'd' || c == 'i' then
    match lm with
    | .none => pointerTo .int
    | .char => some { shape := .anyChar, pointer := true }
    | .short => pointerTo .short
    | .long => pointerTo .long
    | .longLong | .quad | .longDouble => pointerTo .longlong
    | .int64 => named .longlong "__int64"
    | .intMax => named .long "intmax_t"
    | .size => named .long "ssize_t"
    | .ptrDiff => named .long "ptrdiff_t"
    | _ => none
  else if "ouxX".contains c then
    match lm with
    | .none => pointerTo .uint
    | .char => pointerTo .uchar
    | .short => pointerTo .ushort
    | .long => pointerTo .ulong
    | .longLong | .quad | .longDouble => pointerTo .ulonglong
    | .int64 => named .ulonglong "unsigned __int64"
    | .intMax => named .ulong "uintmax_t"
    | .size => named .ulong "size_t"
    | .ptrDiff => named .ulong "unsigned ptrdiff_t"
    | _ => none
  else if isFloatingConversion c then
    match lm with
    | .none => pointerTo .float
    | .long => pointerTo .double
    | .longDouble => pointerTo .longDouble
    | _ => none
  else if c == 'c' || c == 's' || c == '[' then
    match lm with
    | .none => some { shape := .anyChar, pointer := true }
    | .long | .wide => wideChar
    | .allocate => some { shape := .cString, pointer := true }
    | _ => none
  else if c == 'C' || c == 'S' then
    match lm with
    | .none | .wide => wideChar
    | .allocate => some { shape := .wideString, name := some "wchar_t *", pointer := true }
    | _ => none
  else if c == 'p' then some { shape := .anyPointer, pointer := true }
  else if c == 'n' then
    match lm with
    | .none => pointerTo .int
    | .char => pointerTo .schar
    | .short => pointerTo .short
    | .long => pointerTo .long
    | .longLong | .quad => pointerTo .longlong
    | .int64 => named .longlong "__int64"
    | .intMax => named .long "intmax_t"
    | .size => named .long "ssize_t"
    | .ptrDiff => named .long "ptrdiff_t"
    | .longDouble => some { shape := .anything }
    | _ => none
  else some { shape := .anything }

/-! ## Flags -/

/-- Whether a `printf` flag means something for a conversion character:
`'` for the decimal conversions, `0` for the numeric ones, `+` and space
for the signed ones, `#` for those with an alternative form, `-` for all
but `n`. -/
def flagAllowed (flag c : Char) : Bool :=
  match flag with
  | '\'' => "diufFgG".contains c
  | '0' => isIntegerConversion c || isFloatingConversion c
  | '+' | ' ' => c == 'd' || c == 'i' || isFloatingConversion c
  | '#' => "oxX".contains c || isFloatingConversion c
  | _ => c != 'n'

/-! ## What reading a format finds -/

/-- A fault found in a format, at a byte of it or at a data argument
(counted from 0). -/
inductive FormatIssue where
  /-- A conversion the format ends in the middle of, at its `%`. -/
  | incomplete (at_ : Nat)
  | nullCharacter (at_ : Nat)
  /-- A conversion character no conversion has, shown as the message shows it. -/
  | invalidConversion (at_ : Nat) (shown : String)
  | zeroPosition (at_ : Nat)
  | invalidPosition (at_ : Nat) (precision : Bool)
  | mixedPositions (at_ : Nat)
  /-- A width or precision `*` with no argument left for it. -/
  | missingAmount (at_ : Nat) (precision : Bool)
  /-- A width or precision `*` whose argument is no `int`. -/
  | amountType (at_ : Nat) (precision : Bool) (shown : CType)
  | amountUnused (at_ : Nat) (precision : Bool) (conversion : Char)
  | flagUnused (at_ : Nat) (flag conversion : Char)
  | flagIgnored (at_ : Nat) (flag other : Char)
  | lengthUnused (at_ : Nat) (length : LengthModifier) (conversion : Char)
  /-- A privacy annotation in braces, which only logging functions read. -/
  | privacyMark (at_ : Nat) (word : String)
  | emptyObjectFlag (at_ : Nat)
  | invalidObjectFlag (at_ : Nat) (flag : String)
  | objectFlagsWithout (at_ : Nat) (conversion : Char)
  | tooFewArguments (at_ : Nat)
  | positionBeyond (at_ : Nat) (position count : Nat)
  | booleanAsCharacter (arg : Nat) (spec : String)
  /-- An argument that does not fit: what the conversion asks for, and the
  type the argument is shown with (an enumeration's integer type, `enum`). -/
  | argumentType (arg : Nat) (expected : ArgType) (shown : CType) (enum : Bool)
  | zeroWidth (at_ : Nat)
  | openScanList (at_ : Nat)
  /-- A format with no characters, given data arguments. -/
  | empty
deriving Inhabited

/-- Where a message about a format points. -/
inductive FormatPlace where
  /-- At a byte of the format. -/
  | byte (at_ : Nat)
  /-- At the start of a data argument. -/
  | argumentStart (k : Nat)
  /-- Where a data argument's expression stands: its operator, for one. -/
  | argument (k : Nat)
  /-- At the start of the literal. -/
  | literal
deriving DecidableEq, Repr, Inhabited

/-- Where the message about a fault points. -/
def FormatIssue.place : FormatIssue → FormatPlace
  | .incomplete at_ | .nullCharacter at_ | .invalidConversion at_ _ | .zeroPosition at_
  | .invalidPosition at_ _ | .mixedPositions at_ | .missingAmount at_ _ | .amountType at_ _ _
  | .amountUnused at_ _ _ | .flagUnused at_ _ _ | .flagIgnored at_ _ _ | .lengthUnused at_ _ _
  | .privacyMark at_ _ | .emptyObjectFlag at_ | .invalidObjectFlag at_ _
  | .objectFlagsWithout at_ _ | .tooFewArguments at_ | .positionBeyond at_ _ _
  | .zeroWidth at_ | .openScanList at_ => .byte at_
  | .booleanAsCharacter k _ => .argument k
  | .argumentType k _ _ _ => .argumentStart k
  | .empty => .literal

/-- The warning option that controls the message about a fault. -/
def FormatIssue.option : FormatIssue → String
  | .invalidConversion _ _ => "-Wformat-invalid-specifier"
  | .tooFewArguments _ => "-Wformat-insufficient-args"
  | .empty => "-Wformat-zero-length"
  | _ => "-Wformat"

/-- The word for a field width or a precision. -/
def amountWord (precision : Bool) : String := if precision then "precision" else "width"

/-- The message about a fault, with `quote` writing a type in quotes. -/
def FormatIssue.message (quote : CType → String) : FormatIssue → String
  | .incomplete _ => "incomplete format specifier"
  | .nullCharacter _ => "format string contains '\\0' within the string body"
  | .invalidConversion _ shown => s!"invalid conversion specifier '{shown}'"
  | .zeroPosition _ => "position arguments in format strings start counting at 1 (not 0)"
  | .invalidPosition _ precision =>
    let what := if precision then "field precision" else "field width"
    s!"invalid position specified for {what}"
  | .mixedPositions _ => "cannot mix positional and non-positional arguments in format string"
  | .missingAmount _ precision =>
    let star := if precision then ".*" else "*"
    let what := amountWord precision
    s!"'{star}' specified field {what} is missing a matching 'int' argument"
  | .amountType _ precision shown =>
    let what := amountWord precision
    let given := quote shown
    s!"field {what} should have type 'int', but argument has type {given}"
  | .amountUnused _ precision c =>
    let what := if precision then "precision" else "field width"
    s!"{what} used with '{c}' conversion specifier, resulting in undefined behavior"
  | .flagUnused _ f c => s!"flag '{f}' results in undefined behavior with '{c}' conversion specifier"
  | .flagIgnored _ f g => s!"flag '{f}' is ignored when flag '{g}' is present"
  | .lengthUnused _ lm c =>
    let written := lm.text
    s!"length modifier '{written}' results in undefined behavior or no effect with '{c}' conversion specifier"
  | .privacyMark _ w => s!"using '{w}' format specifier annotation outside of os_log()/os_trace()"
  | .emptyObjectFlag _ => "missing object format flag"
  | .invalidObjectFlag _ f => s!"'{f}' is not a valid object format flag"
  | .objectFlagsWithout _ c => s!"object format flags cannot be used with '{c}' conversion specifier"
  | .tooFewArguments _ => "more '%' conversions than data arguments"
  | .positionBeyond _ p n => s!"data argument position '{p}' exceeds the number of data arguments ({n})"
  | .booleanAsCharacter _ spec => s!"using '{spec}' format specifier, but argument has boolean value"
  | .argumentType _ want shown enum =>
    let expected := want.describe
    let kind := if enum then "underlying type" else "type"
    let given := quote shown
    s!"format specifies type {expected} but the argument has {kind} {given}"
  | .zeroWidth _ => "zero field width in scanf format string is unused"
  | .openScanList _ => "no closing ']' for '%[' in scanf format string"
  | .empty => "format string is empty"

/-- Which data arguments a format leaves unused: none that it can tell (it
stopped early, or its data come as a `va_list`), none at all, or those from
the one given on. -/
inductive Coverage where
  | unknown
  | all
  | firstUnused (k : Nat)
deriving DecidableEq, Repr, Inhabited

/-- What two formats that a call may use leave unused together: nothing if
either uses every argument, else from the later of their first unused ones. -/
def Coverage.join : Coverage → Coverage → Coverage
  | .all, _ | _, .all => .all
  | .unknown, c | c, .unknown => c
  | .firstUnused a, .firstUnused b => .firstUnused (max a b)

/-- What the format check knows of a data argument. -/
structure FormatArgument where
  /-- Its type as passed, after the default promotions. -/
  passed : CType
  /-- Its type before an integer or floating promotion, when it had one. -/
  beforePromotion : Option CType := none
  /-- Whether it is a character constant whose value fits in a byte. -/
  byteCharacter : Bool := false
  /-- Whether its value is known to be 0 or 1. -/
  boolean : Bool := false
deriving Inhabited

/-- A call as the format check sees it: the family of its format, its data
arguments, whether those come as a `va_list`, and the integer types of the
enumerations. -/
structure FormatCall where
  family : FormatFamily
  args : Array FormatArgument
  vaList : Bool
  enumBasic : Nat → Basic

/-- The state of reading a format: what it found, which data arguments a
conversion took, and whether conversions use positions. -/
structure FormatReading where
  issues : Array FormatIssue := #[]
  taken : Array Bool
  sawConversion : Bool := false
  positional : Bool := false
  /-- Set when a conversion has no argument left: every argument counts as
  used. -/
  allTaken : Bool := false

/-- Reading a format. -/
abbrev FormatM := StateM FormatReading

/-- Record a fault. -/
def report (i : FormatIssue) : FormatM Unit :=
  modify fun st => { st with issues := st.issues.push i }

/-- Mark data argument `k` as taken by a conversion. -/
def takeArgument (k : Nat) : FormatM Unit :=
  modify fun st => { st with taken := st.taken.setIfInBounds k true }

/-- Decide whether conversions use positions by the first that takes an
argument; false, after reporting it at `at_`, for one that differs. -/
def samePositions (positional : Bool) (at_ : Nat) : FormatM Bool := do
  let st ← get
  if !st.sawConversion then
    set { st with sawConversion := true, positional := positional }
    return true
  if st.positional != positional then
    report (.mixedPositions at_)
    return false
  return true

/-! ## Numbers, positions and amounts -/

/-- The decimal number whose digits start at index `i`, and the index after
the digits. The number counts only when a character follows the digits: a
format that ends in digits ends in the middle of a conversion. The value
is kept to 32 bits. -/
def readNumber (s : Array Char) (i : Nat) : Option Nat × Nat :=
  let digits := ((s.toList.drop i).takeWhile Char.isDigit)
  let next := i + digits.length
  let value := digits.foldl (fun n c => (n * 10 + (c.toNat - 48)) % 4294967296) 0
  if digits.isEmpty || next ≥ s.size then (none, next) else (some value, next)

/-- How a field width or precision is given. -/
inductive AmountKind where
  | none
  | constant (n : Nat)
  /-- Taken from the data argument of this index. -/
  | argument (index : Nat)
deriving DecidableEq, Repr, Inhabited

/-- A field width or precision and the byte a message about it points at. -/
structure Amount where
  kind : AmountKind := .none
  at_ : Nat := 0
deriving DecidableEq, Repr, Inhabited

/-- What reading one conversion gives: a fault that ends the reading, a
conversion to check, or a fault after which reading goes on, with the
index after the conversion and the count of arguments taken in order. -/
inductive SpecStep (α : Type) where
  | stop
  | skip (next counter : Nat)
  | found (spec : α) (next counter : Nat)

/-- Report the conversion that the format ends inside of, starting at `start`. -/
def endsInside {α : Type} (start : Nat) : FormatM (SpecStep α) := do
  report (.incomplete start)
  return .stop

/-- A position `n$` at index `i` of a conversion starting at `start`: the
data argument it names and the index after it, none when no position is
written there, or a fault that stops the reading. -/
def readPosition (s : Array Char) (start i : Nat) : FormatM (Option (Option (Nat × Nat))) := do
  match readNumber s i with
  | (some n, j) =>
    if byteAt s j == '$' then
      if n == 0 then
        report (.zeroPosition start)
        return none
      return some (some (n - 1, j + 1))
    return some none
  | (none, j) =>
    if j ≥ s.size then
      report (.incomplete start)
      return none
    return some none

/-- A width or precision at index `i`: the amount and the index after it,
or none after a fault that stops the reading. A `*` takes the next
argument, or with positions the one its `n$` names; `precision` says
which the amount is, whose message points at its `.`. -/
def readAmount (s : Array Char) (i : Nat) (positional precision : Bool) (counter : Nat) :
    FormatM (Option (Amount × Nat × Nat)) := do
  let back := if precision then 1 else 0
  if byteAt s i == '*' && i < s.size then
    if positional then
      match readNumber s (i + 1) with
      | (some n, j) =>
        if byteAt s j == '$' then
          if n == 0 then
            report (.zeroPosition i)
            return none
          return some ({ kind := .argument (n - 1), at_ := i - back }, j + 1, counter)
        report (.invalidPosition i precision)
        return none
      | (none, _) =>
        report (.invalidPosition i precision)
        return none
    return some ({ kind := .argument counter, at_ := i + 1 - back }, i + 1, counter + 1)
  match readNumber s i with
  | (some n, j) => return some ({ kind := .constant n, at_ := i - back }, j, counter)
  | (none, j) => return some ({}, j, counter)

/-- The number of bytes a UTF-8 sequence starting with byte `b` claims. -/
def utf8SequenceLength (b : Nat) : Nat :=
  if b < 0xC0 then 1 else if b < 0xE0 then 2 else if b < 0xF0 then 3
  else if b < 0xF8 then 4 else if b < 0xFC then 5 else 6

/-- The code point that bytes encode when they are exactly one well-formed
UTF-8 sequence: no overlong form, no surrogate, nothing past U+10FFFF. -/
def decodeUtf8Sequence : List Nat → Option Nat
  | [] => none
  | [b] => if b < 0x80 then some b else none
  | b :: rest =>
    let n := rest.length + 1
    if b < 0xC0 || n > 4 || utf8SequenceLength b != n then none
    else if !rest.all (fun c => 0x80 ≤ c && c < 0xC0) then none
    else
      let code := rest.foldl (fun acc c => acc * 64 + (c - 0x80)) (b % Nat.pow 2 (7 - n))
      let least := if n == 2 then 0x80 else if n == 3 then 0x800 else 0x10000
      if code < least || (0xD800 ≤ code && code ≤ 0xDFFF) || code > 0x10FFFF then none
      else some code

/-- The text of a conversion character a message shows: the character if
it prints, else the code point of the UTF-8 sequence of `len` bytes it
starts, or its byte, as `\xhh`, `\uhhhh` or `\Uhhhhhhhh`. -/
def conversionText (s : Array Char) (at_ len : Nat) : String :=
  let b := (byteAt s at_).toNat
  if 0x20 ≤ b && b < 0x7F then
    String.ofList ((List.range (max len 1)).map fun k => byteAt s (at_ + k))
  else
    let bytes := (List.range len).map fun k => (byteAt s (at_ + k)).toNat
    let code := (decodeUtf8Sequence bytes).getD b
    let hex (width n : Nat) : String :=
      String.ofList ((List.range width).reverse.map fun k =>
        "0123456789abcdef".toList.getD (n / Nat.pow 16 k % 16) '0')
    if code < 256 then "\\x" ++ hex 2 code
    else if code ≤ 0xFFFF then "\\u" ++ hex 4 code
    else "\\U" ++ hex 8 code

/-- The length a message gives an invalid conversion character at `at_`:
when the byte after the `%`, or after the end of the text before it for
`scanf`, at `lead`, starts a UTF-8 sequence that fits in the format, the
rest of that sequence, else one byte. -/
def invalidLength (s : Array Char) (lead at_ : Nat) : Nat :=
  let n := utf8SequenceLength (byteAt s (lead + 1)).toNat
  if lead + 1 < s.size && n > 1 && lead + 1 + n ≤ s.size && lead + n + 1 > at_ then lead + n + 1 - at_
  else 1

/-- Report an invalid conversion character at `at_` that takes argument
`k`: reading goes on only if there is such an argument, which counts as
used. -/
def invalidConversion (call : FormatCall) (s : Array Char) (k at_ len : Nat) : FormatM Bool := do
  report (.invalidConversion at_ (conversionText s at_ len))
  if k < call.args.size then
    takeArgument k
    return true
  return false

/-- Check a width or precision given by an argument: one must be left for
it, and it must be an `int`. False when it is not, which stops the reading. -/
def amountFits (call : FormatCall) (a : Amount) (precision : Bool) : FormatM Bool := do
  match a.kind with
  | .argument k =>
    if call.vaList then return true
    match call.args[k]? with
    | none =>
      report (.missingAmount a.at_ precision)
      return false
    | some arg =>
      takeArgument k
      if (basicArg .int none false).fit call.enumBasic arg.passed == .misfit then
        report (.amountType a.at_ precision arg.passed)
        return false
      return true
  | _ => return true

/-- Report a conversion at `at_` that has no argument left, `positional`
when it names argument `k`: every argument then counts as used. -/
def missingArgument (call : FormatCall) (positional : Bool) (k at_ : Nat) : FormatM Unit := do
  report (if positional then .positionBeyond at_ (k + 1) call.args.size else .tooFewArguments at_)
  modify fun st => { st with allTaken := true }

/-! ## `printf` formats -/

/-- A conversion of a `printf` format as read. -/
structure PrintSpec where
  start : Nat
  argIndex : Nat := 0
  positional : Bool := false
  /-- Each flag with where it stands, the last written first. -/
  flags : List (Char × Nat) := []
  width : Amount := {}
  precision : Amount := {}
  length : LengthModifier := .none
  lengthAt : Nat := 0
  conversion : Char := '%'
  conversionAt : Nat := 0
  /-- A privacy annotation in braces, with where its word stands. -/
  privacy : Option (String × Nat) := none

/-- Where a flag of a conversion stands, if it is written. -/
def PrintSpec.flagAt (p : PrintSpec) (f : Char) : Option Nat :=
  (p.flags.find? (·.1 == f)).map (·.2)

/-- A width or precision as written in a conversion. -/
def Amount.text (a : Amount) (precision : Bool) (positional : Bool) : String :=
  let dot := if precision then "." else ""
  match a.kind with
  | .none => ""
  | .constant n => dot ++ toString n
  | .argument k => dot ++ (if positional then "*" ++ toString (k + 1) ++ "$" else "*")

/-- A conversion written back in a standard order: position, flags, width,
precision, length modifier and conversion character. -/
def PrintSpec.text (p : PrintSpec) : String :=
  let position := if p.positional then toString (p.argIndex + 1) ++ "$" else ""
  let flags := ['-', '+', ' ', '#', '0'].filter (fun f => (p.flagAt f).isSome)
  "%" ++ position ++ String.ofList flags ++ p.width.text false p.positional ++
    p.precision.text true p.positional ++ p.length.text ++ p.conversion.toString

/-- Whether a character is one of the conversions of `printf`. -/
def isPrintConversion (c : Char) : Bool := "%AEFGXacdefginopsuxCSPm@".contains c

/-- Whether a blank character as the library's `isspace` knows them. -/
def isFormatSpace (c : Char) : Bool := c == ' ' || c == '\t' || c == '\n' || c == '\x0b' || c == '\x0c' || c == '\r'

/-- The privacy annotation a brace segment starting at `i` holds (its word
and where the word stands) and the index just past its `,` or `}`; the
word is `private`, `public`, `sensitive` or a `mask.` type, followed only
by blanks. None when no `,` or `}` follows. -/
def readPrivacyMark (s : Array Char) (i : Nat) : Option (Option (String × Nat) × Nat) :=
  let rest := s.toList.drop i
  let blanks := (rest.takeWhile isFormatSpace).length
  let wordAt := i + blanks
  let word := String.ofList ((rest.drop blanks).takeWhile fun c =>
    !isFormatSpace c && c != ',' && c != '}')
  let after := wordAt + word.length
  let gap := ((s.toList.drop after).takeWhile isFormatSpace).length
  let known := word == "private" || word == "public" || word == "sensitive" || word.startsWith "mask."
  let close := byteAt s (after + gap)
  if known && after + gap < s.size && (close == ',' || close == '}') then
    some (some (word, wordAt), after + gap + 1)
  else
    match (rest.findIdx? fun c => c == ',' || c == '}') with
    | some k => some (none, i + k + 1)
    | none => none

/-- Read the privacy annotations in braces from index `i`, just after the
`{`: the strictest of them and the index after the `}`, or none when the
format ends first. `sensitive` wins over `private`, which wins over
`public`. -/
def readPrivacyMarks (s : Array Char) : Nat → Nat → Option (String × Nat) → Option (Option (String × Nat) × Nat)
  | 0, _, found => some (found, s.size)
  | fuel + 1, i, found =>
    match readPrivacyMark s i with
    | none => none
    | some (word, next) =>
      let found := match word, found with
        | some ("sensitive", at_), _ => some ("sensitive", at_)
        | some ("private", at_), some ("public", _) => some ("private", at_)
        | some ("private", at_), none => some ("private", at_)
        | some ("public", at_), none => some ("public", at_)
        | _, f => f
      if byteAt s (next - 1) == ',' then readPrivacyMarks s fuel next found else some (found, next)

/-- Read the flags of a conversion from index `i`: each with where it
stands, the last first, and the index after them. -/
def readFlags (s : Array Char) : Nat → Nat → List (Char × Nat) → List (Char × Nat) × Nat
  | 0, i, acc => (acc, i)
  | fuel + 1, i, acc =>
    let c := byteAt s i
    if i < s.size && "'-+ #0".contains c then readFlags s fuel (i + 1) ((c, i) :: acc) else (acc, i)

/-- The index of the `]` that closes a bracket opened before index `i`, if
the format has one. -/
def closingBracket (s : Array Char) (i : Nat) : Option Nat :=
  ((s.toList.drop i).findIdx? (· == ']')).map (i + ·)

/-- Read the `printf` conversion whose `%` is at `start`, `counter`
arguments having been taken in order before it. -/
def readPrintSpec (call : FormatCall) (s : Array Char) (start counter : Nat) :
    FormatM (SpecStep PrintSpec) := do
  let e := s.size
  let mut i := start + 1
  let mut counter := counter
  if i ≥ e then return ← endsInside start
  let mut spec : PrintSpec := { start := start }
  match ← readPosition s start i with
  | none => return .stop
  | some (some (k, j)) =>
    spec := { spec with argIndex := k, positional := true }
    i := j
  | some none => pure ()
  if i ≥ e then return ← endsInside start
  if byteAt s i == '{' then
    match readPrivacyMarks s (e + 1) (i + 1) none with
    | none => return ← endsInside start
    | some (found, j) =>
      spec := { spec with privacy := found.filter (fun (w, _) => w == "private" || w == "public") }
      i := j
  let (flags, j) := readFlags s (e + 1) i []
  spec := { spec with flags := flags }
  i := j
  if i ≥ e then return ← endsInside start
  match ← readAmount s i spec.positional false counter with
  | none => return .stop
  | some (a, j, c) =>
    spec := { spec with width := a }
    i := j
    counter := c
  if i ≥ e then return ← endsInside start
  if byteAt s i == '.' then
    i := i + 1
    if i ≥ e then return ← endsInside start
    match ← readAmount s i spec.positional true counter with
    | none => return .stop
    | some (a, j, c) =>
      spec := { spec with precision := a }
      i := j
      counter := c
    if i ≥ e then return ← endsInside start
  match readLength s i false with
  | (some lm, j) =>
    spec := { spec with length := lm, lengthAt := i }
    i := j
    if i ≥ e then return ← endsInside start
  | (none, _) => pure ()
  let mut objectFlags := false
  if byteAt s i == '[' && i < e then
    match closingBracket s (i + 1) with
    | none => return ← endsInside start
    | some close =>
      let flag := String.ofList ((s.toList.drop (i + 1)).take (close - (i + 1)))
      if flag != "tt" then
        report (if flag.isEmpty then .emptyObjectFlag (i + 1) else .invalidObjectFlag (i + 1) flag)
        return .stop
      objectFlags := true
      i := close + 1
  if byteAt s i == '\x00' then
    report (.nullCharacter i)
    return .stop
  let c := byteAt s i
  let at_ := i
  i := i + 1
  let valid := isPrintConversion c
  if objectFlags && valid && c != '@' then
    report (.objectFlagsWithout at_ c)
    return .stop
  spec := { spec with conversion := c, conversionAt := at_ }
  if valid && c != '%' && c != 'm' && !spec.positional then
    spec := { spec with argIndex := counter }
    counter := counter + 1
  if !valid then
    if ← invalidConversion call s spec.argIndex at_ (invalidLength s start at_) then
      return .skip i counter
    return .stop
  return .found spec i counter

/-- Check a `printf` conversion's argument against the type it asks for. -/
def checkPrintArgument (call : FormatCall) (p : PrintSpec) (k : Nat) (arg : FormatArgument) :
    FormatM Unit := do
  let some want := printArgType p.length p.conversion | return
  if p.conversion == 'c' && arg.boolean then
    report (.booleanAsCharacter k p.text)
    return
  let fit := want.fit call.enumBasic arg.passed
  if fit == .fits then return
  let mut fit := fit
  let mut shown := arg.passed
  match arg.beforePromotion with
  | some t =>
    shown := t
    let toInt := match arg.passed.canonical with
      | .basic .int _ | .basic .uint _ => true
      | _ => false
    if toInt then
      let again := want.fit call.enumBasic t
      if again == .fits then return
      if again != .misfit then fit := again
  | none =>
    let plainInt := match arg.passed.canonical with
      | .basic .int _ => true
      | _ => false
    if arg.byteCharacter && p.length != .char && plainInt then shown := CType.char
  let (described, enum) := match shown.canonical with
    | .tag i .enum _ => (CType.basic (call.enumBasic i) {}, true)
    | _ => (shown, false)
  if fit == .misfit then report (.argumentType k want described enum)

/-- Check a `printf` conversion against its arguments; false when reading
stops at it. -/
def handlePrintSpec (call : FormatCall) (s : Array Char) (p : PrintSpec) : FormatM Bool := do
  let c := p.conversion
  let takes := c != '%' && c != 'm'
  if takes then
    if !(← samePositions p.positional p.conversionAt) then return false
  if !(← amountFits call p.width false) then return false
  if !(← amountFits call p.precision true) then return false
  if !takes then return true
  if p.argIndex < call.args.size then takeArgument p.argIndex
  if c == '@' || c == 'P' then
    return ← invalidConversion call s p.argIndex p.conversionAt 1
  if let some (w, at_) := p.privacy then report (.privacyMark at_ w)
  if p.width.kind != .none && c == 'n' then report (.amountUnused p.width.at_ false c)
  if p.precision.kind != .none && !(isIntegerConversion c || isFloatingConversion c || c == 's') then
    report (.amountUnused p.precision.at_ true c)
  for f in ['\'', '0', '+', ' ', '#', '-'] do
    if let some at_ := p.flagAt f then
      if !flagAllowed f c then report (.flagUnused at_ f c)
  if let (some at_, some _) := (p.flagAt ' ', p.flagAt '+') then report (.flagIgnored at_ ' ' '+')
  if let (some at_, some _) := (p.flagAt '0', p.flagAt '-') then report (.flagIgnored at_ '0' '-')
  if !lengthAllowed p.length c then report (.lengthUnused p.lengthAt p.length c)
  if call.vaList then return true
  match call.args[p.argIndex]? with
  | none =>
    missingArgument call p.positional p.argIndex p.conversionAt
    return false
  | some arg =>
    checkPrintArgument call p p.argIndex arg
    return true

/-- Where the next `%` stands from index `i`: none at the end of the
format, or a zero byte met first. -/
inductive PercentSearch where
  | percent (at_ : Nat)
  | zero (at_ : Nat)
  | finished

/-- Look for the next `%` from index `i`. -/
def findPercent (s : Array Char) (i : Nat) : PercentSearch :=
  match (s.toList.drop i).findIdx? (fun c => c == '%' || c == '\x00') with
  | some k => if byteAt s (i + k) == '%' then .percent (i + k) else .zero (i + k)
  | none => .finished

/-- Read a `printf` format from index `i` to its end: true when it was read
to the end, false when a fault stopped the reading. -/
def readPrintFormat (call : FormatCall) (s : Array Char) : Nat → Nat → Nat → FormatM Bool
  | 0, _, _ => return true
  | fuel + 1, i, counter => do
    match findPercent s i with
    | .finished => return true
    | .zero at_ =>
      report (.nullCharacter at_)
      return false
    | .percent start =>
      match ← readPrintSpec call s start counter with
      | .stop => return false
      | .skip next counter => readPrintFormat call s fuel next counter
      | .found p next counter =>
        if ← handlePrintSpec call s p then readPrintFormat call s fuel next counter
        else return false

/-! ## `scanf` formats -/

/-- A conversion of a `scanf` format as read. -/
structure ScanSpec where
  start : Nat
  argIndex : Nat := 0
  positional : Bool := false
  /-- Whether it is written `%*`, reading without storing. -/
  suppressed : Bool := false
  width : Amount := {}
  length : LengthModifier := .none
  lengthAt : Nat := 0
  conversion : Char := '%'
  conversionAt : Nat := 0

/-- Whether a character is one of the conversions of `scanf`. -/
def isScanConversion (c : Char) : Bool := "%AEFGXadefgincCS[uxosp".contains c

/-- Whether a `scanf` conversion stores through an argument. -/
def ScanSpec.takes (p : ScanSpec) : Bool :=
  p.conversion != '%' && isScanConversion p.conversion && !p.suppressed

/-- The index of the `]` that ends a scan list opened by the `[` before
index `i`, or the byte a message about a list left open points at. A `]`
first in the list, or after `^`, belongs to it. -/
def scanListEnd (s : Array Char) (i : Nat) : Except Nat Nat :=
  let e := s.size
  if i ≥ e then .error i
  else
    let i := if byteAt s i == ']' then i + 1 else i
    if i ≥ e then .error (i - 1)
    else
      let i := if i + 1 < e && byteAt s i == '^' && byteAt s (i + 1) == ']' then i + 2 else i
      if i ≥ e then .error (i - 1)
      else
        match closingBracket s i with
        | some close => .ok close
        | none => .error (e - 1)

/-- Read the `scanf` conversion whose `%` is at `start`, the text before it
starting at `from_`, `counter` arguments having been taken in order. -/
def readScanSpec (call : FormatCall) (s : Array Char) (from_ start counter : Nat) :
    FormatM (SpecStep ScanSpec) := do
  let e := s.size
  let mut i := start + 1
  let mut counter := counter
  if i ≥ e then return ← endsInside start
  let mut spec : ScanSpec := { start := start }
  match ← readPosition s start i with
  | none => return .stop
  | some (some (k, j)) =>
    spec := { spec with argIndex := k, positional := true }
    i := j
  | some none => pure ()
  if i ≥ e then return ← endsInside start
  if byteAt s i == '*' then
    spec := { spec with suppressed := true }
    i := i + 1
    if i ≥ e then return ← endsInside start
  match readNumber s i with
  | (some n, j) =>
    spec := { spec with width := { kind := .constant n, at_ := i } }
    i := j
  | (none, j) => i := j
  match readLength s i true with
  | (some lm, j) =>
    spec := { spec with length := lm, lengthAt := i }
    i := j
    if i ≥ e then return ← endsInside start
  | (none, _) => pure ()
  if byteAt s i == '\x00' then
    report (.nullCharacter i)
    return .stop
  let c := byteAt s i
  let at_ := i
  i := i + 1
  if c == '[' then
    match scanListEnd s i with
    | .error bad =>
      report (.openScanList bad)
      return .stop
    | .ok close => i := close
  spec := { spec with conversion := c, conversionAt := at_ }
  if spec.takes && !spec.positional then
    spec := { spec with argIndex := counter }
    counter := counter + 1
  if !isScanConversion c then
    if ← invalidConversion call s spec.argIndex at_ (invalidLength s from_ at_) then
      return .skip i counter
    return .stop
  return .found spec i counter

/-- Check a `scanf` conversion against its arguments; false when reading
stops at it. -/
def handleScanSpec (call : FormatCall) (p : ScanSpec) : FormatM Bool := do
  if p.takes then
    if !(← samePositions p.positional p.conversionAt) then return false
  if p.width.kind == .constant 0 then report (.zeroWidth p.width.at_)
  if !p.takes then return true
  if p.argIndex < call.args.size then takeArgument p.argIndex
  if !lengthAllowed p.length p.conversion then report (.lengthUnused p.lengthAt p.length p.conversion)
  if call.vaList then return true
  match call.args[p.argIndex]? with
  | none =>
    missingArgument call p.positional p.argIndex p.conversionAt
    return false
  | some arg =>
    if let some want := scanArgType p.length p.conversion then
      if want.fit call.enumBasic arg.passed == .misfit then
        report (.argumentType p.argIndex want arg.passed false)
    return true

/-- Read a `scanf` format from index `i` to its end: true when it was read
to the end, false when a fault stopped the reading. -/
def readScanFormat (call : FormatCall) (s : Array Char) : Nat → Nat → Nat → FormatM Bool
  | 0, _, _ => return true
  | fuel + 1, i, counter => do
    match findPercent s i with
    | .finished => return true
    | .zero at_ =>
      report (.nullCharacter at_)
      return false
    | .percent start =>
      match ← readScanSpec call s i start counter with
      | .stop => return false
      | .skip next counter => readScanFormat call s fuel next counter
      | .found p next counter =>
        if ← handleScanSpec call p then readScanFormat call s fuel next counter
        else return false

/-! ## A whole format -/

/-- What reading a format string literal (its bytes, without the
terminating zero) finds against a call's data arguments, and which
arguments it leaves unused. A format with no characters is a fault of its
own when data arguments follow it. -/
def checkFormat (call : FormatCall) (s : Array Char) : List FormatIssue × Coverage :=
  if s.size == 0 && call.args.size > 0 then ([.empty], .unknown)
  else
    let start : FormatReading := { taken := Array.replicate call.args.size false }
    let read : FormatM Bool := match call.family with
      | .printf => readPrintFormat call s (s.size + 1) 0 0
      | .scanf => readScanFormat call s (s.size + 1) 0 0
      | _ => return false
    let (finished, st) := read.run start
    let coverage :=
      if st.allTaken then .all
      else if !finished || call.vaList then .unknown
      else match st.taken.toList.findIdx? (· == false) with
        | some k => .firstUnused k
        | none => .all
    (st.issues.toList, coverage)

end CInspect.Language
