import CInspect.Check.Level
import CInspect.Text.Blank
import CInspect.Text.Quoted
/-!
Reading the command line.

Options are written `--name value` or `--name=value`; the one-letter
options may carry their value or a further one-letter option in the same
argument (`-Iinc`, `-dd`). A long option may be shortened to any prefix
that names only one option; a prefix that names several is an error. An
argument that starts with `-` and names no option is unrecognised, unless it
reads as a negative number or holds a space, when it is an ordinary
argument. After `--` every argument is ordinary.

The first run of ordinary arguments gives the source files; a later run is
unrecognised. Repeating an option keeps its last value, except `-I`, which
collects, and `-d`, which counts.

`Arguments.levels` turns the five check lists into a level per check: each
list is split at commas, each name trimmed and its `-` read as `_`, and the
lists are applied in the order not-recommended, warning, error,
not-permitted, do-not-check, so that a later list overrides an earlier one.
-/

namespace CInspect.CommandLine

open CInspect.Check CInspect.Text

/-- The options that take a comma separated list of checks, in the order in
which their lists are applied. -/
inductive ListOption where
  | notRecommended
  | warning
  | error
  | notPermitted
  | doNotCheck
deriving DecidableEq, Repr

/-- The options that take a value. -/
inductive ValueOption where
  | checks (l : ListOption)
  | whereText
  | extraText
  | mixedIndentingText
  | includeDir
deriving DecidableEq, Repr

/-- What an option does. -/
inductive Effect where
  | help
  | value (v : ValueOption)
  | highlight (on : Bool)
  | colorize (on : Bool)
  | debug
deriving DecidableEq, Repr

/-- An option: the strings it is written as, and what it does. -/
structure OptionSpec where
  names : List String
  effect : Effect
deriving Repr

/-- Whether an option takes a value. -/
def OptionSpec.takesValue (o : OptionSpec) : Bool :=
  match o.effect with
  | .value _ => true
  | _ => false

/-- The name of an option in error messages: its strings joined by `/`. -/
def OptionSpec.title (o : OptionSpec) : String :=
  "/".intercalate o.names

/-- The options, in the order they are declared. -/
def options : List OptionSpec :=
  [⟨["-h", "--help"], .help⟩,
   ⟨["--error"], .value (.checks .error)⟩,
   ⟨["--not-permitted"], .value (.checks .notPermitted)⟩,
   ⟨["--warning"], .value (.checks .warning)⟩,
   ⟨["--not-recommended"], .value (.checks .notRecommended)⟩,
   ⟨["--do-not-check"], .value (.checks .doNotCheck)⟩,
   ⟨["--where-text"], .value .whereText⟩,
   ⟨["--extra-text"], .value .extraText⟩,
   ⟨["--highlight-incorrect-indenting"], .highlight true⟩,
   ⟨["--no-highlight-incorrect-indenting"], .highlight false⟩,
   ⟨["--mixed-indenting-text"], .value .mixedIndentingText⟩,
   ⟨["--colorize"], .colorize true⟩,
   ⟨["--no-colorize"], .colorize false⟩,
   ⟨["-I"], .value .includeDir⟩,
   ⟨["-d", "--debug"], .debug⟩]

/-- Every option string with its option, in declaration order. -/
def optionStrings : List (String × OptionSpec) :=
  options.flatMap (fun o => o.names.map (fun n => (n, o)))

/-- The option a string names exactly. -/
def lookupOption (s : String) : Option OptionSpec :=
  (optionStrings.find? (·.1 == s)).map (·.2)

/-- An argument as the reader sees it. -/
inductive Piece where
  /-- An ordinary argument. -/
  | word (s : String)
  /-- The first `--`, after which every argument is ordinary. -/
  | separator
  /-- An option, as the string `name`, with the value written in the same
  argument, if any. -/
  | option (o : OptionSpec) (name : String) (attached : Option String)
  /-- An argument that looks like an option but names none. -/
  | unknown (s : String)

/-- The text before and after the first `=` of `s`. -/
def splitAtEquals (s : String) : Option (String × String) :=
  match s.toList.span (· ≠ '=') with
  | (before, _ :: after) => some (String.ofList before, String.ofList after)
  | (_, []) => none

/-- Digits only, at least one. -/
def allDigits (cs : List Char) : Bool :=
  !cs.isEmpty && cs.all Char.isDigit

/-- A text that reads as a negative number: `-` then digits, or `-`, digits,
a point and digits; one final line feed is allowed. -/
def looksNegative (s : String) : Bool :=
  let cs := s.toList
  let cs := if cs.getLast? = some '\n' then cs.dropLast else cs
  match cs with
  | '-' :: rest =>
    allDigits rest ||
      (match rest.span Char.isDigit with
       | (_, '.' :: frac) => allDigits frac
       | _ => false)
  | _ => false

/-- The options an argument may abbreviate, with the value it carries. A
long argument is cut at `=`; a short one may carry its value after the
option letter. -/
def prefixMatches (s : String) : List (OptionSpec × String × Option String) :=
  if s.startsWith "--" then
    let (pre, attached) := match splitAtEquals s with
      | some (a, b) => (a, some b)
      | none => (s, none)
    (optionStrings.filter (fun p => p.1.startsWith pre)).map (fun p => (p.2, p.1, attached))
  else
    let short := String.ofList (s.toList.take 2)
    let rest := String.ofList (s.toList.drop 2)
    optionStrings.filterMap (fun p =>
      if p.1 == short then some (p.2, p.1, some rest)
      else if p.1.startsWith s then some (p.2, p.1, none)
      else none)

/-- How one argument reads, before `--`; an abbreviation that fits several
options is an error. -/
def classify (s : String) : Except String Piece :=
  if s.isEmpty || s.front ≠ '-' then .ok (.word s)
  else
    match lookupOption s with
    | some o => .ok (.option o s none)
    | none =>
      if s.length = 1 then .ok (.word s)
      else
        let byEquals := (splitAtEquals s).bind (fun (a, b) =>
          (lookupOption a).map (fun o => Piece.option o a (some b)))
        match byEquals with
        | some p => .ok p
        | none =>
          match prefixMatches s with
          | [(o, name, attached)] => .ok (.option o name attached)
          | [] =>
            if looksNegative s || s.contains ' ' then .ok (.word s) else .ok (.unknown s)
          | many =>
            let names := ", ".intercalate (many.map (·.2.1))
            .error s!"ambiguous option: {s} could match {names}"

/-- How the arguments read; every argument after the first `--` is
ordinary. -/
def classifyAll : List String → Except String (List Piece)
  | [] => .ok []
  | s :: rest =>
    if s = "--" then .ok (.separator :: rest.map .word)
    else do
      let p ← classify s
      let ps ← classifyAll rest
      pure (p :: ps)

/-- What the command line sets. -/
structure Arguments where
  lists : ListOption → Option String
  whereText : Option String
  extraText : Option String
  mixedIndentingText : Option String
  highlight : Bool
  colorize : Option Bool
  includeDirs : List String
  debug : Nat
  sources : List String

/-- The settings before any option. -/
def Arguments.initial : Arguments :=
  ⟨fun _ => none, none, none, none, true, none, [], 0, []⟩

/-- Record one option's effect, with its value if it takes one. -/
def Arguments.apply (a : Arguments) (e : Effect) (v : String) : Arguments :=
  match e with
  | .help => a
  | .value (.checks l) => { a with lists := fun l' => if l' = l then some v else a.lists l' }
  | .value .whereText => { a with whereText := some v }
  | .value .extraText => { a with extraText := some v }
  | .value .mixedIndentingText => { a with mixedIndentingText := some v }
  | .value .includeDir => { a with includeDirs := a.includeDirs ++ [v] }
  | .highlight on => { a with highlight := on }
  | .colorize on => { a with colorize := some on }
  | .debug => { a with debug := a.debug + 1 }

/-- Why reading stopped before the end. -/
inductive Stop where
  | help
  | failed (message : String)

/-- The message for a value that an option cannot take. -/
def ignoredValue (o : OptionSpec) (v : String) : Stop :=
  .failed s!"argument {o.title}: ignored explicit argument {quoteText v}"

/-- The effects of a chain of one-letter options written in one argument,
`o` first and `rest` the letters after it; the last option may take the
remaining text as its value or wait for the next argument. -/
def letterChain (o : OptionSpec) : List Char → Except Stop (List (Effect × String) × Option OptionSpec)
  | [] => .error (ignoredValue o "")
  | c :: more =>
    match lookupOption (String.ofList ['-', c]) with
    | none => .error (ignoredValue o (String.ofList (c :: more)))
    | some o' =>
      let here := (o.effect, "")
      if more.isEmpty then
        if o'.takesValue then .ok ([here], some o') else .ok ([here, (o'.effect, "")], none)
      else if o'.takesValue then .ok ([here, (o'.effect, String.ofList more)], none)
      else (letterChain o' more).map (fun (es, w) => (here :: es, w))

/-- The effects of one option argument, and the option still waiting for its
value in the next argument, if any. -/
def optionEffects (o : OptionSpec) (name : String) (attached : Option String) :
    Except Stop (List (Effect × String) × Option OptionSpec) :=
  match attached with
  | none => if o.takesValue then .ok ([], some o) else .ok ([(o.effect, "")], none)
  | some v =>
    if o.takesValue then .ok ([(o.effect, v)], none)
    else if name.startsWith "--" || v.isEmpty then .error (ignoredValue o v)
    else letterChain o v.toList

/-- Carry out effects in order; asking for help stops. -/
def applyEffects (a : Arguments) : List (Effect × String) → Except Stop Arguments
  | [] => .ok a
  | (.help, _) :: _ => .error .help
  | (e, v) :: rest => applyEffects (a.apply e v) rest

/-- Where the ordinary arguments of the current run go. -/
inductive Run where
  | outside
  | sources
  | extras

/-- The state of reading between two arguments. -/
structure Progress where
  args : Arguments
  waiting : Option OptionSpec
  run : Run
  sourcesTaken : Bool
  extras : List String

/-- The text of an ordinary argument. -/
def Piece.text : Piece → String
  | .word s => s
  | .separator => "--"
  | .option _ name _ => name
  | .unknown s => s

/-- Read one argument. -/
def Progress.step (p : Progress) (piece : Piece) : Except Stop Progress :=
  match p.waiting, piece with
  | some o, .word v => .ok { p with args := p.args.apply o.effect v, waiting := none, run := .outside }
  | some o, _ => .error (.failed s!"argument {o.title}: expected one argument")
  | none, .option o name attached => do
    let (effects, waiting) ← optionEffects o name attached
    let args ← applyEffects p.args effects
    pure { p with args, waiting, run := .outside }
  | none, .unknown s => .ok { p with extras := p.extras ++ [s], run := .outside }
  | none, piece =>
    let (run, taken) := match p.run with
      | .outside => if p.sourcesTaken then (Run.extras, true) else (Run.sources, true)
      | r => (r, p.sourcesTaken)
    match run, piece with
    | .sources, .word s => .ok { p with args := { p.args with sources := p.args.sources ++ [s] }, run, sourcesTaken := taken }
    | .sources, _ => .ok { p with run, sourcesTaken := taken }
    | _, _ => .ok { p with extras := p.extras ++ [piece.text], run, sourcesTaken := taken }

/-- Read the arguments in order. -/
def readPieces (p : Progress) : List Piece → Except Stop Progress
  | [] => .ok p
  | piece :: rest => do readPieces (← p.step piece) rest

/-- What reading the command line gives. -/
inductive Reading where
  | help
  | failed (message : String)
  | read (a : Arguments)

/-- Read the command line. -/
def readArguments (argv : List String) : Reading :=
  match classifyAll argv with
  | .error m => .failed m
  | .ok pieces =>
    match readPieces ⟨Arguments.initial, none, .outside, false, []⟩ pieces with
    | .error .help => .help
    | .error (.failed m) => .failed m
    | .ok p =>
      match p.waiting with
      | some o => .failed s!"argument {o.title}: expected one argument"
      | none =>
        if p.extras.isEmpty then .read p.args
        else
          let extras := " ".intercalate p.extras
          .failed s!"unrecognized arguments: {extras}"

/-- Trim blanks from both ends. -/
def trimBlank (s : String) : String :=
  String.ofList (((s.toList.dropWhile isBlank).reverse.dropWhile isBlank).reverse)

/-- The entries of a comma separated list, cut at every comma: an empty
text, or a comma at either end or next to another, gives an empty entry. -/
def commaEntries (text : String) : List String :=
  (text.toList.splitOn ',').map String.ofList

/-- The check name an entry stands for: the entry trimmed, each `-` read as
`_`. -/
def entryName (raw : String) : String :=
  String.ofList ((trimBlank raw).toList.map fun c => if c = '-' then '_' else c)

/-- The level a list option gives its checks; none for do-not-check. -/
def ListOption.level : ListOption → Option Level
  | .notRecommended => some .notRecommended
  | .warning => some .warning
  | .error => some .error
  | .notPermitted => some .notPermitted
  | .doNotCheck => none

/-- The list options in the order their lists are applied. -/
def ListOption.order : List ListOption :=
  [.notRecommended, .warning, .error, .notPermitted, .doNotCheck]

/-- Set the checks named in `names` to level `lvl`; the first name that is no
check stops. -/
def setLevels (lvl : Option Level) (levels : Rule → Option Level) :
    List String → Except String (Rule → Option Level)
  | [] => .ok levels
  | raw :: rest =>
    let name := entryName raw
    match Rule.ofName? name with
    | none => .error name
    | some c => setLevels lvl (fun c' => if c' = c then lvl else levels c') rest

/-- The level of every check, or the first name that is no check. -/
def Arguments.levels (a : Arguments) : Except String (Rule → Option Level) :=
  ListOption.order.foldlM (fun levels l =>
    match a.lists l with
    | none => .ok levels
    | some "" => .ok levels
    | some text => setLevels l.level levels (commaEntries text)) (fun _ => none)

end CInspect.CommandLine
