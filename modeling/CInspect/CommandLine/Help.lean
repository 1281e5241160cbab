import CInspect.Check.Level
/-!
The usage line and the help text of the command line.

The usage block lists every option in brackets, wrapped for an 80-column
terminal. The help text adds the options with their explanations, an
example command, and the checks in name order with what each looks for.
-/

namespace CInspect.CommandLine

open CInspect.Check

/-- The usage block, ending in a line feed. -/
def usageText : String :=
  "usage: c_check.py [-h] [--error ERROR] [--not-permitted NOT_PERMITTED]\n" ++
  "                  [--warning WARNING] [--not-recommended NOT_RECOMMENDED]\n" ++
  "                  [--do-not-check DO_NOT_CHECK] [--where-text WHERE_TEXT]\n" ++
  "                  [--extra-text EXTRA_TEXT] [--highlight-incorrect-indenting]\n" ++
  "                  [--no-highlight-incorrect-indenting]\n" ++
  "                  [--mixed-indenting-text MIXED_INDENTING_TEXT] [--colorize]\n" ++
  "                  [--no-colorize] [-I INCLUDE_DIRECTORIES] [-d]\n" ++
  "                  [source_files ...]\n"

/-- The options and their explanations. -/
def optionsText : String :=
  "positional arguments:\n" ++
  "  source_files\n" ++
  "\n" ++
  "options:\n" ++
  "  -h, --help            show this help message and exit\n" ++
  "  --error ERROR         error if any of comma separated list of checks fails,\n" ++
  "                        exit with status 1\n" ++
  "  --not-permitted NOT_PERMITTED\n" ++
  "                        error plus not permitted message if any of comma\n" ++
  "                        separated list of checks fails, exit with status 1\n" ++
  "  --warning WARNING     warn if any of comma separated list of checks fails\n" ++
  "  --not-recommended NOT_RECOMMENDED\n" ++
  "                        warning plus not recommended message if any of comma\n" ++
  "                        separated list of checks fails\n" ++
  "  --do-not-check DO_NOT_CHECK\n" ++
  "                        do not run any of this comma separated list of checks\n" ++
  "  --where-text WHERE_TEXT\n" ++
  "                        text added to error messages indicating where features\n" ++
  "                        are not permitted/recommended\n" ++
  "  --extra-text EXTRA_TEXT\n" ++
  "                        text added to message if not permitted/recommended\n" ++
  "                        code found\n" ++
  "  --highlight-incorrect-indenting\n" ++
  "                        highlight incorrect indenting\n" ++
  "  --no-highlight-incorrect-indenting\n" ++
  "                        do not highlight incorrect indenting\n" ++
  "  --mixed-indenting-text MIXED_INDENTING_TEXT\n" ++
  "                        text added to error messages if mixture of tabs and\n" ++
  "                        spaces found\n" ++
  "  --colorize            colorize output\n" ++
  "  --no-colorize         do not colorize output\n" ++
  "  -I INCLUDE_DIRECTORIES\n" ++
  "                        add directory for include directories\n" ++
  "  -d, --debug           show debug ouput\n"

/-- The example command of the help text. -/
def exampleText : String :=
  "For example:\n\n" ++
  "c_check.py --not-permitted=global_variable,goto,static_local_variable \\\n" ++
  "\t\t\t--not-recommended=ternary \\\n" ++
  "\t\t\t--where-text=\"in COMP1511\" \\\n" ++
  "\t\t\t--extra-text=\"see the COMP1511 style guide at https://example.com\"  \\\n" ++
  "\t\t\t--warning=assign_getchar_char,integer_ascii_code,indenting \\\n" ++
  "\t\t\tfile.c\n"

/-- `s` followed by spaces up to `width` characters. -/
def padRight (width : Nat) (s : String) : String :=
  s ++ String.ofList (List.replicate (width - s.length) ' ')

/-- One line of the list of checks. -/
def Rule.helpLine (c : Rule) : String :=
  padRight 24 c.name ++ " - " ++ c.description

/-- The checks in name order. -/
def checksByName : List Rule :=
  Rule.all.mergeSort (fun a b => decide (a.name ≤ b.name))

/-- The full help text. -/
def helpText : String :=
  usageText ++ "\n" ++ optionsText ++ "\n" ++ exampleText ++ "\nAvailable checkers are:\n\n" ++
    "\n".intercalate (checksByName.map Rule.helpLine) ++ "\n"

end CInspect.CommandLine
