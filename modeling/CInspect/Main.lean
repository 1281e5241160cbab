import CInspect.Inspection.Command
import CInspect.Includes.Catalog
/-!
The command line: read the source files named and the headers they include
in double quotes, run the command, and print what it prints.
-/

open CInspect

/-- Read the files at these paths, and the local headers they include, up
to `rounds` levels deep. Paths that cannot be read are left out. -/
def gatherFiles (includeDirs : List String) :
    Nat → List String → List (String × ByteArray) → IO (List (String × ByteArray))
  | 0, _, acc => return acc
  | _, [], acc => return acc
  | k + 1, paths, acc => do
    let mut found := acc
    let mut next : List String := []
    for p in paths do
      if found.any (·.1 == p) then continue
      try
        let bytes ← IO.FS.readBinFile p
        found := found ++ [(p, bytes)]
        let text := String.fromUTF8? bytes |>.getD ""
        for name in Inspection.quotedIncludes text do
          next := next ++ Inspection.headerCandidates includeDirs p name
      catch _ => pure ()
    gatherFiles includeDirs k next found

/-- The include directories named by `-I` options. -/
def includeDirsOf : List String → List String
  | "-I" :: d :: rest => d :: includeDirsOf rest
  | a :: rest => if a.startsWith "-I" then (a.drop 2).toString :: includeDirsOf rest else includeDirsOf rest
  | [] => []

def main (argv : List String) : IO UInt32 := do
  let dirs := includeDirsOf argv
  let files ← gatherFiles dirs 16 (argv.filter (·.endsWith ".c")) []
  let colorDefault ← IO.getEnv "C_CHECK_COLORIZE_OUTPUT"
  let setting : Inspection.Setting :=
    { workspace := ⟨files, [], Includes.systemHeaderTree, ""⟩, colorDefault := colorDefault,
      colorAvailable := true, toolchain := .fixed [Source.compilerHeaderDir] }
  let o := Inspection.runCommand setting argv
  IO.print o.out
  IO.eprint o.err
  match o.result with
  | .ok code => return code.toUInt32
  | .error c =>
    IO.eprintln s!"{c.kind}: {c.message}"
    return 1
