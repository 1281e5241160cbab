import CInspect.Inspection.File
/-!
Finding the compiler's own headers.

A run either knows its system header directory in advance, or asks the
installed compiler for its resource directory `R`: the first line of the
compiler's answer. The headers are then in `R/include`, and the
front end's shared library is looked for next to the directory two levels
above `R`, as a file `libclang.so.` followed by anything. Without such a
file the run goes on with no system header directory at all; so it does
when no compiler is installed. Each of these two cases is reported on the
error stream.

The query fails when the compiler exits with a status other than zero, or
answers with no line; choosing the library fails when the front end is
already in use. These end the run.
-/

namespace CInspect.Inspection

open CInspect.Source CInspect.Text

/-- The compiler installation a run finds. -/
inductive Toolchain where
  /-- The system header directories are known in advance. -/
  | fixed (dirs : List String)
  /-- No compiler is on the search path. -/
  | absent
  /-- The compiler at `path` answers the resource directory query with
  `output` and exit status `status`; `loaded` says whether the front end's
  library is already in use. -/
  | installed (path output : String) (status : Nat) (loaded : Bool)
deriving Repr, Inhabited

/-- A path with a name joined to it: by a slash, unless the path is empty or
already ends in one. -/
def joinName (dir name : String) : String :=
  if dir.isEmpty || dir.endsWith "/" then dir ++ name else dir ++ "/" ++ name

/-- The directory part of a path: everything before its last slash, without
the slashes at its end unless it is made of slashes only. -/
def directoryPart (p : String) : String :=
  let cs := p.toList
  let head := (cs.reverse.dropWhile (· != '/')).reverse
  if head.all (· == '/') then String.ofList head
  else String.ofList ((head.reverse.dropWhile (· == '/')).reverse)

/-- The names of the files in a directory that a shell pattern
`libclang.so.*` matches, as paths under that directory. -/
def libraryCandidates (ws : Workspace) (dir : String) : List String :=
  let names := if dir.isEmpty then [] else ws.namesIn dir
  (names.filter (·.startsWith "libclang.so.")).map (joinName dir)

/-- What the search gives: the compiler arguments that add the system
header directory, and the messages for the error stream. -/
structure Headers where
  args : List String
  err : List String

/-- The system header directories the arguments name. -/
def Headers.systemDirs (h : Headers) : List String :=
  let rec go : List String → List String
    | "-isystem" :: d :: rest => d :: go rest
    | _ :: rest => go rest
    | [] => []
  go h.args

/-- Find the compiler's own headers. -/
def Toolchain.headers (ws : Workspace) : Toolchain → Except Crash Headers
  | .fixed dirs => .ok ⟨dirs.flatMap (fun d => ["-isystem", d]), []⟩
  | .absent => .ok ⟨[], ["c_check: no 'clang' binary found!"]⟩
  | .installed path output status loaded =>
    if status != 0 then
      .error ⟨"CalledProcessError",
        s!"Command '['{path}', '-print-resource-dir']' returned non-zero exit status {status}."⟩
    else
      match splitLines output with
      | [] => .error ⟨"IndexError", "list index out of range"⟩
      | r :: _ =>
        match libraryCandidates ws (directoryPart (directoryPart r)) with
        | [] => .ok ⟨[], ["c_check: can't find 'libclang.so'!"]⟩
        | _ :: _ =>
          if loaded then
            .error ⟨"Exception",
              "library file must be set before before using any other functionalities in libclang."⟩
          else .ok ⟨["-isystem", joinName r "include"], []⟩

end CInspect.Inspection
