import Std.Data.HashMap
import Std.Data.HashSet
/-!
The files a run can see.

A `Workspace` holds the files written for a run, by paths relative to the
working directory; links that point at the compiler's shared library or at
its header directory; and the system headers, by absolute paths.

Paths are read the way the operating system reads them: `/` separates the
parts, empty parts and `.` are skipped, and `..` steps back to the parent,
each part looked up in the directory the parts before it lead to.
A path names a directory when some file or link lies below it. A headers
link makes the compiler's header directory appear at the link's place.

`Workspace.open` reads a file the way a program opening it for reading
sees it: its bytes, or why it cannot be read.

Main statements: `parts_normalize` (normalized parts hold neither empty
parts nor `.`) and `normalizeParts_clean` (clean parts are kept as they
are).
-/

namespace CInspect.Source

/-- What a link of a workspace points at. -/
inductive LinkTarget where
  /-- The shared library of the compiler front end. -/
  | library
  /-- The directory of the compiler's own headers. -/
  | headers
deriving DecidableEq, Repr, Inhabited

/-- The directory that holds the compiler's own headers. -/
def compilerHeaderDir : String := "/usr/lib/gcc/x86_64-linux-gnu/12/include"

/-- The parts of a path, with empty parts and `.` dropped and `..` taking
back the part before it. A `..` at the top stays. -/
def normalizeParts : List String → List String → List String
  | acc, [] => acc.reverse
  | acc, p :: ps =>
    if p = "" ∨ p = "." then normalizeParts acc ps
    else if p = ".." then
      match acc with
      | q :: rest => if q = ".." then normalizeParts (p :: acc) ps else normalizeParts rest ps
      | [] => normalizeParts [p] ps
    else normalizeParts (p :: acc) ps

/-- A path read as a list of parts, and whether it starts at the root. -/
structure Path where
  absolute : Bool
  parts : List String
deriving DecidableEq, Repr, Inhabited

/-- The path a text names. -/
def Path.ofString (s : String) : Path :=
  ⟨s.startsWith "/", normalizeParts [] (s.splitOn "/")⟩

/-- The text of a path, parts joined by `/`. -/
def Path.text (p : Path) : String :=
  (if p.absolute then "/" else "") ++ "/".intercalate p.parts

/-- Normalizing keeps no empty part and no `.`. -/
theorem mem_normalizeParts {acc ps : List String} {x : String}
    (hacc : ∀ y ∈ acc, y ≠ "" ∧ y ≠ ".") (h : x ∈ normalizeParts acc ps) : x ≠ "" ∧ x ≠ "." := by
  induction ps generalizing acc with
  | nil => simp only [normalizeParts, List.mem_reverse] at h; exact hacc x h
  | cons p ps ih =>
    have push : ∀ a : List String, (∀ y ∈ a, y ≠ "" ∧ y ≠ ".") → ¬ (p = "" ∨ p = ".") →
        ∀ y ∈ p :: a, y ≠ "" ∧ y ≠ "." := by
      intro a ha hp y hy
      rcases List.mem_cons.1 hy with rfl | hy
      · exact ⟨fun e => hp (Or.inl e), fun e => hp (Or.inr e)⟩
      · exact ha y hy
    simp only [normalizeParts] at h
    split at h
    · exact ih hacc h
    · rename_i hp
      split at h
      · split at h
        · split at h
          · exact ih (push _ hacc hp) h
          · exact ih (fun y hy => hacc y (List.mem_cons_of_mem _ hy)) h
        · exact ih (push [] (by simp) hp) h
      · exact ih (push _ hacc hp) h

/-- Normalized parts hold neither empty parts nor `.`. -/
theorem parts_normalize (s : String) : ∀ x ∈ (Path.ofString s).parts, x ≠ "" ∧ x ≠ "." :=
  fun _ h => mem_normalizeParts (by simp) h

/-- Parts without empty parts or `.` that a `..` never follows a real part in
are left as they are by normalizing. -/
theorem normalizeParts_clean {acc : List String} (ps : List String)
    (hps : ∀ x ∈ ps, x ≠ "" ∧ x ≠ "." ∧ x ≠ "..") :
    normalizeParts acc ps = acc.reverse ++ ps := by
  induction ps generalizing acc with
  | nil => simp [normalizeParts]
  | cons p ps ih =>
    have hp := hps p List.mem_cons_self
    have hrest : ∀ x ∈ ps, x ≠ "" ∧ x ≠ "." ∧ x ≠ ".." := fun x hx => hps x (List.mem_cons_of_mem _ hx)
    simp only [normalizeParts]
    rw [if_neg (by rintro (h | h) <;> simp_all), if_neg hp.2.2, ih hrest]
    simp

/-- The parent of a path, as a path. -/
def Path.parent (p : Path) : Path :=
  ⟨p.absolute, p.parts.dropLast⟩

/-- The path `q` under the directory `p`; an absolute `q` stands alone. -/
def Path.join (p q : Path) : Path :=
  if q.absolute then q else ⟨p.absolute, normalizeParts p.parts.reverse q.parts⟩

/-- What a path leads to. -/
inductive Entry where
  | file (bytes : ByteArray)
  | directory
  | library
  | missing
  /-- A part of the path before its end is a file. -/
  | throughFile

/-- The system headers, indexed by the parts of their absolute paths: the
bytes of each header, and every directory that holds one, at any depth. -/
structure HeaderTree where
  files : Std.HashMap (List String) ByteArray
  dirs : Std.HashSet (List String)

/-- The tree of a list of headers given by absolute path and text; of two
headers at one path the first is kept. -/
def HeaderTree.ofList (hs : List (String × String)) : HeaderTree :=
  hs.foldr (fun (p, text) t =>
    let parts := (Path.ofString p).parts
    { files := t.files.insert parts text.toUTF8,
      dirs := (List.range parts.length).foldl (fun ds k => ds.insert (parts.take k)) t.dirs })
    ⟨∅, ∅⟩

/-- The files a run can see, and the compiler it has. -/
structure Workspace where
  /-- Files written for the run, by relative path. -/
  files : List (String × ByteArray)
  /-- Links, by relative path. -/
  links : List (String × LinkTarget)
  /-- System headers, by absolute path. -/
  system : HeaderTree
  /-- The name the installed compiler gives its build after its version
  number; empty when it names none. -/
  compilerBuild : String

/-- Whether `pre` is a proper prefix of `xs`. -/
def isProperPrefix (pre xs : List String) : Bool :=
  pre.length < xs.length && xs.take pre.length == pre

/-- What an absolute path leads to among the system headers. -/
def Workspace.systemEntry (w : Workspace) (parts : List String) : Entry :=
  match w.system.files.get? parts with
  | some bytes => .file bytes
  | none =>
    if parts.isEmpty || w.system.dirs.contains parts then .directory
    else if (List.range parts.length).any (fun k => w.system.files.contains (parts.take k)) then
      .throughFile
    else .missing

/-- What a relative path leads to among the files and links. -/
def Workspace.localEntry (w : Workspace) (parts : List String) : Entry :=
  let linked := w.links.find? (fun (p, _) =>
    let lp := (Path.ofString p).parts
    parts.take lp.length == lp && lp.length ≤ parts.length)
  match linked with
  | some (p, .headers) =>
    let rest := parts.drop (Path.ofString p).parts.length
    w.systemEntry ((Path.ofString compilerHeaderDir).parts ++ rest)
  | some (p, .library) =>
    if parts.length = (Path.ofString p).parts.length then .library else .throughFile
  | none =>
    match w.files.find? (fun (p, _) => (Path.ofString p).parts == parts) with
    | some (_, bytes) => .file bytes
    | none =>
      if parts.isEmpty ||
          w.files.any (fun (p, _) => isProperPrefix parts (Path.ofString p).parts) ||
          w.links.any (fun (p, _) => isProperPrefix parts (Path.ofString p).parts) then
        .directory
      else if w.files.any (fun (p, _) => isProperPrefix (Path.ofString p).parts parts) then
        .throughFile
      else .missing

/-- What normalized parts lead to, from the root or from the working
directory. A path that goes above the working directory leads nowhere. -/
def Workspace.partsEntry (w : Workspace) (absolute : Bool) (parts : List String) : Entry :=
  if absolute then w.systemEntry parts
  else if parts.head? = some ".." then .missing
  else w.localEntry parts

/-- What a path leads to, walked part by part as the operating system
walks it: every part is looked up in a directory, so a `.` or `..` after
a name that is missing or is a file does not take the name back. -/
def Workspace.entry (w : Workspace) (path : String) : Entry :=
  let absolute := path.startsWith "/"
  let rec walk (cur : List String) : List String → Entry
    | [] => w.partsEntry absolute cur
    | part :: more =>
      let here := if cur.isEmpty then Entry.directory else w.partsEntry absolute cur
      match here with
      | .directory =>
        let next :=
          if part == "." then cur
          else if part == ".." then (if cur.isEmpty then (if absolute then [] else [".."]) else cur.dropLast)
          else cur ++ [part]
        walk next more
      | .missing => .missing
      | _ => .throughFile
  walk [] ((path.splitOn "/").filter (· != ""))

/-- The file at a path, if it is one. -/
def Workspace.file? (w : Workspace) (path : String) : Option ByteArray :=
  match w.entry path with
  | .file bytes => some bytes
  | _ => none

/-- Whether a path names a directory. -/
def Workspace.isDirectory (w : Workspace) (path : String) : Bool :=
  match w.entry path with
  | .directory => true
  | _ => false

/-- The names directly inside a directory, in the order the entries were
made, each once. -/
def Workspace.namesIn (w : Workspace) (dir : String) : List String :=
  let d := Path.ofString dir
  let below (p : String) : Option String :=
    let ps := (Path.ofString p).parts
    if !d.absolute && isProperPrefix d.parts ps then ps[d.parts.length]? else none
  let all := (w.files.map (·.1) ++ w.links.map (·.1)).filterMap below
  all.foldl (fun acc n => if acc.contains n then acc else acc ++ [n]) []

/-- Why a file cannot be opened for reading. -/
inductive OpenError where
  | notFound
  | isDirectory
  | notDirectory
deriving DecidableEq, Repr

/-- The message of an error opening `path`: the error number, its text,
and the path quoted. -/
def OpenError.message (e : OpenError) (quoted : String) : String :=
  match e with
  | .notFound => s!"[Errno 2] No such file or directory: {quoted}"
  | .isDirectory => s!"[Errno 21] Is a directory: {quoted}"
  | .notDirectory => s!"[Errno 20] Not a directory: {quoted}"

/-- Open a file for reading. The library link reads as an empty file. -/
def Workspace.open (w : Workspace) (path : String) : Except OpenError ByteArray :=
  if path = "" then .error .notFound
  else if path.endsWith "/" then
    match w.entry path with
    | .directory => .error .isDirectory
    | .missing => .error .notFound
    | _ => .error .notDirectory
  else
    match w.entry path with
    | .file bytes => .ok bytes
    | .library => .ok ByteArray.empty
    | .directory => .error .isDirectory
    | .missing => .error .notFound
    | .throughFile => .error .notDirectory

end CInspect.Source
