import CInspect.Source.File
/-!
Messages of the compiler front end.

A diagnostic has a severity, the place it points at, its text, and the
name of the warning option that controls it, if any. It is written as
`file:line:column: severity: text [option]`; a diagnostic without a place
leaves out the file part.
-/

namespace CInspect.Source

/-- How serious a diagnostic is. A note adds to the diagnostic before it;
a fatal error stops the translation. -/
inductive Severity where
  | note
  | warning
  | error
  | fatal
deriving DecidableEq, Repr, Inhabited

/-- The word a severity is written with. -/
def Severity.word : Severity → String
  | .note => "note"
  | .warning => "warning"
  | .error => "error"
  | .fatal => "fatal error"

/-- Whether a diagnostic of this severity makes the translation fail. -/
def Severity.isError : Severity → Bool
  | .note | .warning => false
  | _ => true

/-- A message of the front end. -/
structure Diagnostic where
  severity : Severity
  loc : Option Loc
  text : String
  option : Option String := none
deriving Inhabited

/-- An error at a place. -/
def Diagnostic.error (l : Loc) (text : String) : Diagnostic := ⟨.error, some l, text, none⟩

/-- A warning at a place, controlled by an option. -/
def Diagnostic.warning (l : Loc) (text : String) (option : String) : Diagnostic :=
  ⟨.warning, some l, text, some option⟩

/-- A note at a place. -/
def Diagnostic.note (l : Loc) (text : String) : Diagnostic := ⟨.note, some l, text, none⟩

/-- A diagnostic as one line, given the files of the translation unit. -/
def Diagnostic.render (files : Array SourceFile) (d : Diagnostic) : String :=
  let place := match d.loc with
    | some l =>
      match files[l.file]? with
      | some f =>
        let p := f.pos l.offset
        s!"{f.name}:{p.line}:{p.col}: "
      | none => ""
    | none => ""
  let opt := match d.option with
    | some o => s!" [{o}]"
    | none => ""
  place ++ d.severity.word ++ ": " ++ d.text ++ opt

end CInspect.Source
