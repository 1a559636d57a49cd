import PhpOutline.Check
import PhpOutline.SourceFile
import PhpOutline.SourceFile.Loading

/-!
# Opening source files

A source file on a disk as a file to be read: it is loaded and, if that is asked for, checked by the
interpreter.
-/

namespace PhpOutline

/-- Why a source file cannot be opened. -/
inductive OpenError where
  | load (error : LoadError)
  | check (error : CheckError)
  deriving DecidableEq, Repr

/-- The text of an error, if it has one of its own. -/
def OpenError.message? : OpenError → Option String
  | .load e => e.message?
  | .check e => some e.message

/-- What comes of opening a file: the events, the calls of the interpreter, and the file. -/
structure Opened where
  events : List Event
  calls : List CheckCall := []
  result : Except OpenError SourceFile

/-- Opens the file at a path, as `from_path` does. It is checked only if it can be loaded. -/
def SourceFile.openAt (codecs : Codecs) (look : Path → Sight) (check : CheckCall → CheckOutcome)
    (path : Path) (encoding : String) (interpreter? : Option String) : Opened :=
  match SourceText.load codecs look path encoding with
  | (events, .error e) => { events, result := .error (.load e) }
  | (events, .ok source) =>
    let file : SourceFile :=
      { path := source.path, contents := source.contents, digest := some source.digest }
    match interpreter? with
    | none => { events, result := .ok file }
    | some interpreter =>
      let call : CheckCall := { interpreter, path := path.text }
      match call.error? (check call) with
      | some e => { events, calls := [call], result := .error (.check e) }
      | none => { events, calls := [call], result := .ok file }

end PhpOutline
