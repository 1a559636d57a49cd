import PhpOutline.Program.Encoding
import PhpOutline.Program.Terminal
import PhpOutline.Program.Yaml.Reader
import Std.Time

/-!
# The program

The command line: the files that a run looks at are read, the run is computed, and what it prints and
writes is carried out. The interpreter is not run from here, so that a check finds none.
-/

namespace PhpOutline.Program

/-- What the disk has at a path. -/
def sight (path : Path) : IO Sight := do
  let file := (← IO.currentDir) / path.text
  if ← file.isDir then return .directory
  try
    let bytes ← IO.FS.readBinFile file
    return .file bytes.toList
  catch
    | .noFileOrDirectory _ _ _ => return .missing
    | .inappropriateType _ _ _ => return .blocked
    | .permissionDenied _ code details =>
      return .unreadable (s!"[Errno {code}] {details}: " ++ Text.quoted path.text)
    | .invalidArgument _ code details => return .refused code.toNat details
    | error => return .unreadable (toString error)

/-- The time in a log. -/
def now : IO String := do
  let time ← Std.Time.Timestamp.now
  return (Std.Time.DateTime.ofTimestamp time .UTC).format "uuuu-MM-dd HH:mm:ss"

/-- Writes a file, with the directories above it. -/
def save (path : Path) (text : String) : IO Unit := do
  let home ← IO.currentDir
  IO.FS.createDirAll (home / path.parent.text)
  IO.FS.writeFile (home / path.text) text

/-- The message of a run that breaks off, and the status of the program. -/
def status : Ending → Option String × UInt32
  | .exit status => (none, status.toUInt32)
  | .document .malformedFragment => (some "a declaration cannot be written as XML", 1)
  | .document .malformedName => (some "a marker term cannot be the name of an element", 1)
  | .disk error => (some error.message, 1)
  | .opening (.load (.refused error)) => (some error.message, 1)
  | .opening (.load (.broken _ reason)) => (some reason, 1)
  | .opening _ => (some "a name of an encoding that the system does not take", 1)
  | .settings .unsortable => (some "unknown configuration keys that have no order", 1)
  | .settings _ => (some "a value in the configuration that cannot exist", 1)
  | .notText => (some "a configuration file that is not in UTF-8", 1)
  | .notPath => (some "a path that the system does not take", 1)

end PhpOutline.Program

open PhpOutline in
/-- Runs the program. -/
def main (words : List String) : IO UInt32 := do
  let mut seen : List (Path × Sight) := []
  for path in Command.paths (.ofWords words) do
    seen := (path, ← Program.sight path) :: seen
  let time ← Program.now
  let host : Host :=
    { look := fun path => (seen.lookup path).getD .missing
      check := fun _ => .notFound
      home := (← IO.currentDir).toString
      codecs := Encoding.codecs
      loadYaml := Yaml.Value.read Settings.depth
      render := Log.Record.render time
      paint := Colour.paint }
  let run := Command.run host words
  IO.print run.out
  IO.eprint run.err
  if let some (path, text) := run.saved then Program.save path text
  let (message?, status) := Program.status run.ending
  if let some message := message? then IO.eprintln message
  return status
