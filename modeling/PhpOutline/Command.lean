import PhpOutline.CommandLine.Request
import PhpOutline.Document
import PhpOutline.Settings
import PhpOutline.SourceFile.Opening

/-!
# Runs of the program

What the program does for the words on its command line: what it prints, what it asks the
interpreter to check, what it writes to the disk, and how it ends. What the program does not do
itself is given from outside, as a `Host`: the disk, the interpreter and the current directory, the
encodings, the reading of YAML, and how log records and colours are written.

* `Command.markers`: the run that lists the markers of files, one file after the other;
* `Command.parse`: the run that prints the outline of a file;
* `Command.run`: the run for the words on a command line.
-/

namespace PhpOutline

open Text CommandLine

/-- The colours of a list of markers. -/
inductive Colour where
  | blue | yellow
  deriving DecidableEq, Repr

/-- What is outside of the program. -/
structure Host where
  look : Path → Sight
  check : CheckCall → CheckOutcome
  /-- The current directory. -/
  home : String
  codecs : Codecs
  /-- The value that a text means in YAML. -/
  loadYaml : String → Except Yaml.Fault Yaml.Value
  /-- A log record as a line, in JSON or for readers. -/
  render : (asJson : Bool) → Log.Record → String
  /-- A text in a colour. -/
  paint : Colour → String → String

/-- How a run ends: with a status, or broken off by a failure that the program does not handle. -/
inductive Ending where
  | exit (status : Nat)
  /-- The outline cannot be written as a document. -/
  | document (error : DocumentError)
  | disk (error : DiskError)
  /-- A source file cannot be opened, and the error has no text of its own. -/
  | opening (error : OpenError)
  /-- The configuration file has no text of its own for what is wrong with it. -/
  | settings (error : SettingsError)
  /-- The configuration file is not in UTF-8. -/
  | notText
  /-- The system does not take a path. -/
  | notPath
  deriving DecidableEq, Repr

/-- What a run does. -/
structure Run where
  out : String := ""
  err : String := ""
  calls : List CheckCall := []
  /-- The file that is written, with its text. -/
  saved : Option (Path × String) := none
  ending : Ending := .exit 0

namespace Command

/-- A message about an error. -/
def errorLine (message : String) : String := s!"Error: {message}\n"

/-! ## Settings -/

/-- The name of the configuration file in the current directory. -/
def settingsName : String := ".phpreflect.yaml"

/-- A text with a line feed for each end of a line. -/
def unifyLineEnds : List Char → List Char
  | [] => []
  | '\r' :: '\n' :: rest => '\n' :: unifyLineEnds rest
  | '\r' :: rest => '\n' :: unifyLineEnds rest
  | c :: rest => c :: unifyLineEnds rest

/-- Why there are no settings: something is wrong that can be said, or the run breaks off. -/
inductive NoSettings where
  | told (message : String)
  | broken (ending : Ending)
  deriving DecidableEq, Repr

/-- The settings in a file that is seen at the path `label`, as `load_config` reads them. -/
def settingsIn (host : Host) (label : String) : Sight → Except NoSettings Settings
  | .missing => .error (.told s!"Config file not found: {label}")
  | .blocked =>
    .error (.told ("Cannot read config file: " ++ (DiskError.notDirectory label).message))
  | .directory =>
    .error (.told ("Cannot read config file: " ++ (DiskError.isDirectory label).message))
  | .unreadable reason => .error (.told s!"Cannot read config file: {reason}")
  | .refused code reason =>
    .error (.told ("Cannot read config file: " ++ (DiskError.refused label code reason).message))
  | .device => .ok {}
  | .file bytes =>
    match Utf8.decode? bytes with
    | none => .error (.broken .notText)
    | some cs =>
      match Settings.read host.loadYaml (String.ofList (unifyLineEnds cs)) with
      | .ok settings => .ok settings
      | .error e =>
        match e.message? label with
        | some message => .error (.told message)
        | none => .error (.broken (.settings e))

/-- The configuration file of a run: the chosen one, or the one in the current directory. -/
def settingsPath (config : String) : Path :=
  .ofText (if config.isEmpty then settingsName else config)

/-- The settings of a run, as `_load_config` finds them: those of the chosen file, or of the file in
    the current directory if there is one, or the defaults. -/
def settings (host : Host) (config : String) : Except NoSettings Settings :=
  let path := settingsPath config
  if config.isEmpty then
    let label := host.home ++ "/" ++ path.text
    match host.look path with
    | .missing => .ok {}
    | .blocked => .ok {}
    | .refused code reason => .error (.broken (.disk (.refused label code reason)))
    | sight => settingsIn host label sight
  else if path.isUsable then settingsIn host path.text (host.look path)
  else .error (.broken .notPath)

/-- The run without settings. -/
def NoSettings.run : NoSettings → Run
  | .told message => { err := errorLine message, ending := .exit 1 }
  | .broken ending => { ending }

/-- How a run logs. -/
def logStyle (settings : Settings) (options : Options) : Log.Style where
  level := if options.verbose then .debug else settings.level
  asJson := options.jsonLogs

/-! ## One file -/

/-- The marker terms of a run. -/
def terms (settings : Settings) (options : Options) : List String :=
  if options.markers.isEmpty then settings.markers
  else
    (((splitOnChar ',' options.markers.toList).map trim).filter fun term => !term.isEmpty).map
      String.ofList

/-- A file with the marker terms of a run, as `_apply_markers` chooses them. -/
def withTerms (settings : Settings) (options : Options) (file : SourceFile) : SourceFile :=
  options.marker.foldl SourceFile.addMarker (file.setMarkers (terms settings options))

/-- The lines that events add to a log. -/
def logged (host : Host) (style : Log.Style) (events : List Event) : String :=
  String.join (events.map fun e => style.write host.render e.record)

/-- How the opening and reading of a file ends. -/
inductive Reflection where
  | read (file : SourceFile)
  /-- There is an error, and a message about it. -/
  | failed
  /-- The run breaks off. -/
  | broken (ending : Ending)

/-- What comes of opening and reading a file: the log with messages about errors, the calls of the
    interpreter, and how it ends. -/
structure Reflected where
  err : String
  calls : List CheckCall := []
  result : Reflection

/-- Opens a file, and has it checked if `validate`. -/
def openFile (host : Host) (settings : Settings) (validate : Bool) (path : String) : Opened :=
  SourceFile.openAt host.codecs host.look host.check (.ofText path) settings.encoding
    (if validate then some settings.interpreter else none)

/-- Opens and reads a file, as `_reflect` does. An error without a text is not handled. -/
def reflect (host : Host) (settings : Settings) (options : Options) (validate : Bool)
    (path : String) : Reflected :=
  let style := logStyle settings options
  let opened := openFile host settings validate path
  let calls := opened.calls
  let log := logged host style opened.events
  match opened.result with
  | .error e =>
    match e.message? with
    | some message => { err := log ++ errorLine message, calls, result := .failed }
    | none => { err := log, calls, result := .broken (.opening e) }
  | .ok file =>
    let processed := (withTerms settings options file).process
    let log := log ++ logged host style processed.events
    match processed.error? with
    | some e => { err := log ++ errorLine (path ++ ": " ++ e.message), calls, result := .failed }
    | none => { err := log, calls, result := .read processed.file }

/-! ## Outlines -/

/-- The run that writes a document. -/
def save (host : Host) (run : Run) (path : Path) (text : String) : Run :=
  match saveError? host.look path with
  | some e => { run with ending := .disk e }
  | none =>
    let name := path.text
    if path.isUsable then { run with out := s!"Wrote '{name}'.\n", saved := some (path, text) }
    else { run with ending := .notPath }

/-- The run that prints the outline of a file, as `_cmd_parse` does. -/
def parse (host : Host) (settings : Settings) (options : Options) (path : String) : Run :=
  let validate := options.validate.getD settings.validate
  let reflected := reflect host settings options validate path
  let run : Run := { err := reflected.err, calls := reflected.calls }
  match reflected.result with
  | .failed => { run with ending := .exit 1 }
  | .broken ending => { run with ending }
  | .read file =>
    match file.document options.pretty with
    | .error e => { run with ending := .document e }
    | .ok text =>
      if options.output.isEmpty then { run with out := text ++ "\n" }
      else save host run (.ofText options.output) (text ++ "\n")

/-! ## Markers -/

/-- The line of a marker: its place in blue, its term in yellow, and its text. -/
def markerLine (host : Host) (path : String) (m : Marker) : String :=
  let line := m.line
  host.paint .blue s!"{path}:{line}" ++ "  " ++ host.paint .yellow m.term ++ "  " ++ m.content ++
    "\n"

/-- What is printed for one file, whether there is an error, and how the run breaks off if it
    does. -/
structure MarkerReport where
  lines : List String := []
  err : String
  failed : Bool := false
  broken? : Option Ending := none
  deriving DecidableEq, Repr

/-- What is printed for one file. -/
def markersOf (host : Host) (settings : Settings) (options : Options) (path : String) :
    MarkerReport :=
  let reflected := reflect host settings options false path
  match reflected.result with
  | .failed => { err := reflected.err, failed := true }
  | .broken ending => { err := reflected.err, broken? := some ending }
  | .read file =>
    { lines := file.outline.markers.map (markerLine host path), err := reflected.err }

/-- The last line of a list of markers. -/
def foundLine (count : Nat) : String := s!"Found {count} marker(s).\n"

/-- The rest of a run that lists markers, after `count` markers were listed and a file failed if
    `failed`. -/
def markersFrom (host : Host) (settings : Settings) (options : Options) (count : Nat)
    (failed : Bool) : List String → Run
  | [] => { out := foundLine count, ending := .exit (if failed then 1 else 0) }
  | path :: later =>
    let report := markersOf host settings options path
    match report.broken? with
    | some ending => { err := report.err, ending }
    | none =>
      let run := markersFrom host settings options (count + report.lines.length)
        (failed || report.failed) later
      { run with out := String.join report.lines ++ run.out, err := report.err ++ run.err }

/-- The run that lists the markers of files, as `_cmd_markers` does. -/
def markers (host : Host) (settings : Settings) (options : Options) (paths : List String) : Run :=
  markersFrom host settings options 0 false paths

/-! ## Requests -/

/-- A run with the settings that its options choose. -/
def withSettings (host : Host) (options : Options) (run : Settings → Run) : Run :=
  match settings host options.config with
  | .error e => e.run
  | .ok settings => run settings

/-- The run for a request (`_dispatch`). -/
def answer (host : Host) : Request → Run
  | .help page => { out := page.help }
  | .wrong page e =>
    let title := page.title
    let message := e.message
    { err := page.usage ++ s!"{title}: error: {message}\n", ending := .exit 2 }
  | .parse file options =>
    withSettings host options fun settings => parse host settings options file
  | .markers files options =>
    withSettings host options fun settings => markers host settings options files

/-- The paths that the run for a request looks at. -/
def paths : Request → List Path
  | .help _ => []
  | .wrong _ _ => []
  | .parse file options =>
    let output := Path.ofText options.output
    [settingsPath options.config, .ofText file, output, output.parent]
  | .markers files options => settingsPath options.config :: files.map .ofText

/-- The run for the words on a command line (`main`). -/
def run (host : Host) (words : List String) : Run := answer host (.ofWords words)

end Command

end PhpOutline
