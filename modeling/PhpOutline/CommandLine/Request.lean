import PhpOutline.CommandLine.Arguments
import PhpOutline.CommandLine.Page

/-!
# Requests

What the words on a command line ask the program to do: to print the outline of a file, to list the
markers of files, or to explain itself.
-/

namespace PhpOutline.CommandLine

/-- The options of the commands. -/
inductive Key where
  | help | config | marker | markers | verbose | jsonLogs | validate | output | pretty
  deriving DecidableEq, Repr

/-- What the options say. An option that is not used leaves its default, and an empty text counts as
    if the option were not used. -/
structure Options where
  /-- The configuration file. -/
  config : String := ""
  /-- Marker terms besides the configured ones. -/
  marker : List String := []
  /-- Marker terms in place of the configured ones, separated by commas. -/
  markers : String := ""
  verbose : Bool := false
  jsonLogs : Bool := false
  /-- Whether the interpreter checks the file, in place of the configured choice. -/
  validate : Option Bool := none
  /-- The file that the document is written to. -/
  output : String := ""
  /-- Whether the document is indented. -/
  pretty : Bool := false
  deriving DecidableEq, Repr

/-- What the program is asked to do. -/
inductive Request where
  | help (page : Page)
  | wrong (page : Page) (error : UsageError)
  | parse (file : String) (options : Options)
  | markers (files : List String) (options : Options)
  deriving DecidableEq, Repr

/-! ## Options -/

/-- The option that asks for help. -/
def helpSwitch : Switch Key := { key := .help, names := ["-h", "--help"] }

/-- The options of every command (`_add_common_arguments`). -/
def commonSwitches : List (Switch Key) :=
  [helpSwitch,
   { key := .config, names := ["--config"], takesValue := true },
   { key := .marker, names := ["--marker"], takesValue := true },
   { key := .markers, names := ["--markers"], takesValue := true },
   { key := .verbose, names := ["--verbose", "-v"] },
   { key := .jsonLogs, names := ["--json-logs"] }]

/-- The words of the program itself: a command, or nothing. -/
def programGrammar : Grammar Key where
  switches := [helpSwitch]
  isHelp := (· == .help)
  arity := .command
  required := none

/-- The words of the command that prints the outline of a file. -/
def parseGrammar : Grammar Key where
  switches := commonSwitches ++
    [{ key := .validate, names := ["--validate", "--no-validate"] },
     { key := .output, names := ["--output", "-o"], takesValue := true },
     { key := .pretty, names := ["--pretty"] }]
  isHelp := (· == .help)
  arity := .one
  required := some "file"

/-- The words of the command that lists markers. -/
def markersGrammar : Grammar Key where
  switches := commonSwitches
  isHelp := (· == .help)
  arity := .many
  required := some "files"

/-- The options after one more has been used. -/
def Options.add (options : Options) (use : Use Key) : Options :=
  let value := use.value?.getD ""
  match use.switch.key with
  | .help => options
  | .config => { options with config := value }
  | .marker => { options with marker := options.marker ++ [value] }
  | .markers => { options with markers := value }
  | .verbose => { options with verbose := true }
  | .jsonLogs => { options with jsonLogs := true }
  | .validate => { options with validate := some (use.name == "--validate") }
  | .output => { options with output := value }
  | .pretty => { options with pretty := true }

/-- What options say that are used one after the other. -/
def Options.ofUses (uses : List (Use Key)) : Options := uses.foldl Options.add {}

/-! ## Requests -/

/-- The commands. -/
def commands : List String := ["parse", "markers"]

/-- The request of a command with the words after it, where `before` are words that were left spare
    before the command. -/
def Request.ofCommand (page : Page) (grammar : Grammar Key) (before words : List String)
    (request : List String → Options → Request) : Request :=
  match grammar.read words with
  | .error .help => .help page
  | .error (.wrong e) => .wrong page e
  | .ok given =>
    let spare := before ++ given.leftOver
    if spare.isEmpty then request (given.operands?.getD []) (Options.ofUses given.uses)
    else .wrong .program (.unrecognized spare)

/-- The request of the words on a command line. -/
def Request.ofWords (words : List String) : Request :=
  match programGrammar.read words with
  | .error .help => .help .program
  | .error (.wrong e) => .wrong .program e
  | .ok given =>
    match given.operands? with
    | some (command :: rest) =>
      if command == "parse" then
        Request.ofCommand .parse parseGrammar given.leftOver rest fun operands options =>
          .parse (operands.headD "") options
      else if command == "markers" then
        Request.ofCommand .markers markersGrammar given.leftOver rest .markers
      else .wrong .program (.unknownCommand command commands)
    | _ =>
      if given.leftOver.isEmpty then .help .program
      else .wrong .program (.unrecognized given.leftOver)

end PhpOutline.CommandLine
