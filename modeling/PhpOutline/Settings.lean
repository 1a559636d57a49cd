import PhpOutline.Log
import PhpOutline.SourceFile
import PhpOutline.Yaml.Fault
import PhpOutline.Yaml.Value

/-!
# Settings

What a user can choose in a configuration file: a YAML mapping with five known keys, each of which
can be left out. Which value a text means in YAML is given from outside, as a loader.

* `Settings.ofValue`: the settings that a YAML value describes, or what is wrong with it;
* `Settings.read`: the settings that a text describes.
-/

namespace PhpOutline

open Yaml (Fault Scalar Value)

/-- What a user can choose (`ReflectConfig`). -/
structure Settings where
  /-- The terms of markers to look for. -/
  markers : List String := defaultTerms
  /-- Whether a file is checked by the interpreter before it is read. -/
  validate : Bool := false
  /-- The interpreter that checks. -/
  interpreter : String := "php"
  /-- The encoding of files that are not in UTF-8. -/
  encoding : String := "latin-1"
  /-- The level from which on events are logged. -/
  level : Log.Level := .warning
  deriving DecidableEq, Repr

/-- The keys of a configuration file. -/
inductive SettingsKey where
  | markers | validate | interpreter | encoding | level
  deriving DecidableEq, Repr

namespace SettingsKey

/-- The name of a key. -/
def name : SettingsKey → String
  | .markers => "markers"
  | .validate => "validate"
  | .interpreter => "php-binary"
  | .encoding => "fallback-encoding"
  | .level => "log-level"

/-- All keys, in the order in which their values are checked. -/
def all : List SettingsKey := [.markers, .validate, .interpreter, .encoding, .level]

/-- What the value of a key must be. -/
def demand : SettingsKey → String
  | .markers => "a list of strings"
  | .validate => "a boolean"
  | .interpreter => "a string"
  | .encoding => "a string"
  | .level => "a string"

end SettingsKey

/-- What is wrong with a configuration file (`ConfigError`). -/
inductive SettingsError where
  /-- It is no YAML document, or it writes something that it cannot mean. -/
  | unreadable (fault : Fault)
  | notMapping
  /-- It has unknown keys that no order sorts, so that they cannot be listed. -/
  | unsortable
  /-- It has unknown keys, which are listed in their order. -/
  | unknownKeys (keys : List Scalar)
  /-- The value of a key is not of the kind that the key demands. -/
  | wrongKind (key : SettingsKey)
  | unknownLevel
  deriving DecidableEq, Repr

namespace SettingsError

/-- The text of an error in the file that `label` names. Some errors have no text of their own. -/
def message? (label : String) : SettingsError → Option String
  | .unreadable .malformed => some s!"Invalid YAML in {label}"
  | .unreadable _ => none
  | .notMapping => some s!"{label}: configuration must be a YAML mapping"
  | .unsortable => none
  | .unknownKeys keys =>
    let names := ", ".intercalate (keys.map Scalar.show)
    some s!"{label}: unknown configuration key(s): {names}"
  | .wrongKind key =>
    let name := key.name
    let demand := key.demand
    some s!"{label}: '{name}' must be {demand}"
  | .unknownLevel =>
    let name := SettingsKey.level.name
    let names := ", ".intercalate (Log.Level.all.map Log.Level.name)
    some s!"{label}: '{name}' must be one of {names}"

end SettingsError

namespace Settings

/-- A key of a mapping that is known. -/
def isKnown : Scalar → Bool
  | .text s => SettingsKey.all.any (·.name == s)
  | _ => false

/-- The value of a key, if the mapping has it. -/
def find? (entries : List (Scalar × Value)) (key : SettingsKey) : Option Value :=
  entries.lookup (.text key.name)

/-- The text of a value (`_require_string`). -/
def textOf? : Value → Option String
  | .scalar (.text s) => some s
  | _ => none

/-- The texts of a list of values (`_require_string_list`). -/
def textsOf? : Value → Option (List String)
  | .list items => items.mapM textOf?
  | _ => none

/-- The flag of a value. -/
def flagOf? : Value → Option Bool
  | .scalar (.flag b) => some b
  | _ => none

/-- What a mapping says for a key, or the default if it does not have the key. -/
def choose {α : Type} (entries : List (Scalar × Value)) (key : SettingsKey) (default : α)
    (decode : Value → Option α) : Except SettingsError α :=
  match find? entries key with
  | none => .ok default
  | some value =>
    match decode value with
    | some found => .ok found
    | none => .error (.wrongKind key)

/-- The level that a mapping names. -/
def chooseLevel (entries : List (Scalar × Value)) (default : Log.Level) :
    Except SettingsError Log.Level := do
  match ← choose entries .level none (fun value => (textOf? value).map some) with
  | none => return default
  | some name =>
    match Log.Level.ofName? name with
    | some level => return level
    | none => .error .unknownLevel

/-- The unknown keys of a mapping in their order, or nothing if they have none. -/
def unknownKeys? (entries : List (Scalar × Value)) : Option (List Scalar) :=
  let unknown := (entries.map (·.1)).filter fun key => !isKnown key
  if Scalar.comparable unknown then some (unknown.mergeSort Scalar.atMost) else none

/-- The settings of a mapping. -/
def ofEntries (entries : List (Scalar × Value)) : Except SettingsError Settings :=
  match unknownKeys? entries with
  | none => .error .unsortable
  | some (key :: keys) =>
    if (key :: keys).all Scalar.isShown then .error (.unknownKeys (key :: keys))
    else .error (.unreadable .impossible)
  | some [] => do
    let defaults : Settings := {}
    let markers ← choose entries .markers defaults.markers textsOf?
    let validate ← choose entries .validate defaults.validate flagOf?
    let interpreter ← choose entries .interpreter defaults.interpreter textOf?
    let encoding ← choose entries .encoding defaults.encoding textOf?
    let level ← chooseLevel entries defaults.level
    return { markers, validate, interpreter, encoding, level }

/-- The settings that a value describes. A file that says nothing leaves the defaults. -/
def ofValue : Value → Except SettingsError Settings
  | .scalar .null => .ok {}
  | .mapping entries => ofEntries entries
  | _ => .error .notMapping

/-- The settings that a text describes, where `load` gives the value of a text, as `_parse_config`
    reads them. -/
def read (load : String → Except Fault Value) (text : String) : Except SettingsError Settings :=
  match load text with
  | .error fault => .error (.unreadable fault)
  | .ok value => ofValue value

end Settings

end PhpOutline
