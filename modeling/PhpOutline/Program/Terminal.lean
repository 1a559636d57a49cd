import PhpOutline.Command
import PhpOutline.Table
import PhpOutline.Text.Quoted

/-!
# Texts for the terminal

How log records and colours are written. A record is a line for readers or a line of JSON. The name
of its event, its level and the time are values too. Their names are `event`, `level` and
`timestamp`, and what a record says under these names itself does not count.

* `Log.Record.render`: a record as a line;
* `Colour.paint`: a text in a colour.
-/

namespace PhpOutline

namespace Log

open PhpOutline.Text

/-- The level that a word for reporting means. -/
def Level.ofWord? : String → Option Level
  | "debug" => some .debug
  | "info" => some .info
  | "msg" => some .info
  | "warning" => some .warning
  | "warn" => some .warning
  | "error" => some .error
  | "critical" => some .critical
  | "fatal" => some .critical
  | _ => none

/-- All values of a record: first its own, in their order, then the event, the level and the
    time. -/
def Record.fields (time : String) (r : Record) : Table Value :=
  ((Table.put "event" (.text r.event) r.context).put "level" (.text r.level.word)).put
    "timestamp" (.text time)

/-! ## Lines for readers -/

mutual

/-- A value inside of other values, where each text is in quotes. -/
def Value.inner : Value → String
  | .none => "None"
  | .flag true => "True"
  | .flag false => "False"
  | .whole n => toString n
  | .text s => quoted s
  | .list items => "[" ++ Value.innerItems items ++ "]"
  | .table entries => String.ofList ('{' :: (Value.innerEntries entries).toList ++ ['}'])

/-- The items of a list. -/
def Value.innerItems : List Value → String
  | [] => ""
  | [value] => value.inner
  | value :: rest => value.inner ++ ", " ++ Value.innerItems rest

/-- The entries of a table. -/
def Value.innerEntries : List (String × Value) → String
  | [] => ""
  | [(name, value)] => quoted name ++ ": " ++ value.inner
  | (name, value) :: rest => quoted name ++ ": " ++ value.inner ++ ", " ++ Value.innerEntries rest

end

/-- A character that makes a text hard to read without quotes. -/
def needsQuotes (c : Char) : Bool := [' ', '\t', '=', '\r', '\n', '"', '\''].contains c

/-- A value in a line for readers. -/
def Value.show : Value → String
  | .text s => if s.toList.any needsQuotes then quoted s else s
  | value => value.inner

/-- A value as it is, a text without quotes. -/
def Value.plain : Value → String
  | .text s => s
  | value => value.inner

/-- The names of values that have a place of their own in a line, in the order of these places. -/
def columns : List String := ["timestamp", "level", "event", "logger", "logger_name"]

/-- The names of values that stand below a line, or nowhere. -/
def belowLine : List String := ["stack", "exception", "exc_info"]

/-- A value in its own place: the time and the event are bare, other values are in brackets. -/
def column (name : String) (value : Value) : String :=
  if name == "timestamp" || name == "event" then value.plain else "[" ++ value.plain ++ "]"

/-- A value below the line of a record. -/
def below (fields : Table Value) (name : String) : Option String :=
  match fields.lookup name with
  | some (.text s) => some s
  | _ => none

/-- The texts below the line of a record, each on lines of its own. -/
def Record.tail (fields : Table Value) : String :=
  match below fields "stack", below fields "exception" with
  | none, none => ""
  | some stack, none => "\n" ++ stack
  | none, some error => "\n" ++ error
  | some stack, some error =>
    "\n" ++ stack ++ "\n\n" ++ String.ofList (List.replicate 79 '=') ++ "\n" ++ "\n" ++ error

/-- A line without the spaces at its end. -/
def trimSpaces (s : String) : String :=
  String.ofList (s.toList.reverse.dropWhile (· == ' ')).reverse

/-- A record as a line for readers: what has a place of its own, then the other values sorted by
    name. -/
def Record.line (time : String) (r : Record) : String :=
  let fields := r.fields time
  let first := columns.filterMap fun name => (fields.lookup name).map (column name)
  let others := fields.filter fun entry => !columns.contains entry.1 && !belowLine.contains entry.1
  let rest := (others.mergeSort fun a b => a.1 ≤ b.1).map fun (name, value) =>
    name ++ "=" ++ value.show
  trimSpaces (" ".intercalate ((first ++ rest).filter (!·.isEmpty))) ++ Record.tail fields

/-! ## Lines of JSON -/

/-- A code unit of sixteen bits as an escape. -/
def unitEscape (n : Nat) : List Char := '\\' :: 'u' :: hex 4 n

/-- A character of a JSON text, in ASCII. -/
def jsonChar (c : Char) : List Char :=
  let n := c.toNat
  if c = '"' ∨ c = '\\' then ['\\', c]
  else if c = '\n' then ['\\', 'n']
  else if c = '\r' then ['\\', 'r']
  else if c = '\t' then ['\\', 't']
  else if n = 8 then ['\\', 'b']
  else if n = 12 then ['\\', 'f']
  else if 32 ≤ n ∧ n < 127 then [c]
  else if n < 0x10000 then unitEscape n
  else unitEscape (0xD800 + (n - 0x10000) / 0x400) ++ unitEscape (0xDC00 + (n - 0x10000) % 0x400)

/-- A text in JSON. -/
def jsonText (s : String) : String :=
  String.ofList ('"' :: s.toList.flatMap jsonChar ++ ['"'])

mutual

/-- A value in JSON. -/
def Value.json : Value → String
  | .none => "null"
  | .flag true => "true"
  | .flag false => "false"
  | .whole n => toString n
  | .text s => jsonText s
  | .list items => "[" ++ Value.jsonItems items ++ "]"
  | .table entries => String.ofList ('{' :: (Value.jsonEntries entries).toList ++ ['}'])

/-- The items of a list in JSON. -/
def Value.jsonItems : List Value → String
  | [] => ""
  | [value] => value.json
  | value :: rest => value.json ++ ", " ++ Value.jsonItems rest

/-- The entries of a table in JSON. -/
def Value.jsonEntries : List (String × Value) → String
  | [] => ""
  | [(name, value)] => jsonText name ++ ": " ++ value.json
  | (name, value) :: rest =>
    jsonText name ++ ": " ++ value.json ++ ", " ++ Value.jsonEntries rest

end

/-- A record as a line of JSON. -/
def Record.json (time : String) (r : Record) : String := (Value.table (r.fields time)).json

/-- A record as a line, in JSON or for readers. -/
def Record.render (time : String) (asJson : Bool) (r : Record) : String :=
  if asJson then r.json time else r.line time

end Log

namespace Colour

/-- The number of a colour of the terminal. -/
def code : Colour → Nat
  | .blue => 34
  | .yellow => 33

/-- What starts and what ends a colour of the terminal. -/
def marks (c : Colour) : List Char × List Char :=
  let code := c.code
  (s!"\x1b[{code}m".toList, "\x1b[39m".toList)

/-- The characters of a text in a colour, which pauses at each line end. -/
def paintChars (start stop : List Char) : List Char → List Char
  | [] => []
  | '\r' :: '\n' :: rest => stop ++ '\r' :: '\n' :: start ++ paintChars start stop rest
  | '\n' :: rest => stop ++ '\n' :: start ++ paintChars start stop rest
  | c :: rest => c :: paintChars start stop rest

/-- A text in a colour of the terminal. -/
def paint (c : Colour) (text : String) : String :=
  let (start, stop) := c.marks
  if text.isEmpty then ""
  else String.ofList (start ++ paintChars start stop text.toList ++ stop)

end Colour

end PhpOutline
