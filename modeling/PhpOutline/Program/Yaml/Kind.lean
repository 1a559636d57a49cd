import PhpOutline.Program.Base64
import PhpOutline.Program.Yaml.Clock
import PhpOutline.Program.Yaml.Number
import PhpOutline.Yaml.Scalar

/-!
# Kinds of YAML values

Each part of a document is of some kind. A document can name the kind, or else a plain text shows it
by its form.

* `flagOf`, `realScalar`, `bytesOf`: flags, numbers and bytes of a text;
* `Kind.ofPlain`: the kind of a text without quotes and without a name of a kind;
* `Kind.ofTag?`: the kind that a tag names;
* `Kind.reader?`: how a text of a kind is read, for the kinds that are texts.
-/

namespace PhpOutline.Yaml

open PhpOutline.Text

/-! ## Texts as scalars -/

/-- The flag of a word for true or false, in capitals or not. -/
def flagOf (text : String) : Except Fault Bool :=
  let word := lowered text
  if ["yes", "true", "on"].contains word then .ok true
  else if ["no", "false", "off"].contains word then .ok false
  else .error (.unknownFlag word)

/-- The number of a text as a scalar. -/
def realScalar (text : List Char) : Except Fault Scalar := do
  let (value, named) ← realOf text
  return if value = .undefined ∧ !named then .stray else .real value

/-- The bytes that a text writes in base 64. -/
def bytesOf (text : List Char) : Except Fault (List UInt8) :=
  if text.all fun c => decide (c.toNat < 128) then
    match Base64.decode? text with
    | some bytes => .ok bytes
    | none => .error .malformed
  else .error .malformed

/-! ## Kinds -/

/-- The kinds of the language. The last two are marks with a meaning in mappings only: the key
    `<<`, whose value is merged into the mapping, and the key `=` of a mapping that stands for one
    text. -/
inductive Kind where
  | null | flag | whole | real | bytes | time | text
  | list | mapping | set | pairs
  | merge | equals
  deriving DecidableEq, Repr

namespace Kind

/-- The words for true and false that a plain text can be. -/
def flagWords : List String :=
  ["yes", "Yes", "YES", "no", "No", "NO", "true", "True", "TRUE", "false", "False", "FALSE",
   "on", "On", "ON", "off", "Off", "OFF"]

/-- The kind of one line of plain text. -/
def ofLine (text : String) : Kind :=
  let chars := text.toList
  if flagWords.contains text then .flag
  else if isReal chars then .real
  else if isWhole chars then .whole
  else if text == "<<" then .merge
  else if ["~", "null", "Null", "NULL", ""].contains text then .null
  else if isTime chars then .time
  else if text == "=" then .equals
  else .text

/-- The kind of a plain text. A line end at its end does not count, unless it is all there is. -/
def ofPlain (text : String) : Kind :=
  if text == "\n" then .text else ofLine (String.ofList (chomped text.toList))

/-- What stands before the names of the kinds. -/
def space : String := "tag:yaml.org,2002:"

/-- The kinds and their names. -/
def names : List (String × Kind) :=
  [("null", .null), ("bool", .flag), ("int", .whole), ("float", .real), ("binary", .bytes),
   ("timestamp", .time), ("str", .text), ("seq", .list), ("map", .mapping), ("set", .set),
   ("omap", .pairs), ("pairs", .pairs), ("merge", .merge), ("value", .equals)]

/-- The kind that a tag names. -/
def ofTag? (tag : String) : Option Kind :=
  (names.find? fun entry => space ++ entry.1 == tag).map (·.2)

/-- How a text of a kind is read. The other kinds are no texts. -/
def reader? : Kind → Option (String → Except Fault Scalar)
  | .null => some fun _ => .ok .null
  | .flag => some fun text => (flagOf text).map .flag
  | .whole => some fun text => (wholeOf text.toList).map .whole
  | .real => some fun text => realScalar text.toList
  | .bytes => some fun text => (bytesOf text.toList).map .bytes
  | .time => some fun text => (Time.read text.toList).map .time
  | .text => some fun text => .ok (.text text)
  | _ => none

end Kind

end PhpOutline.Yaml
