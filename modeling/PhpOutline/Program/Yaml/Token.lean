/-!
# Tokens of YAML documents

The marks of a document. Indentation has become explicit: a block list or mapping opens with a token
of its own and ends with `blockEnd`, and each key is announced by `key`, whether the document marks
it or not.
-/

namespace PhpOutline.Yaml

/-- An instruction to the reader. -/
inductive Directive where
  /-- The major version of the language that a document is written in. -/
  | version (major : Nat)
  /-- What a handle stands for at the start of a tag. -/
  | handle (name meaning : String)
  /-- Any other instruction, which is passed over. -/
  | other
  deriving DecidableEq, Repr

/-- What a document asks a value to be: the handle, unless the tag is written out in full, and the
    name after it. -/
structure Tag where
  handle? : Option String
  name : String
  deriving DecidableEq, Repr

/-- A mark of a document. -/
inductive Token where
  | directive (directive : Directive)
  | documentStart
  | documentEnd
  | blockList
  | blockMapping
  | blockEnd
  | listStart
  | listEnd
  | mappingStart
  | mappingEnd
  | comma
  | item
  | key
  | value
  | alias (name : String)
  | anchor (name : String)
  | tag (tag : Tag)
  | scalar (text : String) (plain : Bool)
  deriving DecidableEq, Repr

end PhpOutline.Yaml
