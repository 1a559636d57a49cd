/-!
# Faults of YAML documents

Why a text says nothing.
-/

namespace PhpOutline.Yaml

/-- Why a text is no document, or writes a value that it cannot mean. -/
inductive Fault where
  /-- The text is no document, or a part of it cannot be what the document asks it to be. -/
  | malformed
  /-- A value that cannot exist, such as the thirteenth month, or a number in no digits. -/
  | impossible
  /-- A flag that is no word for true or false; `word` is the word in lower case. -/
  | unknownFlag (word : String)
  /-- A number without any character. -/
  | emptyNumber
  /-- A number of a character that is greater than a signed word of 32 bits. -/
  | characterTooLarge
  /-- A part of a number to the base 60 that stands before more parts than a number of 64 bits can
      count. -/
  | numberTooLarge
  /-- A time that is not written as one. -/
  | notTime
  /-- A time that is written as a mapping. -/
  | timeInMapping
  deriving DecidableEq, Repr

end PhpOutline.Yaml
