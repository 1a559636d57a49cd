import PhpOutline.Text.Digit
import PhpOutline.Text.Lines
import PhpOutline.Text.Quoted

/-!
# Arguments

How the words after a program's name are read. A word is an option, an operand, or the two dashes
after which all words are operands. A long option can be shortened as long as only one option starts
that way, short options without a value can be written together, and the value of an option is the
next word, or stands in the same word: after an equals sign, or right after a short option. What
stands in the word of a short option without a value is further short options, also after an equals
sign.

* `Grammar.classify`: what each word is;
* `Grammar.read`: the options and the operands of a list of words, and the words that are left spare.
-/

namespace PhpOutline.CommandLine

open PhpOutline.Text

/-- An option: what it is known as inside the program, its names, and whether it has a value. -/
structure Switch (κ : Type) where
  key : κ
  names : List String
  takesValue : Bool := false

/-- The name of an option in messages: all its names. -/
def Switch.title {κ : Type} (s : Switch κ) : String := "/".intercalate s.names

/-- How many operands a program has. -/
inductive Arity where
  | one
  /-- One or more. -/
  | many
  /-- A command, which has all words after it. -/
  | command
  deriving DecidableEq, Repr

/-- The words that a program takes: its options and its operands. -/
structure Grammar (κ : Type) where
  switches : List (Switch κ)
  /-- The option that asks for help. -/
  isHelp : κ → Bool
  arity : Arity
  /-- The name of the operands, if there must be any. -/
  required : Option String

/-- What is wrong with a list of words. -/
inductive UsageError where
  | ambiguous (word : String) (names : List String)
  | valueMissing (title : String)
  | valueIgnored (title value : String)
  | required (name : String)
  | unknownCommand (word : String) (commands : List String)
  | unrecognized (words : List String)
  deriving DecidableEq, Repr

/-- The text of an error. -/
def UsageError.message : UsageError → String
  | .ambiguous word names =>
    s!"ambiguous option: {word} could match " ++ ", ".intercalate names
  | .valueMissing title => s!"argument {title}: expected one argument"
  | .valueIgnored title value =>
    s!"argument {title}: ignored explicit argument " ++ quoted value
  | .required name => s!"the following arguments are required: {name}"
  | .unknownCommand word commands =>
    "argument COMMAND: invalid choice: " ++ quoted word ++ " (choose from " ++
      ", ".intercalate (commands.map quoted) ++ ")"
  | .unrecognized words => "unrecognized arguments: " ++ " ".intercalate words

/-- Why reading stops early: help is asked for, or something is wrong. -/
inductive Stop where
  | help
  | wrong (error : UsageError)
  deriving DecidableEq, Repr

/-! ## Words -/

/-- An option that a word names: the option, the name, and the value in the same word. -/
structure Use (κ : Type) where
  switch : Switch κ
  name : String
  value? : Option String

/-- What a word is. -/
inductive Word (κ : Type) where
  | operand (text : String)
  | dashes
  | option (text : String) (use : Use κ)
  /-- A word that looks like an option, but names none. -/
  | stranger (text : String)

namespace Word

variable {κ : Type}

/-- The text of a word. -/
def text : Word κ → String
  | .operand text => text
  | .dashes => "--"
  | .option text _ => text
  | .stranger text => text

/-- An operand or the two dashes. -/
def isOperandOrDashes : Word κ → Bool
  | .operand _ => true
  | .dashes => true
  | _ => false

/-- The two dashes. -/
def isDashes : Word κ → Bool
  | .dashes => true
  | _ => false

end Word

/-- A decimal digit of any script. -/
def isDecimal (c : Char) : Bool := (digitValue? c).isSome

/-- A word that writes a negative number, in the digits of any script and with an optional line feed
    at its end. -/
def isNegativeNumber (word : List Char) : Bool :=
  match chomped word with
  | '-' :: rest =>
    match rest.dropWhile isDecimal with
    | [] => !rest.isEmpty
    | '.' :: fraction => !fraction.isEmpty && fraction.all isDecimal
    | _ => false
  | _ => false

/-- A word cut at its first equals sign. -/
def cutAtEquals? (word : List Char) : Option (String × String) :=
  match word.dropWhile (· != '=') with
  | [] => none
  | _ :: value => some (String.ofList (word.takeWhile (· != '=')), String.ofList value)

namespace Grammar

variable {κ : Type}

/-- All names of options, each with its option, in the order in which the options are listed. -/
def named (s : Grammar κ) : List (String × Switch κ) :=
  s.switches.flatMap fun switch => switch.names.map fun name => (name, switch)

/-- The options that a shortened word can mean. -/
def candidates (s : Grammar κ) (word : String) : List (Use κ) :=
  match word.toList with
  | '-' :: '-' :: _ =>
    let (start, value?) :=
      match cutAtEquals? word.toList with
      | some (start, value) => (start, some value)
      | none => (word, none)
    s.named.filterMap fun (name, switch) =>
      if start.toList.isPrefixOf name.toList then some ⟨switch, name, value?⟩ else none
  | dash :: letter :: value =>
    s.named.filterMap fun (name, switch) =>
      if name.toList == [dash, letter] then some ⟨switch, name, some (String.ofList value)⟩
      else if word.toList.isPrefixOf name.toList then some ⟨switch, name, none⟩
      else none
  | _ => []

/-- The option that a word names exactly, with or without a value after an equals sign. -/
def namedBy? (s : Grammar κ) (word : String) : Option (Use κ) :=
  match s.named.lookup word with
  | some switch => some ⟨switch, word, none⟩
  | none => do
    let (name, value) ← cutAtEquals? word.toList
    let switch ← s.named.lookup name
    some ⟨switch, name, some value⟩

/-- What a word before the two dashes is. -/
def classifyWord (s : Grammar κ) (word : String) : Except UsageError (Word κ) :=
  match word.toList with
  | '-' :: _ :: _ =>
    match s.namedBy? word with
    | some use => .ok (.option word use)
    | none =>
      match s.candidates word with
      | [use] => .ok (.option word use)
      | [] =>
        if isNegativeNumber word.toList || word.toList.contains ' ' then .ok (.operand word)
        else .ok (.stranger word)
      | uses => .error (.ambiguous word (uses.map (·.name)))
  | _ => .ok (.operand word)

/-- What each word is. -/
def classify (s : Grammar κ) : List String → Except UsageError (List (Word κ))
  | [] => .ok []
  | word :: rest =>
    if word == "--" then .ok (.dashes :: rest.map .operand)
    else do
      let first ← s.classifyWord word
      return first :: (← s.classify rest)

/-! ## Options and operands -/

/-- The number of words at the start of a list that are the operands. -/
def operandCount (arity : Arity) (words : List (Word κ)) : Nat :=
  let dashes := (words.takeWhile Word.isDashes).length
  match words.drop dashes with
  | .operand _ :: rest =>
    match arity with
    | .one => dashes + 1 + (rest.takeWhile Word.isDashes).length
    | .many => dashes + 1 + (rest.takeWhile Word.isOperandOrDashes).length
    | .command => words.length
  | _ => 0

/-- What words say: the options in their order with their names and values, the operands if there
    are any, and the words left spare. -/
structure Given (κ : Type) where
  uses : List (Use κ) := []
  operands? : Option (List String) := none
  leftOver : List String := []

/-- The options that one word names, where `value` stands after the first of them in the same word:
    its value, or further short options, all of which must be known. -/
def expand (s : Grammar κ) (switch : Switch κ) (name : String) (value : List Char) :
    Except UsageError (List (Use κ)) :=
  let ignored := Except.error (.valueIgnored switch.title (String.ofList value))
  if switch.takesValue then .ok [⟨switch, name, some (String.ofList value)⟩]
  else if "--".toList.isPrefixOf name.toList then ignored
  else
    match value with
    | [] => ignored
    | c :: rest =>
      let first : Use κ := ⟨switch, name, none⟩
      let next := String.ofList ['-', c]
      match s.named.lookup next with
      | none => ignored
      | some other =>
        if rest.isEmpty then .ok [first, ⟨other, next, none⟩]
        else (expand s other next rest).map (first :: ·)

/-- The options that one word names. -/
def expandUse (s : Grammar κ) (use : Use κ) : Except UsageError (List (Use κ)) :=
  match use.value? with
  | none => .ok [use]
  | some value => s.expand use.switch use.name value.toList

/-- What one word with an option says: the options with their values, and how many of the words
    after it are used. -/
def optionUses (s : Grammar κ) (use : Use κ) (rest : List (Word κ)) :
    Except UsageError (List (Use κ) × Nat) := do
  let uses ← s.expandUse use
  match uses.getLast? with
  | none => return ([], 0)
  | some last =>
    if last.switch.takesValue && last.value?.isNone then
      match rest with
      | .operand value :: _ => return (uses.dropLast ++ [{ last with value? := some value }], 1)
      | _ => .error (.valueMissing last.switch.title)
    else return (uses, 0)

/-- The given operands together with what else words say. -/
def takeOperands (given : Given κ) (count : Nat) (words : List (Word κ)) : Given κ :=
  if count = 0 then given
  else { given with operands? := some ((words.take count).map Word.text) }

/-- Reads words one after the other. Operands are taken once, where the first of them stands;
    further ones are left spare. -/
def consume (s : Grammar κ) (given : Given κ) : List (Word κ) → Except Stop (Given κ)
  | [] => .ok given
  | .stranger text :: rest => consume s { given with leftOver := given.leftOver ++ [text] } rest
  | .option _ use :: rest =>
    match s.optionUses use rest with
    | .error e => .error (.wrong e)
    | .ok (uses, used) =>
      if uses.any fun use => s.isHelp use.switch.key then .error .help
      else consume s { given with uses := given.uses ++ uses } (rest.drop used)
  | word :: rest =>
    let words := word :: rest
    let count := if given.operands?.isSome then 0 else operandCount s.arity words
    if count = 0 then
      let spare := words.takeWhile Word.isOperandOrDashes
      consume s { given with leftOver := given.leftOver ++ spare.map Word.text }
        (rest.drop (spare.length - 1))
    else consume s (takeOperands given count words) (rest.drop (count - 1))
termination_by words => words.length
decreasing_by all_goals (simp only [List.length_drop, List.length_cons]; omega)

/-- The options and operands of a list of words, and the words that are left spare. Two dashes
    before operands do not count, except before a command. -/
def read (s : Grammar κ) (words : List String) : Except Stop (Given κ) := do
  let classified ← (s.classify words).mapError .wrong
  let given ← s.consume {} classified
  match given.operands?, s.required with
  | none, some name => .error (.wrong (.required name))
  | none, none => return given
  | some operands, _ =>
    if s.arity = .command then return given
    else return { given with operands? := some (operands.erase "--") }

end Grammar

end PhpOutline.CommandLine
