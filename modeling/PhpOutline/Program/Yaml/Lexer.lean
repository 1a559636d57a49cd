import PhpOutline.Text.Utf8
import PhpOutline.Program.Yaml.Number
import PhpOutline.Program.Yaml.Token

/-!
# From text to tokens

The text is read once from left to right. Three things are remembered besides the place: how deep
the brackets are, the columns of the open blocks, and the places where a key may have started. A key
without a mark of its own is known only by the colon after it, so its token is put in at the place
that was remembered. Such a key stands on one line and is at most 1024 characters long.

`Tokens.ofText` gives the tokens of a text up to the first fault.
-/

namespace PhpOutline.Yaml

open PhpOutline.Numeral PhpOutline.Text

/-! ## Characters -/

/-- A character that ends a line. -/
def isBreak (c : Char) : Bool :=
  c == '\n' || c == '\r' || c == '\u0085' || c == '\u2028' || c == '\u2029'

/-- The character that stands for the end of the text; no text contains it. -/
def endMark : Char := '\x00'

/-- The end of a line or of the text. -/
def isLineStop (c : Char) : Bool := c == endMark || isBreak c

/-- A space, or the end of a line or of the text. -/
def isSpaceStop (c : Char) : Bool := c == ' ' || isLineStop c

/-- A space, a tab, or the end of a line or of the text. -/
def isBlankStop (c : Char) : Bool := c == '\t' || isSpaceStop c

/-- A character of a name. -/
def isNameChar (c : Char) : Bool := c.isAlphanum || c == '-' || c == '_'

/-- A character that a document may contain. -/
def isPrintable (c : Char) : Bool :=
  let n := c.toNat
  n == 0x09 || n == 0x0A || n == 0x0D || (0x20 ≤ n && n ≤ 0x7E) || n == 0x85 ||
    (0xA0 ≤ n && n ≤ 0xD7FF) || (0xE000 ≤ n && n ≤ 0xFFFD) || 0x10000 ≤ n

/-- A character of the name of a kind. -/
def isTagChar (c : Char) : Bool :=
  c.isAlphanum || "-;/?:@&=+$,_.!~*'()[]".toList.contains c

/-- A character that has a meaning of its own, so that no plain text starts with it. -/
def isIndicator (c : Char) : Bool :=
  c == '{' || c == '}' || "-?:,[]#&*!|>'\"%@`".toList.contains c

/-- A character that ends a plain text inside brackets. -/
def isFlowStop (c : Char) : Bool :=
  c == ',' || c == '?' || c == '[' || c == ']' || c == '{' || c == '}'

/-! ## The state of reading -/

/-- A place where a key may have started. `before` counts the tokens before it, and a `required` key
    stands where nothing but a key can. -/
structure OpenKey where
  before : Nat
  required : Bool
  index : Nat
  line : Nat
  column : Nat

/-- The state of reading. -/
structure Reading where
  rest : List Char
  index : Nat := 0
  line : Nat := 0
  column : Nat := 0
  /-- The number of open brackets. -/
  depth : Nat := 0
  /-- The column of the innermost open block, `-1` outside of all blocks. -/
  indent : Int := -1
  /-- The columns of the blocks around it. -/
  indents : List Int := []
  /-- Whether a key may start here. -/
  keyAllowed : Bool := true
  /-- The open keys, at most one for each depth. -/
  openKeys : List (Nat × OpenKey) := []
  tokens : List Token := []
  finished : Bool := false

/-- Reading can fail. -/
abbrev Lex := StateT Reading (Except Fault)

/-- The text is no document. -/
def malformed {α : Type} : Lex α := throw .malformed

/-- The state after one character. -/
def Reading.step (s : Reading) : Reading :=
  match s.rest with
  | [] => s
  | c :: rest =>
    let ends := (isBreak c && c != '\r') || (c == '\r' && rest.head? != some '\n')
    { s with
      rest := rest
      index := s.index + 1
      line := if ends then s.line + 1 else s.line
      column := if ends then 0 else if c == '\ufeff' then s.column else s.column + 1 }

/-- Passes over characters. -/
def advance : Nat → Lex Unit
  | 0 => pure ()
  | n + 1 => do
    modify Reading.step
    advance n

/-- The character some places ahead. -/
def look (ahead : Nat) : Lex Char := do return ((← get).rest.drop ahead).headD endMark

/-- The longest run of characters of a class, which is passed over. -/
def takeRun (p : Char → Bool) : Lex (List Char) := do
  let run := (← get).rest.takeWhile p
  advance run.length
  return run

/-- Passes over the longest run of characters of a class. -/
def skipRun (p : Char → Bool) : Lex Unit := do
  let _ ← takeRun p

/-- A bound on the number of steps that reading the rest can take. -/
def steps : Lex Nat := do return (← get).rest.length + 1

/-- Passes over the end of a line, if there is one here, and gives the text that it counts as. -/
def lineBreak : Lex (List Char) := do
  match (← get).rest with
  | '\r' :: '\n' :: _ => do
    advance 2
    return ['\n']
  | c :: _ =>
    if isBreak c then do
      advance 1
      return [if c == '\u2028' || c == '\u2029' then c else '\n']
    else return []
  | [] => return []

/-- Whether a line here separates documents. -/
def atSeparator : Lex Bool := do
  let start := (← get).rest.take 3
  return (start == ['-', '-', '-'] || start == ['.', '.', '.']) && isBlankStop (← look 3)

/-- Adds a token. -/
def emit (token : Token) : Lex Unit := modify fun s => { s with tokens := s.tokens ++ [token] }

/-! ## Keys and blocks -/

/-- Forgets the open key of the present depth. -/
def dropKey : Lex Unit := do
  let s ← get
  match s.openKeys.lookup s.depth with
  | none => pure ()
  | some key =>
    if key.required then malformed
    else set { s with openKeys := s.openKeys.filter fun entry => entry.1 != s.depth }

/-- Forgets the keys that a colon can no longer reach. -/
def dropOldKeys : Lex Unit := do
  let s ← get
  let isOld := fun key : OpenKey => key.line != s.line || decide (1024 < s.index - key.index)
  if s.openKeys.any fun entry => isOld entry.2 && entry.2.required then malformed
  else set { s with openKeys := s.openKeys.filter fun entry => !isOld entry.2 }

/-- Remembers that a key may start here. -/
def openKey : Lex Unit := do
  if (← get).keyAllowed then
    dropKey
    modify fun s =>
      let required := s.depth == 0 && decide (s.indent = s.column)
      let key : OpenKey := ⟨s.tokens.length, required, s.index, s.line, s.column⟩
      { s with openKeys := (s.depth, key) :: s.openKeys }

/-- Allows a key to start at the present place, or forbids it. -/
def allowKey (allowed : Bool) : Lex Unit := modify fun s => { s with keyAllowed := allowed }

/-- Closes the blocks whose column is to the right of a column. -/
def closeBlocks (column : Int) : Lex Unit := do
  let s ← get
  if s.depth == 0 then
    let columns := s.indent :: s.indents
    let closed := columns.takeWhile fun indent => decide (column < indent)
    match columns.drop closed.length with
    | indent :: indents =>
      set { s with
        indent := indent, indents := indents
        tokens := s.tokens ++ closed.map fun _ => Token.blockEnd }
    | [] => malformed

/-- Opens a block at a column if it is to the right of the innermost one. -/
def openBlock (column : Nat) : Lex Bool := do
  let s ← get
  if s.indent < column then
    set { s with indent := (column : Int), indents := s.indent :: s.indents }
    return true
  else return false

/-! ## The space between tokens -/

/-- Passes over spaces, comments and line ends. After a line end outside of brackets a key may
    start. -/
def skipSpace : Nat → Lex Unit
  | 0 => pure ()
  | fuel + 1 => do
    skipRun (· == ' ')
    if (← look 0) == '#' then skipRun fun c => !isLineStop c
    let ended ← lineBreak
    unless ended.isEmpty do
      if (← get).depth == 0 then allowKey true
      skipSpace fuel

/-- Passes over the rest of a line that may hold nothing but a comment. -/
def skipLineRest : Lex Unit := do
  skipRun (· == ' ')
  if (← look 0) == '#' then skipRun fun c => !isLineStop c
  unless isLineStop (← look 0) do malformed
  let _ ← lineBreak

/-! ## Directives, names and tags -/

/-- A run of characters that must not be empty. -/
def takeSome (p : Char → Bool) : Lex (List Char) := do
  let run ← takeRun p
  if run.isEmpty then malformed else return run

/-- The handle of a tag: what stands before its name. -/
def tagHandle : Lex String := do
  unless (← look 0) == '!' do malformed
  advance 1
  if (← look 0) == ' ' then return "!"
  let name ← takeRun isNameChar
  unless (← look 0) == '!' do malformed
  advance 1
  return String.ofList ('!' :: name ++ ['!'])

/-- Bytes that are written as percent signs with two hexadecimal digits each. -/
def percentBytes : Nat → Lex (List UInt8)
  | 0 => pure []
  | fuel + 1 => do
    if (← look 0) == '%' then do
      match natural? 16 [← look 1, ← look 2] with
      | none => malformed
      | some n => do
        advance 3
        return UInt8.ofNat n :: (← percentBytes fuel)
    else return []

/-- The name of a tag. A character can be written as the bytes that encode it. -/
def tagName : Nat → Lex (List Char)
  | 0 => pure []
  | fuel + 1 => do
    let c ← look 0
    if isTagChar c then do
      advance 1
      return c :: (← tagName fuel)
    else if c == '%' then do
      match Utf8.decode? (← percentBytes (← steps)) with
      | none => malformed
      | some chars => return chars ++ (← tagName fuel)
    else return []

/-- The name of a tag, which must not be empty. -/
def someTagName : Lex String := do
  let name ← tagName (← steps)
  if name.isEmpty then malformed else return String.ofList name

/-- The version that a line of instructions gives. -/
def versionDirective : Lex Directive := do
  skipRun (· == ' ')
  let major ← takeSome Char.isDigit
  unless (← look 0) == '.' do malformed
  advance 1
  let _ ← takeSome Char.isDigit
  unless isSpaceStop (← look 0) do malformed
  return .version ((natural? 10 major).getD 0)

/-- The handle that a line of instructions gives a meaning. -/
def handleDirective : Lex Directive := do
  skipRun (· == ' ')
  let handle ← tagHandle
  unless (← look 0) == ' ' do malformed
  skipRun (· == ' ')
  let meaning ← someTagName
  unless isSpaceStop (← look 0) do malformed
  return .handle handle meaning

/-- A line of instructions to the reader. -/
def directive : Lex Token := do
  advance 1
  let name ← takeSome isNameChar
  unless isSpaceStop (← look 0) do malformed
  let found ←
    if name == ['Y', 'A', 'M', 'L'] then versionDirective
    else if name == ['T', 'A', 'G'] then handleDirective
    else do
      skipRun fun c => !isLineStop c
      pure .other
  skipLineRest
  return .directive found

/-- The name of an anchor, after its mark. -/
def anchorName : Lex String := do
  advance 1
  let name ← takeSome isNameChar
  let c ← look 0
  unless isBlankStop c || c == '}' || "?:,]%@`".toList.contains c do malformed
  return String.ofList name

/-- A tag: written out in full between angle brackets, the lone mark, or a handle with a name. -/
def tagToken : Lex Token := do
  let c ← look 1
  let tag : Tag ←
    if c == '<' then do
      advance 2
      let name ← someTagName
      unless (← look 0) == '>' do malformed
      advance 1
      pure ⟨none, name⟩
    else if isBlankStop c then do
      advance 1
      pure ⟨none, "!"⟩
    else do
      let ahead := ((← get).rest.drop 1).takeWhile fun d => !isSpaceStop d
      let handle ←
        if ahead.contains '!' then tagHandle
        else do
          advance 1
          pure "!"
      pure ⟨some handle, ← someTagName⟩
  unless isSpaceStop (← look 0) do malformed
  return .tag tag

/-! ## Texts in blocks -/

/-- How a text in a block ends: with one line end, with none, or with all that are there. -/
inductive Chomp where
  | clip | strip | keep
  deriving DecidableEq

/-- The sign that says how a text in a block ends. -/
def chomp? (c : Char) : Option Chomp :=
  if c == '+' then some .keep else if c == '-' then some .strip else none

/-- A digit that says how far a text in a block is indented. Zero is refused. -/
def depthDigit : Lex (Option Nat) := do
  let c ← look 0
  if c == '0' then malformed
  else if c.isDigit then do
    advance 1
    return some (c.toNat - '0'.toNat)
  else return none

/-- The signs after the mark of a text in a block, in either order. -/
def blockSigns : Lex (Chomp × Option Nat) := do
  let signs ←
    match chomp? (← look 0) with
    | some chomp => do
      advance 1
      pure (chomp, ← depthDigit)
    | none => do
      match ← depthDigit with
      | none => pure (.clip, none)
      | some n =>
        match chomp? (← look 0) with
        | some chomp => do
          advance 1
          pure (chomp, some n)
        | none => pure (.clip, some n)
  unless isSpaceStop (← look 0) do malformed
  return signs

/-- Passes over spaces up to a column. -/
def skipToColumn (column : Nat) : Lex Unit := do
  let s ← get
  advance (min (column - s.column) (s.rest.takeWhile (· == ' ')).length)

/-- The line ends of empty lines, and the indentation of the line after them up to a column. -/
def emptyLines (column : Nat) : Nat → Lex (List Char)
  | 0 => pure []
  | fuel + 1 => do
    skipToColumn column
    let ended ← lineBreak
    if ended.isEmpty then return []
    else return ended ++ (← emptyLines column fuel)

/-- The line ends before the first line of a text, and the greatest column reached by spaces. -/
def firstIndent : Nat → Lex (List Char × Nat)
  | 0 => pure ([], 0)
  | fuel + 1 => do
    if (← look 0) == ' ' then do
      advance 1
      let column := (← get).column
      let (ends, greatest) ← firstIndent fuel
      return (ends, max column greatest)
    else
      let ended ← lineBreak
      if ended.isEmpty then return ([], 0)
      else
        let (ends, greatest) ← firstIndent fuel
        return (ended ++ ends, greatest)

/-- Whether a line of a text in a block starts here. -/
def atBlockLine (column : Nat) : Lex Bool := do
  return (← get).column == column && (← look 0) != endMark

/-- The lines of a text in a block: the text, the end of the last line and the empty lines after it.
    In a folded text the end of a line between two lines that are not indented further is a space,
    or nothing if empty lines follow. -/
def blockLines (folded : Bool) (column : Nat) (before : List Char) :
    Nat → Lex (List Char × List Char × List Char)
  | 0 => pure ([], [], before)
  | fuel + 1 => do
    if ← atBlockLine column then
      let flush := !isSpaceOrTab (← look 0)
      let line ← takeRun fun c => !isLineStop c
      let ended ← lineBreak
      let between ← emptyLines column (← steps)
      if ← atBlockLine column then
        let joint :=
          if folded && ended == ['\n'] && flush && !isSpaceOrTab (← look 0) then
            if between.isEmpty then [' '] else []
          else ended
        let (text, last, trailing) ← blockLines folded column between fuel
        return (before ++ line ++ joint ++ text, last, trailing)
      else return (before ++ line, ended, between)
    else return ([], [], before)

/-- A text in a block. -/
def blockText (folded : Bool) : Lex Token := do
  advance 1
  let (chomp, depth?) ← blockSigns
  skipLineRest
  let least := max ((← get).indent + 1) 1
  let (column, before) ←
    match depth? with
    | none => do
      let (before, greatest) ← firstIndent (← steps)
      pure (max least.toNat greatest, before)
    | some depth => do
      let column := least.toNat + depth - 1
      pure (column, ← emptyLines column (← steps))
  let (text, last, trailing) ← blockLines folded column before (← steps)
  let ending :=
    match chomp with
    | .clip => last
    | .strip => []
    | .keep => last ++ trailing
  return .scalar (String.ofList (text ++ ending)) false

/-! ## Texts in quotes -/

/-- The line ends of empty lines inside quotes. A line that separates documents is refused. -/
def quotedEmptyLines : Nat → Lex (List Char)
  | 0 => pure []
  | fuel + 1 => do
    if ← atSeparator then malformed
    skipRun isSpaceOrTab
    let ended ← lineBreak
    if ended.isEmpty then return []
    else return ended ++ (← quotedEmptyLines fuel)

/-- The character that a letter after a backslash stands for. -/
def escape? : Char → Option Char
  | '0' => some '\x00'
  | 'a' => some '\x07'
  | 'b' => some '\x08'
  | 't' => some '\t'
  | '\t' => some '\t'
  | 'n' => some '\n'
  | 'v' => some '\x0b'
  | 'f' => some '\x0c'
  | 'r' => some '\r'
  | 'e' => some '\x1b'
  | ' ' => some ' '
  | '"' => some '"'
  | '\\' => some '\\'
  | '/' => some '/'
  | 'N' => some '\u0085'
  | '_' => some '\u00a0'
  | 'L' => some '\u2028'
  | 'P' => some '\u2029'
  | _ => none

/-- The number of hexadecimal digits after a letter that announces a character's number. -/
def escapeWidth? : Char → Option Nat
  | 'x' => some 2
  | 'u' => some 4
  | 'U' => some 8
  | _ => none

/-- The number that the next hexadecimal digits write, which is at most the last character's. -/
def hexNumber (width : Nat) : Lex Nat := do
  let digits := (← get).rest.take width
  unless digits.length == width && digits.all isHexDigit do malformed
  let n := (natural? 16 digits).getD 0
  if 0x7FFFFFFF < n then throw .characterTooLarge
  if 0x10FFFF < n then throw .impossible
  advance width
  return n

/-- The second half of a character of two halves, if one is written here, and its length. -/
def secondHalf? (text : List Char) : Option (Nat × Nat) :=
  match text with
  | '\\' :: c :: rest => do
    let width ← escapeWidth? c
    let n ← natural? 16 (rest.take width)
    if 0xDC00 ≤ n ∧ n ≤ 0xDFFF then some (n, width + 2) else none
  | _ => none

/-- The character of a number. Two halves of a character that are written one after the other are
    that character, and a half without the other is the replacement character. -/
def numbered (n : Nat) : Lex Char := do
  if 0xD800 ≤ n ∧ n ≤ 0xDFFF then
    match secondHalf? (← get).rest with
    | some (low, length) =>
      if n < 0xDC00 then do
        advance length
        return Char.ofNat (0x10000 + (n - 0xD800) * 0x400 + (low - 0xDC00))
      else return Utf8.replacement
    | none => return Utf8.replacement
  else return Char.ofNat n

/-- What a backslash and the characters after it stand for. At the end of a line it stands for
    nothing, and the next line goes on where it starts. -/
def escaped : Lex (List Char) := do
  advance 1
  let c ← look 0
  match escape? c, escapeWidth? c with
  | some d, _ => do
    advance 1
    return [d]
  | none, some width => do
    advance 1
    return [← numbered (← hexNumber width)]
  | none, none => do
    let ended ← lineBreak
    if ended.isEmpty then malformed
    else quotedEmptyLines (← steps)

/-- The characters in quotes up to the next space, line end or closing quote. -/
def quotedWord (double : Bool) : Nat → Lex (List Char)
  | 0 => pure []
  | fuel + 1 => do
    let run ← takeRun fun c => !(c == '\'' || c == '"' || c == '\\' || isBlankStop c)
    let c ← look 0
    if !double && c == '\'' && (← look 1) == '\'' then do
      advance 2
      return run ++ '\'' :: (← quotedWord double fuel)
    else if (double && c == '\'') || (!double && (c == '"' || c == '\\')) then do
      advance 1
      return run ++ c :: (← quotedWord double fuel)
    else if double && c == '\\' then do
      let found ← escaped
      return run ++ found ++ (← quotedWord double fuel)
    else return run

/-- The space between two words in quotes. A line end counts as a space, or as the empty lines after
    it if there are any. -/
def quotedSpace : Lex (List Char) := do
  let spaces ← takeRun isSpaceOrTab
  if (← look 0) == endMark then malformed
  let ended ← lineBreak
  if ended.isEmpty then return spaces
  else
    let between ← quotedEmptyLines (← steps)
    if ended != ['\n'] then return ended ++ between
    else if between.isEmpty then return [' ']
    else return between

/-- The words in quotes after the first, with the space before each. -/
def quotedWords (double : Bool) : Nat → Lex (List Char)
  | 0 => malformed
  | fuel + 1 => do
    if (← look 0) == (if double then '"' else '\'') then do
      advance 1
      return []
    else
      let space ← quotedSpace
      let word ← quotedWord double (← steps)
      return space ++ word ++ (← quotedWords double fuel)

/-- A text in quotes. -/
def quotedText (double : Bool) : Lex Token := do
  advance 1
  let first ← quotedWord double (← steps)
  let others ← quotedWords double (← steps)
  return .scalar (String.ofList (first ++ others)) false

/-! ## Plain texts -/

/-- The line ends of empty lines inside a plain text, and the indentation after them; nothing if a
    line separates documents. -/
def plainEmptyLines : Nat → Lex (Option (List Char))
  | 0 => pure (some [])
  | fuel + 1 => do
    skipRun (· == ' ')
    let ended ← lineBreak
    if ended.isEmpty then return some []
    else if ← atSeparator then return none
    else return (← plainEmptyLines fuel).map (ended ++ ·)

/-- The space after a word of a plain text; it is empty where the text ends. -/
def plainSpace : Lex (List Char) := do
  let spaces ← takeRun (· == ' ')
  let ended ← lineBreak
  if ended.isEmpty then return spaces
  else
    allowKey true
    if ← atSeparator then return []
    match ← plainEmptyLines (← steps) with
    | none => return []
    | some between =>
      if ended != ['\n'] then return ended ++ between
      else if between.isEmpty then return [' ']
      else return between

/-- The length of a word of a plain text: it goes up to a blank, to a colon before a blank, and
    inside brackets also to a character that has a meaning there. -/
def plainLength (inBrackets : Bool) : List Char → Nat
  | [] => 0
  | c :: rest =>
    let next := rest.headD endMark
    let colonEnds := isBlankStop next ||
      (inBrackets && (next == ',' || next == '[' || next == ']' || next == '{' || next == '}'))
    if isBlankStop c || (c == ':' && colonEnds) || (inBrackets && isFlowStop c) then 0
    else plainLength inBrackets rest + 1

/-- The words of a plain text; `space` stands before the next one. -/
def plainWords (column : Int) (space : List Char) : Nat → Lex (List Char)
  | 0 => pure []
  | fuel + 1 => do
    let s ← get
    let length := plainLength (s.depth != 0) s.rest
    if (← look 0) == '#' || length == 0 then return []
    else
      allowKey false
      advance length
      let word := s.rest.take length
      let next ← plainSpace
      let after ← get
      if next.isEmpty || (← look 0) == '#' || (after.depth == 0 && decide (after.column < column)) then
        return space ++ word
      else return space ++ word ++ (← plainWords column next fuel)

/-- A plain text. -/
def plainText : Lex Token := do
  let text ← plainWords ((← get).indent + 1) [] (← steps)
  return .scalar (String.ofList text) true

/-- Whether a plain text can start with the character here. -/
def atPlainText : Lex Bool := do
  let c ← look 0
  let next ← look 1
  let s ← get
  return !(isBlankStop c || isIndicator c) ||
    (!isBlankStop next && (c == '-' || (s.depth == 0 && (c == '?' || c == ':'))))

/-! ## Tokens -/

/-- A token that can be a key. -/
def maybeKey (read : Lex Token) : Lex Unit := do
  openKey
  allowKey false
  let token ← read
  emit token

/-- A line that separates documents, or an instruction to the reader. -/
def outsideDocument (read : Lex Token) : Lex Unit := do
  closeBlocks (-1)
  dropKey
  allowKey false
  let token ← read
  emit token

/-- A mark of three characters. -/
def threeMarks (token : Token) : Lex Token := do
  advance 3
  return token

/-- An opening bracket. -/
def opening (token : Token) : Lex Unit := do
  openKey
  modify fun s => { s with depth := s.depth + 1, keyAllowed := true }
  advance 1
  emit token

/-- A closing bracket. -/
def closing (token : Token) : Lex Unit := do
  dropKey
  if (← get).depth == 0 then malformed
  modify fun s => { s with depth := s.depth - 1, keyAllowed := false }
  advance 1
  emit token

/-- A comma inside brackets. -/
def commaMark : Lex Unit := do
  allowKey true
  dropKey
  advance 1
  emit .comma

/-- Opens a block here for a mark outside of brackets. -/
def blockAt (token : Token) : Lex Unit := do
  let s ← get
  if s.depth == 0 then
    unless s.keyAllowed do malformed
    if ← openBlock s.column then emit token

/-- The mark of an item of a block list. -/
def itemMark : Lex Unit := do
  blockAt .blockList
  allowKey true
  dropKey
  advance 1
  emit .item

/-- The mark of a key. -/
def keyMark : Lex Unit := do
  blockAt .blockMapping
  allowKey ((← get).depth == 0)
  dropKey
  advance 1
  emit .key

/-- The mark of a value. If a key is open here, its token is put in before it. -/
def valueMark : Lex Unit := do
  let s ← get
  match s.openKeys.lookup s.depth with
  | some key =>
    let opened ← if s.depth == 0 then openBlock key.column else pure false
    modify fun t =>
      let marks := if opened then [Token.blockMapping, .key] else [.key]
      { t with
        openKeys := t.openKeys.filter fun entry => entry.1 != t.depth
        tokens := t.tokens.take key.before ++ marks ++ t.tokens.drop key.before
        keyAllowed := false }
  | none =>
    blockAt .blockMapping
    allowKey (s.depth == 0)
    dropKey
  advance 1
  emit .value

/-- A text in a block, after which a key may start. -/
def blockTextMark (folded : Bool) : Lex Unit := do
  allowKey true
  dropKey
  let token ← blockText folded
  emit token

/-- The end of the text. -/
def finish : Lex Unit := do
  closeBlocks (-1)
  dropKey
  modify fun s => { s with finished := true }

/-- The next token, with those that indentation gives before it. -/
def nextToken : Lex Unit := do
  if (← get).index == 0 && (← look 0) == '\ufeff' then advance 1
  skipSpace (← steps)
  dropOldKeys
  closeBlocks (← get).column
  let s ← get
  let c ← look 0
  let next ← look 1
  let outer := s.depth == 0
  if c == endMark then finish
  else if c == '%' && s.column == 0 then outsideDocument directive
  else if s.column == 0 && (← atSeparator) then
    outsideDocument (threeMarks (if c == '-' then .documentStart else .documentEnd))
  else if c == '[' then opening .listStart
  else if c == '{' then opening .mappingStart
  else if c == ']' then closing .listEnd
  else if c == '}' then closing .mappingEnd
  else if c == ',' then commaMark
  else if c == '-' && isBlankStop next then itemMark
  else if c == '?' && (!outer || isBlankStop next) then keyMark
  else if c == ':' && (!outer || isBlankStop next) then valueMark
  else if c == '*' then maybeKey (do return .alias (← anchorName))
  else if c == '&' then maybeKey (do return .anchor (← anchorName))
  else if c == '!' then maybeKey tagToken
  else if c == '|' && outer then blockTextMark false
  else if c == '>' && outer then blockTextMark true
  else if c == '\'' then maybeKey (quotedText false)
  else if c == '"' then maybeKey (quotedText true)
  else if ← atPlainText then maybeKey plainText
  else malformed

/-! ## All tokens -/

/-- The tokens of a text up to the first fault, and the fault. A document is read token by token, so
    what it says before the fault counts first. -/
structure Tokens where
  list : List Token
  fault? : Option Fault

/-- The tokens that can be read before the text ahead: those before the first open key, which may
    still get a token in front of them. -/
def Reading.settled (s : Reading) : List Token :=
  let live := s.openKeys.filter fun entry =>
    entry.2.line == s.line && decide (s.index - entry.2.index ≤ 1024)
  s.tokens.take ((live.map fun entry => entry.2.before).foldl min s.tokens.length)

/-- All tokens from a state on. -/
def allTokens : Nat → Reading → Tokens
  | 0, s => ⟨s.tokens, some .malformed⟩
  | fuel + 1, s =>
    match nextToken.run s with
    | .error fault => ⟨s.settled, some fault⟩
    | .ok ((), s) => if s.finished then ⟨s.tokens, none⟩ else allTokens fuel s

/-- The tokens of a text. -/
def Tokens.ofText (text : String) : Tokens :=
  let chars := text.toList
  if chars.all isPrintable then allTokens (chars.length + 1) { rest := chars }
  else ⟨[], some .malformed⟩

end PhpOutline.Yaml
