import PhpOutline.Text.Blank
import PhpOutline.Text.Case
import PhpOutline.Text.Lines
import PhpOutline.Token

/-!
# Lexemes

The lexeme at the front of a source text: its kind and its extent. The extent of a lexeme that
starts with the character `c` is given as the number of characters of the text after `c` that
belong to it, so a lexeme is never empty.

Text outside of tags is markup; an opening tag starts code and a closing tag ends it.
-/

namespace PhpOutline.Lexeme

open PhpOutline.Text

/-- Why the text at some place starts a lexeme that never ends. -/
inductive Unterminated where
  | comment
  | quoted
  | heredoc (label : String)
  deriving DecidableEq, Repr

/-- The wording of an unterminated construct. -/
def Unterminated.message : Unterminated → String
  | .comment => "Unterminated comment"
  | .quoted => "Unterminated string literal"
  | .heredoc label => s!"Unterminated heredoc '{label}'"

/-! ## Character classes -/

/-- White space between tokens: space, tab, line feed, vertical tab, form feed, carriage return. -/
def isWhitespace (c : Char) : Bool := c == ' ' || (9 ≤ c.toNat && c.toNat ≤ 13)

/-- The first character of an identifier: an ASCII letter, the underscore, or any character beyond
    ASCII. -/
def isIdentStart (c : Char) : Bool := c.isAlpha || c == '_' || 128 ≤ c.toNat

/-- A later character of an identifier. -/
def isIdentPart (c : Char) : Bool := isIdentStart c || c.isDigit

/-- A digit or the underscore that groups digits. -/
def isDigitOrGroup (c : Char) : Bool := c.isDigit || c == '_'

/-- A binary digit or the underscore. -/
def isBinaryOrGroup (c : Char) : Bool := c == '0' || c == '1' || c == '_'

/-- A hexadecimal digit or the underscore. -/
def isHexOrGroup (c : Char) : Bool :=
  c.isDigit || ('a' ≤ c && c ≤ 'f') || ('A' ≤ c && c ≤ 'F') || c == '_'

/-- The number of leading characters of a class. -/
def runLength (p : Char → Bool) (cs : List Char) : Nat := (cs.takeWhile p).length

/-! ## Markup -/

/-- The number of characters that a line end with an optional carriage return takes. -/
def newlineLength : List Char → Nat
  | '\r' :: '\n' :: _ => 2
  | '\n' :: _ => 1
  | _ => 0

/-- What must follow the letters of an opening tag: a line end, one blank, or the end of the text.
    Gives the number of characters of it that belong to the tag. -/
def tagEnd? : List Char → Option Nat
  | [] => some 0
  | '\r' :: '\n' :: _ => some 2
  | c :: _ => if isBlank c then some 1 else none

/-- The opening tag that a text starts with, and its length. -/
def openTag? : List Char → Option (Kind × Nat)
  | '<' :: '?' :: '=' :: _ => some (.openTagWithEcho, 3)
  | '<' :: '?' :: p :: h :: q :: r =>
    if p.toLower = 'p' ∧ h.toLower = 'h' ∧ q.toLower = 'p' then
      (tagEnd? r).map fun n => (.openTag, 5 + n)
    else none
  | _ => none

/-- The number of characters before the first opening tag, or of all of them. -/
def markupLength : List Char → Nat
  | [] => 0
  | c :: r => if (openTag? (c :: r)).isSome then 0 else markupLength r + 1

/-- The lexeme at `c :: r` outside of code (`_scan_inline_html`). -/
def markup (c : Char) (r : List Char) : Kind × Nat :=
  match openTag? (c :: r) with
  | some (kind, n) => (kind, n - 1)
  | none => (.inlineHtml, markupLength r)

/-! ## Comments -/

/-- The number of characters through the first `*/` (`_scan_block_comment`). -/
def commentEnd? : List Char → Option Nat
  | '*' :: '/' :: _ => some 2
  | _ :: r => (commentEnd? r).map (· + 1)
  | [] => none

/-- The text after the opening of a block comment makes it a doc comment: a second star, then a
    blank. -/
def opensDoc : List Char → Bool
  | '*' :: c :: _ => isBlank c
  | _ => false

/-- The number of characters of a line comment, which runs through the line feed but stops before a
    closing tag (`_scan_line_comment`). -/
def lineCommentLength : List Char → Nat
  | [] => 0
  | '\n' :: _ => 1
  | '?' :: '>' :: _ => 0
  | _ :: r => lineCommentLength r + 1

/-! ## Literals -/

/-- The number of characters through the first unescaped `quote` (`_scan_quoted`); a backslash
    escapes the character after it. -/
def quoteEnd? (quote : Char) : List Char → Option Nat
  | [] => none
  | ['\\'] => none
  | '\\' :: _ :: r => (quoteEnd? quote r).map (· + 2)
  | c :: r => if c = quote then some 1 else (quoteEnd? quote r).map (· + 1)

/-- The length of an exponent, or zero if there is none: a letter `e`, an optional sign and
    digits. -/
def exponentLength : List Char → Nat
  | e :: r =>
    if e = 'e' ∨ e = 'E' then
      match r with
      | s :: r' =>
        if s = '+' ∨ s = '-' then
          match runLength Char.isDigit r' with
          | 0 => 0
          | n => n + 2
        else
          match runLength Char.isDigit r with
          | 0 => 0
          | n => n + 1
      | [] => 0
    else 0
  | [] => 0

/-- What follows the whole part of a decimal number: a fraction with an optional exponent, or an
    exponent. Zero if the number is an integer. -/
def fractionLength : List Char → Nat
  | '.' :: r =>
    match r with
    | d :: r' =>
      if d.isDigit then
        let n := runLength isDigitOrGroup r'
        2 + n + exponentLength (r'.drop n)
      else 1 + exponentLength r
    | [] => 1
  | r => exponentLength r

/-- The extent of an integer in a base other than ten whose leading zero has been read. -/
def basedLength? : List Char → Option Nat
  | x :: r =>
    let n :=
      if x = 'x' ∨ x = 'X' then runLength isHexOrGroup r
      else if x = 'b' ∨ x = 'B' then runLength isBinaryOrGroup r
      else 0
    if n = 0 then none else some (n + 1)
  | [] => none

/-- The number that starts with the digit `c`. -/
def number (c : Char) (r : List Char) : Kind × Nat :=
  match if c = '0' then basedLength? r else none with
  | some n => (.integer, n)
  | none =>
    let whole := runLength isDigitOrGroup r
    match fractionLength (r.drop whole) with
    | 0 => (.integer, whole)
    | n => (.decimal, whole + n)

/-- The extent of a number that starts with a point, given the text after the point. -/
def pointNumber (r : List Char) : Kind × Nat :=
  let n := runLength isDigitOrGroup r
  (.decimal, n + exponentLength (r.drop n))

/-! ## Heredocs -/

/-- The quote that the label of a heredoc stands in, if it stands in quotes. -/
def labelQuote : List Char → List Char
  | '\'' :: _ => ['\'']
  | '"' :: _ => ['"']
  | _ => []

/-- The label of a heredoc and the length of its opening line, given the text after `<<<`: blanks,
    a label that may stand in quotes, and a line end. -/
def heredocOpening? (cs : List Char) : Option (List Char × Nat) :=
  let blanks := runLength isSpaceOrTab cs
  let cs := cs.drop blanks
  let quote := labelQuote cs
  let cs := cs.drop quote.length
  let label := cs.takeWhile fun c => c.isAlphanum || c == '_'
  if label.head?.any fun c => !c.isDigit then
    let cs := cs.drop label.length
    if quote.isPrefixOf cs then
      match newlineLength (cs.drop quote.length) with
      | 0 => none
      | n => some (label, blanks + quote.length + label.length + quote.length + n)
    else none
  else none

/-- The number of characters through a closing label at the start of a line: blanks, the label, and
    then no word character. -/
def closingLabel? (label cs : List Char) : Option Nat :=
  let blanks := runLength isSpaceOrTab cs
  let cs := cs.drop blanks
  if label.isPrefixOf cs && !((cs.drop label.length).head?.any isWord) then
    some (blanks + label.length)
  else none

/-- The number of characters through the closing label of a heredoc (`_scan_heredoc`); `lineStart`
    tells whether the text is at the start of a line. -/
def heredocEnd? (label : List Char) : (lineStart : Bool) → List Char → Option Nat
  | lineStart, cs =>
    match if lineStart then closingLabel? label cs else none with
    | some n => some n
    | none =>
      match cs with
      | [] => none
      | c :: r => (heredocEnd? label (c == '\n') r).map (· + 1)

/-! ## Code -/

/-- The kind of a word (`_scan_identifier`). After a member access it is always a name. -/
def wordKind (afterAccess : Bool) (word : List Char) : Kind :=
  if afterAccess then .name
  else
    match Keyword.ofSpelling? (String.ofList (lower word)) with
    | some keyword => .keyword keyword
    | none => .name

/-- The operator that a text starts with, and its length. -/
def operator? (cs : List Char) : Option (Operator × Nat) :=
  (Operator.spellings.find? fun (text, _) => text.toList.isPrefixOf cs).map
    fun (text, sign) => (sign, text.length)

/-- The lexeme at `c :: r` that starts with a sign. -/
def sign (c : Char) (r : List Char) : Option Kind × Nat :=
  if c = '\\' then (some .separator, 0)
  else
    match operator? (c :: r) with
    | some (sign, n) => (some (.operator sign), n - 1)
    | none => (none, 0)

/-- The lexeme at `c :: r` inside of code (`_scan_php_token`). The flag tells whether the last token
    that is not trivia was a member access. -/
def code (afterAccess : Bool) (c : Char) (r : List Char) :
    Except Unterminated (Option Kind × Nat) :=
  if c = '?' ∧ r.head? = some '>' then .ok (some .closeTag, 1 + newlineLength r.tail)
  else if isWhitespace c then .ok (some .whitespace, runLength isWhitespace r)
  else if c = '/' ∧ r.head? = some '*' then
    match commentEnd? r.tail with
    | some n => .ok (some (if opensDoc r.tail then .docComment else .comment), 1 + n)
    | none => .error .comment
  else if (c = '/' ∧ r.head? = some '/') ∨ c = '#' then .ok (some .comment, lineCommentLength r)
  else if c = '$' ∧ r.head?.any isIdentStart then
    .ok (some .variable, runLength isIdentPart r)
  else if isIdentStart c then
    let n := runLength isIdentPart r
    .ok (some (wordKind afterAccess (c :: r.take n)), n)
  else if c.isDigit then
    let (kind, n) := number c r
    .ok (some kind, n)
  else if c = '.' ∧ r.head?.any Char.isDigit then
    let (kind, n) := pointNumber r
    .ok (some kind, n)
  else if c = '\'' ∨ c = '"' ∨ c = '`' then
    match quoteEnd? c r with
    | some n => .ok (some .literal, n)
    | none => .error .quoted
  else
    match if c = '<' ∧ ['<', '<'].isPrefixOf r then heredocOpening? (r.drop 2) else none with
    | some (label, n) =>
      match heredocEnd? label true (r.drop (2 + n)) with
      | some m => .ok (some .literal, 2 + n + m)
      | none => .error (.heredoc (String.ofList label))
    | none => .ok (sign c r)

end PhpOutline.Lexeme
