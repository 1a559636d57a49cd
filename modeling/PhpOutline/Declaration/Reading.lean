import PhpOutline.Declaration
import PhpOutline.Text.Quoted
import PhpOutline.Token

/-!
# Reading from tokens

What the readers of declarations share: how they fail, and how they pass over trivia and read
names. A reader takes the tokens from its place on and gives back its result with the tokens after
it; a failure also tells where reading stopped.

Results:
* `significant_length`, `readNames_length`: reading goes forward.
-/

namespace PhpOutline

open PhpOutline.Text

/-- What is wrong with a declaration. -/
inductive ParseError.Cause where
  | misplaced (got : Option String)
  | endOfFile
  | unbalanced
  | noClassBody (name got : String)
  | noInterfaceName (got : String)
  | noInterfaceBody (name got : String)
  | unterminatedBody
  | noMethodName
  | noPropertyName (got : String)
  | noPropertyEnd (name : String)
  | unterminatedTraitUse
  | noConstant
  | noFunctionName (got : String)
  | noParameters (name got : String)
  | unterminatedParameters
  | noFunctionBody (got : String)
  deriving DecidableEq, Repr

/-- The wording of a cause. -/
def ParseError.Cause.message : ParseError.Cause → String
  | .misplaced none => "Parser invoked on end of file"
  | .misplaced (some got) => "Parser invoked on " ++ quoted got
  | .endOfFile => "Unexpected end of file"
  | .unbalanced => "Unbalanced brackets"
  | .noClassBody name got => s!"Expected '{openBrace}' to open class {name}, got " ++ quoted got
  | .noInterfaceName got => "Expected interface name, got " ++ quoted got
  | .noInterfaceBody name got =>
    s!"Expected '{openBrace}' to open interface {name}, got " ++ quoted got
  | .unterminatedBody => "Unterminated declaration body"
  | .noMethodName => "Expected method name"
  | .noPropertyName got => "Expected property name, got " ++ quoted got
  | .noPropertyEnd name => s!"Expected ',' or ';' after property {name}"
  | .unterminatedTraitUse => "Unterminated trait use"
  | .noConstant => "Expected 'NAME = value' in constant declaration"
  | .noFunctionName got => "Expected function name, got " ++ quoted got
  | .noParameters name got => s!"Expected '(' after function {name}, got " ++ quoted got
  | .unterminatedParameters => "Unterminated parameter list"
  | .noFunctionBody got => "Expected function body, got " ++ quoted got

/-- A declaration that cannot be read, and the line to blame (`EntityParseError`). -/
structure ParseError where
  cause : ParseError.Cause
  line : Int
  deriving DecidableEq, Repr

/-- The text of a parse error. -/
def ParseError.message (e : ParseError) : String := s!"Line {e.line}: {e.cause.message}"

/-- A parse error with the tokens from the place where reading stopped. -/
structure Failure where
  error : ParseError
  rest : List Token
  deriving DecidableEq, Repr

namespace Reading

/-- The failure with a cause, a line and the tokens where reading stopped. -/
def fail (cause : ParseError.Cause) (line : Int) (rest : List Token) : Except Failure α :=
  .error ⟨⟨cause, line⟩, rest⟩

/-- The next token that is not trivia, and the tokens after it (`_skip_trivia`). The line is blamed
    if there is none. -/
def significant (line : Int) (ts : List Token) : Except Failure (Token × List Token) :=
  match ts.dropWhile Token.isTrivia with
  | [] => fail .endOfFile line []
  | t :: rest => .ok (t, rest)

/-- A part of a qualified name. -/
def isNamePart (t : Token) : Bool :=
  t.isKind .name || t.isKind .separator || t.isKeyword .namespaceKw

/-- The contents of some tokens in a row. -/
def joined (ts : List Token) : String := String.join (ts.map Token.content)

/-- The text of some tokens without the blanks at either end (`_text`). -/
def sourceText (ts : List Token) : String := trimmed (joined ts)

/-- The contents of some tokens without trivia (`_compact`). -/
def compact (ts : List Token) : String := joined (ts.filter (!·.isTrivia))

/-- A text unless it is empty. -/
def nonEmpty? (s : String) : Option String := if s = "" then none else some s

/-- A qualified name, which may be empty, and the tokens after it (`_read_qualified_name`). -/
def qualifiedName (ts : List Token) : String × List Token :=
  (joined (ts.takeWhile isNamePart), ts.dropWhile isNamePart)

theorem dropWhile_length_le (p : Token → Bool) (ts : List Token) :
    (ts.dropWhile p).length ≤ ts.length := (List.dropWhile_sublist p).length_le

theorem significant_length {line : Int} {ts rest : List Token} {t : Token}
    (h : significant line ts = .ok (t, rest)) : rest.length < ts.length := by
  unfold significant at h
  split at h
  · simp [fail] at h
  · rename_i u r heq
    have hle := dropWhile_length_le Token.isTrivia ts
    obtain ⟨_, rfl⟩ := by simpa using h
    rw [heq] at hle
    exact hle

theorem qualifiedName_length (ts : List Token) : (qualifiedName ts).2.length ≤ ts.length :=
  dropWhile_length_le isNamePart ts

/-- Qualified names with commas between them, the next token that is not trivia, and the tokens
    after it (`_read_name_list`). Empty names are left out. -/
def readNames (line : Int) (ts : List Token) :
    Except Failure (List String × Token × List Token) :=
  match hfirst : significant line ts with
  | .error e => .error e
  | .ok (t, afterFirst) =>
    match hname : qualifiedName (t :: afterFirst) with
    | (name, afterName) =>
      match hnext : significant line afterName with
      | .error e => .error e
      | .ok (next, rest) =>
        if next.isPunct "," then
          have : rest.length < ts.length := by
            have h1 := significant_length hfirst
            have h2 := qualifiedName_length (t :: afterFirst)
            have h3 := significant_length hnext
            rw [hname] at h2
            simp at h2; omega
          match readNames line rest with
          | .error e => .error e
          | .ok (names, after) => .ok ((nonEmpty? name).toList ++ names, after)
        else .ok ((nonEmpty? name).toList, next, rest)
termination_by ts.length

theorem readNames_length {line : Int} {ts rest : List Token} {names : List String} {t : Token}
    (h : readNames line ts = .ok (names, t, rest)) : rest.length < ts.length := by
  fun_induction readNames line ts generalizing names t rest with
  | case1 => simp at h
  | case2 => simp at h
  | case3 => simp at h
  | case4 ts u afterFirst hfirst name afterName hname next rest' hnext hcomma hlt names' after hrec ih =>
    obtain ⟨_, rfl⟩ := by simpa using h
    have := ih hrec
    omega
  | case5 ts u afterFirst hfirst name afterName hname next rest' hnext hcomma =>
    obtain ⟨_, _, rfl⟩ := by simpa using h
    have h1 := significant_length hfirst
    have h2 := qualifiedName_length (u :: afterFirst)
    have h3 := significant_length hnext
    rw [hname] at h2
    simp at h2; omega

end Reading

end PhpOutline
