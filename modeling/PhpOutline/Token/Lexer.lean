import PhpOutline.Token.Lexeme

/-!
# Lexing

Source text to tokens. Lexing cuts one lexeme after another off the front of the text, so the
contents of the tokens join to the source, and every token knows the line it starts on.

Results:
* `lexFrom_nil`, `lexFrom_cons`: one step of lexing.
-/

namespace PhpOutline

open PhpOutline.Text

/-- A source text with a construct that never ends, and the line the construct starts on
    (`LexerError`). -/
structure LexError where
  cause : Lexeme.Unterminated
  line : Int
  deriving DecidableEq, Repr

/-- The text of a lexing error. -/
def LexError.message (e : LexError) : String := s!"Line {e.line}: {e.cause.message}"

/-- Where lexing stands between two tokens: in code or in markup, after a member access or not, and
    on which line. -/
structure LexState where
  inCode : Bool
  afterAccess : Bool
  line : Int
  deriving DecidableEq, Repr

namespace LexState

/-- The start of a source text. -/
def start : LexState := ⟨false, false, 1⟩

/-- The lexeme at `c :: r`. -/
def lexeme (st : LexState) (c : Char) (r : List Char) :
    Except Lexeme.Unterminated (Option Kind × Nat) :=
  if st.inCode then Lexeme.code st.afterAccess c r
  else
    let (kind, n) := Lexeme.markup c r
    .ok (some kind, n)

/-- The state after a token of some kind and content. Trivia leaves a member access in force. -/
def next (st : LexState) (kind : Option Kind) (content : List Char) : LexState where
  inCode := kind != some .inlineHtml && kind != some .closeTag
  afterAccess :=
    if kind.any Kind.isTrivia then st.afterAccess
    else
      match kind with
      | some (.operator sign) => sign.isMemberAccess
      | _ => false
  line := st.line + newlines content

end LexState

/-- The tokens of a text from a given state on. -/
def lexFrom (st : LexState) : List Char → Except LexError (List Token)
  | [] => .ok []
  | c :: r =>
    match st.lexeme c r with
    | .error cause => .error ⟨cause, st.line⟩
    | .ok (kind, n) =>
      let content := c :: r.take n
      match lexFrom (st.next kind content) (r.drop n) with
      | .error e => .error e
      | .ok later => .ok (⟨kind, String.ofList content, st.line⟩ :: later)
termination_by cs => cs.length
decreasing_by simp only [List.length_drop, List.length_cons]; omega

/-- The tokens of a source text (`tokenize`). -/
def lex (source : String) : Except LexError (List Token) := lexFrom .start source.toList

@[simp] theorem lexFrom_nil (st : LexState) : lexFrom st [] = .ok [] := by rw [lexFrom]

theorem lexFrom_cons (st : LexState) (c : Char) (r : List Char) :
    lexFrom st (c :: r) =
      match st.lexeme c r with
      | .error cause => .error ⟨cause, st.line⟩
      | .ok (kind, n) =>
        match lexFrom (st.next kind (c :: r.take n)) (r.drop n) with
        | .error e => .error e
        | .ok later => .ok (⟨kind, String.ofList (c :: r.take n), st.line⟩ :: later) := by
  rw [lexFrom]

end PhpOutline
