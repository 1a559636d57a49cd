import PhpOutline.Marker
import PhpOutline.SourceFile.Symbols
import PhpOutline.Token.Lexer

/-!
# Source files

A PHP file and the outline of it: its symbols, its markers, the docblock of the file as a whole and
diagnostics. A file fills its outline while its tokens are read one after the other. If they cannot
be read to the end, the file is reset, so a file at rest has a whole outline or an empty one.

Results:
* `State.idle_process`: a file at rest is at rest again after it has been read, or could not be.
-/

namespace PhpOutline

/-- A condition that does not stop the reading of a file. -/
inductive Diagnostic where
  | docblockFailed (error : DocblockError)
  | noFileDocblock (path : String)
  deriving DecidableEq, Repr

namespace Diagnostic

/-- The word for a kind of diagnostic. -/
def kind : Diagnostic → String
  | .docblockFailed _ => "docblock-parse-failed"
  | .noFileDocblock _ => "missing-file-docblock"

/-- The text of a diagnostic. -/
def message : Diagnostic → String
  | .docblockFailed e => e.message
  | .noFileDocblock path => s!"No page-level DocBlock was found for {path}"

/-- The line that a diagnostic refers to, if any. -/
def line? : Diagnostic → Option Int
  | .docblockFailed e => some e.line
  | .noFileDocblock _ => none

end Diagnostic

/-- What is known about a file after it has been read. -/
structure Outline where
  symbols : Symbols := {}
  markers : List Marker := []
  docblock : Option Docblock := none
  diagnostics : List Diagnostic := []
  deriving DecidableEq, Repr

/-- Why a file cannot be read. -/
inductive ProcessError where
  | lex (error : LexError)
  | parse (error : ParseError)
  deriving DecidableEq, Repr

/-- The text of an error that stops the reading of a file. -/
def ProcessError.message : ProcessError → String
  | .lex e => e.message
  | .parse e => e.message

namespace Outline

/-! ## The docblock of a file -/

/-- A doc comment of the file as a whole stands among this many tokens after the first one. -/
def docblockWindow : Nat := 10

/-- The first doc comment among at most `limit` tokens, before any class and namespace keyword, and
    the tokens after it. -/
def firstComment? : (limit : Nat) → List Token → Option (Token × List Token)
  | 0, _ => none
  | _, [] => none
  | limit + 1, t :: rest =>
    if t.isKind .docComment then some (t, rest)
    else if t.isKeyword .classKw || t.isKeyword .namespaceKw then none
    else firstComment? limit rest

/-- Only white space separates the tokens from a class keyword (`_directly_precedes_class`). -/
def precedesClass (ts : List Token) : Bool :=
  (ts.dropWhile (·.isKind .whitespace)).head?.any (·.isKeyword .classKw)

/-- The docblock of a file as a whole (`_find_doc_block`): the first doc comment, if it is readable,
    has a tag `package` and does not belong to a class. -/
def fileDocblock (ts : List Token) : Option DocblockError × Option Docblock :=
  match firstComment? docblockWindow ts.tail with
  | none => (none, none)
  | some (t, rest) =>
    match Docblock.read t.content t.line with
    | .error e => (some e, none)
    | .ok block =>
      (none, if !precedesClass rest && block.hasTag "package" then some block else none)

/-- The conditions to note about the docblock of a file. -/
def openingDiagnostics (path : String) (ts : List Token) : List Diagnostic :=
  (fileDocblock ts).1.toList.map .docblockFailed ++
    if (fileDocblock ts).2.isNone then [.noFileDocblock path] else []

/-- The events of looking for the docblock of a file. -/
def openingEvents (path : String) (ts : List Token) : List Event :=
  (fileDocblock ts).1.toList.map (.fileDocblockFailed path) ++
    if (fileDocblock ts).2.isNone then [.noFileDocblock path] else []

end Outline

/-- The terms of markers that are looked for unless others are chosen. -/
def defaultTerms : List String := ["TODO", "FIXME"]

namespace SourceFile

/-! ## The state of a file -/

/-- A file (`SourceFile`) at any time, also while it is being read: where it is, what it holds, the
    digest of it if it is known, the terms of markers to look for, the place in its tokens once they
    are there, what has been found so far, and whether the file has been read. -/
structure State where
  path : String
  contents : String
  digest : Option String := none
  terms : List String := defaultTerms
  stream? : Option Cursor := none
  outline : Outline := {}
  isProcessed : Bool := false
  deriving DecidableEq, Repr

/-- What comes of reading a file: the events, the error if it cannot be read, and the file
    afterwards. -/
structure Outcome where
  events : List Event
  error? : Option ProcessError
  state : State

namespace State

/-- The outline of a file that has been read. -/
def outline? (s : State) : Option Outline := if s.isProcessed then some s.outline else none

/-- The file with a further marker term, as `add_marker` enters it. -/
def addMarker (s : State) (term : String) : State :=
  if s.terms.contains term then s else { s with terms := s.terms ++ [term] }

/-- The file with the given marker terms, each once, as `set_markers` enters them. -/
def setMarkers (s : State) (terms : List String) : State :=
  { s with terms := terms.foldl (fun ts t => if ts.contains t then ts else ts ++ [t]) [] }

/-- Drops the tokens and all that was found in them, as `_reset` does. -/
def reset (s : State) : State := { s with stream? := none, outline := {} }

/-- The place in the tokens of a file, which are made unless they are there already, as
    `_initialize_tokens` does. -/
def initializeTokens (s : State) : List Event × Except LexError (Cursor × State) :=
  match s.stream? with
  | some c => ([], .ok (c, s))
  | none =>
    match lex s.contents with
    | .error e => ([], .error e)
    | .ok ts =>
      ([.tokensFound s.path ts.length], .ok (.ofList ts, { s with stream? := some (.ofList ts) }))

/-- Enters what is known of the file as a whole, its docblock and its markers, as
    `_process_generic_information` does. -/
def describe (s : State) (c : Cursor) : List Event × State :=
  (Outline.openingEvents s.path c.rest,
    { s with outline := { s.outline with
        markers := Marker.scan s.terms s.contents
        docblock := (Outline.fileDocblock c.rest).2
        diagnostics := s.outline.diagnostics ++ Outline.openingDiagnostics s.path c.rest } })

/-- Enters the symbols of the tokens from a cursor on. The cursor moves along, so if a statement
    cannot be read, the symbols before it and the cursor within it are what is left. -/
def pass (s : State) (c : Cursor) : Outcome :=
  match s.outline.symbols.collect c with
  | (events, .error halt) =>
    ⟨events, some (.parse halt.error), { s with
      stream? := some halt.cursor, outline := { s.outline with symbols := halt.symbols } }⟩
  | (events, .ok symbols) =>
    ⟨events, none, { s with
      stream? := some (c.moveTo []), outline := { s.outline with symbols } }⟩

/-- Reads a file from where its stream stands, which is what `process` tries. -/
def read (s : State) : Outcome :=
  match s.initializeTokens with
  | (events, .error e) => ⟨events, some (.lex e), s⟩
  | (events, .ok (c, s)) =>
    let (described, s) := s.describe c
    let out := s.pass c
    { out with events := events ++ described ++ out.events }

/-- Reads a file unless it has been read already, as `process` does. A file that cannot be read is
    reset, a file that has been read needs its tokens no more. -/
def process (s : State) : Outcome :=
  if s.isProcessed then ⟨[.alreadyProcessed s.path], none, s⟩
  else
    let out := s.read
    match out.error? with
    | some _ => { out with state := out.state.reset }
    | none => { out with state := { out.state with stream? := none, isProcessed := true } }

/-- A file at rest: there are no tokens of it, and nothing is known of it unless it has been
    read. -/
def Idle (s : State) : Prop :=
  s.stream? = none ∧ (s.isProcessed = false → s.outline = {})

theorem idle_reset (s : State) : s.reset.Idle := ⟨rfl, fun _ => rfl⟩

theorem idle_addMarker {s : State} (h : s.Idle) (term : String) : (s.addMarker term).Idle := by
  unfold addMarker
  split
  · exact h
  · exact h

theorem idle_process {s : State} (h : s.Idle) : s.process.state.Idle := by
  unfold process
  split
  · exact h
  · simp only
    split
    · exact idle_reset _
    · exact ⟨rfl, fun hunread => absurd hunread (by simp)⟩

end State

end SourceFile

/-! ## Files at rest -/

/-- A PHP file as it is between two calls. -/
structure SourceFile extends SourceFile.State where
  idle : toState.Idle := by exact ⟨rfl, fun _ => rfl⟩

namespace SourceFile

/-- The file with a further marker term. -/
def addMarker (f : SourceFile) (term : String) : SourceFile :=
  ⟨f.toState.addMarker term, State.idle_addMarker f.idle term⟩

/-- The file with the given marker terms, each once. -/
def setMarkers (f : SourceFile) (terms : List String) : SourceFile :=
  ⟨f.toState.setMarkers terms, f.idle⟩

/-- What comes of reading a file, with the file at rest again. -/
structure Processed where
  events : List Event
  error? : Option ProcessError
  file : SourceFile

/-- Reads a file unless it has been read already. -/
def process (f : SourceFile) : Processed :=
  let out := f.toState.process
  ⟨out.events, out.error?, ⟨out.state, State.idle_process f.idle⟩⟩

end SourceFile

end PhpOutline
