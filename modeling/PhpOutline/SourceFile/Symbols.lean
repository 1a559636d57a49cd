import PhpOutline.Declaration.Reader
import PhpOutline.Log.Event
import PhpOutline.Table

/-!
# Symbols of a file

One pass over the tokens of a file. Namespace and `use` statements set the namespace and the aliases
that are in force; the keywords of declarations hand over to the readers of declarations; all other
tokens are passed over.

Results:
* `handle_length`: a statement takes at least one token, so the pass comes to an end.
-/

namespace PhpOutline

open PhpOutline.Text

/-- What the pass over a file collects. -/
structure Symbols where
  scope : String := defaultScope
  aliases : Table String := []
  interfaces : Table InterfaceDecl := []
  classes : Table ClassDecl := []
  functions : Table FunctionDecl := []
  constants : Table ConstantDecl := []
  includes : List IncludeDecl := []
  deriving DecidableEq, Repr

namespace Symbols

/-! ## Namespaces -/

theorem gotoWithin_length (kind : Kind) (stops : List String) (limit : Nat) (c : Cursor) :
    (c.gotoWithin kind stops limit).2.rest.length ≤ c.rest.length ∧
      ((c.gotoWithin kind stops limit).1.isSome →
        (c.gotoWithin kind stops limit).2.rest.length < c.rest.length) := by
  induction limit generalizing c with
  | zero => simp [Cursor.gotoWithin]
  | succ n ih =>
    have hadv : c.advance.rest.length ≤ c.rest.length ∧
        (c.advance.current.isSome → c.advance.rest.length < c.rest.length) := by
      cases hrest : c.rest with
      | nil => simp [Cursor.advance, Cursor.current, hrest]
      | cons t r => simp [Cursor.advance, hrest]
    simp only [Cursor.gotoWithin]
    split
    · exact ⟨hadv.1, by simp⟩
    · rename_i t hcur
      have hlt := hadv.2 (by simp [hcur])
      split
      · exact ⟨hadv.1, fun _ => hlt⟩
      · split
        · exact ⟨hadv.1, by simp⟩
        · have := ih c.advance
          exact ⟨by omega, fun h => by have := this.2 h; omega⟩

/-- The parts of a namespace name: the names that are each at most five tokens further on, up to a
    semicolon or an opening brace, and the cursor after the search. -/
def namespaceParts (c : Cursor) : List String × Cursor :=
  match h : c.goto .name 5 [";", openBrace] with
  | (none, after) => ([], after)
  | (some t, after) =>
    have : after.rest.length < c.rest.length := by
      have := (gotoWithin_length .name [";", openBrace] 5 c).2
      unfold Cursor.goto at h
      rw [show Int.toNat 5 = 5 from rfl] at h
      simpa [h] using this
    let (parts, last) := namespaceParts after
    (t.content :: parts, last)
termination_by c.rest.length

/-- The namespace that a statement sets, and the cursor after the statement (`_process_namespace`).
    A keyword before a separator starts a relative name and sets nothing. -/
def readNamespace (c : Cursor) : Option String × Cursor :=
  match c.peek 1 with
  | some next =>
    if next.isKind .separator then (none, c.advance)
    else
      let (parts, after) := namespaceParts c
      (some ("\\".intercalate parts), after.advance)
  | none =>
    let (parts, after) := namespaceParts c
    (some ("\\".intercalate parts), after.advance)

/-! ## Aliases -/

/-- The clauses of a `use` statement after its keyword, the first one and the others, and the tokens
    after its semicolon. Commas divide outside of braces. -/
def useClauses (depth : Int) : List Token → List Token × List (List Token) × List Token
  | [] => ([], [], [])
  | t :: rest =>
    if t.isPunct ";" then ([], [], rest)
    else if t.isPunct "," ∧ depth = 0 then
      let (clause, clauses, after) := useClauses depth rest
      ([], clause :: clauses, after)
    else
      let depth :=
        if t.isPunct openBrace then depth + 1 else if t.isPunct closeBrace then depth - 1 else depth
      let (clause, clauses, after) := useClauses depth rest
      (t :: clause, clauses, after)

/-- The alias that a clause sets and the name it stands for. The clause is divided at spaces: the
    first part is the name, the last part the alias; a single part sets its own last segment. -/
def aliasOf (clause : List Token) : String × String :=
  let parts := splitOnChar ' ' (trim (Reading.joined clause).toList)
  match parts with
  | first :: second :: later =>
    (String.ofList ((second :: later).getLast (by simp)), String.ofList first)
  | _ =>
    let name := parts.head?.getD []
    (String.ofList ((splitOnChar '\\' name).getLast?.getD []), String.ofList name)

/-- The aliases that a `use` statement sets, and the tokens after the statement (`_process_use`). -/
def readUse (ts : List Token) : List (String × String) × List Token :=
  let (clause, clauses, after) := useClauses 0 ts
  ((clause :: clauses).map aliasOf, after)

/-! ## Statements -/

/-- The kinds of statements that the pass acts on. -/
inductive Statement where
  | scope | use | interface | classDef | function | constant | inclusion
  deriving DecidableEq, Repr

/-- The statement that a token starts. -/
def statement? (t : Token) : Option Statement :=
  match t.kind with
  | some (.keyword .namespaceKw) => some .scope
  | some (.keyword .useKw) => some .use
  | some (.keyword .interfaceKw) => some .interface
  | some (.keyword .classKw) => some .classDef
  | some (.keyword .functionKw) => some .function
  | some (.keyword .constKw) => some .constant
  | some (.keyword .requireKw) | some (.keyword .requireOnceKw) | some (.keyword .includeKw)
  | some (.keyword .includeOnceKw) => some .inclusion
  | _ => none

/-- What comes of a statement: the events it reports, and the symbols and the cursor after it. -/
structure Handled where
  events : List Event
  result : Except Failure (Symbols × Cursor)

/-- Enters what a reader gives at a cursor: `enter` adds it to the symbols and reports it. -/
def handled (c : Cursor) (enter : α → List Event × Symbols) (n : Noted (α × List Token)) :
    Handled :=
  let notes := n.notes.map .docblockFailed
  match n.result with
  | .error failure => ⟨notes, .error failure⟩
  | .ok (a, rest) =>
    let (events, symbols) := enter a
    ⟨notes ++ events, .ok (symbols, c.moveTo rest)⟩

/-- Carries out the statement at a cursor, as `_process_namespace`, `_process_use`,
    `_process_class`, `_process_interface`, `_process_function`, `_process_constant` and
    `_process_include` do. -/
def handle (s : Symbols) (c : Cursor) : Statement → Handled
  | .scope =>
    let (scope, after) := readNamespace c
    ⟨[], .ok ({ s with scope := scope.getD s.scope }, after)⟩
  | .use =>
    let (aliases, after) := readUse c.rest.tail
    let table := aliases.foldl (fun table (name, target) => Table.put name target table) s.aliases
    ⟨[], .ok ({ s with aliases := table }, c.moveTo after)⟩
  | .interface =>
    handled c (fun d => ([.processed "interface" d.name d.line],
      { s with interfaces := s.interfaces.put d.name d })) (Reading.readInterface s.scope c)
  | .classDef =>
    handled c (fun
      | some d => ([.processed "class" d.name d.line],
          { s with classes := s.classes.put d.name d })
      | none => ([], s)) (Reading.readClass s.scope c)
  | .function =>
    handled c (fun
      | some d => ([.processed "function" d.name d.line],
          { s with functions := s.functions.put d.name d })
      | none => ([], s)) (Reading.readFunction s.scope c)
  | .constant =>
    handled c (fun d => ([.processed "constant" d.name d.line],
      { s with constants := s.constants.put d.name d })) (Reading.readConstant s.scope c)
  | .inclusion =>
    handled c (fun d => ([.processed "include" d.name d.line],
      { s with includes := s.includes ++ [d] })) (Reading.readInclude s.scope c)

/-! ## Progress -/

theorem namespaceParts_length (c : Cursor) :
    (namespaceParts c).2.rest.length ≤ c.rest.length := by
  fun_induction namespaceParts c with
  | case1 c after h =>
    have := (gotoWithin_length .name [";", openBrace] 5 c).1
    unfold Cursor.goto at h
    rw [show Int.toNat 5 = 5 from rfl] at h
    simpa [h] using this
  | case2 c t after h hlt parts last hrec ih =>
    simp only [hrec] at ih
    simp only
    omega

theorem readNamespace_length {c : Cursor} (hc : 0 < c.rest.length) :
    (readNamespace c).2.rest.length < c.rest.length := by
  have hparts := namespaceParts_length c
  unfold readNamespace
  split
  · split
    · simp only [Cursor.rest_advance, List.length_tail]
      omega
    · simp only [Cursor.rest_advance, List.length_tail]
      omega
  · simp only [Cursor.rest_advance, List.length_tail]
    omega

theorem useClauses_length (depth : Int) (ts : List Token) :
    (useClauses depth ts).2.2.length ≤ ts.length := by
  induction ts generalizing depth with
  | nil => simp [useClauses]
  | cons t r ih =>
    rw [useClauses]
    split
    · simp
    · split
      · exact Nat.le_succ_of_le (ih depth)
      · exact Nat.le_succ_of_le (ih _)

theorem readUse_length (ts : List Token) : (readUse ts).2.length ≤ ts.length :=
  useClauses_length 0 ts

theorem handled_length {α : Type} {c after : Cursor} {enter : α → List Event × Symbols}
    {n : Noted (α × List Token)} {s : Symbols}
    (hn : ∀ a rest, n.result = .ok (a, rest) → rest.length < c.rest.length)
    (h : (handled c enter n).result = .ok (s, after)) : after.rest.length < c.rest.length := by
  unfold handled at h
  simp only at h
  split at h
  · simp at h
  · rename_i a rest hres
    have hlt := hn a rest hres
    obtain ⟨_, rfl⟩ := by simpa using h
    rw [Cursor.length_rest_moveTo (by omega)]
    exact hlt

/-- A statement takes at least one token. -/
theorem handle_length {s s' : Symbols} {c after : Cursor} {st : Statement}
    (hc : 0 < c.rest.length) (h : (s.handle c st).result = .ok (s', after)) :
    after.rest.length < c.rest.length := by
  cases st with
  | scope =>
    have hlt := readNamespace_length hc
    obtain ⟨_, rfl⟩ := by simpa [handle] using h
    exact hlt
  | use =>
    have hle := readUse_length c.rest.tail
    obtain ⟨_, rfl⟩ := by simpa [handle] using h
    rw [List.length_tail] at hle
    rw [Cursor.length_rest_moveTo (by omega)]
    omega
  | interface => exact handled_length (fun _ _ => Reading.readInterface_length) h
  | classDef => exact handled_length (fun _ _ => Reading.readClass_length) h
  | function => exact handled_length (fun _ _ => Reading.readFunction_length) h
  | constant => exact handled_length (fun _ _ => Reading.readConstant_length) h
  | inclusion => exact handled_length (fun _ _ => Reading.readInclude_length) h

/-! ## The pass -/

/-- A pass that a statement breaks off: the error, the symbols that were collected before it, and
    the cursor where the statement could not be read on. -/
structure Halt where
  error : ParseError
  symbols : Symbols
  cursor : Cursor

/-- The symbols of the tokens from a cursor on, added to `s`, and the events on the way, as
    `_process_tokens` collects them. -/
def collect (s : Symbols) (c : Cursor) : List Event × Except Halt Symbols :=
  match hc : c.current with
  | none => ([], .ok s)
  | some t =>
    have hpos : 0 < c.rest.length := by
      cases hrest : c.rest with
      | nil => simp [Cursor.current, hrest] at hc
      | cons u r => simp
    match statement? t with
    | none =>
      have : c.advance.rest.length < c.rest.length := by
        rw [Cursor.rest_advance, List.length_tail]
        omega
      collect s c.advance
    | some st =>
      match h : s.handle c st with
      | ⟨events, .error failure⟩ =>
        (events, .error ⟨failure.error, s, c.moveTo failure.rest⟩)
      | ⟨events, .ok (s', after)⟩ =>
        have : after.rest.length < c.rest.length := handle_length hpos (by rw [h])
        let (later, result) := collect s' after
        (events ++ later, result)
termination_by c.rest.length

end Symbols

end PhpOutline
