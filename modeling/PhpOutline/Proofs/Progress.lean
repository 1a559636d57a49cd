import Mathlib.Tactic.Common
import PhpOutline.Proofs.Inversion
import PhpOutline.SourceFile

/-!
# Progress of the pass over a file

A pass that checks itself as it goes: every statement must start with its keyword, a list of
constants must have a first one, every statement must move the cursor forward, and no loop may take
more rounds than there are tokens. None of these checks ever fails, so reading a file ends, and it
fails only where lexing fails or where a declaration cannot be read.

Results:
* `handle_further`: a statement moves the cursor forward and within the tokens.
* `gatherConstants_eq`: the loop over a list of constants ends with a list that is not empty.
* `checkedCollect_eq`: the checks of the pass never fail.
* `SourceFile.State.reset_read`: all that reading changes is dropped by a reset.
* `SourceFile.State.process_of_error`, `SourceFile.State.process_of_ok`: a reading fails and leaves the
  file as it was, or it makes the outline of the source.
* `process_outcome`: how reading a file can end.
-/

namespace PhpOutline

/-! ## Moving forward -/

namespace Cursor

/-- The cursor `after` is over the same tokens as `c` and strictly further on. -/
structure Further (c after : Cursor) : Prop where
  toList_eq : after.toList = c.toList
  position_lt : c.position < after.position
  position_le : after.position ≤ c.size

theorem toList_skip (n : Nat) (c : Cursor) : (c.skip n).toList = c.toList := by
  induction n generalizing c with
  | zero => rfl
  | succ n ih => rw [skip, ih, toList_advance]

theorem skip_append (passed front rest : List Token) :
    (⟨passed, front ++ rest⟩ : Cursor).skip front.length = ⟨front.reverse ++ passed, rest⟩ := by
  induction front generalizing passed with
  | nil => rfl
  | cons t front ih =>
    rw [List.length_cons, skip, List.reverse_cons, List.append_assoc]
    exact ih (t :: passed)

theorem toList_moveTo (c : Cursor) (rest : List Token) : (c.moveTo rest).toList = c.toList :=
  toList_skip _ c

/-- Fewer tokens are left further on. -/
theorem further_of_length {c after : Cursor} (htoks : after.toList = c.toList)
    (hlt : after.rest.length < c.rest.length) : c.Further after := by
  have hsize : after.size = c.size := by rw [← length_toList, htoks, length_toList]
  refine ⟨htoks, ?_, hsize ▸ after.position_le_size⟩
  unfold size at hsize
  unfold position
  omega

end Cursor

namespace Symbols

theorem toList_namespaceParts (c : Cursor) : (namespaceParts c).2.toList = c.toList := by
  fun_induction namespaceParts c with
  | case1 c after h => rw [← Cursor.toList_goto c .name 5 [";", openBrace], h]
  | case2 c t after h hlt parts last hrec ih =>
    rw [hrec] at ih
    rw [← Cursor.toList_goto c .name 5 [";", openBrace], h]
    exact ih

theorem toList_readNamespace (c : Cursor) : (readNamespace c).2.toList = c.toList := by
  unfold readNamespace
  split
  · split
    · exact c.toList_advance
    · rw [Cursor.toList_advance, toList_namespaceParts]
  · rw [Cursor.toList_advance, toList_namespaceParts]

theorem toList_handled {α : Type} {c after : Cursor} {enter : α → List Event × Symbols}
    {n : Noted (α × List Token)} {s : Symbols}
    (h : (handled c enter n).result = .ok (s, after)) : after.toList = c.toList := by
  unfold handled at h
  simp only at h
  split at h
  · cases h
  · cases h
    exact c.toList_moveTo _

theorem toList_handle {s s' : Symbols} {c after : Cursor} {st : Statement}
    (h : (s.handle c st).result = .ok (s', after)) : after.toList = c.toList := by
  cases st with
  | scope =>
    cases h
    exact toList_readNamespace c
  | use =>
    cases h
    exact c.toList_moveTo _
  | interface | classDef | function | constant | inclusion => exact toList_handled h

/-- A statement moves the cursor forward, at most to the end of the tokens. -/
theorem handle_further {s s' : Symbols} {c after : Cursor} {st : Statement} {t : Token}
    (hc : c.current = some t) (h : (s.handle c st).result = .ok (s', after)) : c.Further after := by
  refine Cursor.further_of_length (toList_handle h) (handle_length ?_ h)
  exact List.length_pos_of_mem (List.mem_of_head? hc)

end Symbols

/-! ## Lists of constants -/

/-- What a pass that checks itself can find. -/
inductive PassFault where
  | parse (error : ParseError)
  | noKeyword
  | noConstant
  | stalled
  | endless
  deriving DecidableEq, Repr

namespace Reading

variable (scope : String) (line : Int) (doc : Option Docblock)

/-- The next constant of a list, whether a comma follows it, and the tokens after it. -/
def nextConstant (ts : List Token) : Except Failure (ConstantDecl × Bool × List Token) :=
  let (head, afterHead) := Reading.collect ["=", ";"] ts
  match (head.filter (!·.isTrivia)).getLast?, afterHead with
  | some name, sign :: afterSign =>
    if sign.isPunct "=" then
      let (value, afterValue) := Reading.collect [",", ";"] afterSign
      let constant : ConstantDecl := ⟨name.content, scope, name.line, doc, sourceText value⟩
      match afterValue with
      | [] => .ok (constant, false, [])
      | stop :: rest =>
        if stop.isPunct "," then .ok (constant, true, rest)
        else if stop.isPunct ";" then .ok (constant, false, rest)
        else .ok (constant, false, stop :: rest)
    else fail .noConstant line afterHead
  | _, _ => fail .noConstant line afterHead

/-- The constants of a list, gathered one after the other in at most `rounds` rounds. -/
def gatherConstants : (rounds : Nat) → List ConstantDecl → List Token →
    Except PassFault (List ConstantDecl × List Token)
  | 0, _, _ => .error .endless
  | n + 1, gathered, ts =>
    match nextConstant scope line doc ts with
    | .error e => .error (.parse e.error)
    | .ok (constant, true, rest) => gatherConstants n (gathered ++ [constant]) rest
    | .ok (constant, false, rest) => .ok (gathered ++ [constant], rest)

variable {scope line doc}

theorem readConstants_eq_next (ts : List Token) :
    readConstants scope line doc ts =
      match nextConstant scope line doc ts with
      | .error e => .error e
      | .ok (constant, true, rest) =>
        (readConstants scope line doc rest).map fun (first, others, rest) =>
          (constant, first :: others, rest)
      | .ok (constant, false, rest) => .ok (constant, [], rest) := by
  fun_cases readConstants scope line doc ts with
  | case1 | case2 | case3 | case4 | case5 | case6 =>
    simp +zetaDelta [nextConstant, Except.map, fail, *]
  | case7 head afterHead hhead _ hnone =>
    cases hname : (head.filter (!·.isTrivia)).getLast? with
    | none =>
      simp only [nextConstant, hhead, hname]
      rfl
    | some name =>
      cases afterHead with
      | nil =>
        simp only [nextConstant, hhead, hname]
        rfl
      | cons sign afterSign => exact (hnone name sign afterSign hhead hname rfl HEq.rfl).elim

theorem nextConstant_length {ts rest : List Token} {constant : ConstantDecl} {more : Bool}
    (h : nextConstant scope line doc ts = .ok (constant, more, rest)) :
    rest.length < ts.length := by
  have hhead := collect_length ["=", ";"] ts
  unfold nextConstant at h
  simp only at h
  split at h
  · rename_i name sign afterSign hname hsign
    rw [hsign, List.length_cons] at hhead
    have hvalue := collect_length [",", ";"] afterSign
    split_ifs at h with heq
    · split at h
      · cases h
        exact Nat.lt_of_le_of_lt (Nat.zero_le _) hhead
      · rename_i stop after hafter
        rw [hafter, List.length_cons] at hvalue
        split_ifs at h with hcomma hsemi
        · cases h
          omega
        · cases h
          omega
        · cases h
          rw [List.length_cons]
          omega
    · cases h
  · cases h

/-- The list that the loop gathers is the list that is read, and it has a first constant. -/
theorem gatherConstants_eq {rounds : Nat} {gathered : List ConstantDecl} {ts : List Token}
    (h : ts.length < rounds) :
    gatherConstants scope line doc rounds gathered ts =
      match readConstants scope line doc ts with
      | .error e => .error (.parse e.error)
      | .ok (first, others, rest) => .ok (gathered ++ first :: others, rest) := by
  induction rounds generalizing gathered ts with
  | zero => omega
  | succ n ih =>
    rw [gatherConstants, readConstants_eq_next]
    rcases hnext : nextConstant scope line doc ts with e | ⟨constant, _ | _, rest⟩
    · rfl
    · rfl
    · have hlt := nextConstant_length hnext
      simp only
      rw [ih (by omega)]
      rcases readConstants scope line doc rest with e | ⟨first, others, after⟩
      · rfl
      · simp [Except.map]

end Reading

/-! ## A pass that checks itself -/

namespace Symbols

/-- Carries out a statement with checks: the cursor is on its keyword, and a list of constants has
    a first one. -/
def checkedHandle (s : Symbols) (c : Cursor) (st : Statement) :
    Except PassFault (Symbols × Cursor) :=
  match c.rest with
  | [] => .error .noKeyword
  | t :: rest =>
    if statement? t = some st then
      match st with
      | .constant =>
        let doc := (Reading.attached (Reading.leadingComment c.passed)).2
        match Reading.gatherConstants s.scope t.line doc (rest.length + 1) [] rest with
        | .error fault => .error fault
        | .ok (constants, after) =>
          match constants[0]? with
          | none => .error .noConstant
          | some d => .ok ({ s with constants := s.constants.put d.name d }, c.moveTo after)
      | st => (s.handle c st).result.mapError fun failure => .parse failure.error
    else .error .noKeyword

/-- The pass over a file with checks, in at most `rounds` rounds: a statement moves the cursor
    forward, at most to the end of the tokens. -/
def checkedCollect : (rounds : Nat) → Symbols → Cursor → Except PassFault Symbols
  | 0, s, c => if c.atEnd then .ok s else .error .endless
  | n + 1, s, c =>
    match c.current with
    | none => .ok s
    | some t =>
      match statement? t with
      | none => checkedCollect n s c.advance
      | some st =>
        match s.checkedHandle c st with
        | .error fault => .error fault
        | .ok (s', after) =>
          if c.position < after.position ∧ after.position ≤ c.size then checkedCollect n s' after
          else .error .stalled

/-- The words that start a statement. -/
def Statement.words : Statement → List Keyword
  | .scope => [.namespaceKw]
  | .use => [.useKw]
  | .interface => [.interfaceKw]
  | .classDef => [.classKw]
  | .function => [.functionKw]
  | .constant => [.constKw]
  | .inclusion => Reading.includeWords

theorem statement?_eq_some_iff {t : Token} {st : Statement} :
    statement? t = some st ↔ st.words.any t.isKeyword = true := by
  unfold statement?
  split <;> cases st <;>
    simp_all [Statement.words, Reading.includeWords, Token.isKeyword]

/-- On the keyword of a statement the checks find nothing that the statement does not report. -/
theorem checkedHandle_eq {s : Symbols} {c : Cursor} {st : Statement} {t : Token}
    (hc : c.current = some t) (hst : statement? t = some st) :
    s.checkedHandle c st = (s.handle c st).result.mapError fun failure => .parse failure.error := by
  obtain ⟨rest, hrest⟩ := List.head?_eq_some_iff.1 hc
  unfold checkedHandle
  rw [hrest]
  simp only
  rw [if_pos hst]
  cases st with
  | constant =>
    simp only [handle, handled, Reading.readConstant_eq hrest (statement?_eq_some_iff.1 hst),
      Reading.readConstantFrom]
    rw [Reading.gatherConstants_eq (Nat.lt_succ_self _)]
    rcases Reading.readConstants s.scope t.line _ rest with e | ⟨first, others, after⟩ <;> rfl
  | scope | use | interface | classDef | function | inclusion => rfl

/-! ## Steps of the pass -/

theorem collect_of_end {s : Symbols} {c : Cursor} (hc : c.current = none) :
    s.collect c = ([], .ok s) := by
  rw [collect]
  split
  · rfl
  · rename_i hc'
    rw [hc] at hc'
    cases hc'

theorem collect_of_inert {s : Symbols} {c : Cursor} {t : Token} (hc : c.current = some t)
    (ht : statement? t = none) : s.collect c = s.collect c.advance := by
  rw [collect]
  split
  · rename_i hc'
    rw [hc] at hc'
    cases hc'
  · rename_i u hc'
    rw [hc] at hc'
    cases hc'
    simp only [ht]

theorem collect_of_statement {s : Symbols} {c : Cursor} {t : Token} {st : Statement}
    (hc : c.current = some t) (ht : statement? t = some st) :
    s.collect c =
      match (s.handle c st).result with
      | .error failure =>
        ((s.handle c st).events, .error ⟨failure.error, s, c.moveTo failure.rest⟩)
      | .ok (s', after) =>
        ((s.handle c st).events ++ (s'.collect after).1, (s'.collect after).2) := by
  rw [collect]
  split
  · rename_i hc'
    rw [hc] at hc'
    cases hc'
  · rename_i u hc'
    rw [hc] at hc'
    cases hc'
    simp only [ht]
    split
    · rename_i events e hhandle
      rw [hhandle]
    · rename_i events s' after hhandle
      rw [hhandle]

/-- The checks of the pass never fail, and as many rounds as there are tokens are enough. -/
theorem checkedCollect_eq {rounds : Nat} {s : Symbols} {c : Cursor} (h : c.rest.length ≤ rounds) :
    checkedCollect rounds s c = (s.collect c).2.mapError fun halt => .parse halt.error := by
  induction rounds generalizing s c with
  | zero =>
    have hrest : c.rest = [] := List.length_eq_zero_iff.1 (by omega)
    rw [checkedCollect, collect_of_end (by simp [Cursor.current, hrest])]
    simp [Cursor.atEnd, hrest, Except.mapError]
  | succ n ih =>
    rw [checkedCollect]
    cases hc : c.current with
    | none =>
      rw [collect_of_end hc]
      rfl
    | some t =>
      have hpos : 0 < c.rest.length := List.length_pos_of_mem (List.mem_of_head? hc)
      simp only
      cases hst : statement? t with
      | none =>
        rw [collect_of_inert hc hst]
        exact ih (by rw [Cursor.rest_advance, List.length_tail]; omega)
      | some st =>
        simp only
        rw [checkedHandle_eq hc hst, collect_of_statement hc hst]
        cases hresult : (s.handle c st).result with
        | error e => rfl
        | ok p =>
          obtain ⟨s', after⟩ := p
          have hfurther := handle_further hc hresult
          have hlt := handle_length hpos hresult
          simp only [Except.mapError]
          rw [if_pos ⟨hfurther.position_lt, hfurther.position_le⟩]
          exact ih (by omega)

theorem docblockFailed_mem_handled {α : Type} {c : Cursor} {enter : α → List Event × Symbols}
    {n : Noted (α × List Token)} {e : DocblockError} (he : e ∈ n.notes) :
    .docblockFailed e ∈ (handled c enter n).events := by
  have hmem : Event.docblockFailed e ∈ n.notes.map .docblockFailed := List.mem_map.2 ⟨e, he, rfl⟩
  unfold handled
  split
  · exact hmem
  · exact List.mem_append_left _ hmem

/-- A doc comment before a declaration that cannot be read is reported, whatever comes of the
    declaration. -/
theorem docblockFailed_mem_handle {s : Symbols} {c : Cursor} {st : Statement} {t : Token}
    {e : DocblockError} (hc : c.current = some t) (hst : statement? t = some st)
    (hdecl : st ≠ .scope ∧ st ≠ .use)
    (he : e ∈ (Reading.attached (Reading.leadingComment c.passed)).1) :
    .docblockFailed e ∈ (s.handle c st).events := by
  obtain ⟨rest, hrest⟩ := List.head?_eq_some_iff.1 hc
  have ht := statement?_eq_some_iff.1 hst
  cases st with
  | scope => exact absurd rfl hdecl.1
  | use => exact absurd rfl hdecl.2
  | interface =>
    refine docblockFailed_mem_handled ?_
    rw [Reading.readInterface_eq hrest ht]
    exact List.mem_append_left _ he
  | classDef =>
    refine docblockFailed_mem_handled ?_
    rw [Reading.readClass_eq hrest ht]
    exact List.mem_append_left _ he
  | function =>
    refine docblockFailed_mem_handled ?_
    rw [Reading.readFunction_eq hrest ht]
    exact he
  | constant =>
    refine docblockFailed_mem_handled ?_
    rw [Reading.readConstant_eq hrest ht]
    exact he
  | inclusion =>
    refine docblockFailed_mem_handled ?_
    rw [Reading.readInclude_eq hrest ht]
    exact he

end Symbols

/-! ## Reading a file -/

/-- The outline that reading a source text makes of nothing. -/
def Outline.ofSource (path contents : String) (terms : List String) :
    Except ProcessError Outline :=
  match lex contents with
  | .error e => .error (.lex e)
  | .ok ts =>
    match (Symbols.collect {} (.ofList ts)).2 with
    | .error halt => .error (.parse halt.error)
    | .ok symbols => .ok ⟨symbols, Marker.scan terms contents, (Outline.fileDocblock ts).2,
        Outline.openingDiagnostics path ts⟩

namespace Outline

variable {path contents : String} {terms : List String} {ts : List Token}

theorem ofSource_of_lex_error {e : LexError} (hlex : lex contents = .error e) :
    ofSource path contents terms = .error (.lex e) := by
  rw [ofSource, hlex]

theorem ofSource_of_halt {halt : Symbols.Halt} (hlex : lex contents = .ok ts)
    (h : (Symbols.collect {} (.ofList ts)).2 = .error halt) :
    ofSource path contents terms = .error (.parse halt.error) := by
  rw [ofSource, hlex]
  simp only
  rw [h]

theorem ofSource_of_symbols {symbols : Symbols} (hlex : lex contents = .ok ts)
    (h : (Symbols.collect {} (.ofList ts)).2 = .ok symbols) :
    ofSource path contents terms = .ok ⟨symbols, Marker.scan terms contents, (fileDocblock ts).2,
      openingDiagnostics path ts⟩ := by
  rw [ofSource, hlex]
  simp only
  rw [h]

end Outline

namespace SourceFile

namespace State

variable {s : State}

theorem read_of_lex_error {e : LexError} (hstream : s.stream? = none)
    (hlex : lex s.contents = .error e) : s.read = ⟨[], some (.lex e), s⟩ := by
  unfold read initializeTokens
  rw [hstream, hlex]

/-- A file without a stream is read from its first token on. -/
theorem read_of_lex_ok {ts : List Token} (hstream : s.stream? = none)
    (hlex : lex s.contents = .ok ts) :
    s.read =
      let opened : State := { s with stream? := some (.ofList ts) }
      let out := (opened.describe (.ofList ts)).2.pass (.ofList ts)
      { out with
        events := .tokensFound s.path ts.length :: Outline.openingEvents s.path ts ++ out.events } := by
  unfold read initializeTokens
  rw [hstream, hlex]
  rfl

theorem pass_of_halt {c : Cursor} {halt : Symbols.Halt}
    (h : (s.outline.symbols.collect c).2 = .error halt) :
    (s.pass c).error? = some (.parse halt.error) := by
  unfold pass
  split
  next hcollect =>
    rw [hcollect] at h
    cases h
    rfl
  next hcollect =>
    rw [hcollect] at h
    cases h

theorem pass_of_ok {c : Cursor} {symbols : Symbols}
    (h : (s.outline.symbols.collect c).2 = .ok symbols) :
    (s.pass c).error? = none ∧ (s.pass c).state =
      { s with stream? := some (c.moveTo []), outline := { s.outline with symbols } } := by
  unfold pass
  split
  next hcollect =>
    rw [hcollect] at h
    cases h
  next hcollect =>
    rw [hcollect] at h
    cases h
    exact ⟨rfl, rfl⟩

/-- All that a pass over the tokens changes is dropped by a reset. -/
theorem reset_pass (s : State) (c : Cursor) : (s.pass c).state.reset = s.reset := by
  unfold pass
  split
  · rfl
  · rfl

/-- All that reading changes is dropped by a reset. -/
theorem reset_read (s : State) : s.read.state.reset = s.reset := by
  unfold read initializeTokens
  cases s.stream? with
  | some c => exact reset_pass _ c
  | none =>
    cases lex s.contents with
    | error e => rfl
    | ok ts => exact reset_pass _ _

theorem reset_of_unread (h : s.Idle) (hunread : s.isProcessed = false) : s.reset = s := by
  obtain ⟨path, contents, digest, terms, stream?, outline, isProcessed⟩ := s
  obtain ⟨rfl, houtline⟩ := h
  obtain rfl : outline = {} := houtline hunread
  rfl

theorem process_of_read_error {e : ProcessError} (hunread : s.isProcessed = false)
    (h : s.read.error? = some e) :
    s.process = { s.read with state := s.read.state.reset } := by
  unfold process
  rw [hunread, if_neg Bool.false_ne_true]
  simp only [h]

theorem process_of_read_ok (hunread : s.isProcessed = false) (h : s.read.error? = none) :
    s.process =
      { s.read with state := { s.read.state with stream? := none, isProcessed := true } } := by
  unfold process
  rw [hunread, if_neg Bool.false_ne_true]
  simp only [h]

/-- Reading a file that nothing is known of fails as making its outline does. -/
theorem read_of_error {e : ProcessError} (hstream : s.stream? = none) (hempty : s.outline = {})
    (h : Outline.ofSource s.path s.contents s.terms = .error e) : s.read.error? = some e := by
  cases hlex : lex s.contents with
  | error cause =>
    rw [Outline.ofSource_of_lex_error hlex] at h
    rw [read_of_lex_error hstream hlex]
    cases h
    rfl
  | ok ts =>
    rw [read_of_lex_ok hstream hlex]
    cases hcollect : (Symbols.collect {} (.ofList ts)).2 with
    | error halt =>
      rw [Outline.ofSource_of_halt hlex hcollect] at h
      cases h
      exact pass_of_halt (by rw [describe, hempty, hcollect])
    | ok symbols =>
      rw [Outline.ofSource_of_symbols hlex hcollect] at h
      cases h

/-- Reading a file that nothing is known of fills in the outline of its source. -/
theorem read_of_ok {outline : Outline} (hstream : s.stream? = none) (hempty : s.outline = {})
    (h : Outline.ofSource s.path s.contents s.terms = .ok outline) :
    s.read.error? = none ∧
      s.read.state = { s with stream? := s.read.state.stream?, outline } := by
  cases hlex : lex s.contents with
  | error cause =>
    rw [Outline.ofSource_of_lex_error hlex] at h
    cases h
  | ok ts =>
    rw [read_of_lex_ok hstream hlex]
    cases hcollect : (Symbols.collect {} (.ofList ts)).2 with
    | error halt =>
      rw [Outline.ofSource_of_halt hlex hcollect] at h
      cases h
    | ok symbols =>
      rw [Outline.ofSource_of_symbols hlex hcollect] at h
      cases h
      obtain ⟨herror, hstate⟩ :=
        @pass_of_ok (describe { s with stream? := some (.ofList ts) } (.ofList ts)).2 (.ofList ts)
          symbols (by rw [describe, hempty, hcollect])
      refine ⟨herror, ?_⟩
      simp only [hstate]
      simp only [describe, hempty, List.nil_append]
      rfl

/-- A file that cannot be read is left as it was: the reset drops the tokens and all that was found
    in them before the error. -/
theorem process_of_error {e : ProcessError} (hidle : s.Idle) (hunread : s.isProcessed = false)
    (h : Outline.ofSource s.path s.contents s.terms = .error e) :
    s.process.error? = some e ∧ s.process.state = s := by
  have hread := read_of_error hidle.1 (hidle.2 hunread) h
  rw [process_of_read_error hunread hread]
  exact ⟨hread, (reset_read s).trans (reset_of_unread hidle hunread)⟩

/-- A file that can be read has the outline of its source. -/
theorem process_of_ok {outline : Outline} (hidle : s.Idle) (hunread : s.isProcessed = false)
    (h : Outline.ofSource s.path s.contents s.terms = .ok outline) :
    s.process.error? = none ∧ s.process.state = { s with outline, isProcessed := true } := by
  obtain ⟨hread, hstate⟩ := read_of_ok hidle.1 (hidle.2 hunread) h
  rw [process_of_read_ok hunread hread]
  refine ⟨hread, ?_⟩
  rw [hstate, ← hidle.1]

end State

variable {f : SourceFile}

/-- Files at rest with the same state are the same. -/
theorem eq_of_toState {f g : SourceFile} (h : f.toState = g.toState) : f = g := by
  obtain ⟨s, hs⟩ := f
  obtain ⟨t, ht⟩ := g
  cases h
  rfl

theorem State.outline?_eq_none_iff {s : State} : s.outline? = none ↔ s.isProcessed = false := by
  cases h : s.isProcessed <;> simp [State.outline?, h]

theorem process_of_error {e : ProcessError} (hunread : f.isProcessed = false)
    (h : Outline.ofSource f.path f.contents f.terms = .error e) :
    f.process.error? = some e ∧ f.process.file = f := by
  obtain ⟨herror, hstate⟩ := State.process_of_error f.idle hunread h
  exact ⟨herror, eq_of_toState hstate⟩

theorem process_of_ok {outline : Outline} (hunread : f.isProcessed = false)
    (h : Outline.ofSource f.path f.contents f.terms = .ok outline) :
    f.process.error? = none ∧
      f.process.file.toState = { f.toState with outline, isProcessed := true } :=
  State.process_of_ok f.idle hunread h

end SourceFile

open Symbols in
/-- How reading a file that has not been read can end: lexing fails, or the pass over the tokens
    fails at a declaration, or there is an outline. The pass is the one that checks itself, in as
    many rounds as there are tokens, so none of its checks fails; at no cursor on the keyword of a
    statement does a check fail. Doc comments that cannot be read are reported and stop nothing. -/
theorem process_outcome (path contents : String) (digest : Option String) (terms : List String) :
    let f : SourceFile := { path, contents, digest, terms }
    ((∃ e, lex contents = .error e ∧ f.process.error? = some (.lex e) ∧ f.process.file = f) ∨
      ∃ ts, lex contents = .ok ts ∧
        ((∃ e, checkedCollect ts.length {} (.ofList ts) = .error (.parse e) ∧
            f.process.error? = some (.parse e) ∧ f.process.file = f) ∨
          ∃ symbols outline, checkedCollect ts.length {} (.ofList ts) = .ok symbols ∧
            f.process.error? = none ∧
            f.process.file.toState = { f.toState with outline, isProcessed := true } ∧
            outline.symbols = symbols ∧ outline.markers = Marker.scan terms contents ∧
            outline.docblock = (Outline.fileDocblock ts).2 ∧
            ∀ e, (Outline.fileDocblock ts).1 = some e →
              .docblockFailed e ∈ outline.diagnostics)) ∧
    ∀ (s : Symbols) (c : Cursor) (t : Token) (st : Statement),
      c.current = some t → statement? t = some st →
        ((∃ e, s.checkedHandle c st = .error (.parse e)) ∨
          ∃ s' after, s.checkedHandle c st = .ok (s', after) ∧ c.Further after) ∧
        (st ≠ .scope ∧ st ≠ .use →
          ∀ e ∈ (Reading.attached (Reading.leadingComment c.passed)).1,
            .docblockFailed e ∈ (s.handle c st).events) := by
  intro f
  refine ⟨?_, fun s c t st hc hst =>
    ⟨?_, fun hdecl e he => docblockFailed_mem_handle hc hst hdecl he⟩⟩
  · cases hlex : lex contents with
    | error e => exact .inl ⟨e, rfl, f.process_of_error rfl (Outline.ofSource_of_lex_error hlex)⟩
    | ok ts =>
      have hchecked : checkedCollect ts.length {} (.ofList ts) = _ :=
        checkedCollect_eq (Nat.le_refl ts.length)
      refine .inr ⟨ts, rfl, ?_⟩
      cases hcollect : (Symbols.collect {} (.ofList ts)).2 with
      | error halt =>
        rw [hcollect] at hchecked
        exact .inl ⟨halt.error, hchecked,
          f.process_of_error rfl (Outline.ofSource_of_halt hlex hcollect)⟩
      | ok symbols =>
        rw [hcollect] at hchecked
        obtain ⟨herror, hfile⟩ := f.process_of_ok rfl (Outline.ofSource_of_symbols hlex hcollect)
        refine .inr ⟨symbols, _, hchecked, herror, hfile, rfl, rfl, rfl, fun e he => ?_⟩
        simp [Outline.openingDiagnostics, he]
  · rw [checkedHandle_eq hc hst]
    cases hresult : (s.handle c st).result with
    | error failure => exact .inl ⟨failure.error, rfl⟩
    | ok p => exact .inr ⟨p.1, p.2, rfl, handle_further hc hresult⟩

open Symbols in
/-- A list of constants after a doc comment that cannot be read. -/
theorem process_outcome_constants :
    let keyword : Token := ⟨some (.keyword .constKw), "const", 2⟩
    let c : Cursor := ⟨[⟨some .whitespace, "\n", 1⟩, ⟨some .docComment, "/** @! */", 1⟩],
      [keyword, ⟨some .whitespace, " ", 2⟩, ⟨some .name, "A", 2⟩, ⟨none, "=", 2⟩,
        ⟨some .integer, "1", 2⟩, ⟨none, ",", 2⟩, ⟨some .name, "B", 2⟩, ⟨none, "=", 2⟩,
        ⟨some .integer, "2", 2⟩]⟩
    c.current = some keyword ∧ statement? keyword = some .constant ∧
      (∃ e, e ∈ (Reading.attached (Reading.leadingComment c.passed)).1 ∧
        .docblockFailed e ∈ (handle {} c .constant).events) ∧
      ((∃ e, checkedHandle {} c .constant = .error (.parse e)) ∨
        ∃ s after, checkedHandle {} c .constant = .ok (s, after) ∧ c.Further after) := by
  intro keyword c
  have h := (process_outcome "a.php" "" none []).2 {} c keyword .constant rfl rfl
  refine ⟨rfl, rfl, ⟨⟨.malformedTag "@!", 1⟩, by decide +kernel, ?_⟩, h.1⟩
  exact h.2 (by decide) _ (by decide +kernel)

end PhpOutline
