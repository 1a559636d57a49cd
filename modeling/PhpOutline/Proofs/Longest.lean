import PhpOutline.Proofs.LexemesAreWords

/-!
# Tokens are as long as they can be

A word of the language often starts with a shorter word of its kind. What is cut off is the longest:
white space takes all white space, a name all characters of names, a sign is not the start of a
longer operator, and a line comment runs to the end of its line or to a closing tag. Whether a name
is a keyword depends on the tokens before it, since after a member access it names a member.

Results:
* `code_stops`: the text after a lexeme does not continue it.
* `wordKind_eq_keyword_iff`: the names that are keywords.
* `Scan.stops`: no token of a run could be longer.
* `Scan.afterAccess_eq`: the tokens that put a run after a member access.
* `lex_longestWords`: every token of a source text is a word of its kind and as long as it can be.
-/

namespace PhpOutline

open PhpOutline.Text PhpOutline.Reading

/-! ## The text after a lexeme -/

namespace Lexeme

/-- The text `rest` does not continue the word `w` of some kind. -/
def Stops (w rest : List Char) : Option Kind → Prop
  | some .whitespace => ∀ c ∈ rest.head?, isWhitespace c = false
  | some .name | some .variable | some (.keyword _) => ∀ c ∈ rest.head?, isIdentPart c = false
  | some .comment =>
    IsLineComment w → w.getLast? = some '\n' ∨ rest = [] ∨ ['?', '>'] <+: rest
  | some (.operator _) | none =>
    ∀ s ∈ Operator.spellings, s.1.toList <+: w ++ rest → s.1.length ≤ w.length
  | _ => True

/-- A line comment ends with its line, before a closing tag or with the text. -/
theorem lineComment_stops (c : Char) (r : List Char) :
    Stops (c :: r.take (lineCommentLength r)) (r.drop (lineCommentLength r)) (some .comment) := by
  rintro -
  obtain ⟨-, -, hend⟩ := lineCommentLength_spec r
  refine hend.imp_left fun hlast => ?_
  rw [List.getLast?_cons, hlast]
  rfl

theorem not_isLineComment_of_star {w : List Char} : ¬ IsLineComment ('/' :: '*' :: w) := by
  intro h
  rcases h.opening with ⟨rest, hrest⟩ | ⟨rest, hrest⟩ <;> cases hrest

/-- No longer operator starts where a sign stands. -/
theorem sign_stops {c : Char} {r : List Char} :
    Stops (c :: r.take (sign c r).2) (r.drop (sign c r).2) (sign c r).1 := by
  have htext (n : Nat) : c :: r.take n ++ r.drop n = c :: r := by
    rw [List.cons_append, List.take_append_drop]
  unfold sign
  split
  · trivial
  · split
    · rename_i o n hfound
      intro s hs hinitial
      rw [htext] at hinitial
      have hlongest := (operator?_spec hfound).2 s hs hinitial
      have hn := operator?_le hfound
      rw [List.length_cons] at hn ⊢
      rw [List.length_take_of_le (by omega)]
      omega
    · rename_i hnone
      intro s hs hinitial
      rw [htext] at hinitial
      exact absurd hinitial (operator?_eq_none_iff.1 hnone s hs)

/-- The text after a lexeme of code does not continue it. -/
theorem code_stops {afterAccess : Bool} {c : Char} {r : List Char} {kind : Option Kind} {n : Nat}
    (h : code afterAccess c r = .ok (kind, n)) : Stops (c :: r.take n) (r.drop n) kind := by
  have hconstruct := code_construct afterAccess c r
  rw [h] at hconstruct
  cases hconstruct with
  | whitespace => exact head?_drop_runLength isWhitespace r
  | @blockComment m hopen =>
    obtain ⟨rfl, hstar⟩ := hopen
    obtain ⟨r, rfl⟩ := List.head?_eq_some_iff.1 hstar
    split
    · trivial
    · intro hline
      rw [Nat.add_comm, List.take_succ_cons] at hline
      exact absurd hline not_isLineComment_of_star
  | lineComment => exact lineComment_stops c r
  | dollarWord => exact head?_drop_runLength isIdentPart r
  | word =>
    rcases wordKind_cases afterAccess (c :: r.take (runLength isIdentPart r)) with
      hkind | ⟨k, hkind⟩
    · rw [hkind]
      exact head?_drop_runLength isIdentPart r
    · rw [hkind]
      exact head?_drop_runLength isIdentPart r
  | number => rcases number_kind c r with hkind | hkind <;> rw [hkind] <;> trivial
  | sign => exact sign_stops
  | _ => trivial

theorem markup_stops (c : Char) (r : List Char) :
    Stops (c :: r.take (markup c r).2) (r.drop (markup c r).2) (some (markup c r).1) := by
  rcases markup_kind c r with hkind | hkind | hkind <;> rw [hkind] <;> trivial

/-! ## Keywords -/

/-- The kind of a word, as a name or as a keyword. -/
def isNamed (kind : Kind) : Bool :=
  match kind with
  | .name | .keyword _ => true
  | _ => false

/-- A word is a keyword if its lower-case form is in the table, but for members. -/
theorem wordKind_eq_keyword_iff {afterAccess : Bool} {word : List Char} {k : Keyword} :
    wordKind afterAccess word = .keyword k ↔
      lower word = k.spelling.toList ∧ afterAccess = false := by
  have hall : (Keyword.all.all fun k => Keyword.ofSpelling? k.spelling == some k) = true := by
    decide +kernel
  constructor
  · intro h
    refine ⟨wordKind_eq_keyword h, Bool.eq_false_iff.2 fun haccess => ?_⟩
    rw [wordKind, if_pos haccess] at h
    cases h
  · rintro ⟨hword, rfl⟩
    have hk := beq_iff_eq.1 (List.all_eq_true.1 hall k k.mem_all)
    rw [wordKind, if_neg Bool.false_ne_true, hword, String.ofList_toList, hk]

/-- Only the rule for words makes names and keywords. -/
theorem code_named {afterAccess : Bool} {c : Char} {r : List Char} {kind : Option Kind} {n : Nat}
    (h : code afterAccess c r = .ok (kind, n)) (hkind : kind.any isNamed = true) :
    kind = some (wordKind afterAccess (c :: r.take n)) := by
  have hconstruct := code_construct afterAccess c r
  rw [h] at hconstruct
  cases hconstruct with
  | blockComment => split at hkind <;> cases hkind
  | word => rfl
  | number => rcases number_kind c r with hnumber | hnumber <;> rw [hnumber] at hkind <;> cases hkind
  | sign =>
    rcases sign_kind c r with hsign | hsign | ⟨o, hsign⟩ <;> rw [hsign] at hkind <;> cases hkind
  | _ => cases hkind

end Lexeme

namespace LexState

variable {st : LexState} {c : Char} {r : List Char} {kind : Option Kind} {n : Nat}

theorem lexeme_stops (h : st.lexeme c r = .ok (kind, n)) :
    Lexeme.Stops (c :: r.take n) (r.drop n) kind := by
  unfold lexeme at h
  split at h
  · exact Lexeme.code_stops h
  · cases h
    exact Lexeme.markup_stops c r

theorem lexeme_named (h : st.lexeme c r = .ok (kind, n)) (hkind : kind.any Lexeme.isNamed = true) :
    kind = some (Lexeme.wordKind st.afterAccess (c :: r.take n)) := by
  unfold lexeme at h
  split at h
  · exact Lexeme.code_named h hkind
  · have hmarkup : some (Lexeme.markup c r).1 = kind := (Prod.mk.inj (Except.ok.inj h)).1
    rw [← hmarkup] at hkind
    rcases Lexeme.markup_kind c r with hmarkup | hmarkup | hmarkup <;>
      rw [hmarkup] at hkind <;> cases hkind

end LexState

/-! ## Member accesses -/

/-- The sign of a member access. -/
def Token.isAccess (t : Token) : Bool :=
  [some (.operator .arrow), some (.operator .nullsafeArrow), some (.operator .doubleColon)].contains
    t.kind

/-- The nearest token before some place that is neither white space nor a comment. -/
def nearestSolid? (before : List Token) : Option Token := before.reverse.find? fun t => !t.isTrivia

theorem nearestSolid?_cons (t : Token) (ts : List Token) :
    nearestSolid? (t :: ts) = (nearestSolid? ts).or (if t.isTrivia then none else some t) := by
  rw [nearestSolid?, List.reverse_cons, List.find?_append, List.find?_singleton]
  cases t.isTrivia <;> rfl

theorem LexState.afterAccess_next (st : LexState) (t : Token) (content : List Char) :
    (st.next t.kind content).afterAccess = if t.isTrivia then st.afterAccess else t.isAccess := by
  show (if t.isTrivia then st.afterAccess else _) = _
  split
  · rfl
  · unfold Token.isAccess
    split
    · rename_i o hkind
      rw [hkind]
      cases o <;> rfl
    · rename_i hkind
      refine (Bool.eq_false_iff.2 fun hmem => ?_).symm
      rcases (by simpa using hmem) with hop | hop | hop <;> exact hkind _ hop

namespace Scan

variable {st after : LexState} {cs rest : List Char} {before later : List Token} {t u : Token}

/-- A run is after a member access if its nearest token that is not trivia is one. -/
theorem afterAccess_eq {ts : List Token} (h : Scan st cs ts after rest) :
    after.afterAccess = (nearestSolid? ts).elim st.afterAccess Token.isAccess := by
  induction h with
  | stop st cs => rfl
  | @token st after c r rest kind n later hlexeme _ ih =>
    have hnext := st.afterAccess_next ⟨kind, String.ofList (c :: r.take n), st.line⟩ (c :: r.take n)
    rw [ih, nearestSolid?_cons]
    -- a later token that is not trivia decides; without one it is this token or the state before
    cases nearestSolid? later with
    | some p => rfl
    | none =>
      rw [Option.none_or, Option.elim_none, hnext]
      split <;> rfl

/-- No token of a run could be longer. -/
theorem stops (h : Scan st cs (before ++ t :: later) after rest) :
    Lexeme.Stops t.content.toList ((joined later).toList ++ rest) t.kind := by
  obtain ⟨mid, c, r, n, -, hlexeme, -, hcontent, hback⟩ := h.exists_lexeme
  rw [hcontent, hback.joined_append]
  exact LexState.lexeme_stops hlexeme

theorem isWord (h : Scan st cs (before ++ t :: later) after rest) :
    Lexeme.IsWord t.kind t.content.toList := by
  obtain ⟨mid, c, r, n, -, hlexeme, -, hcontent, -⟩ := h.exists_lexeme
  rw [hcontent]
  exact LexState.lexeme_isWord hlexeme

/-- In code, a closing tag is taken as one. -/
theorem closeTag_of_signs (h : Scan st cs (t :: later) after rest) (hcode : st.inCode = true)
    (hsigns : ['?', '>'] <+: cs) : t.kind = some .closeTag := by
  obtain ⟨v, rfl⟩ := hsigns
  cases h with
  | token hlexeme _ =>
    rw [LexState.lexeme, if_pos hcode, (Lexeme.Construct.closeTag ⟨rfl, rfl⟩).code_eq] at hlexeme
    exact (Prod.mk.inj (Except.ok.inj hlexeme)).1.symm

/-- White space is not followed by white space. -/
theorem kind_ne_of_whitespace (h : Scan st cs (before ++ t :: u :: later) after rest)
    (ht : t.kind = some .whitespace) : u.kind ≠ some .whitespace := by
  intro hu
  have hstops := h.stops
  rw [List.append_cons] at h
  have hword := h.isWord
  rw [ht] at hstops
  rw [hu] at hword
  obtain ⟨c, r, hcontent⟩ := List.exists_cons_of_ne_nil hword.1
  rw [toList_joined_cons, hcontent] at hstops
  -- the first character of the second token would have been taken by the first
  have hall : [' ', '\t', '\r', '\n', '\x0c', '\x0b'].all Lexeme.isWhitespace = true := by decide
  have hspace := List.all_eq_true.1 hall c (hword.2 c (by rw [hcontent]; exact List.mem_cons_self))
  rw [hstops c rfl] at hspace
  cases hspace

/-- After a name no character of names follows. -/
theorem not_isIdentPart_of_ident (h : Scan st cs (before ++ t :: u :: later) after rest)
    (ht : t.kind = some .name ∨ t.kind = some .variable ∨ ∃ k, t.kind = some (.keyword k)) :
    ∀ c ∈ u.content.toList.head?, Lexeme.isIdentPart c = false := by
  intro c hc
  have hstops := h.stops
  have hhead : c ∈ ((joined (u :: later)).toList ++ rest).head? := by
    rw [toList_joined_cons, List.append_assoc, List.head?_append, hc]
    rfl
  rcases ht with ht | ht | ⟨k, ht⟩
  · rw [ht] at hstops
    exact hstops c hhead
  · rw [ht] at hstops
    exact hstops c hhead
  · rw [ht] at hstops
    exact hstops c hhead

/-- A line comment that its line does not end stands before a closing tag or at the end. -/
theorem after_lineComment (h : Scan st cs (before ++ t :: later) after [])
    (ht : t.kind = some .comment) (hline : Lexeme.IsLineComment t.content.toList) :
    t.content.toList.getLast? = some '\n' ∨ later = [] ∨
      ∃ u ∈ later.head?, u.kind = some .closeTag := by
  obtain ⟨mid, c, r, n, -, hlexeme, -, hcontent, hback⟩ := h.exists_lexeme
  have hstops := LexState.lexeme_stops hlexeme
  rw [hcontent] at hline ⊢
  rw [ht] at hstops hback
  refine (hstops hline).imp_right ?_
  cases later with
  | nil => exact fun _ => .inl rfl
  | cons u later =>
    rintro (hend | hsigns)
    · rw [hend] at hback
      cases hback
    · exact .inr ⟨u, rfl, hback.closeTag_of_signs rfl hsigns⟩

/-- A name is a keyword unless it names a member. -/
theorem keyword_iff (h : Scan .start cs (before ++ t :: later) after rest)
    (ht : t.kind.any Lexeme.isNamed = true) (k : Keyword) :
    t.kind = some (.keyword k) ↔
      lowered t.content = k.spelling ∧ ¬ ∃ p ∈ nearestSolid? before, p.isAccess = true := by
  obtain ⟨mid, c, r, n, hfront, hlexeme, -, hcontent, -⟩ := h.exists_lexeme
  have hkind := LexState.lexeme_named hlexeme ht
  have haccess : mid.afterAccess = false ↔ ¬ ∃ p ∈ nearestSolid? before, p.isAccess = true := by
    rw [hfront.afterAccess_eq]
    cases nearestSolid? before with
    | none => simp [LexState.start]
    | some p => simp
  rw [hkind, Option.some_inj, Lexeme.wordKind_eq_keyword_iff, haccess, ← hcontent, lowered,
    ← String.toList_inj, String.toList_ofList]

end Scan

/-! ## Source texts -/

/-- Every token is a word of its kind, and as long as it can be. The conditions are on a token `t`
    between the tokens before it and the tokens after it: white space and names end where the next
    token starts, a sign is no part of a longer operator, and a line comment that its line does not
    end stands before a closing tag or at the end of the text. A word is a keyword if it is in the
    table and the nearest token before it, trivia aside, is no member access. -/
structure LongestWords (ts : List Token) : Prop where
  isWord : ∀ t ∈ ts, Lexeme.IsWord t.kind t.content.toList
  whitespace : ∀ before t u later, ts = before ++ t :: u :: later →
    t.kind = some .whitespace → u.kind ≠ some .whitespace
  ident : ∀ before t u later, ts = before ++ t :: u :: later →
    t.kind = some .name ∨ t.kind = some .variable ∨ (∃ k, t.kind = some (.keyword k)) →
    ∀ c ∈ u.content.toList.head?, Lexeme.isIdentPart c = false
  keyword : ∀ before t later, ts = before ++ t :: later →
    t.kind = some .name ∨ (∃ k, t.kind = some (.keyword k)) → ∀ k, t.kind = some (.keyword k) ↔
      lowered t.content = k.spelling ∧ ¬ ∃ p ∈ nearestSolid? before, p.isAccess = true
  sign : ∀ before t later, ts = before ++ t :: later →
    t.kind = none ∨ (∃ o, t.kind = some (.operator o)) → ∀ s ∈ Operator.spellings,
      s.1.toList <+: (joined (t :: later)).toList → s.1.length ≤ t.content.length
  lineComment : ∀ before t later, ts = before ++ t :: later →
    t.kind = some .comment → Lexeme.IsLineComment t.content.toList →
    t.content.toList.getLast? = some '\n' ∨ later = [] ∨
      ∃ u ∈ later.head?, u.kind = some .closeTag

/-- The tokens of a source text are words of their kinds and as long as they can be. -/
theorem lex_longestWords {source : String} {ts : List Token} (hlex : lex source = .ok ts) :
    LongestWords ts := by
  obtain ⟨last, hscan⟩ := lexFrom_eq_ok_iff.1 hlex
  constructor
  · intro t ht
    obtain ⟨before, later, rfl⟩ := List.append_of_mem ht
    exact hscan.isWord
  · rintro before t u later rfl ht
    exact hscan.kind_ne_of_whitespace ht
  · rintro before t u later rfl ht
    exact hscan.not_isIdentPart_of_ident ht
  · rintro before t later rfl ht
    refine hscan.keyword_iff ?_
    rcases ht with ht | ⟨k, ht⟩ <;> rw [ht] <;> rfl
  · rintro before t later rfl ht s hs hinitial
    have hstops := hscan.stops
    rw [List.append_nil] at hstops
    rw [toList_joined_cons] at hinitial
    rw [← String.length_toList]
    rcases ht with ht | ⟨o, ht⟩
    · rw [ht] at hstops
      exact hstops s hs hinitial
    · rw [ht] at hstops
      exact hstops s hs hinitial
  · rintro before t later rfl ht hline
    exact hscan.after_lineComment ht hline

/-- A member with the name of a keyword, a keyword in capitals, an escaped quote, the longest of
    several operators and a comment before a closing tag. -/
theorem lex_longestWords_member :
    let source := "<?php $o->/**/class;\nNEW X1!=='\\'' #e?>"
    let ts : List Token :=
      [⟨some .openTag, "<?php ", 1⟩, ⟨some .variable, "$o", 1⟩, ⟨some (.operator .arrow), "->", 1⟩,
       ⟨some .comment, "/**/", 1⟩, ⟨some .name, "class", 1⟩, ⟨none, ";", 1⟩,
       ⟨some .whitespace, "\n", 1⟩, ⟨some (.keyword .newKw), "NEW", 2⟩,
       ⟨some .whitespace, " ", 2⟩, ⟨some .name, "X1", 2⟩,
       ⟨some (.operator .notIdentical), "!==", 2⟩, ⟨some .literal, "'\\''", 2⟩,
       ⟨some .whitespace, " ", 2⟩, ⟨some .comment, "#e", 2⟩, ⟨some .closeTag, "?>", 2⟩]
    lex source = .ok ts ∧ LongestWords ts := by
  intro source ts
  have hlex : lex source = .ok ts := by decide +kernel
  exact ⟨hlex, lex_longestWords hlex⟩

end PhpOutline
