import PhpOutline.Proofs.LexemesAreWords

/-!
# Constructs without an end

A comment, a literal in quotes or a heredoc may be opened and never closed. Whether a text starts
with such a construct is said here without the scanning: no closing sign, no quote that is not
escaped and no line with the closing label comes later. Lexing fails exactly where code comes to
such a text, and no other text fails.

Results:
* `commentEnd?_eq_none_iff`, `quoteEnd?_eq_none_iff`, `heredocEnd?_eq_none_iff`: the scans that find
  no end.
* `neverEnds_iff`: code fails at the texts that start with a construct without an end.
* `lex_fails_iff`: the source texts on which lexing fails, and how it fails.
-/

namespace PhpOutline

open PhpOutline.Text PhpOutline.Reading

namespace Lexeme

/-! ## Texts that start with a construct without an end -/

/-- The text is at the closing label of a heredoc: blanks, the label, and no word character after
    it. -/
def ClosesHeredoc (label cs : List Char) : Prop :=
  ∃ blanks rest, cs = blanks ++ (label ++ rest) ∧ (∀ c ∈ blanks, isSpaceOrTab c = true) ∧
    ∀ c ∈ rest.head?, isWord c = false

/-- The text starts with a construct of code that never ends, and the wording of it: a comment with
    no closing sign after the opening one, a quote with no later one that is not escaped, and a
    heredoc with no later line that closes it. -/
inductive NeverEnds : List Char → String → Prop where
  | comment {text : List Char} (hopen : ['/', '*'] <+: text)
      (hclose : ∀ i, 2 ≤ i → ¬ ['*', '/'] <+: text.drop i) :
      NeverEnds text "Unterminated comment"
  | quoted {quote : Char} {r : List Char}
      (hquote : quote = '\'' ∨ quote = '"' ∨ quote = '`')
      (hclose : ∀ a b, r = a ++ quote :: b → trailingBackslashes a % 2 = 1) :
      NeverEnds (quote :: r) "Unterminated string literal"
  | heredoc (l : OpeningLine) {body : List Char}
      (hclose : ∀ a b, body = a ++ b → (a = [] ∨ a.getLast? = some '\n') →
        ¬ ClosesHeredoc l.label b) :
      NeverEnds (['<', '<', '<'] ++ (l.text ++ body))
        ("Unterminated heredoc '" ++ String.ofList l.label ++ "'")

/-! ## Scans that find no end -/

theorem commentEnd?_eq_none_iff {cs : List Char} :
    commentEnd? cs = none ↔ ∀ i, ¬ ['*', '/'] <+: cs.drop i := by
  fun_induction commentEnd? cs with
  | case1 r => exact iff_of_false (Option.some_ne_none 2) fun h => h 0 ⟨r, rfl⟩
  | case2 c r hclose ih =>
    rw [Option.map_eq_none_iff, ih]
    constructor
    · intro hlater i
      cases i with
      | zero =>
        rintro ⟨rest, hrest⟩
        cases hrest
        exact hclose rest rfl rfl
      | succ i => exact hlater i
    · exact fun hnone i => hnone (i + 1)
  | case3 => simp

/-- A literal does not end if every later quote is escaped. The text comes after `before`, which
    does not escape anything in it. -/
theorem quoteEnd?_eq_none_iff {quote : Char} {before cs : List Char} (hquote : quote ≠ '\\')
    (hbefore : trailingBackslashes before % 2 = 0) :
    quoteEnd? quote cs = none ↔
      ∀ a b, cs = a ++ quote :: b → trailingBackslashes (before ++ a) % 2 = 1 := by
  constructor
  · intro h
    fun_induction quoteEnd? quote cs generalizing before with
    | case1 => intro a b hcs; simp at hcs
    | case2 =>
      intro a b hcs
      rcases a with _ | ⟨x, a⟩
      · exact absurd (List.cons.inj hcs).1.symm hquote
      · simp at hcs
    | case3 c r ih =>
      -- the escaped character leaves the number of backslashes even
      have hone : trailingBackslashes (before ++ ['\\']) = trailingBackslashes before + 1 := by
        rw [trailingBackslashes_concat, if_pos rfl]
      have htwo : trailingBackslashes (before ++ ['\\'] ++ [c]) % 2 = 0 := by
        rw [trailingBackslashes_concat, hone]
        split <;> omega
      have hescaped := ih htwo (Option.map_eq_none_iff.1 h)
      intro a b hcs
      rcases a with _ | ⟨x, _ | ⟨y, a⟩⟩
      · exact absurd (List.cons.inj hcs).1.symm hquote
      · cases hcs
        omega
      · cases hcs
        simpa using hescaped a b rfl
    | case4 => cases h
    | case5 c r hlone hescape hne ih =>
      have hone : trailingBackslashes (before ++ [c]) % 2 = 0 := by
        rw [trailingBackslashes_concat, if_neg (ne_backslash hlone hescape)]
      have hescaped := ih hone (Option.map_eq_none_iff.1 h)
      intro a b hcs
      rcases a with _ | ⟨x, a⟩
      · exact absurd (List.cons.inj hcs).1 hne
      · cases hcs
        simpa using hescaped a b rfl
  · intro hescaped
    by_contra hne
    obtain ⟨n, hn⟩ := Option.ne_none_iff_exists'.1 hne
    obtain ⟨body, htake, heven, -⟩ := quoteEnd?_spec hquote hbefore hn
    have hsplit : cs = body ++ quote :: cs.drop n := by
      rw [← List.singleton_append, ← List.append_assoc, ← htake, List.take_append_drop]
    have hodd := hescaped body (cs.drop n) hsplit
    omega

/-- A closing label is found where one stands. -/
theorem closingLabel?_eq_none_iff (l : OpeningLine) {cs : List Char} :
    closingLabel? l.label cs = none ↔ ¬ ClosesHeredoc l.label cs := by
  obtain ⟨c, r, hlabel, hc⟩ := l.exists_label_eq_cons
  unfold closingLabel?
  simp only [ite_eq_right_iff, reduceCtorEq, imp_false]
  refine not_congr ⟨fun hfound => ?_, ?_⟩
  · obtain ⟨hlabel, hword⟩ := Bool.and_eq_true_iff.1 hfound
    obtain ⟨rest, hrest⟩ := List.isPrefixOf_iff_prefix.1 hlabel
    refine ⟨cs.take (runLength isSpaceOrTab cs), rest, ?_, all_take_runLength isSpaceOrTab cs, ?_⟩
    · rw [hrest, List.take_append_drop]
    · rw [← hrest, List.drop_left, Bool.not_eq_true'] at hword
      exact (Option.any_eq_false isWord _).1 hword
  · rintro ⟨blanks, rest, rfl, hblanks, hword⟩
    have hrun : runLength isSpaceOrTab (blanks ++ (l.label ++ rest)) = blanks.length := by
      refine runLength_append_of_head hblanks ?_
      rw [hlabel]
      exact isSpaceOrTab_of_isLabelChar hc
    rw [hrun, List.drop_left, List.drop_left, Bool.and_eq_true, Bool.not_eq_true']
    exact ⟨List.isPrefixOf_iff_prefix.2 (List.prefix_append _ _),
      (Option.any_eq_false isWord _).2 hword⟩

theorem heredocEnd?_eq_none_step {label cs : List Char} {lineStart : Bool} :
    heredocEnd? label lineStart cs = none ↔
      (lineStart = true → closingLabel? label cs = none) ∧
        ∀ c r, cs = c :: r → heredocEnd? label (c == '\n') r = none := by
  rw [heredocEnd?.eq_def]
  cases lineStart with
  | false => cases cs <;> simp
  | true => cases hclosing : closingLabel? label cs <;> cases cs <;> simp [hclosing]

/-- A heredoc does not end if no later line closes it. -/
theorem heredocEnd?_eq_none_iff (l : OpeningLine) {cs : List Char} {lineStart : Bool} :
    heredocEnd? l.label lineStart cs = none ↔
      ∀ a b, cs = a ++ b → (lineStart = true ∧ a = [] ∨ a.getLast? = some '\n') →
        ¬ ClosesHeredoc l.label b := by
  induction cs generalizing lineStart with
  | nil =>
    rw [heredocEnd?_eq_none_step, closingLabel?_eq_none_iff l]
    constructor
    · rintro ⟨hclose, -⟩ a b hcs hstart
      obtain ⟨rfl, rfl⟩ := List.append_eq_nil_iff.1 hcs.symm
      exact hclose (by simpa using hstart)
    · exact fun hclose => ⟨fun hstart => hclose [] [] rfl (.inl ⟨hstart, rfl⟩), by simp⟩
  | cons c r ih =>
    rw [heredocEnd?_eq_none_step, closingLabel?_eq_none_iff l]
    constructor
    · rintro ⟨hclose, hlater⟩ a b hcs hstart
      have hlater := ih.1 (hlater c r rfl)
      rcases a with _ | ⟨d, a⟩
      · rw [List.nil_append] at hcs
        rw [← hcs]
        exact hclose (by simpa using hstart)
      · cases hcs
        refine hlater a b rfl ?_
        have hlast : (c :: a).getLast? = some '\n' := by simpa using hstart
        rw [List.getLast?_cons] at hlast
        cases ha : a.getLast? with
        | none =>
          rw [ha] at hlast
          exact .inl ⟨beq_iff_eq.2 (Option.some.inj hlast), List.getLast?_eq_none_iff.1 ha⟩
        | some d =>
          rw [ha] at hlast
          exact .inr hlast
    · intro hclose
      refine ⟨fun hstart => hclose [] _ rfl (.inl ⟨hstart, rfl⟩), ?_⟩
      rintro d s hcs
      cases hcs
      refine ih.2 fun a b hr hstart => hclose (c :: a) b (by rw [hr, List.cons_append]) (.inr ?_)
      rcases hstart with ⟨hfeed, rfl⟩ | hlast
      · rw [beq_iff_eq.1 hfeed]
        rfl
      · rw [List.getLast?_cons, hlast]
        rfl

/-! ## Code -/

/-- Code fails at the texts that start with a construct without an end, and at no others. -/
theorem neverEnds_iff {afterAccess : Bool} {c : Char} {r : List Char} {wording : String} :
    NeverEnds (c :: r) wording ↔
      ∃ cause, code afterAccess c r = .error cause ∧ cause.message = wording := by
  constructor
  · intro h
    generalize htext : c :: r = text at h
    cases h with
    | comment hopen hclose =>
      obtain ⟨s, rfl⟩ := hopen
      cases htext
      have hend : commentEnd? s = none :=
        commentEnd?_eq_none_iff.2 fun i => hclose (i + 2) (by omega)
      have hopen : Construct afterAccess '/' ('*' :: s) _ := .openComment ⟨rfl, rfl⟩ hend
      exact ⟨.comment, hopen.code_eq, rfl⟩
    | quoted hquote hclose =>
      cases htext
      have hne : c ≠ '\\' := by rcases hquote with rfl | rfl | rfl <;> decide
      have hend := (@quoteEnd?_eq_none_iff c [] r hne rfl).2 hclose
      exact ⟨.quoted, (Construct.openQuote hquote hend).code_eq, rfl⟩
    | @heredoc l body hclose =>
      cases htext
      have hend : heredocEnd? l.label true body = none :=
        (heredocEnd?_eq_none_iff l).2 fun a b hbody hstart =>
          hclose a b hbody (hstart.imp_left And.right)
      rw [← l.drop_text body] at hend
      have hopen : Construct afterAccess '<' (['<', '<'] ++ (l.text ++ body)) _ :=
        .openHeredoc ⟨rfl, rfl⟩ (l.heredocOpening?_text body) hend
      exact ⟨.heredoc (String.ofList l.label), hopen.code_eq, rfl⟩
  · rintro ⟨cause, hcode, rfl⟩
    have hconstruct := code_construct afterAccess c r
    rw [hcode] at hconstruct
    cases hconstruct with
    | openComment hopen hend =>
      obtain ⟨rfl, hstar⟩ := hopen
      obtain ⟨r, rfl⟩ := List.head?_eq_some_iff.1 hstar
      refine .comment ⟨r, rfl⟩ fun i hi => ?_
      obtain ⟨k, rfl⟩ := Nat.exists_eq_add_of_le' hi
      exact commentEnd?_eq_none_iff.1 hend k
    | openQuote hquote hend =>
      have hne : c ≠ '\\' := by rcases hquote with rfl | rfl | rfl <;> decide
      exact .quoted hquote ((@quoteEnd?_eq_none_iff c [] r hne rfl).1 hend)
    | openHeredoc hstart hopening hend =>
      obtain ⟨rfl, hr⟩ := hstart
      obtain ⟨r, rfl⟩ := List.isPrefixOf_iff_prefix.1 hr
      obtain ⟨l, rfl, ⟨body, hbody⟩, rfl⟩ := exists_openingLine hopening
      change l.text ++ body = r at hbody
      subst hbody
      rw [l.drop_text] at hend
      exact .heredoc l fun a b hsplit hline =>
        (heredocEnd?_eq_none_iff l).1 hend a b hsplit (hline.imp_left fun ha => ⟨rfl, ha⟩)

end Lexeme

/-! ## Source texts -/

/-- A source text falls into `front`, which tokens cut off it one after another make up, and `rest`,
    which starts in code with a construct that never ends. -/
structure StopsAt (source : String) (front rest : List Char) (wording : String) : Prop where
  split : source.toList = front ++ rest
  reached : ∃ ts st, Scan .start source.toList ts st rest ∧ (joined ts).toList = front ∧
    st.inCode = true
  neverEnds : Lexeme.NeverEnds rest wording

theorem lexeme_eq_error_iff {st : LexState} {c : Char} {r : List Char}
    {cause : Lexeme.Unterminated} :
    st.lexeme c r = .error cause ↔
      st.inCode = true ∧ Lexeme.code st.afterAccess c r = .error cause := by
  unfold LexState.lexeme
  split
  · rename_i hcode
    exact (and_iff_right hcode).symm
  · rename_i hcode
    exact iff_of_false (fun h => nomatch h) fun h => hcode h.1

/-- A failure of lexing is a construct without an end that the tokens before it lead to. -/
theorem lex_eq_error_iff {source : String} {e : LexError} :
    lex source = .error e ↔
      ∃ ts st c r, Scan .start source.toList ts st (c :: r) ∧ st.inCode = true ∧
        Lexeme.code st.afterAccess c r = .error e.cause ∧
        e.line = 1 + newlines (joined ts).toList := by
  rw [lex, lexFrom_eq_error_iff]
  constructor
  · rintro ⟨ts, st, c, r, hscan, hlexeme, hline⟩
    obtain ⟨hcode, hcause⟩ := lexeme_eq_error_iff.1 hlexeme
    exact ⟨ts, st, c, r, hscan, hcode, hcause, hline.trans hscan.line_after⟩
  · rintro ⟨ts, st, c, r, hscan, hcode, hcause, hline⟩
    exact ⟨ts, st, c, r, hscan, lexeme_eq_error_iff.2 ⟨hcode, hcause⟩,
      hline.trans hscan.line_after.symm⟩

/-- Lexing fails on a source text exactly if its tokens lead to code that starts with a construct
    without an end. The error is on the line where the construct starts and has its wording. So
    every source text in which lexing comes to no such construct has tokens. -/
theorem lex_fails_iff (source : String) :
    (∀ line text, (∃ e, lex source = .error e ∧ e.line = line ∧ e.message = text) ↔
      ∃ front rest wording, StopsAt source front rest wording ∧ line = 1 + newlines front ∧
        text = s!"Line {line}: {wording}") ∧
    ((∃ ts, lex source = .ok ts) ↔ ¬ ∃ front rest wording, StopsAt source front rest wording) := by
  have hfails (line : Int) (text : String) :
      (∃ e, lex source = .error e ∧ e.line = line ∧ e.message = text) ↔
        ∃ front rest wording, StopsAt source front rest wording ∧ line = 1 + newlines front ∧
          text = s!"Line {line}: {wording}" := by
    constructor
    · rintro ⟨e, hlex, rfl, rfl⟩
      obtain ⟨ts, st, c, r, hscan, hcode, hcause, hline⟩ := lex_eq_error_iff.1 hlex
      exact ⟨_, c :: r, e.cause.message, ⟨hscan.joined_append.symm, ⟨ts, st, hscan, rfl, hcode⟩,
        Lexeme.neverEnds_iff.2 ⟨e.cause, hcause, rfl⟩⟩, hline, rfl⟩
    · rintro ⟨front, rest, wording, ⟨-, ⟨ts, st, hscan, rfl, hcode⟩, hends⟩, rfl, rfl⟩
      cases rest with
      | nil => cases hends with | comment hopen => simp at hopen
      | cons c r =>
        obtain ⟨cause, hcause, rfl⟩ := Lexeme.neverEnds_iff.1 hends
        exact ⟨⟨cause, _⟩, lex_eq_error_iff.2 ⟨ts, st, c, r, hscan, hcode, hcause, rfl⟩, rfl, rfl⟩
  refine ⟨hfails, ?_⟩
  cases hlex : lex source with
  | ok ts =>
    refine iff_of_true ⟨ts, rfl⟩ ?_
    rintro ⟨front, rest, wording, hstops⟩
    obtain ⟨e, he, -, -⟩ := (hfails _ _).2 ⟨front, rest, wording, hstops, rfl, rfl⟩
    rw [hlex] at he
    cases he
  | error e =>
    refine iff_of_false (by simp) (not_not_intro ?_)
    obtain ⟨front, rest, wording, hstops, -, -⟩ := (hfails _ _).1 ⟨e, hlex, rfl, rfl⟩
    exact ⟨front, rest, wording, hstops⟩

-- the only later line starts with a longer word than the label
example : lex "<?php\n<<<A\nAB\n" = .error ⟨.heredoc "A", 2⟩ := by decide +kernel

end PhpOutline
