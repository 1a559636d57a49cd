import PhpOutline.Declaration.Reading
import PhpOutline.Proofs.LexemesWithinText

/-!
# Lexing loses nothing

A run of the lexer cuts tokens off the front of a text one by one. What a run has cut off and what
it has left over always make up the text, every token takes at least one character, and the state
knows the line that the rest starts on. A run that leaves nothing over is a result of `lex`, and a
run that meets a construct without an end is a failure of it.

Results:
* `Scan.joined_append`, `Scan.length_le`: a run neither loses characters nor stands still.
* `Scan.line_after`, `Scan.line_eq`: the line a run has come to, and the line of each of its tokens.
* `lexFrom_eq_ok_iff`, `lexFrom_eq_error_iff`: `lexFrom` is a run as far as it goes.
* `lex_lossless`: the tokens of a source text join to it, and each is on its line.
-/

namespace PhpOutline

open PhpOutline.Text PhpOutline.Reading

/-! ## Runs -/

/-- A run of the lexer from a state and a text: the tokens it cuts off, the state after them and the
    text that is left. -/
inductive Scan : LexState → List Char → List Token → LexState → List Char → Prop where
  | stop (st : LexState) (cs : List Char) : Scan st cs [] st cs
  | token {st after : LexState} {c : Char} {r rest : List Char} {kind : Option Kind} {n : Nat}
      {later : List Token} (hlexeme : st.lexeme c r = .ok (kind, n))
      (hlater : Scan (st.next kind (c :: r.take n)) (r.drop n) later after rest) :
      Scan st (c :: r) (⟨kind, String.ofList (c :: r.take n), st.line⟩ :: later) after rest

@[simp] theorem joined_nil : joined [] = "" := rfl

@[simp] theorem toList_joined_cons (t : Token) (ts : List Token) :
    (joined (t :: ts)).toList = t.content.toList ++ (joined ts).toList := by
  simp [joined]

namespace Scan

variable {st after : LexState} {cs rest : List Char} {ts : List Token}

/-- What a run has cut off and what it has left over make up the text. -/
theorem joined_append (h : Scan st cs ts after rest) : (joined ts).toList ++ rest = cs := by
  induction h with
  | stop st cs => rfl
  | token hlexeme _ ih =>
    rw [toList_joined_cons, String.toList_ofList, List.append_assoc, ih, List.cons_append,
      List.take_append_drop]

/-- Every token takes at least one character. -/
theorem length_le (h : Scan st cs ts after rest) : ts.length + rest.length ≤ cs.length := by
  induction h with
  | stop st cs => simp
  | token hlexeme _ ih =>
    rw [List.length_drop] at ih
    simp only [List.length_cons]
    omega

theorem content_ne (h : Scan st cs ts after rest) : ∀ t ∈ ts, t.content ≠ "" := by
  induction h with
  | stop st cs => intro t ht; cases ht
  | token hlexeme _ ih =>
    intro t ht
    rcases List.mem_cons.1 ht with rfl | ht
    · intro hempty
      have := congrArg String.toList hempty
      simp at this
    · exact ih t ht

/-- The line of a state counts the line feeds that have been passed. -/
theorem line_after (h : Scan st cs ts after rest) :
    after.line = st.line + newlines (joined ts).toList := by
  induction h with
  | stop st cs => simp
  | token hlexeme _ ih =>
    rw [ih, toList_joined_cons, newlines_append, String.toList_ofList]
    simp only [LexState.next]
    omega

/-- A token starts on the line that the tokens before it lead to. -/
theorem line_eq (h : Scan st cs ts after rest) {k : Nat} {t : Token} (ht : ts[k]? = some t) :
    t.line = st.line + newlines (joined (ts.take k)).toList := by
  induction h generalizing k with
  | stop st cs => simp at ht
  | token hlexeme _ ih =>
    cases k with
    | zero =>
      cases ht
      simp
    | succ k =>
      rw [ih (by simpa using ht), List.take_succ_cons, toList_joined_cons, newlines_append,
        String.toList_ofList]
      simp only [LexState.next]
      omega

end Scan

/-! ## Lexing as a run -/

/-- Lexing succeeds with the tokens of a run that leaves nothing over. -/
theorem lexFrom_eq_ok_iff {st : LexState} {cs : List Char} {ts : List Token} :
    lexFrom st cs = .ok ts ↔ ∃ after, Scan st cs ts after [] := by
  constructor
  · intro h
    fun_induction lexFrom st cs generalizing ts with
    | case1 st => cases h; exact ⟨st, .stop st []⟩
    | case2 => cases h
    | case3 => cases h
    | case4 st c r kind n hlexeme content later hlater =>
      rename_i ih
      cases h
      obtain ⟨after, hscan⟩ := ih hlater
      exact ⟨after, .token hlexeme hscan⟩
  · rintro ⟨after, h⟩
    generalize hrest : ([] : List Char) = rest at h
    induction h with
    | stop st cs => rw [← hrest, lexFrom_nil]
    | token hlexeme _ ih =>
      rw [lexFrom_cons, hlexeme]
      simp only [ih hrest]

/-- Lexing fails with the construct that a run meets and that never ends. -/
theorem lexFrom_eq_error_iff {st : LexState} {cs : List Char} {e : LexError} :
    lexFrom st cs = .error e ↔
      ∃ ts after c r, Scan st cs ts after (c :: r) ∧ after.lexeme c r = .error e.cause ∧
        e.line = after.line := by
  constructor
  · intro h
    fun_induction lexFrom st cs with
    | case1 => cases h
    | case2 st c r cause hlexeme =>
      cases h
      exact ⟨[], st, c, r, .stop st (c :: r), hlexeme, rfl⟩
    | case3 st c r kind n hlexeme content e2 hlater ih =>
      cases h
      obtain ⟨ts, after, d, s, hscan, hcause, hline⟩ := ih hlater
      exact ⟨_, after, d, s, .token hlexeme hscan, hcause, hline⟩
    | case4 => cases h
  · rintro ⟨ts, after, d, s, h, hcause, hline⟩
    generalize hrest : d :: s = rest at h
    induction h with
    | stop st cs =>
      rw [← hrest, lexFrom_cons, hcause]
      simp only [← hline]
    | token hlexeme _ ih =>
      rw [lexFrom_cons, hlexeme]
      simp only [ih hcause hline hrest]

/-! ## The tokens of a source text -/

/-- The tokens cover a source text: they join to it, none of them is empty, each stands in it right
    after the tokens before it, and its line is that of its first character. -/
structure Covers (source : String) (ts : List Token) : Prop where
  joined_eq : joined ts = source
  content_ne : ∀ t ∈ ts, t.content ≠ ""
  stands : ∀ (k : Nat) (t : Token), ts[k]? = some t →
    (joined (ts.take k)).toList ++ t.content.toList <+: source.toList
  line_eq : ∀ (k : Nat) (t : Token), ts[k]? = some t →
    t.line = 1 + newlines (joined (ts.take k)).toList
  lines_le : ts.Pairwise fun t u => t.line ≤ u.line

theorem toList_joined_append (ts us : List Token) :
    (joined (ts ++ us)).toList = (joined ts).toList ++ (joined us).toList := by
  simp [joined]

theorem newlines_joined_take_le (ts : List Token) {j k : Nat} (h : j ≤ k) :
    newlines (joined (ts.take j)).toList ≤ newlines (joined (ts.take k)).toList := by
  obtain ⟨d, rfl⟩ := Nat.exists_eq_add_of_le h
  rw [List.take_add, toList_joined_append, newlines_append]
  exact Nat.le_add_right _ _

theorem Scan.covers {source : String} {ts : List Token} {after : LexState}
    (h : Scan .start source.toList ts after []) : Covers source ts := by
  have hjoin : joined ts = source := by
    have := h.joined_append
    rw [List.append_nil] at this
    exact String.toList_inj.1 this
  have hline : ∀ (k : Nat) (t : Token), ts[k]? = some t →
      t.line = 1 + newlines (joined (ts.take k)).toList := fun k t ht => h.line_eq ht
  refine ⟨hjoin, h.content_ne, ?_, hline, ?_⟩
  · intro k t ht
    obtain ⟨hk, rfl⟩ := List.getElem?_eq_some_iff.1 ht
    refine ⟨(joined (ts.drop (k + 1))).toList, ?_⟩
    calc (joined (ts.take k)).toList ++ ts[k].content.toList ++ (joined (ts.drop (k + 1))).toList
        = (joined (ts.take k)).toList ++ (joined (ts.drop k)).toList := by
          rw [List.append_assoc, ← toList_joined_cons, ← List.drop_eq_getElem_cons hk]
      _ = source.toList := by rw [← toList_joined_append, List.take_append_drop, hjoin]
  · rw [List.pairwise_iff_getElem]
    intro i j hi hj hij
    rw [hline i _ (List.getElem?_eq_getElem hi), hline j _ (List.getElem?_eq_getElem hj)]
    have := newlines_joined_take_le ts (Nat.le_of_lt hij)
    omega

/-- Lexing loses nothing and comes to an end. The tokens of a source text cover it. Every run from
    the start has at most as many steps as the text has characters; where characters are left, it
    either makes a further step inside of the text or ends in the error of `lex`, and where none are
    left, its tokens are the result of `lex`. -/
theorem lex_lossless (source : String) :
    (∀ ts, lex source = .ok ts → Covers source ts) ∧
    ∀ ts st rest, Scan .start source.toList ts st rest →
      ts.length + rest.length ≤ source.length ∧
      (joined ts).toList ++ rest = source.toList ∧
      (rest = [] → lex source = .ok ts) ∧
      ∀ c r, rest = c :: r →
        (∃ kind n, st.lexeme c r = .ok (kind, n) ∧ n ≤ r.length ∧ (r.drop n).length < rest.length) ∨
        (∃ cause, st.lexeme c r = .error cause ∧ lex source = .error ⟨cause, st.line⟩) := by
  refine ⟨fun ts h => ?_, fun ts st rest h => ⟨?_, h.joined_append, ?_, ?_⟩⟩
  · obtain ⟨after, hscan⟩ := lexFrom_eq_ok_iff.1 h
    exact hscan.covers
  · have := h.length_le
    rwa [String.length_toList] at this
  · rintro rfl
    exact lexFrom_eq_ok_iff.2 ⟨st, h⟩
  · rintro c r rfl
    cases hlexeme : st.lexeme c r with
    | ok lexeme =>
      obtain ⟨kind, n⟩ := lexeme
      refine .inl ⟨kind, n, rfl, LexState.lexeme_le hlexeme, ?_⟩
      rw [List.length_drop, List.length_cons]
      omega
    | error cause =>
      exact .inr ⟨cause, rfl, lexFrom_eq_error_iff.2 ⟨ts, st, c, r, h, hlexeme, rfl⟩⟩

/-- Markup, a comment of two lines and a heredoc of three lines, with a token after them. -/
theorem lex_lossless_heredoc :
    let source := "<b>\n<?php /* a\n */ <<<E\nx\n  E;"
    let ts : List Token :=
      [⟨some .inlineHtml, "<b>\n", 1⟩, ⟨some .openTag, "<?php ", 2⟩,
       ⟨some .comment, "/* a\n */", 2⟩, ⟨some .whitespace, " ", 3⟩,
       ⟨some .literal, "<<<E\nx\n  E", 3⟩, ⟨none, ";", 5⟩]
    lex source = .ok ts ∧ Covers source ts := by
  intro source ts
  have hlex : lex source = .ok ts := by decide +kernel
  exact ⟨hlex, (lex_lossless source).1 ts hlex⟩

end PhpOutline
