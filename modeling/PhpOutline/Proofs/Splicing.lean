import PhpOutline.Proofs.Constructs

/-!
# Cutting and joining source texts

A run of the lexer does not depend on more of the text after it than its last lexeme sees. So the
text up to the end of a token has the tokens up to there, and a text behind a closing tag has the
tokens that it has on its own, on later lines.

Results:
* `Scan.append`, `Scan.split`: runs one after the other.
* `Scan.exchange`: a run and the text after it.
* `Scan.shift`: a run that starts on a later line.
* `lex_joined_of_append`: the tokens of a source text up to one of them are those of its text.
* `lex_append_of_closeTag`: a source text that ends with a closing tag, and any text after it.
-/

namespace PhpOutline

open PhpOutline.Text PhpOutline.Reading PhpOutline.Lexeme

/-! ## One lexeme -/

namespace Lexeme

theorem wordKind_cases (afterAccess : Bool) (word : List Char) :
    wordKind afterAccess word = .name ∨ ∃ k, wordKind afterAccess word = .keyword k := by
  unfold wordKind
  split
  · exact .inl rfl
  · split
    · exact .inr ⟨_, rfl⟩
    · exact .inl rfl

/-- A closing tag is its two signs and at most one line end. -/
theorem code_closeTag {afterAccess : Bool} {c : Char} {r : List Char} {n : Nat}
    (h : code afterAccess c r = .ok (some .closeTag, n)) :
    (c = '?' ∧ r.head? = some '>') ∧ n = 1 + newlineLength r.tail := by
  have hconstruct := code_construct afterAccess c r
  rw [h] at hconstruct
  generalize hout : Except.ok (some Kind.closeTag, n) = out at hconstruct
  -- for the other constructs the kinds disagree
  cases hconstruct with
  | closeTag hsigns => exact ⟨hsigns, (Prod.mk.inj (Except.ok.inj hout)).2⟩
  | blockComment => split at hout <;> cases hout
  | word =>
    rcases wordKind_cases afterAccess (c :: r.take (runLength isIdentPart r)) with
      hkind | ⟨k, hkind⟩
    · rw [hkind] at hout
      cases hout
    · rw [hkind] at hout
      cases hout
  | number =>
    rcases number_kind c r with hkind | hkind <;> rw [hkind] at hout <;> cases hout
  | sign =>
    rcases sign_kind c r with hkind | hkind | ⟨o, hkind⟩ <;> rw [hkind] at hout <;> cases hout
  | _ => cases hout

end Lexeme

namespace LexState

/-- A closing tag stands in code. -/
theorem lexeme_closeTag {st : LexState} {c : Char} {r : List Char} {n : Nat}
    (h : st.lexeme c r = .ok (some .closeTag, n)) :
    st.inCode = true ∧ (c = '?' ∧ r.head? = some '>') ∧ n = 1 + newlineLength r.tail := by
  unfold lexeme at h
  split at h
  · rename_i hcode
    exact ⟨hcode, code_closeTag h⟩
  · have hkind : (markup c r).1 = .closeTag := Option.some.inj (Prod.mk.inj (Except.ok.inj h)).1
    rcases markup_kind c r with hmarkup | hmarkup | hmarkup <;> rw [hmarkup] at hkind <;>
      cases hkind

/-- A lexeme stays what it is when the text after it is exchanged. A closing tag right after a
    comment and an opening tag after markup have to stay. -/
theorem lexeme_append {st : LexState} {c : Char} {kind : Option Kind} {w x y : List Char}
    (hs : Shows x y)
    (hclose : kind = some .comment → ['?', '>'] <+: x → y = [] ∨ ['?', '>'] <+: y)
    (hopen : st.inCode = false → kind = some .inlineHtml → (openTag? y).isSome = true)
    (h : st.lexeme c (w ++ x) = .ok (kind, w.length)) :
    st.lexeme c (w ++ y) = .ok (kind, w.length) := by
  unfold lexeme at h ⊢
  split at h
  · rename_i hcode
    rw [if_pos hcode]
    exact code_append hs hclose h
  · rename_i hcode
    rw [if_neg hcode]
    cases hmarkup : markup c (w ++ x) with
    | mk markupKind n =>
      simp only [hmarkup] at h
      obtain ⟨rfl, rfl⟩ := Prod.mk.inj (Except.ok.inj h)
      have hopen' := fun hkind => hopen (Bool.eq_false_iff.2 hcode) (congrArg some hkind)
      rw [markup_append hs hopen' hmarkup]

end LexState

namespace Scan

variable {st mid after : LexState} {cs part rest x y : List Char} {t : Token} {ts us : List Token}

/-! ## Runs one after the other -/

theorem eq_of_nil (h : Scan st cs [] after rest) : after = st ∧ rest = cs := by
  cases h
  exact ⟨rfl, rfl⟩

theorem append (h : Scan st cs ts mid part) (hlater : Scan mid part us after rest) :
    Scan st cs (ts ++ us) after rest := by
  induction h with
  | stop st cs => exact hlater
  | token hlexeme _ ih => exact .token hlexeme (ih hlater)

theorem split (h : Scan st cs (ts ++ us) after rest) :
    ∃ mid part, Scan st cs ts mid part ∧ Scan mid part us after rest := by
  induction ts generalizing st cs with
  | nil => exact ⟨st, cs, .stop st cs, h⟩
  | cons t ts ih =>
    cases h with
    | token hlexeme hlater =>
      obtain ⟨mid, part, hfront, hback⟩ := ih hlater
      exact ⟨mid, part, .token hlexeme hfront, hback⟩

/-- A run is in code after every token but markup and a closing tag. -/
theorem inCode_after (h : Scan st cs ts after rest) (ht : ts.getLast? = some t) :
    after.inCode = (t.kind != some .inlineHtml && t.kind != some .closeTag) := by
  induction h with
  | stop st cs => cases ht
  | @token st after c r rest kind n later hlexeme hlater ih =>
    cases later with
    | nil =>
      obtain ⟨rfl, -⟩ := hlater.eq_of_nil
      cases ht
      rfl
    | cons u later => exact ih (by rwa [List.getLast?_cons_cons] at ht)

/-! ## The text after a run -/

/-- In code, a closing tag at the start of the text is in the first token. -/
theorem closeTag_isPrefix {v : List Char} (h : Scan st ('?' :: '>' :: v) (t :: ts) after rest)
    (hcode : st.inCode = true) : ['?', '>'] <+: (joined (t :: ts)).toList := by
  cases h with
  | @token _ _ _ _ _ kind n _ hlexeme _ =>
    have hn : 1 + newlineLength v = n := by
      rw [LexState.lexeme, if_pos hcode, (Construct.closeTag ⟨rfl, rfl⟩).code_eq] at hlexeme
      exact (Prod.mk.inj (Except.ok.inj hlexeme)).2
    rw [toList_joined_cons, String.toList_ofList, ← hn, Nat.add_comm, List.take_succ_cons]
    exact ⟨v.take (newlineLength v) ++ _, rfl⟩

/-- Outside of code, a token is markup unless it is an opening tag. -/
theorem isSome_openTag_iff (h : Scan st cs (t :: ts) after rest) (hcode : st.inCode = false) :
    (openTag? cs).isSome = true ↔ t.kind ≠ some .inlineHtml := by
  cases h with
  | @token _ _ c r _ kind n _ hlexeme _ =>
    rw [LexState.lexeme, if_neg (by rw [hcode]; exact Bool.false_ne_true), markup] at hlexeme
    cases hopen : openTag? (c :: r) with
    | some tag =>
      obtain ⟨tagKind, m⟩ := tag
      rw [hopen] at hlexeme
      obtain ⟨rfl, -⟩ := Prod.mk.inj (Except.ok.inj hlexeme)
      rcases openTag?_kind hopen with rfl | rfl
      · simp
      · simp
    | none =>
      rw [hopen] at hlexeme
      obtain ⟨rfl, -⟩ := Prod.mk.inj (Except.ok.inj hlexeme)
      simp

/-- Markup is followed by an opening tag if by anything. -/
theorem isSome_openTag_of_markup {c : Char} {w : List Char}
    (h : st.lexeme c (w ++ cs) = .ok (some .inlineHtml, w.length)) (hcode : st.inCode = false)
    (hcs : cs ≠ []) : (openTag? cs).isSome = true := by
  rw [LexState.lexeme, if_neg (by rw [hcode]; exact Bool.false_ne_true), markup] at h
  cases hopen : openTag? (c :: (w ++ cs)) with
  | some tag =>
    obtain ⟨tagKind, m⟩ := tag
    rw [hopen] at h
    obtain ⟨rfl, -⟩ : tagKind = .inlineHtml ∧ m - 1 = w.length := by simpa using h
    rcases openTag?_kind hopen with hkind | hkind <;> cases hkind
  | none =>
    rw [hopen] at h
    exact isSome_openTag_of_markupLength (Prod.mk.inj (Except.ok.inj h)).2 hcs

/-- A run stays what it is when the text after it is exchanged for one that shows no more. -/
theorem exchange (h : Scan st cs ts after x) (hs : Shows x y)
    (hlast : ∀ t ∈ ts.getLast?, t.kind ≠ some .inlineHtml)
    (htag : after.inCode = true → ['?', '>'] <+: x → y = [] ∨ ['?', '>'] <+: y) :
    Scan st ((joined ts).toList ++ y) ts after y := by
  induction h with
  | stop st cs => exact .stop st y
  | @token st after c r x kind n later hlexeme hlater ih =>
    have hlast' : ∀ t ∈ later.getLast?, t.kind ≠ some .inlineHtml := by
      intro t ht
      refine hlast t ?_
      cases later with
      | nil => cases ht
      | cons u later => rwa [List.getLast?_cons_cons]
    have hlater' := ih hs hlast' htag
    obtain ⟨w, v, rfl, rfl⟩ : ∃ w v, r = w ++ v ∧ n = w.length :=
      ⟨r.take n, r.drop n, (List.take_append_drop n r).symm,
        (List.length_take_of_le (LexState.lexeme_le hlexeme)).symm⟩
    rw [List.take_left] at hlater hlater' hlast ⊢
    rw [List.drop_left] at hlater
    obtain rfl := hlater.joined_append
    have hclose : kind = some .comment → ['?', '>'] <+: (joined later).toList ++ x →
        (joined later).toList ++ y = [] ∨ ['?', '>'] <+: (joined later).toList ++ y := by
      rintro rfl hx
      cases later with
      | nil =>
        obtain ⟨rfl, -⟩ := hlater.eq_of_nil
        exact htag rfl hx
      | cons u later =>
        obtain ⟨v, hv⟩ := hx
        rw [← hv] at hlater
        exact .inr ((hlater.closeTag_isPrefix rfl).trans (List.prefix_append _ _))
    have hopen : st.inCode = false → kind = some .inlineHtml →
        (openTag? ((joined later).toList ++ y)).isSome = true := by
      rintro hcode rfl
      cases later with
      | nil => exact absurd rfl (hlast _ rfl)
      | cons u later =>
        have hne : (joined (u :: later)).toList ++ x ≠ [] := by
          intro hnil
          rw [hnil] at hlater
          cases hlater
        have hu := (hlater.isSome_openTag_iff rfl).1 (isSome_openTag_of_markup hlexeme hcode hne)
        exact (hlater'.isSome_openTag_iff rfl).2 hu
    have hlexeme' := LexState.lexeme_append (hs.append _) hclose hopen hlexeme
    have hrun := Scan.token hlexeme' (by rwa [List.take_left, List.drop_left])
    rw [List.take_left] at hrun
    rw [toList_joined_cons, String.toList_ofList, List.append_assoc, List.cons_append]
    exact hrun

end Scan

/-! ## Later lines -/

/-- The token some lines further down. -/
def Token.shift (k : Int) (t : Token) : Token := { t with line := t.line + k }

/-- The same state some lines further down. -/
def LexState.shift (k : Int) (st : LexState) : LexState := { st with line := st.line + k }

theorem LexState.next_shift (k : Int) (st : LexState) (kind : Option Kind) (content : List Char) :
    (st.shift k).next kind content = (st.next kind content).shift k := by
  simp only [next, shift, LexState.mk.injEq, true_and]
  omega

/-- A run does not depend on the line that it starts on. -/
theorem Scan.shift {st after : LexState} {cs rest : List Char} {ts : List Token}
    (h : Scan st cs ts after rest) (k : Int) :
    Scan (st.shift k) cs (ts.map (Token.shift k)) (after.shift k) rest := by
  induction h with
  | stop st cs => exact .stop _ cs
  | token hlexeme hlater ih =>
    rw [← LexState.next_shift] at ih
    exact .token hlexeme ih

/-! ## Source texts -/

/-- The text of the tokens up to some token has those tokens, with the same lines. A last token of
    markup is left out: its text may look like an opening tag once the text ends with it. -/
theorem lex_joined_of_append {source : String} {a b : List Token}
    (hlex : lex source = .ok (a ++ b)) (hlast : ∀ t ∈ a.getLast?, t.kind ≠ some .inlineHtml) :
    lex (joined a) = .ok a := by
  obtain ⟨after, hscan⟩ := lexFrom_eq_ok_iff.1 hlex
  obtain ⟨mid, part, hfront, -⟩ := hscan.split
  have hrun := hfront.exchange (shows_nil part) hlast fun _ _ => .inl rfl
  rw [List.append_nil] at hrun
  exact lexFrom_eq_ok_iff.2 ⟨mid, hrun⟩

/-- A cut right after a comment that a closing tag ends. The markup reads as an opening tag on its
    own, and so does the number with more digits after it. -/
theorem lex_joined_of_append_comment :
    let a : List Token :=
      [⟨some .inlineHtml, "<?php", 1⟩, ⟨some .openTag, "<?php\n", 1⟩, ⟨some .integer, "1", 2⟩,
       ⟨some .name, "e", 2⟩, ⟨some .comment, "//x", 2⟩]
    let b : List Token := [⟨some .closeTag, "?>\n", 2⟩, ⟨some .inlineHtml, "2", 3⟩]
    lex "<?php<?php\n1e//x?>\n2" = .ok (a ++ b) ∧ lex (joined a) = .ok a := by
  intro a b
  have hlex : lex "<?php<?php\n1e//x?>\n2" = .ok (a ++ b) := by decide +kernel
  exact ⟨hlex, lex_joined_of_append hlex (by decide)⟩

/-! ## Texts after a closing tag -/

/-- A run of one closing tag. -/
theorem Scan.closeTag_inv {st after : LexState} {cs : List Char} {tag : Token}
    (h : Scan st cs [tag] after []) (htag : tag.kind = some .closeTag) :
    st.inCode = true ∧ ∃ v, cs = '?' :: '>' :: v ∧ newlineLength v = v.length ∧
      tag = ⟨some .closeTag, String.ofList cs, st.line⟩ := by
  cases h with
  | @token _ _ c r _ kind n _ hlexeme hlater =>
    obtain rfl : kind = some .closeTag := htag
    have hn := LexState.lexeme_le hlexeme
    obtain ⟨hcode, ⟨rfl, hr⟩, hlength⟩ := LexState.lexeme_closeTag hlexeme
    obtain ⟨v, rfl⟩ := List.head?_eq_some_iff.1 hr
    obtain ⟨-, hdrop⟩ := hlater.eq_of_nil
    have hall := List.drop_eq_nil_iff.1 hdrop.symm
    refine ⟨hcode, v, rfl, ?_, ?_⟩
    · rw [List.tail_cons] at hlength
      rw [List.length_cons] at hn hall
      omega
    · rw [List.take_of_length_le hall]

/-- The line end of a closing tag is not extended. -/
theorem newlineLength_append_of_feed {v b : List Char} (hv : newlineLength v = v.length)
    (hb : v.getLast? = some '\n' ∨ newlineLength b = 0) : newlineLength (v ++ b) = v.length := by
  by_cases hzero : newlineLength v = 0
  · obtain rfl := List.length_eq_zero_iff.1 (hv ▸ hzero)
    rcases hb with hb | hb
    · cases hb
    · exact hb
  · obtain ⟨feed, hfeed, hinitial, hlength⟩ := exists_feed_of_newlineLength hzero
    obtain rfl := hinitial.eq_of_length (hlength ▸ hv)
    rcases hfeed with rfl | rfl
    · rfl
    · rfl

/-- Past a closing tag at the end of a text, the lexer is at the start again but for the line. -/
theorem scan_append_of_closeTag {a : String} {b : List Char} {ts : List Token} {tag : Token}
    (hlex : lex a = .ok (ts ++ [tag])) (htag : tag.kind = some .closeTag)
    (hline : tag.content.toList.getLast? = some '\n' ∨ newlineLength b = 0) :
    Scan .start (a.toList ++ b) (ts ++ [tag]) (LexState.start.shift (newlines a.toList)) b := by
  obtain ⟨after, hscan⟩ := lexFrom_eq_ok_iff.1 hlex
  obtain ⟨mid, part, hfront, hback⟩ := hscan.split
  obtain ⟨hcode, v, rfl, hv, rfl⟩ := hback.closeTag_inv htag
  have hlast : ∀ t ∈ ts.getLast?, t.kind ≠ some .inlineHtml := by
    intro t ht hkind
    rw [hfront.inCode_after ht, hkind] at hcode
    cases hcode
  have hrun := hfront.exchange (shows_closeTag v (v ++ b)) hlast fun _ _ => .inr ⟨_, rfl⟩
  have hfeed : newlineLength (v ++ b) = v.length := by
    refine newlineLength_append_of_feed hv (hline.imp_left fun hend => ?_)
    cases v with
    | nil => simp at hend
    | cons d v =>
      rwa [String.toList_ofList, List.getLast?_cons_cons, List.getLast?_cons_cons] at hend
  have hlexeme : mid.lexeme '?' ('>' :: v ++ b) = .ok (some .closeTag, ('>' :: v).length) := by
    rw [LexState.lexeme, if_pos hcode, (Construct.closeTag ⟨rfl, rfl⟩).code_eq, List.cons_append,
      List.tail_cons, hfeed, Nat.add_comm, List.length_cons]
  have htoken := Scan.token hlexeme (.stop _ _)
  rw [List.take_left, List.drop_left] at htoken
  have hstart : mid.next (some .closeTag) ('?' :: '>' :: v) =
      LexState.start.shift (newlines a.toList) := by
    have hmid := hfront.line_after
    simp only [LexState.next, LexState.shift, LexState.start, LexState.mk.injEq] at hmid ⊢
    refine ⟨rfl, rfl, ?_⟩
    rw [← hfront.joined_append, newlines_append]
    omega
  have htext : a.toList ++ b = (joined ts).toList ++ '?' :: '>' :: (v ++ b) := by
    rw [← hfront.joined_append, List.append_assoc, List.cons_append, List.cons_append]
  rw [htext, ← hstart]
  exact hrun.append htoken

/-- A source text that ends with a closing tag, and any text after it that does not continue the
    tag with a line end: the tokens of the one are followed by those of the other, on later lines,
    and a construct of the other that never ends is found there as well. -/
theorem lex_append_of_closeTag {a b : String} {ts : List Token} {tag : Token}
    (hlex : lex a = .ok ts) (hlast : ts.getLast? = some tag) (htag : tag.kind = some .closeTag)
    (hline : tag.content.toList.getLast? = some '\n' ∨
      ¬ ['\n'] <+: b.toList ∧ ¬ ['\r', '\n'] <+: b.toList) :
    (∀ us, lex b = .ok us →
      lex (a ++ b) = .ok (ts ++ us.map (Token.shift (newlines a.toList)))) ∧
    ∀ e, lex b = .error e →
      lex (a ++ b) = .error ⟨e.cause, e.line + newlines a.toList⟩ := by
  obtain ⟨front, rfl⟩ := List.getLast?_eq_some_iff.1 hlast
  have hfeed := hline.imp_right fun hb =>
    show newlineLength b.toList = 0 by rw [newlineLength_eq, if_neg hb.2, if_neg hb.1]
  have hscan := scan_append_of_closeTag hlex htag hfeed
  rw [← String.toList_append] at hscan
  constructor
  · intro us hus
    obtain ⟨after, hlater⟩ := lexFrom_eq_ok_iff.1 hus
    exact lexFrom_eq_ok_iff.2 ⟨_, hscan.append (hlater.shift _)⟩
  · intro e he
    obtain ⟨us, after, c, r, hlater, hcause, heline⟩ := lexFrom_eq_error_iff.1 he
    refine lexFrom_eq_error_iff.2 ⟨_, _, c, r, hscan.append (hlater.shift _), hcause, ?_⟩
    rw [heline]
    rfl

/-- A member access before the tag does not reach the keyword after it, and the literal that never
    ends is found on the third line. -/
theorem lex_append_of_closeTag_access :
    lex "<?php $a->?>\n" =
      .ok [⟨some .openTag, "<?php ", 1⟩, ⟨some .variable, "$a", 1⟩,
        ⟨some (.operator .arrow), "->", 1⟩, ⟨some .closeTag, "?>\n", 1⟩] ∧
    lex "\n<?php class" =
      .ok [⟨some .inlineHtml, "\n", 1⟩, ⟨some .openTag, "<?php ", 2⟩,
        ⟨some (.keyword .classKw), "class", 2⟩] ∧
    lex ("<?php $a->?>\n" ++ "\n<?php class") =
      .ok [⟨some .openTag, "<?php ", 1⟩, ⟨some .variable, "$a", 1⟩,
        ⟨some (.operator .arrow), "->", 1⟩, ⟨some .closeTag, "?>\n", 1⟩,
        ⟨some .inlineHtml, "\n", 2⟩, ⟨some .openTag, "<?php ", 3⟩,
        ⟨some (.keyword .classKw), "class", 3⟩] ∧
    lex ("<?php $a->?>\n" ++ "\n<?php \"") = .error ⟨.quoted, 3⟩ := by
  have hlex : lex "<?php $a->?>\n" =
      .ok [⟨some .openTag, "<?php ", 1⟩, ⟨some .variable, "$a", 1⟩,
        ⟨some (.operator .arrow), "->", 1⟩, ⟨some .closeTag, "?>\n", 1⟩] := by decide +kernel
  have hblock : lex "\n<?php class" =
      .ok [⟨some .inlineHtml, "\n", 1⟩, ⟨some .openTag, "<?php ", 2⟩,
        ⟨some (.keyword .classKw), "class", 2⟩] := by decide +kernel
  have hopen : lex "\n<?php \"" = .error ⟨.quoted, 2⟩ := by decide +kernel
  exact ⟨hlex, hblock, (lex_append_of_closeTag hlex rfl rfl (.inl rfl)).1 _ hblock,
    (lex_append_of_closeTag hlex rfl rfl (.inl rfl)).2 _ hopen⟩

end PhpOutline
