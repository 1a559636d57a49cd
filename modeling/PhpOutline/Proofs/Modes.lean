import PhpOutline.Proofs.Splicing

/-!
# Markup and code alternate

A source text is markup at its start and after every closing tag, and code after every opening tag.
The lexer has no token for the change itself: whether it is in code shows in the token before, and
markup that has been cut off ends where the first opening tag starts. So the kinds of neighbouring
tokens alternate, and no opening tag starts anywhere within markup.

Results:
* `isSome_openTag?_iff`: an opening tag is found where one stands.
* `Scan.exists_lexeme`: the step of a run that cuts off one of its tokens.
* `LexState.lexeme_mode`: the kinds of tokens outside and inside of code.
* `lex_alternates`: neighbouring tokens of a source text, and the text of its markup.
-/

namespace PhpOutline

open PhpOutline.Text PhpOutline.Reading PhpOutline.Lexeme

/-! ## Opening tags -/

namespace Lexeme

/-- The text starts with an opening tag: `<?=`, or `<?php` in any case before a blank or at the end
    of the text. -/
def StartsWithTag (cs : List Char) : Prop :=
  ['<', '?', '='] <+: cs ∨
    ∃ word r, cs = ['<', '?'] ++ (word ++ r) ∧ word.map Char.toLower = ['p', 'h', 'p'] ∧
      ∀ c ∈ r.head?, isBlank c = true

theorem exists_tagEnd?_iff (r : List Char) :
    (∃ n, tagEnd? r = some n) ↔ ∀ c ∈ r.head?, isBlank c = true := by
  cases r with
  | nil => exact iff_of_true ⟨0, rfl⟩ fun c hc => nomatch hc
  | cons c r =>
    rw [tagEnd?_cons]
    constructor
    · rintro ⟨n, hn⟩ d hd
      cases hd
      split at hn
      · rename_i hreturn
        rw [hreturn.1]
        decide
      · by_contra hblank
        rw [if_neg hblank] at hn
        cases hn
    · intro hblank
      rw [if_pos (hblank c rfl)]
      split
      · exact ⟨2, rfl⟩
      · exact ⟨1, rfl⟩

/-- An opening tag is found where one stands. -/
theorem isSome_openTag?_iff (cs : List Char) :
    (openTag? cs).isSome = true ↔ StartsWithTag cs := by
  constructor
  · intro h
    obtain ⟨⟨kind, n⟩, htag⟩ := Option.isSome_iff_exists.1 h
    rcases openTag?_eq_some_iff.1 htag with
      ⟨r, rfl, -, -⟩ | ⟨a, b, d, r, m, rfl, ⟨ha, hb, hd⟩, hm, -, -⟩
    · exact .inl (List.prefix_append _ _)
    · refine .inr ⟨[a, b, d], r, rfl, ?_, (exists_tagEnd?_iff r).1 ⟨m, hm⟩⟩
      rw [List.map_cons, List.map_cons, List.map_cons, ha, hb, hd, List.map_nil]
  · rintro (⟨r, rfl⟩ | ⟨word, r, rfl, hword, hr⟩)
    · rfl
    · obtain ⟨m, hm⟩ := (exists_tagEnd?_iff r).2 hr
      obtain ⟨a, b, d, rfl⟩ : ∃ a b d, word = [a, b, d] :=
        List.length_eq_three.1 (by simpa using congrArg List.length hword)
      have hletters : a.toLower = 'p' ∧ b.toLower = 'h' ∧ d.toLower = 'p' := by simpa using hword
      have hsome := openTag?_eq_some_iff.2 (.inr ⟨a, b, d, r, m, rfl, hletters, hm, rfl, rfl⟩)
      exact Option.isSome_iff_exists.2 ⟨_, hsome⟩

/-- No opening tag starts before the place that markup runs up to. -/
theorem not_startsWithTag_of_lt_markupLength {cs : List Char} {k : Nat}
    (h : k < markupLength cs) : ¬ StartsWithTag (cs.drop k) := by
  induction cs generalizing k with
  | nil => cases h
  | cons c r ih =>
    rw [markupLength] at h
    split at h
    · cases h
    · rename_i hnone
      cases k with
      | zero => rwa [List.drop_zero, ← isSome_openTag?_iff]
      | succ k => exact ih (Nat.lt_of_succ_lt_succ h)

/-- The kinds of tokens that are cut off outside of code. -/
def isMarkupKind (kind : Option Kind) : Bool :=
  [some .inlineHtml, some .openTag, some .openTagWithEcho].contains kind

theorem isMarkupKind_markup (c : Char) (r : List Char) :
    isMarkupKind (some (markup c r).1) = true := by
  rcases markup_kind c r with hkind | hkind | hkind <;> rw [hkind] <;> rfl

theorem isMarkupKind_of_code {afterAccess : Bool} {c : Char} {r : List Char} {kind : Option Kind}
    {n : Nat} (h : code afterAccess c r = .ok (kind, n)) : isMarkupKind kind = false := by
  have hconstruct := code_construct afterAccess c r
  rw [h] at hconstruct
  cases hconstruct with
  | blockComment => split <;> rfl
  | word =>
    rcases wordKind_cases afterAccess (c :: r.take (runLength isIdentPart r)) with
      hkind | ⟨k, hkind⟩ <;> rw [hkind] <;> rfl
  | number => rcases number_kind c r with hkind | hkind <;> rw [hkind] <;> rfl
  | sign =>
    rcases sign_kind c r with hkind | hkind | ⟨o, hkind⟩ <;> rw [hkind] <;> rfl
  | _ => rfl

end Lexeme

/-! ## Single tokens -/

namespace LexState

variable {st : LexState} {c : Char} {r : List Char} {kind : Option Kind} {n : Nat}

/-- Markup and opening tags are cut off outside of code, and all other tokens inside of code. -/
theorem lexeme_mode (h : st.lexeme c r = .ok (kind, n)) : isMarkupKind kind = !st.inCode := by
  unfold lexeme at h
  split at h
  · rename_i hcode
    rw [hcode, isMarkupKind_of_code h, Bool.not_true]
  · rename_i hcode
    have hkind := (Prod.mk.inj (Except.ok.inj h)).1
    rw [Bool.eq_false_iff.2 hcode, ← hkind]
    exact isMarkupKind_markup c r

/-- No opening tag starts within markup. -/
theorem not_startsWithTag_of_inlineHtml (h : st.lexeme c r = .ok (some .inlineHtml, n)) {k : Nat}
    (hk : k < n + 1) : ¬ StartsWithTag ((c :: r).drop k) := by
  have hcode := lexeme_mode h
  rw [lexeme, if_neg (by intro hin; rw [hin] at hcode; cases hcode), markup] at h
  cases hopen : openTag? (c :: r) with
  | some tag =>
    obtain ⟨tagKind, m⟩ := tag
    rw [hopen] at h
    obtain ⟨rfl, -⟩ : tagKind = .inlineHtml ∧ m - 1 = n := by simpa using h
    rcases openTag?_kind hopen with hkind | hkind <;> cases hkind
  | none =>
    rw [hopen] at h
    obtain rfl : markupLength r = n := (Prod.mk.inj (Except.ok.inj h)).2
    refine not_startsWithTag_of_lt_markupLength ?_
    rwa [markupLength, hopen, if_neg (by simp)]

end LexState

/-! ## Neighbouring tokens -/

namespace Scan

variable {st after : LexState} {cs rest : List Char} {before later : List Token} {t : Token}

/-- The step of a run that cuts off one of its tokens. -/
theorem exists_lexeme (h : Scan st cs (before ++ t :: later) after rest) :
    ∃ mid c r n, Scan st cs before mid (c :: r) ∧ mid.lexeme c r = .ok (t.kind, n) ∧
      n ≤ r.length ∧ t.content.toList = c :: r.take n ∧
      Scan (mid.next t.kind t.content.toList) (r.drop n) later after rest := by
  obtain ⟨mid, part, hfront, hback⟩ := h.split
  cases hback with
  | @token _ _ c r _ kind n _ hlexeme hlater =>
    refine ⟨mid, c, r, n, hfront, hlexeme, LexState.lexeme_le hlexeme, String.toList_ofList, ?_⟩
    rwa [String.toList_ofList]

/-- Markup is not followed by markup. -/
theorem kind_ne_of_inlineHtml {p : Token}
    (h : Scan st cs (before ++ p :: t :: later) after rest) (hp : p.kind = some .inlineHtml) :
    t.kind ≠ some .inlineHtml := by
  obtain ⟨mid, c, r, n, -, hlexeme, hn, -, hback⟩ := h.exists_lexeme
  rw [hp] at hlexeme hback
  have hcode := LexState.lexeme_mode hlexeme
  have hmid : mid.inCode = false := by simpa [isMarkupKind] using hcode
  have hne : r.drop n ≠ [] := by
    intro hnil
    rw [hnil] at hback
    cases hback
  refine (hback.isSome_openTag_iff rfl).1 ?_
  refine isSome_openTag_of_markup (c := c) (w := r.take n) ?_ hmid hne
  rwa [List.take_append_drop, List.length_take_of_le hn]

/-- A run from the start is in code if the token before is neither markup nor a closing tag. -/
theorem inCode_iff (h : Scan .start cs before after rest) :
    after.inCode = true ↔
      ∃ p ∈ before.getLast?, p.kind ≠ some .inlineHtml ∧ p.kind ≠ some .closeTag := by
  cases hlast : before.getLast? with
  | none =>
    rw [List.getLast?_eq_none_iff] at hlast
    subst hlast
    obtain ⟨rfl, -⟩ := h.eq_of_nil
    simp [LexState.start]
  | some p =>
    rw [h.inCode_after hlast]
    simp

end Scan

/-! ## Source texts -/

/-- Markup and code alternate in the tokens of a source text. Each condition is on a token `t` with
    the tokens before it: markup and opening tags stand at the start or after what ends code, all
    other tokens stand in code, and where markup stands in the source no opening tag starts. -/
structure Alternates (source : String) (ts : List Token) : Prop where
  inlineHtml : ∀ before t later, ts = before ++ t :: later → t.kind = some .inlineHtml →
    before = [] ∨ ∃ p ∈ before.getLast?, p.kind = some .closeTag
  openTag : ∀ before t later, ts = before ++ t :: later →
    t.kind = some .openTag ∨ t.kind = some .openTagWithEcho →
    before = [] ∨ ∃ p ∈ before.getLast?, p.kind = some .inlineHtml ∨ p.kind = some .closeTag
  code : ∀ before t later, ts = before ++ t :: later →
    t.kind ≠ some .inlineHtml ∧ t.kind ≠ some .openTag ∧ t.kind ≠ some .openTagWithEcho →
    ∃ p ∈ before.getLast?, p.kind ≠ some .inlineHtml ∧ p.kind ≠ some .closeTag
  untagged : ∀ before t later, ts = before ++ t :: later → t.kind = some .inlineHtml →
    ∀ i, (joined before).length ≤ i → i < (joined before).length + t.content.length →
      ¬ StartsWithTag (source.toList.drop i)

/-- Outside of code there is no token before, or it is markup or a closing tag. -/
theorem Scan.before_of_markup {cs rest : List Char} {before : List Token} {after : LexState}
    (h : Scan .start cs before after rest) (hcode : after.inCode = false) :
    before = [] ∨ ∃ p ∈ before.getLast?, p.kind = some .inlineHtml ∨ p.kind = some .closeTag := by
  cases hlast : before.getLast? with
  | none => exact .inl (List.getLast?_eq_none_iff.1 hlast)
  | some p =>
    rw [h.inCode_after hlast] at hcode
    refine .inr ⟨p, rfl, ?_⟩
    simpa [Classical.or_iff_not_imp_left] using hcode

/-- In the tokens of a source text markup and code alternate. -/
theorem lex_alternates {source : String} {ts : List Token} (hlex : lex source = .ok ts) :
    Alternates source ts := by
  obtain ⟨last, hscan⟩ := lexFrom_eq_ok_iff.1 hlex
  constructor
  · rintro before t later rfl hkind
    obtain ⟨mid, c, r, n, hfront, hlexeme, -⟩ := hscan.exists_lexeme
    have hcode : mid.inCode = false := by
      simpa [hkind, isMarkupKind] using LexState.lexeme_mode hlexeme
    refine (hfront.before_of_markup hcode).imp_right ?_
    rintro ⟨p, hp, hmarkup | hclose⟩
    · obtain ⟨front, rfl⟩ := List.getLast?_eq_some_iff.1 hp
      rw [List.append_assoc, List.singleton_append] at hscan
      exact absurd hkind (hscan.kind_ne_of_inlineHtml hmarkup)
    · exact ⟨p, hp, hclose⟩
  · rintro before t later rfl hkind
    obtain ⟨mid, c, r, n, hfront, hlexeme, -⟩ := hscan.exists_lexeme
    refine hfront.before_of_markup ?_
    have hmode := LexState.lexeme_mode hlexeme
    rcases hkind with hkind | hkind
    · simpa [hkind, isMarkupKind] using hmode
    · simpa [hkind, isMarkupKind] using hmode
  · rintro before t later rfl ⟨hmarkup, hopen, hecho⟩
    obtain ⟨mid, c, r, n, hfront, hlexeme, -⟩ := hscan.exists_lexeme
    refine hfront.inCode_iff.1 ?_
    simpa [isMarkupKind, hmarkup, hopen, hecho] using LexState.lexeme_mode hlexeme
  · rintro before t later rfl hkind i hle hlt
    obtain ⟨mid, c, r, n, hfront, hlexeme, hn, hcontent, -⟩ := hscan.exists_lexeme
    obtain ⟨k, rfl⟩ := Nat.exists_eq_add_of_le hle
    have hlength : t.content.length = n + 1 := by
      rw [← String.length_toList, hcontent, List.length_cons, List.length_take_of_le hn]
    rw [hkind] at hlexeme
    rw [← hfront.joined_append, ← String.length_toList, List.drop_length_add_append]
    exact LexState.not_startsWithTag_of_inlineHtml hlexeme (by omega)

/-- Two blocks of code with markup around them. The first tag is not one, since no blank follows its
    letters; the last one is all that is left of the text. -/
theorem lex_alternates_two_blocks :
    let source := "<?phpx<?PHP\n1?>\n<b><?=2?><?php"
    let ts : List Token :=
      [⟨some .inlineHtml, "<?phpx", 1⟩, ⟨some .openTag, "<?PHP\n", 1⟩, ⟨some .integer, "1", 2⟩,
       ⟨some .closeTag, "?>\n", 2⟩, ⟨some .inlineHtml, "<b>", 3⟩,
       ⟨some .openTagWithEcho, "<?=", 3⟩, ⟨some .integer, "2", 3⟩, ⟨some .closeTag, "?>", 3⟩,
       ⟨some .openTag, "<?php", 3⟩]
    lex source = .ok ts ∧ Alternates source ts := by
  intro source ts
  have hlex : lex source = .ok ts := by decide +kernel
  exact ⟨hlex, lex_alternates hlex⟩

end PhpOutline
