import PhpOutline.Proofs.Scan

/-!
# How tokens are spelled

What the kind of a token says about its text. A doc comment starts with a slash and two stars. A
keyword is spelled in lower case after lowering by the full Unicode rules; the one character outside
of ASCII whose lower-case form is an ASCII letter is the Kelvin sign, so a keyword without the
letter k is an ASCII word that differs from its spelling in nothing but ASCII case.

Results:
* `lowerChar_of_not_ascii`, `map_toLower_of_lower`: texts with an ASCII lower-case form.
* `code_docComment`, `code_keyword`: the lexemes of the two kinds.
* `Scan.spelled`: all tokens of a run.
-/

namespace PhpOutline

/-! ## Lower-case forms -/

namespace Text

/-- The forms that a run of capitals leads to are characters from code point 128 on, but for that of
    the Kelvin sign. -/
theorem lowerRuns_image {run : Nat × Nat × Nat × Nat} (h : run ∈ lowerRuns) :
    run = (8490, 8490, 1, 107) ∨ 128 ≤ run.2.2.2 ∧ (run.2.2.2 + (run.2.1 - run.1) < 0xd800 ∨
      0xdfff < run.2.2.2 ∧ run.2.2.2 + (run.2.1 - run.1) < 0x110000) := by
  have hall : (lowerRuns.all fun run => decide (run = (8490, 8490, 1, 107) ∨ 128 ≤ run.2.2.2 ∧
      (run.2.2.2 + (run.2.1 - run.1) < 0xd800 ∨
        0xdfff < run.2.2.2 ∧ run.2.2.2 + (run.2.1 - run.1) < 0x110000))) = true := by
    decide +kernel
  exact of_decide_eq_true (List.all_eq_true.1 hall run h)

/-- The lower-case form of a character that is not ASCII is not ASCII either, or it is the letter
    k. -/
theorem lowerChar_of_not_ascii {c : Char} (h : 128 ≤ c.toNat) :
    lowerChar c = 'k' ∨ 128 ≤ (lowerChar c).toNat := by
  unfold lowerChar
  simp only [if_neg (Nat.not_lt.2 h)]
  split
  · rename_i first last step image hfind
    have hmem := List.mem_of_find?_eq_some hfind
    have hrange := List.find?_some hfind
    simp only [Bool.and_eq_true, decide_eq_true_eq] at hrange
    rcases lowerRuns_image hmem with hkelvin | ⟨himage, hvalid⟩
    · cases hkelvin
      left
      rw [show c.toNat - 8490 = 0 by omega]
    · simp only at himage hvalid
      have hchar : (image + (c.toNat - first)).isValidChar := by
        unfold Nat.isValidChar
        omega
      have hform : (Char.ofNat (image + (c.toNat - first))).toNat = image + (c.toNat - first) := by
        rw [Char.ofNat, dif_pos hchar]
        rfl
      right
      omega
  · exact .inr h

/-- A text whose lower-case form is ASCII and has no letter k is ASCII itself. -/
theorem ascii_of_lowerFrom {cs : List Char} (before : List Char)
    (h : ∀ d ∈ lowerFrom before cs, d.toNat < 128 ∧ d ≠ 'k') : ∀ c ∈ cs, c.toNat < 128 := by
  induction cs generalizing before with
  | nil => simp
  | cons c r ih =>
    rw [lowerFrom] at h
    intro d hd
    rcases List.mem_cons.1 hd with rfl | hd
    · have hform : ∀ e ∈ lowerAt before d r, e.toNat < 128 ∧ e ≠ 'k' :=
        fun e he => h e (List.mem_append_left _ he)
      refine Nat.lt_of_not_le fun hge => ?_
      unfold lowerAt at hform
      split at hform
      · -- a sigma becomes one of two Greek letters
        have hsigma := (hform _ List.mem_cons_self).1
        split at hsigma <;> exact absurd hsigma (by decide)
      · split at hform
        · -- a dotted capital leaves a combining dot
          exact absurd (hform '̇' (by simp)).1 (by decide)
        · have hchar := hform _ List.mem_cons_self
          rcases lowerChar_of_not_ascii hge with hk | hlarge
          · exact hchar.2 hk
          · omega
    · exact ih (c :: before) (fun e he => h e (List.mem_append_right _ he)) d hd

/-- A text whose lower-case form is an ASCII word without the letter k is that word in some ASCII
    case. -/
theorem map_toLower_of_lower {cs word : List Char} (h : lower cs = word)
    (hword : ∀ d ∈ word, d.toNat < 128 ∧ d ≠ 'k') : cs.map Char.toLower = word := by
  rw [← h, lower_of_ascii]
  exact ascii_of_lowerFrom [] (by rwa [← h] at hword)

end Text

/-! ## Lexemes -/

namespace Lexeme

open Text

theorem commentEnd?_pos {cs : List Char} {n : Nat} (h : commentEnd? cs = some n) : 2 ≤ n := by
  fun_induction commentEnd? cs generalizing n with
  | case1 => cases h; exact Nat.le_refl 2
  | case2 c r _ ih =>
    obtain ⟨m, hm, rfl⟩ := Option.map_eq_some_iff.1 h
    exact Nat.le_succ_of_le (ih hm)
  | case3 => cases h

theorem number_kind (c : Char) (r : List Char) :
    (number c r).1 = .integer ∨ (number c r).1 = .decimal := by
  unfold number
  split
  · exact .inl rfl
  · simp only
    split
    · exact .inl rfl
    · exact .inr rfl

theorem sign_kind (c : Char) (r : List Char) :
    (sign c r).1 = none ∨ (sign c r).1 = some .separator ∨
      ∃ o, (sign c r).1 = some (.operator o) := by
  unfold sign
  split
  · exact .inr (.inl rfl)
  · split
    · exact .inr (.inr ⟨_, rfl⟩)
    · exact .inl rfl

theorem wordKind_eq_keyword {afterAccess : Bool} {word : List Char} {k : Keyword}
    (h : wordKind afterAccess word = .keyword k) : lower word = k.spelling.toList := by
  unfold wordKind at h
  split at h
  · cases h
  · split at h
    · rename_i k' hfind
      cases h
      have hspelling := List.find?_some hfind
      rw [beq_iff_eq] at hspelling
      rw [hspelling, String.toList_ofList]
    · cases h

theorem wordKind_ne_docComment (afterAccess : Bool) (word : List Char) :
    wordKind afterAccess word ≠ .docComment := by
  unfold wordKind
  split
  · exact nofun
  · split <;> exact nofun

/-- A doc comment starts with a slash and two stars. -/
theorem code_docComment {afterAccess : Bool} {c : Char} {r : List Char} {n : Nat}
    (h : code afterAccess c r = .ok (some .docComment, n)) : ['/', '*', '*'] <+: c :: r.take n := by
  have hconstruct := code_construct afterAccess c r
  rw [h] at hconstruct
  generalize hout : Except.ok (some Kind.docComment, n) = out at hconstruct
  -- only a block comment can be of this kind; for the rest the kinds disagree
  cases hconstruct with
  | @blockComment m hopen hend =>
    cases hdoc : opensDoc r.tail with
    | false => rw [hdoc] at hout; cases hout
    | true =>
      rw [hdoc] at hout
      cases hout
      obtain ⟨rfl, hstar⟩ := hopen
      obtain ⟨r, rfl⟩ := List.head?_eq_some_iff.1 hstar
      have hpos := commentEnd?_pos hend
      unfold opensDoc at hdoc
      split at hdoc
      · rename_i d s htail
        rw [List.tail_cons] at htail
        obtain ⟨k, rfl⟩ : ∃ k, m = k + 1 := ⟨m - 1, by omega⟩
        rw [htail, show 1 + (k + 1) = k + 1 + 1 by omega]
        exact ⟨(d :: s).take k, rfl⟩
      · cases hdoc
  | word =>
    cases hkind : wordKind afterAccess (c :: r.take (runLength isIdentPart r)) with
    | docComment => exact absurd hkind (wordKind_ne_docComment _ _)
    | _ => rw [hkind] at hout; cases hout
  | number =>
    rcases number_kind c r with hkind | hkind <;> rw [hkind] at hout <;> cases hout
  | sign =>
    rcases sign_kind c r with hkind | hkind | ⟨o, hkind⟩ <;> rw [hkind] at hout <;> cases hout
  | _ => cases hout

/-- A keyword is spelled as it is in lower case. -/
theorem code_keyword {afterAccess : Bool} {c : Char} {r : List Char} {k : Keyword} {n : Nat}
    (h : code afterAccess c r = .ok (some (.keyword k), n)) :
    lower (c :: r.take n) = k.spelling.toList := by
  have hconstruct := code_construct afterAccess c r
  rw [h] at hconstruct
  generalize hout : Except.ok (some (Kind.keyword k), n) = out at hconstruct
  -- only a word can be of this kind
  cases hconstruct with
  | blockComment => split at hout <;> cases hout
  | word =>
    obtain ⟨hkind, rfl⟩ := by simpa using hout
    exact wordKind_eq_keyword hkind.symm
  | number =>
    rcases number_kind c r with hkind | hkind <;> rw [hkind] at hout <;> cases hout
  | sign =>
    rcases sign_kind c r with hkind | hkind | ⟨o, hkind⟩ <;> rw [hkind] at hout <;> cases hout
  | _ => cases hout

end Lexeme

/-! ## Tokens -/

/-- A keyword of ASCII letters other than k. -/
def Keyword.isPlain (k : Keyword) : Bool :=
  k.spelling.toList.all fun d => decide (d.toNat < 128 ∧ d ≠ 'k')

/-- A token is spelled as its kind demands: a doc comment starts like one, and a keyword has the
    keyword's lower-case form. -/
structure Token.Spelled (t : Token) : Prop where
  docComment : t.isKind .docComment = true → ['/', '*', '*'] <+: t.content.toList
  keyword : ∀ k, t.isKeyword k = true → Text.lowered t.content = k.spelling

/-- A plain keyword is written in some ASCII case. -/
theorem Token.Spelled.map_toLower {t : Token} (h : t.Spelled) {k : Keyword} (hplain : k.isPlain = true)
    (hk : t.isKeyword k = true) : t.content.toList.map Char.toLower = k.spelling.toList := by
  refine Text.map_toLower_of_lower ?_ fun d hd => of_decide_eq_true (List.all_eq_true.1 hplain d hd)
  rw [← h.keyword k hk, Text.lowered, String.toList_ofList]

theorem Lexeme.openTag?_kind {cs : List Char} {kind : Kind} {n : Nat}
    (h : openTag? cs = some (kind, n)) : kind = .openTag ∨ kind = .openTagWithEcho := by
  unfold openTag? at h
  split at h
  · cases h
    exact .inr rfl
  · split at h
    · obtain ⟨m, _, heq⟩ := Option.map_eq_some_iff.1 h
      cases heq
      exact .inl rfl
    · cases h
  · cases h

theorem Lexeme.markup_kind (c : Char) (r : List Char) :
    (markup c r).1 = .inlineHtml ∨ (markup c r).1 = .openTag ∨
      (markup c r).1 = .openTagWithEcho := by
  unfold markup
  split
  · rename_i kind n htag
    exact .inr (openTag?_kind htag)
  · exact .inl rfl

theorem LexState.lexeme_spelled {st : LexState} {c : Char} {r : List Char} {kind : Option Kind}
    {n : Nat} (line : Int) (h : st.lexeme c r = .ok (kind, n)) :
    Token.Spelled ⟨kind, String.ofList (c :: r.take n), line⟩ := by
  unfold lexeme at h
  split at h
  · constructor
    · intro hdoc
      obtain rfl : kind = some .docComment := by simpa [Token.isKind] using hdoc
      rw [String.toList_ofList]
      exact Lexeme.code_docComment h
    · intro k hk
      obtain rfl : kind = some (.keyword k) := by simpa [Token.isKeyword] using hk
      rw [Text.lowered, String.toList_ofList, Lexeme.code_keyword h, String.ofList_toList]
  · simp only [Except.ok.injEq, Prod.mk.injEq] at h
    obtain ⟨rfl, rfl⟩ := h
    constructor <;> intros <;> rcases Lexeme.markup_kind c r with hkind | hkind | hkind <;>
      simp_all [Token.isKind, Token.isKeyword]

/-- Every token of a run is spelled as its kind demands. -/
theorem Scan.spelled {st after : LexState} {cs rest : List Char} {ts : List Token}
    (h : Scan st cs ts after rest) : ∀ t ∈ ts, t.Spelled := by
  induction h with
  | stop => simp
  | token hlexeme _ ih =>
    intro t ht
    rcases List.mem_cons.1 ht with rfl | ht
    · exact LexState.lexeme_spelled _ hlexeme
    · exact ih t ht

end PhpOutline
