import PhpOutline.Proofs.Heredoc

/-!
# Lexemes and the text after them

A lexeme of code is one of the constructs, and the conditions of the constructs exclude each other.
So a lexeme stays what it is when the text after it is exchanged for one that shows no more. Outside
of code the same holds of opening tags, and of markup if an opening tag still follows it.

Results:
* `Construct.code_eq`: a construct is what is found where its condition holds.
* `sign_append`, `code_append`: a lexeme of code and the text after it.
* `openTag?_append`, `markup_append`: opening tags and markup.
-/

namespace PhpOutline.Lexeme

open PhpOutline.Text

variable {w x y : List Char}

/-! ## Signs -/

theorem noTag_of_mem_spellings {spelling : String × Operator}
    (h : spelling ∈ Operator.spellings) : NoTag spelling.1.toList := by
  have hall : (Operator.spellings.all fun spelling => decide (NoTag spelling.1.toList)) = true := by
    decide +kernel
  exact of_decide_eq_true (List.all_eq_true.1 hall spelling h)

/-- A search finds the same again if what it has found is still to be found and nothing new is. -/
theorem find?_eq_of_imp {α : Type} {p q : α → Bool} {l : List α}
    (hnew : ∀ a ∈ l, q a = true → p a = true) (hfound : ∀ a, l.find? p = some a → q a = true) :
    l.find? q = l.find? p := by
  cases hfind : l.find? p with
  | none =>
    rw [List.find?_eq_none] at hfind ⊢
    exact fun a ha => mt (hnew a ha) (hfind a ha)
  | some a =>
    obtain ⟨-, before, after, rfl, hbefore⟩ := List.find?_eq_some_iff_append.1 hfind
    refine List.find?_eq_some_iff_append.2 ⟨hfound a hfind, before, after, rfl, fun b hb => ?_⟩
    have hnot := hbefore b hb
    rw [Bool.not_eq_true', Bool.eq_false_iff] at hnot ⊢
    exact mt (hnew b (List.mem_append_left _ hb)) hnot

/-- The longest operator is found again if no longer one shows. -/
theorem operator?_append (hs : Shows x y)
    (h : ∀ o n, operator? (w ++ x) = some (o, n) → n ≤ w.length) :
    operator? (w ++ y) = operator? (w ++ x) := by
  unfold operator? at h ⊢
  congr 1
  refine find?_eq_of_imp (fun spelling hmem hy => ?_) (fun spelling hfind => ?_)
  · have hinitial := List.isPrefixOf_iff_prefix.1 hy
    exact List.isPrefixOf_iff_prefix.2 (hs.append w _ (noTag_of_mem_spellings hmem) hinitial)
  · have hn := h spelling.2 spelling.1.length (by rw [hfind]; rfl)
    rw [← String.length_toList] at hn
    have hfound := List.find?_some hfind
    have hinitial := List.isPrefixOf_iff_prefix.1 hfound
    exact List.isPrefixOf_iff_prefix.2 (isPrefix_exchange hinitial hn y)

theorem sign_append {c : Char} (hs : Shows x y) (h : (sign c (w ++ x)).2 ≤ w.length) :
    sign c (w ++ y) = sign c (w ++ x) := by
  unfold sign at h ⊢
  split at h
  · rename_i hc
    rw [if_pos hc, if_pos hc]
  · rename_i hc
    rw [if_neg hc, if_neg hc]
    have hoperator : operator? (c :: (w ++ y)) = operator? (c :: (w ++ x)) := by
      refine operator?_append (w := c :: w) hs fun o n hn => ?_
      rw [List.cons_append] at hn
      rw [hn] at h
      rw [List.length_cons]
      simp only at h
      omega
    rw [hoperator]

/-! ## Code -/

theorem toNat_le_of_isWhitespace {c : Char} (h : isWhitespace c = true) : c.toNat ≤ 32 := by
  rcases Bool.or_eq_true_iff.1 h with hspace | hcontrol
  · rw [beq_iff_eq.1 hspace]
    decide
  · have hle := of_decide_eq_true (Bool.and_eq_true_iff.1 hcontrol).2
    omega

theorem toNat_of_isDigit {c : Char} (h : c.isDigit = true) : 48 ≤ c.toNat ∧ c.toNat ≤ 57 :=
  ⟨of_decide_eq_true (Bool.and_eq_true_iff.1 h).1, of_decide_eq_true (Bool.and_eq_true_iff.1 h).2⟩

theorem le_toNat_of_isAlpha {c : Char} (h : c.isAlpha = true) : 65 ≤ c.toNat := by
  rcases Bool.or_eq_true_iff.1 h with hupper | hlower
  · exact UInt32.le_iff_toNat_le.1 (of_decide_eq_true hupper).1
  · have hle := of_decide_eq_true (Bool.and_eq_true_iff.1 hlower).1
    exact Nat.le_trans (by decide) (UInt32.le_iff_toNat_le.1 hle)

theorem le_toNat_of_isIdentStart {c : Char} (h : isIdentStart c = true) : 65 ≤ c.toNat := by
  rcases Bool.or_eq_true_iff.1 h with hascii | hbeyond
  · rcases Bool.or_eq_true_iff.1 hascii with hletter | hunderscore
    · exact le_toNat_of_isAlpha hletter
    · rw [beq_iff_eq.1 hunderscore]
      decide
  · have hle := of_decide_eq_true hbeyond
    omega

/-- No other construct starts with a quote. -/
theorem code_of_quote {afterAccess : Bool} {c : Char} {r : List Char}
    (h : c = '\'' ∨ c = '"' ∨ c = '`') :
    code afterAccess c r =
      (quoteEnd? c r).elim (.error .quoted) fun n => .ok (some .literal, n) := by
  have hclass : ¬ isWhitespace c = true ∧ ¬ isIdentStart c = true ∧ ¬ c.isDigit = true := by
    rcases h with rfl | rfl | rfl
    · decide
    · decide
    · decide
  have hne : ∀ d : Char, d ∉ ['\'', '"', '`'] → c ≠ d := by
    rintro d hd rfl
    exact hd (by simpa using h)
  rw [code, if_neg (by simp [hne '?']), if_neg hclass.1, if_neg (by simp [hne '/']),
    if_neg (by simp [hne '/', hne '#']), if_neg (by simp [hne '$']), if_neg hclass.2.1,
    if_neg hclass.2.2, if_neg (by simp [hne '.']), if_pos h]
  cases quoteEnd? c r with
  | none => rfl
  | some n => rfl

/-- Three signs and an opening line start a heredoc. -/
theorem code_of_opening {afterAccess : Bool} {r label : List Char} {n : Nat}
    (hr : ['<', '<'].isPrefixOf r = true)
    (hopening : heredocOpening? (r.drop 2) = some (label, n)) :
    code afterAccess '<' r =
      (heredocEnd? label true (r.drop (2 + n))).elim (.error (.heredoc (String.ofList label)))
        fun m => .ok (some .literal, 2 + n + m) := by
  rw [code, if_neg (by simp), if_neg (by decide), if_neg (by simp), if_neg (by simp),
    if_neg (by simp), if_neg (by decide), if_neg (by decide), if_neg (by simp), if_neg (by simp),
    if_pos ⟨rfl, hr⟩, hopening]
  simp only
  cases heredocEnd? label true (r.drop (2 + n)) with
  | none => rfl
  | some m => rfl

/-- A construct is what is found where its condition holds: no two conditions hold together. -/
theorem Construct.code_eq {afterAccess : Bool} {c : Char} {r : List Char}
    {out : Except Unterminated (Option Kind × Nat)} (h : Construct afterAccess c r out) :
    code afterAccess c r = out := by
  cases h with
  | closeTag h => rw [code, if_pos h]
  | whitespace h =>
    rw [code, if_neg, if_pos h]
    rintro ⟨rfl, -⟩
    exact absurd h (by decide)
  | blockComment h hend =>
    obtain ⟨rfl, hr⟩ := h
    rw [code, if_neg (by simp), if_neg (by decide), if_pos ⟨rfl, hr⟩, hend]
  | openComment h hend =>
    obtain ⟨rfl, hr⟩ := h
    rw [code, if_neg (by simp), if_neg (by decide), if_pos ⟨rfl, hr⟩, hend]
  | lineComment h =>
    rcases h with ⟨rfl, hr⟩ | rfl
    · rw [code, if_neg (by simp), if_neg (by decide), if_neg (by simp [hr]),
        if_pos (.inl ⟨rfl, hr⟩)]
    · rw [code, if_neg (by simp), if_neg (by decide), if_neg (by simp), if_pos (.inr rfl)]
  | dollarWord h =>
    obtain ⟨rfl, hr⟩ := h
    rw [code, if_neg (by simp), if_neg (by decide), if_neg (by simp), if_neg (by simp),
      if_pos ⟨rfl, hr⟩]
  | word h =>
    have hspace : ¬ isWhitespace c = true := by
      intro hspace
      have := toNat_le_of_isWhitespace hspace
      have := le_toNat_of_isIdentStart h
      omega
    have hne : ∀ d : Char, isIdentStart d = false → c ≠ d := by
      rintro d hd rfl
      rw [hd] at h
      cases h
    rw [code, if_neg (by simp [hne '?' rfl]), if_neg hspace, if_neg (by simp [hne '/' rfl]),
      if_neg (by simp [hne '/' rfl, hne '#' rfl]), if_neg (by simp [hne '$' rfl]), if_pos h]
  | number h =>
    have hspace : ¬ isWhitespace c = true := by
      intro hspace
      have := toNat_le_of_isWhitespace hspace
      have := toNat_of_isDigit h
      omega
    have hword : ¬ isIdentStart c = true := by
      intro hword
      have := le_toNat_of_isIdentStart hword
      have := toNat_of_isDigit h
      omega
    have hne : ∀ d : Char, d.isDigit = false → c ≠ d := by
      rintro d hd rfl
      rw [hd] at h
      cases h
    rw [code, if_neg (by simp [hne '?' rfl]), if_neg hspace, if_neg (by simp [hne '/' rfl]),
      if_neg (by simp [hne '/' rfl, hne '#' rfl]), if_neg (by simp [hne '$' rfl]), if_neg hword,
      if_pos h]
  | pointNumber h =>
    obtain ⟨rfl, hr⟩ := h
    rw [code, if_neg (by simp), if_neg (by decide), if_neg (by simp), if_neg (by simp),
      if_neg (by simp), if_neg (by decide), if_neg (by decide), if_pos ⟨rfl, hr⟩]
  | quoted h hend => rw [code_of_quote h, hend, Option.elim]
  | openQuote h hend => rw [code_of_quote h, hend, Option.elim]
  | heredoc h hopening hend =>
    obtain ⟨rfl, hr⟩ := h
    rw [code_of_opening hr hopening, hend, Option.elim]
  | openHeredoc h hopening hend =>
    obtain ⟨rfl, hr⟩ := h
    rw [code_of_opening hr hopening, hend, Option.elim]
  | sign h =>
    rw [code, if_neg h.closeTag, if_neg h.whitespace, if_neg h.blockComment, if_neg h.lineComment,
      if_neg h.dollarWord, if_neg h.word, if_neg h.number, if_neg h.pointNumber, if_neg h.quoted]
    split
    · rename_i hopening
      split at hopening
      · rename_i hstart
        rw [h.heredoc hstart] at hopening
        cases hopening
      · cases hopening
    · rfl

theorem head?_exchange (h : 0 < w.length) (x y : List Char) : (w ++ y).head? = (w ++ x).head? := by
  obtain ⟨c, w, rfl⟩ := List.exists_cons_of_length_pos h
  rfl

theorem lineCommentLength_pos {cs : List Char} (h : cs.head? = some '/') :
    0 < lineCommentLength cs := by
  obtain ⟨r, rfl⟩ := List.head?_eq_some_iff.1 h
  rw [lineCommentLength]
  · exact Nat.succ_pos _
  · decide
  · intro r' hc
    cases hc

theorem runLength_pos {p : Char → Bool} {cs : List Char} (h : cs.head?.any p = true) :
    0 < runLength p cs := by
  obtain ⟨c, hc, hp⟩ := (Option.any_eq_true _ _).1 h
  obtain ⟨r, rfl⟩ := List.head?_eq_some_iff.1 hc
  rw [runLength_cons, if_pos hp]
  exact Nat.succ_pos _

theorem IsSign.append {c : Char} (hs : Shows x y) (h : IsSign c (w ++ x)) : IsSign c (w ++ y) := by
  have hshow := hs.append w
  constructor
  · exact fun ⟨hc, hr⟩ => h.closeTag ⟨hc, hshow.head _ hr⟩
  · exact h.whitespace
  · exact fun ⟨hc, hr⟩ => h.blockComment ⟨hc, hshow.head _ hr⟩
  · exact fun hline => h.lineComment (hline.imp_left fun ⟨hc, hr⟩ => ⟨hc, hshow.head _ hr⟩)
  · exact fun ⟨hc, hr⟩ => h.dollarWord ⟨hc, head?_any_of_head hshow.head hr⟩
  · exact h.word
  · exact h.number
  · exact fun ⟨hc, hr⟩ => h.pointNumber ⟨hc, head?_any_of_head hshow.head hr⟩
  · exact h.quoted
  · rintro ⟨hc, hr⟩
    have hsigns := List.isPrefixOf_iff_prefix.1 hr
    have hsigns' := hshow ['<', '<'] (noTag_of_not_mem (by decide)) hsigns
    exact heredocOpening?_none_append hs hsigns
      (h.heredoc ⟨hc, List.isPrefixOf_iff_prefix.2 hsigns'⟩)

/-- A lexeme of code stays what it is when the text after it is exchanged for one that shows no
    more. A closing tag right after a comment has to stay unless nothing comes after it. -/
theorem Construct.append {afterAccess : Bool} {c : Char} {kind : Option Kind} (hs : Shows x y)
    (htag : kind = some .comment → ['?', '>'] <+: x → y = [] ∨ ['?', '>'] <+: y)
    (h : Construct afterAccess c (w ++ x) (.ok (kind, w.length))) :
    Construct afterAccess c (w ++ y) (.ok (kind, w.length)) := by
  generalize hout : Except.ok (kind, w.length) = out at h
  cases h with
  | closeTag h =>
    have hn := (Prod.mk.inj (Except.ok.inj hout)).2
    obtain ⟨d, w, rfl⟩ := List.exists_cons_of_length_pos (show 0 < w.length by omega)
    rw [List.cons_append, List.tail_cons, List.length_cons] at hn
    rw [List.cons_append, List.cons_append, List.tail_cons, ← newlineLength_append hs (by omega)]
    exact .closeTag h
  | whitespace h =>
    have hn := (Prod.mk.inj (Except.ok.inj hout)).2
    rw [← runLength_append hs.head hn.ge]
    exact .whitespace h
  | blockComment h hend =>
    have hn := (Prod.mk.inj (Except.ok.inj hout)).2
    obtain ⟨d, w, rfl⟩ := List.exists_cons_of_length_pos (show 0 < w.length by omega)
    rw [List.cons_append, List.tail_cons] at hend
    rw [List.length_cons] at hn
    have hpos := commentEnd?_pos hend
    have hdoc := opensDoc_append (w := w) (x := x) (y := y) (by omega)
    rw [List.cons_append, List.cons_append, List.tail_cons, ← hdoc]
    exact .blockComment h (commentEnd?_append hend (by omega) y)
  | openComment h hend => cases hout
  | lineComment h =>
    obtain ⟨hkind, hn⟩ := Prod.mk.inj (Except.ok.inj hout)
    rw [← hn, ← lineCommentLength_append hs (htag hkind) hn.symm]
    refine .lineComment (h.imp_left fun ⟨hc, hr⟩ => ⟨hc, ?_⟩)
    rwa [head?_exchange (hn ▸ lineCommentLength_pos hr) x y]
  | dollarWord h =>
    have hn := (Prod.mk.inj (Except.ok.inj hout)).2
    have hpart : (w ++ x).head?.any isIdentPart = true := by
      obtain ⟨d, hd, hstart⟩ := (Option.any_eq_true _ _).1 h.2
      exact (Option.any_eq_true _ _).2 ⟨d, hd, by rw [isIdentPart, hstart, Bool.true_or]⟩
    have hpos : 0 < w.length := hn ▸ runLength_pos hpart
    rw [← runLength_append hs.head hn.ge]
    exact .dollarWord ⟨h.1, by rw [head?_exchange hpos x y]; exact h.2⟩
  | word h =>
    have hn := (Prod.mk.inj (Except.ok.inj hout)).2
    have hrun := runLength_append hs.head hn.ge
    have htake : (w ++ y).take (runLength isIdentPart (w ++ y)) =
        (w ++ x).take (runLength isIdentPart (w ++ x)) := by
      rw [hrun, ← hn, List.take_left, List.take_left]
    rw [← htake, ← hrun]
    exact .word h
  | number h =>
    have hn := (Prod.mk.inj (Except.ok.inj hout)).2
    rw [← number_append hs hn.ge]
    exact .number h
  | pointNumber h =>
    have hn := (Prod.mk.inj (Except.ok.inj hout)).2
    have hpos : 0 < w.length := hn ▸ pointNumber_pos h.2
    rw [← pointNumber_append hs hn.ge]
    exact .pointNumber ⟨h.1, by rw [head?_exchange hpos x y]; exact h.2⟩
  | quoted h hend =>
    have hn := (Prod.mk.inj (Except.ok.inj hout)).2
    exact .quoted h (quoteEnd?_append hend hn.ge y)
  | openQuote h hend => cases hout
  | heredoc h hopening hend =>
    have hn := (Prod.mk.inj (Except.ok.inj hout)).2
    obtain ⟨l, rfl, -, -⟩ := exists_openingLine hopening
    have hlabel : '\n' ∉ l.label := fun hmem => absurd (l.label_all _ hmem) (by decide)
    have hsigns := List.isPrefixOf_iff_prefix.1 h.2
    rw [List.drop_append_of_le_length (by omega)] at hopening hend
    have hsigns' := isPrefix_exchange hsigns (show 2 ≤ w.length by omega) y
    have hopening' := heredocOpening?_append hopening (by rw [List.length_drop]; omega) y
    have hend' := heredocEnd?_append hlabel hs.head hend (by rw [List.length_drop]; omega)
    rw [← List.drop_append_of_le_length (by omega)] at hopening' hend'
    exact .heredoc ⟨h.1, List.isPrefixOf_iff_prefix.2 hsigns'⟩ hopening' hend'
  | openHeredoc h hopening hend => cases hout
  | sign h =>
    have hn := (Prod.mk.inj (Except.ok.inj hout)).2
    rw [← sign_append hs hn.ge]
    exact .sign (h.append hs)

theorem code_append {afterAccess : Bool} {c : Char} {kind : Option Kind} (hs : Shows x y)
    (htag : kind = some .comment → ['?', '>'] <+: x → y = [] ∨ ['?', '>'] <+: y)
    (h : code afterAccess c (w ++ x) = .ok (kind, w.length)) :
    code afterAccess c (w ++ y) = .ok (kind, w.length) := by
  have hconstruct := code_construct afterAccess c (w ++ x)
  rw [h] at hconstruct
  exact (hconstruct.append hs htag).code_eq

/-! ## Markup -/

theorem tagEnd?_cons (c : Char) (r : List Char) :
    tagEnd? (c :: r) =
      if c = '\r' ∧ r.head? = some '\n' then some 2 else if isBlank c then some 1 else none := by
  rw [tagEnd?.eq_def]
  split
  · rename_i heq
    cases heq
  · rename_i heq
    cases heq
    rfl
  · rename_i hreturn heq
    cases heq
    have hne : ¬ (c = '\r' ∧ r.head? = some '\n') := by
      rintro ⟨rfl, hr⟩
      obtain ⟨r, rfl⟩ := List.head?_eq_some_iff.1 hr
      exact hreturn r rfl rfl
    rw [if_neg hne]

theorem tagEnd?_append {n : Nat} (hs : Shows x y) (h : tagEnd? (w ++ x) = some n)
    (hn : n ≤ w.length) : tagEnd? (w ++ y) = some n := by
  rcases w with _ | ⟨c, w⟩
  · cases x with
    | nil =>
      rw [hs.eq_nil]
      exact h
    | cons c x =>
      rw [List.nil_append, tagEnd?_cons] at h
      rw [List.length_nil, Nat.le_zero] at hn
      subst hn
      split at h
      · cases h
      · split at h <;> cases h
  · rw [List.cons_append, tagEnd?_cons] at h ⊢
    rw [List.length_cons] at hn
    split at h
    · rename_i hreturn
      cases h
      rw [if_pos ⟨hreturn.1, by rw [head?_exchange (by omega) x y]; exact hreturn.2⟩]
    · rename_i hreturn
      rw [if_neg fun hc => hreturn ⟨hc.1, (hs.append w).head _ hc.2⟩]
      exact h

theorem openTag?_eq_some_iff {cs : List Char} {kind : Kind} {n : Nat} :
    openTag? cs = some (kind, n) ↔
      (∃ r, cs = ['<', '?', '='] ++ r ∧ kind = .openTagWithEcho ∧ n = 3) ∨
        ∃ a b d r m, cs = ['<', '?', a, b, d] ++ r ∧
          (a.toLower = 'p' ∧ b.toLower = 'h' ∧ d.toLower = 'p') ∧ tagEnd? r = some m ∧
          kind = .openTag ∧ n = 5 + m := by
  constructor
  · intro htag
    unfold openTag? at htag
    split at htag
    · rename_i r
      cases htag
      exact .inl ⟨r, rfl, rfl, rfl⟩
    · rename_i a b d r _
      split at htag
      · rename_i hletters
        obtain ⟨m, hm, heq⟩ := Option.map_eq_some_iff.1 htag
        cases heq
        exact .inr ⟨a, b, d, r, m, rfl, hletters, hm, rfl, rfl⟩
      · cases htag
    · cases htag
  · rintro (⟨r, rfl, rfl, rfl⟩ | ⟨a, b, d, r, m, rfl, hletters, hm, rfl, rfl⟩)
    · rfl
    · have ha : a = '=' → False := by
        rintro rfl
        exact absurd hletters.1 (by decide)
      simp only [List.cons_append, List.nil_append]
      rw [openTag?, if_pos hletters, hm]
      · rfl
      · exact ha

/-- An opening tag within `w` is found again. -/
theorem openTag?_append {kind : Kind} {n : Nat} (hs : Shows x y)
    (h : openTag? (w ++ x) = some (kind, n)) (hn : n ≤ w.length) :
    openTag? (w ++ y) = some (kind, n) := by
  rcases openTag?_eq_some_iff.1 h with
    ⟨r, heq, rfl, rfl⟩ | ⟨a, b, d, r, m, heq, hletters, hm, rfl, rfl⟩
  · obtain ⟨v, rfl⟩ := List.prefix_of_prefix_length_le ⟨r, heq.symm⟩ (List.prefix_append w x) hn
    exact openTag?_eq_some_iff.2 (.inl ⟨v ++ y, List.append_assoc _ _ _, rfl, rfl⟩)
  · obtain ⟨v, rfl⟩ := List.prefix_of_prefix_length_le ⟨r, heq.symm⟩ (List.prefix_append w x)
      (Nat.le_of_add_right_le hn)
    rw [List.append_assoc, List.append_cancel_left_eq] at heq
    subst heq
    have hm' := tagEnd?_append hs hm (by simpa [Nat.add_comm 5] using hn)
    exact openTag?_eq_some_iff.2
      (.inr ⟨a, b, d, v ++ y, m, List.append_assoc _ _ _, hletters, hm', rfl, rfl⟩)

theorem ne_of_toLower {c : Char} (h : c.toLower = 'p' ∨ c.toLower = 'h') :
    c ≠ '<' ∧ c ≠ '?' ∧ c ≠ '>' := by
  refine ⟨?_, ?_, ?_⟩
  · rintro rfl
    exact absurd h (by decide)
  · rintro rfl
    exact absurd h (by decide)
  · rintro rfl
    exact absurd h (by decide)

/-- An opening tag shows in its letters and the blank after them, unless it is all of the text. -/
theorem exists_isPrefix_of_openTag {cs : List Char} (h : (openTag? cs).isSome = true) :
    (∃ t, t <+: cs ∧ NoTag t ∧ ∀ z, (openTag? (t ++ z)).isSome = true) ∨ '<' ∉ cs.tail := by
  obtain ⟨⟨kind, n⟩, hopen⟩ := Option.isSome_iff_exists.1 h
  rcases openTag?_eq_some_iff.1 hopen with
    ⟨r, rfl, -, -⟩ | ⟨a, b, d, r, m, rfl, hletters, hm, -, -⟩
  · exact .inl ⟨['<', '?', '='], List.prefix_append _ _, by decide, fun z => rfl⟩
  · have ha := ne_of_toLower (.inl hletters.1)
    have hb := ne_of_toLower (.inr hletters.2.1)
    have hd := ne_of_toLower (.inl hletters.2.2)
    cases r with
    | nil =>
      refine .inr ?_
      simp [ha.1.symm, hb.1.symm, hd.1.symm]
    | cons c r =>
      refine .inl ⟨['<', '?', a, b, d, c], ⟨r, rfl⟩, ?_, fun z => ?_⟩
      · simp [NoTag, ha.2, hb.2, hd.2]
      · have hblank : isBlank c = true := by
          rw [tagEnd?_cons] at hm
          by_cases hc : c = '\r'
          · rw [hc]
            decide
          · rw [if_neg fun hreturn => hc hreturn.1] at hm
            by_contra hnot
            rw [if_neg hnot] at hm
            cases hm
        obtain ⟨k, hk⟩ : ∃ k, tagEnd? (c :: z) = some k := by
          rw [tagEnd?_cons, if_pos hblank]
          split
          · exact ⟨2, rfl⟩
          · exact ⟨1, rfl⟩
        have hsome := openTag?_eq_some_iff.2
          (.inr ⟨a, b, d, c :: z, k, rfl, hletters, hk, rfl, rfl⟩)
        exact Option.isSome_iff_exists.2 ⟨_, hsome⟩

theorem openTag?_none_append (hs : Shows x y) (hw : w ≠ []) (hy : '<' ∈ y)
    (h : openTag? (w ++ x) = none) : openTag? (w ++ y) = none := by
  by_contra hne
  rcases exists_isPrefix_of_openTag (Option.isSome_iff_ne_none.2 hne) with
    ⟨t, ht, htag, hopen⟩ | hmark
  · obtain ⟨z, hz⟩ := hs.append w t htag ht
    have hsome := hopen z
    rw [hz, h] at hsome
    cases hsome
  · rw [List.tail_append_of_ne_nil hw] at hmark
    exact hmark (List.mem_append_right _ hy)

theorem exists_cons_of_openTag {cs : List Char} (h : (openTag? cs).isSome = true) :
    ∃ r, cs = '<' :: r := by
  obtain ⟨⟨kind, n⟩, hopen⟩ := Option.isSome_iff_exists.1 h
  rcases openTag?_eq_some_iff.1 hopen with ⟨r, rfl, -⟩ | ⟨a, b, d, r, m, rfl, -⟩
  · exact ⟨_, rfl⟩
  · exact ⟨_, rfl⟩

theorem markupLength_append (hs : Shows x y) (hy : (openTag? y).isSome = true)
    (h : markupLength (w ++ x) = w.length) : markupLength (w ++ y) = w.length := by
  obtain ⟨r, rfl⟩ := exists_cons_of_openTag hy
  induction w with
  | nil => rw [List.nil_append, markupLength, if_pos hy, List.length_nil]
  | cons c w ih =>
    rw [List.cons_append, markupLength] at h
    split at h
    · cases h
    · rename_i hnone
      have hnone' := openTag?_none_append (w := c :: w) hs (List.cons_ne_nil _ _)
        List.mem_cons_self (Option.not_isSome_iff_eq_none.1 hnone)
      rw [List.cons_append] at hnone' ⊢
      rw [markupLength, hnone', if_neg (by simp), ih (Nat.succ.inj h), List.length_cons]

/-- Markup stays what it is if the text after it still starts with an opening tag. -/
theorem markup_append {c : Char} {kind : Kind} (hs : Shows x y)
    (htag : kind = .inlineHtml → (openTag? y).isSome = true)
    (h : markup c (w ++ x) = (kind, w.length)) : markup c (w ++ y) = (kind, w.length) := by
  unfold markup at h ⊢
  cases hopen : openTag? (c :: (w ++ x)) with
  | some tag =>
    obtain ⟨kind, n⟩ := tag
    simp only [hopen] at h
    obtain ⟨rfl, hn⟩ := Prod.mk.inj h
    have hopen' := openTag?_append (w := c :: w) hs hopen (by rw [List.length_cons]; omega)
    rw [List.cons_append] at hopen'
    rw [hopen', ← hn]
  | none =>
    simp only [hopen] at h
    obtain ⟨rfl, hn⟩ := Prod.mk.inj h
    have hy := htag rfl
    obtain ⟨r, rfl⟩ := exists_cons_of_openTag hy
    have hopen' := openTag?_none_append (w := c :: w) hs (List.cons_ne_nil _ _)
      List.mem_cons_self hopen
    rw [List.cons_append] at hopen'
    rw [hopen', markupLength_append hs hy hn]

/-- Markup runs up to an opening tag or the end of the text. -/
theorem isSome_openTag_of_markupLength (h : markupLength (w ++ x) = w.length) (hx : x ≠ []) :
    (openTag? x).isSome = true := by
  induction w with
  | nil =>
    obtain ⟨c, r, rfl⟩ := List.exists_cons_of_ne_nil hx
    rw [List.nil_append, markupLength] at h
    by_contra hnone
    rw [if_neg hnone] at h
    cases h
  | cons c w ih =>
    rw [List.cons_append, markupLength] at h
    split at h
    · cases h
    · exact ih (Nat.succ.inj h)

end PhpOutline.Lexeme
