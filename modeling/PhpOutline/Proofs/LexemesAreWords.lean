import PhpOutline.Proofs.Modes

/-!
# Lexemes are words of the language

What a word of each kind is, said without the scanning that cuts it off: white space, comments,
literals, names, numbers and signs as sets of texts. Every lexeme is a word of its kind.

Results:
* `commentEnd?_spec`, `lineCommentLength_spec`: where comments end.
* `quoteEnd?_spec`: where a literal in quotes ends.
* `heredocEnd?_spec`: where a heredoc ends.
* `exponent_word`, `number_word`: numbers.
* `LexState.lexeme_isWord`: the lexeme in any state.
-/

namespace PhpOutline.Lexeme

open PhpOutline.Text

/-! ## Words -/

/-- A name: an ASCII letter, the underscore or a character beyond ASCII, then those or digits. -/
def IsName (w : List Char) : Prop :=
  ∃ c r, w = c :: r ∧ isIdentStart c = true ∧ ∀ d ∈ r, isIdentPart d = true

/-- A comment to the end of a line: no closing tag stands in it, and a line feed only at its end. -/
structure IsLineComment (w : List Char) : Prop where
  opening : ['/', '/'] <+: w ∨ ['#'] <+: w
  untagged : ¬ ['?', '>'] <:+: w
  feed : '\n' ∉ w.dropLast

/-- A comment between signs: the first closing sign after the opening one is at its end. -/
structure IsBlockComment (w : List Char) : Prop where
  opening : ['/', '*'] <+: w
  closing : ∃ i, 2 ≤ i ∧ w.drop i = ['*', '/'] ∧ ∀ j, 2 ≤ j → j < i → ¬ ['*', '/'] <+: w.drop j

/-- The start of a doc comment: a slash, two stars and a blank. -/
def StartsDoc (w : List Char) : Prop :=
  ∃ c r, w = '/' :: '*' :: '*' :: c :: r ∧ isBlank c = true

/-- The number of backslashes at the end of a text. -/
def trailingBackslashes (w : List Char) : Nat := (w.reverse.takeWhile (· == '\\')).length

/-- A literal in quotes: after the opening quote, the first one that is not escaped is at its end. A
    character is escaped if the number of backslashes right before it is odd. -/
def IsQuoted (w : List Char) : Prop :=
  ∃ quote body, w = quote :: (body ++ [quote]) ∧
    (quote = '\'' ∨ quote = '"' ∨ quote = '`') ∧ trailingBackslashes body % 2 = 0 ∧
    ∀ a b, body = a ++ quote :: b → trailingBackslashes a % 2 = 1

/-- A heredoc: its opening line, whole lines, and its label after blanks. -/
def IsHeredoc (w : List Char) : Prop :=
  ∃ (l : OpeningLine) (body blanks : List Char),
    w = ['<', '<', '<'] ++ (l.text ++ (body ++ (blanks ++ l.label))) ∧
    (body = [] ∨ body.getLast? = some '\n') ∧ ∀ c ∈ blanks, isSpaceOrTab c = true

/-- Digits, with underscores that group them. -/
def IsDigits (w : List Char) : Prop :=
  ∃ d r, w = d :: r ∧ d.isDigit = true ∧ ∀ c ∈ r, isDigitOrGroup c = true

/-- An exponent: the letter, an optional sign and digits. -/
def IsExponent (w : List Char) : Prop :=
  ∃ e sign ds, w = e :: (sign ++ ds) ∧ (e = 'e' ∨ e = 'E') ∧
    (sign = [] ∨ sign = ['+'] ∨ sign = ['-']) ∧ ds ≠ [] ∧ ∀ d ∈ ds, d.isDigit = true

/-- An integer: digits, or a zero, the letter of a base and digits of that base. -/
def IsInteger (w : List Char) : Prop :=
  IsDigits w ∨
    ∃ letter ds, w = '0' :: letter :: ds ∧ ds ≠ [] ∧ ∀ d ∈ ds, isBasedDigit letter d = true

/-- A decimal number has a point or an exponent, and digits on one side of the point. -/
inductive IsDecimal : List Char → Prop where
  | fraction {whole ds exponent : List Char} (hwhole : whole = [] ∨ IsDigits whole)
      (hds : IsDigits ds) (hexponent : exponent = [] ∨ IsExponent exponent) :
      IsDecimal (whole ++ '.' :: (ds ++ exponent))
  | point {whole exponent : List Char} (hwhole : IsDigits whole)
      (hexponent : exponent = [] ∨ IsExponent exponent) : IsDecimal (whole ++ '.' :: exponent)
  | exponent {whole exponent : List Char} (hwhole : IsDigits whole)
      (hexponent : IsExponent exponent) : IsDecimal (whole ++ exponent)

/-- The text is a word of the kind. A keyword is a name whose lower-case form is its spelling. -/
def IsWord : Option Kind → List Char → Prop
  | none, w => ∃ c, w = [c] ∧ isWhitespace c = false ∧ isIdentPart c = false
  | some .inlineHtml, w => w ≠ []
  | some .openTag, w => ∃ word feed, w = ['<', '?'] ++ (word ++ feed) ∧
      word.map Char.toLower = ['p', 'h', 'p'] ∧
      (feed = [] ∨ feed = ['\r', '\n'] ∨ ∃ c, feed = [c] ∧ isBlank c = true)
  | some .openTagWithEcho, w => w = ['<', '?', '=']
  | some .closeTag, w => ∃ feed, w = ['?', '>'] ++ feed ∧
      (feed = [] ∨ feed = ['\n'] ∨ feed = ['\r', '\n'])
  | some .whitespace, w => w ≠ [] ∧ ∀ c ∈ w, c ∈ [' ', '\t', '\r', '\n', '\x0c', '\x0b']
  | some .comment, w => IsLineComment w ∨ IsBlockComment w ∧ ¬ StartsDoc w
  | some .docComment, w => IsBlockComment w ∧ StartsDoc w
  | some .name, w => IsName w
  | some .variable, w => ∃ name, w = '$' :: name ∧ IsName name
  | some .integer, w => IsInteger w
  | some .decimal, w => IsDecimal w
  | some .literal, w => IsQuoted w ∨ IsHeredoc w
  | some .separator, w => w = ['\\']
  | some (.keyword k), w => IsName w ∧ lower w = k.spelling.toList
  | some (.operator o), w => (String.ofList w, o) ∈ Operator.spellings

/-! ## Runs of characters -/

theorem take_runLength (p : Char → Bool) (r : List Char) :
    r.take (runLength p r) = r.takeWhile p :=
  (List.prefix_iff_eq_take.1 (List.takeWhile_prefix p)).symm

theorem all_take_runLength (p : Char → Bool) (r : List Char) :
    ∀ c ∈ r.take (runLength p r), p c = true := by
  rw [take_runLength]
  exact List.all_eq_true.1 List.all_takeWhile

/-- A run takes all characters of its class. -/
theorem head?_drop_runLength (p : Char → Bool) (r : List Char) :
    ∀ c ∈ (r.drop (runLength p r)).head?, p c = false := by
  induction r with
  | nil => intro c hc; cases hc
  | cons d r ih =>
    rw [runLength_cons]
    split
    · exact ih
    · rename_i hd
      intro c hc
      cases hc
      exact Bool.eq_false_iff.2 hd

theorem isName_cons {c : Char} (r : List Char) (h : isIdentStart c = true) :
    IsName (c :: r.take (runLength isIdentPart r)) :=
  ⟨c, _, rfl, h, all_take_runLength isIdentPart r⟩

/-- A run of name characters that starts like a name is one. -/
theorem isName_take {r : List Char} (h : r.head?.any isIdentStart = true) :
    IsName (r.take (runLength isIdentPart r)) := by
  obtain ⟨c, hc, hstart⟩ := (Option.any_eq_true _ _).1 h
  obtain ⟨r, rfl⟩ := List.head?_eq_some_iff.1 hc
  rw [runLength_cons, if_pos (by rw [isIdentPart, hstart, Bool.true_or]), List.take_succ_cons]
  exact isName_cons r hstart

/-- The six characters of white space. -/
theorem mem_of_isWhitespace {c : Char} (h : isWhitespace c = true) :
    c ∈ [' ', '\t', '\r', '\n', '\x0c', '\x0b'] := by
  rcases Bool.or_eq_true_iff.1 h with hspace | hcontrol
  · rw [beq_iff_eq.1 hspace]
    exact List.mem_cons_self
  · obtain ⟨hle, hge⟩ := Bool.and_eq_true_iff.1 hcontrol
    have hchar : c = Char.ofNat c.toNat := (Char.ofNat_toNat c).symm
    have hcases : c.toNat = 9 ∨ c.toNat = 10 ∨ c.toNat = 11 ∨ c.toNat = 12 ∨ c.toNat = 13 := by
      have := of_decide_eq_true hle
      have := of_decide_eq_true hge
      omega
    rcases hcases with hn | hn | hn | hn | hn <;> rw [hchar, hn] <;> decide

/-! ## Comments -/

/-- A block comment ends with the first closing sign. -/
theorem commentEnd?_spec {cs : List Char} {n : Nat} (h : commentEnd? cs = some n) :
    ∃ i, n = i + 2 ∧ ['*', '/'] <+: cs.drop i ∧ ∀ j < i, ¬ ['*', '/'] <+: cs.drop j := by
  fun_induction commentEnd? cs generalizing n with
  | case1 r =>
    cases h
    exact ⟨0, rfl, ⟨r, rfl⟩, fun j hj => absurd hj (Nat.not_lt_zero j)⟩
  | case2 c r hclose ih =>
    obtain ⟨m, hm, rfl⟩ := Option.map_eq_some_iff.1 h
    obtain ⟨i, rfl, hend, hfirst⟩ := ih hm
    refine ⟨i + 1, rfl, hend, fun j hj => ?_⟩
    cases j with
    | zero =>
      rintro ⟨rest, hrest⟩
      cases hrest
      exact hclose rest rfl rfl
    | succ j => exact hfirst j (Nat.lt_of_succ_lt_succ hj)
  | case3 => cases h

/-- A block comment within a text. -/
theorem isBlockComment_of_commentEnd? {r : List Char} {n : Nat} (h : commentEnd? r = some n) :
    IsBlockComment ('/' :: '*' :: r.take n) := by
  have hn := commentEnd?_le h
  obtain ⟨i, rfl, ⟨rest, hrest⟩, hfirst⟩ := commentEnd?_spec h
  refine ⟨⟨_, rfl⟩, i + 2, Nat.le_add_left 2 i, ?_, fun j hj hji hclose => ?_⟩
  · show (r.take (i + 2)).drop i = ['*', '/']
    rw [List.drop_take, ← hrest, Nat.add_sub_cancel_left]
    rfl
  · obtain ⟨k, rfl⟩ := Nat.exists_eq_add_of_le' hj
    refine hfirst k (by omega) (hclose.trans ?_)
    show (r.take (i + 2)).drop k <+: r.drop k
    rw [List.drop_take]
    exact List.take_prefix _ _

theorem startsDoc_iff {r : List Char} {n : Nat} (h : commentEnd? r = some n) :
    StartsDoc ('/' :: '*' :: r.take n) ↔ opensDoc r = true := by
  constructor
  · rintro ⟨c, s, heq, hblank⟩
    have htake : r.take n = '*' :: c :: s := (List.cons.inj (List.cons.inj heq).2).2
    rw [← List.take_append_drop n r, htake]
    exact hblank
  · intro hdoc
    unfold opensDoc at hdoc
    split at hdoc
    · rename_i c s
      obtain ⟨k, rfl⟩ := Nat.exists_eq_add_of_le' (commentEnd?_pos h)
      exact ⟨c, s.take k, rfl, hdoc⟩
    · cases hdoc

theorem not_mem_dropLast_cons {a c : Char} {w : List Char} (hc : a ≠ c) (h : a ∉ w.dropLast) :
    a ∉ (c :: w).dropLast := by
  cases w with
  | nil => exact List.not_mem_nil
  | cons d w =>
    rw [List.dropLast_cons_cons, List.mem_cons, not_or]
    exact ⟨hc, h⟩

/-- A line comment ends with a line feed, at a closing tag or with the text. -/
theorem lineCommentLength_spec (cs : List Char) :
    ¬ ['?', '>'] <:+: cs.take (lineCommentLength cs) ∧
      '\n' ∉ (cs.take (lineCommentLength cs)).dropLast ∧
      ((cs.take (lineCommentLength cs)).getLast? = some '\n' ∨
        cs.drop (lineCommentLength cs) = [] ∨
        ['?', '>'] <+: cs.drop (lineCommentLength cs)) := by
  fun_induction lineCommentLength cs with
  | case1 => exact ⟨by simp, by simp, .inr (.inl rfl)⟩
  | case2 r => exact ⟨by simp [List.infix_cons_iff], by simp, .inl rfl⟩
  | case3 r => exact ⟨by simp, by simp, .inr (.inr ⟨r, rfl⟩)⟩
  | case4 c r hfeed hclose ih =>
    obtain ⟨htag, hline, hend⟩ := ih
    rw [List.take_succ_cons, List.drop_succ_cons]
    refine ⟨?_, ?_, ?_⟩
    · rw [List.infix_cons_iff]
      rintro (⟨rest, hrest⟩ | hlater)
      · -- a question mark whose angle bracket is in the rest of the comment
        obtain ⟨rfl, hr⟩ := List.cons.inj hrest
        have hsplit := List.take_append_drop (lineCommentLength r) r
        rw [← hr] at hsplit
        exact hclose _ rfl hsplit.symm
      · exact htag hlater
    · exact not_mem_dropLast_cons (fun hc => hfeed hc.symm) hline
    · refine hend.imp_left fun hlast => ?_
      cases hw : r.take (lineCommentLength r) with
      | nil => rw [hw] at hlast; cases hlast
      | cons d w => rwa [List.getLast?_cons_cons, ← hw]

theorem isLineComment_of_opening {c : Char} {r : List Char}
    (h : (c = '/' ∧ r.head? = some '/') ∨ c = '#') :
    IsLineComment (c :: r.take (lineCommentLength r)) := by
  obtain ⟨htag, hline, -⟩ := lineCommentLength_spec r
  have hc : c ≠ '?' ∧ c ≠ '\n' := by
    rcases h with ⟨rfl, -⟩ | rfl <;> decide
  refine ⟨?_, ?_, not_mem_dropLast_cons hc.2.symm hline⟩
  · rcases h with ⟨rfl, hslash⟩ | rfl
    · obtain ⟨r, rfl⟩ := List.head?_eq_some_iff.1 hslash
      exact .inl ⟨r.take (lineCommentLength r), rfl⟩
    · exact .inr ⟨_, rfl⟩
  · rw [List.infix_cons_iff]
    rintro (⟨rest, hrest⟩ | hlater)
    · exact hc.1 (List.cons.inj hrest).1.symm
    · exact htag hlater

/-! ## Literals -/

theorem trailingBackslashes_concat (w : List Char) (c : Char) :
    trailingBackslashes (w ++ [c]) = if c = '\\' then trailingBackslashes w + 1 else 0 := by
  rw [trailingBackslashes, List.reverse_append, List.reverse_singleton, List.singleton_append]
  by_cases hc : c = '\\'
  · rw [if_pos hc, List.takeWhile_cons_of_pos (by simp [hc]), List.length_cons]
    rfl
  · rw [if_neg hc, List.takeWhile_cons_of_neg (by simp [hc]), List.length_nil]

/-- A literal ends with the first quote that is not escaped. The text comes after `before`, which
    ends with an even number of backslashes and so does not escape anything in the text. -/
theorem quoteEnd?_spec {quote : Char} {before cs : List Char} {n : Nat} (hquote : quote ≠ '\\')
    (hbefore : trailingBackslashes before % 2 = 0) (h : quoteEnd? quote cs = some n) :
    ∃ body, cs.take n = body ++ [quote] ∧ trailingBackslashes (before ++ body) % 2 = 0 ∧
      ∀ a b, body = a ++ quote :: b → trailingBackslashes (before ++ a) % 2 = 1 := by
  fun_induction quoteEnd? quote cs generalizing before n with
  | case1 => cases h
  | case2 => cases h
  | case3 c r ih =>
    -- a backslash and the character it escapes are passed together, so the number stays even
    obtain ⟨m, hm, rfl⟩ := Option.map_eq_some_iff.1 h
    have hone : trailingBackslashes (before ++ ['\\']) = trailingBackslashes before + 1 := by
      rw [trailingBackslashes_concat, if_pos rfl]
    have htwo : trailingBackslashes (before ++ ['\\'] ++ [c]) % 2 = 0 := by
      rw [trailingBackslashes_concat, hone]
      split <;> omega
    obtain ⟨body, htake, hend, hescaped⟩ := ih htwo hm
    refine ⟨'\\' :: c :: body, ?_, by simpa using hend, ?_⟩
    · rw [List.take_succ_cons, List.take_succ_cons, htake]
      rfl
    · intro a b hbody
      -- the quote is not the backslash; it is the character after it, or stands further on
      rcases a with _ | ⟨x, _ | ⟨y, a⟩⟩
      · exact absurd (List.cons.inj hbody).1.symm hquote
      · cases hbody
        omega
      · cases hbody
        simpa using hescaped a b rfl
  | case4 r hlone hescape =>
    cases h
    exact ⟨[], rfl, by rwa [List.append_nil], by simp⟩
  | case5 c r hlone hescape hne ih =>
    obtain ⟨m, hm, rfl⟩ := Option.map_eq_some_iff.1 h
    have hone : trailingBackslashes (before ++ [c]) % 2 = 0 := by
      rw [trailingBackslashes_concat, if_neg (ne_backslash hlone hescape)]
    obtain ⟨body, htake, hend, hescaped⟩ := ih hone hm
    refine ⟨c :: body, ?_, by simpa using hend, ?_⟩
    · rw [List.take_succ_cons, htake]
      rfl
    · intro a b hbody
      rcases a with _ | ⟨x, a⟩
      · exact absurd (List.cons.inj hbody).1 hne
      · cases hbody
        simpa using hescaped a b rfl

theorem isQuoted_of_quoteEnd? {c : Char} {r : List Char} {n : Nat}
    (hquote : c = '\'' ∨ c = '"' ∨ c = '`') (h : quoteEnd? c r = some n) :
    IsQuoted (c :: r.take n) := by
  have hne : c ≠ '\\' := by rcases hquote with rfl | rfl | rfl <;> decide
  obtain ⟨body, htake, hend, hescaped⟩ := @quoteEnd?_spec c [] r n hne rfl h
  rw [htake]
  exact ⟨c, body, rfl, hquote, hend, hescaped⟩

theorem closingLabel?_spec {label cs : List Char} {n : Nat} (h : closingLabel? label cs = some n) :
    ∃ blanks, cs.take n = blanks ++ label ∧ ∀ c ∈ blanks, isSpaceOrTab c = true := by
  unfold closingLabel? at h
  simp only at h
  split at h
  · rename_i hcond
    cases h
    refine ⟨cs.take (runLength isSpaceOrTab cs), ?_, all_take_runLength isSpaceOrTab cs⟩
    have hlabel := List.isPrefixOf_iff_prefix.1 (Bool.and_eq_true_iff.1 hcond).1
    rw [List.take_add, ← List.prefix_iff_eq_take.1 hlabel]
  · cases h

/-- A heredoc ends with its label after blanks at the start of a line. -/
theorem heredocEnd?_spec {label cs : List Char} {lineStart : Bool} {n : Nat}
    (h : heredocEnd? label lineStart cs = some n) :
    ∃ body blanks, cs.take n = body ++ (blanks ++ label) ∧
      (lineStart = true ∧ body = [] ∨ body.getLast? = some '\n') ∧
      ∀ c ∈ blanks, isSpaceOrTab c = true := by
  induction cs generalizing lineStart n with
  | nil =>
    rcases heredocEnd?_eq_some_iff.1 h with ⟨hstart, hclosing⟩ | ⟨-, c, r, m, hcons, -, -⟩
    · obtain ⟨blanks, htake, hblanks⟩ := closingLabel?_spec hclosing
      exact ⟨[], blanks, htake, .inl ⟨hstart, rfl⟩, hblanks⟩
    · cases hcons
  | cons c r ih =>
    rcases heredocEnd?_eq_some_iff.1 h with ⟨hstart, hclosing⟩ | ⟨-, d, s, m, hcons, hlater, rfl⟩
    · obtain ⟨blanks, htake, hblanks⟩ := closingLabel?_spec hclosing
      exact ⟨[], blanks, htake, .inl ⟨hstart, rfl⟩, hblanks⟩
    · cases hcons
      obtain ⟨body, blanks, htake, hbody, hblanks⟩ := ih hlater
      refine ⟨c :: body, blanks, ?_, .inr ?_, hblanks⟩
      · rw [List.take_succ_cons, htake]
        rfl
      · rcases hbody with ⟨hfeed, rfl⟩ | hlast
        · rw [beq_iff_eq.1 hfeed]
          rfl
        · rw [List.getLast?_cons, hlast]
          rfl

theorem isHeredoc_of_heredocEnd? {r label : List Char} {n m : Nat}
    (hr : ['<', '<'].isPrefixOf r = true)
    (hopening : heredocOpening? (r.drop 2) = some (label, n))
    (hend : heredocEnd? label true (r.drop (2 + n)) = some m) :
    IsHeredoc ('<' :: r.take (2 + n + m)) := by
  obtain ⟨r, rfl⟩ := List.isPrefixOf_iff_prefix.1 hr
  obtain ⟨l, rfl, ⟨rest, hrest⟩, rfl⟩ := exists_openingLine hopening
  change l.text ++ rest = r at hrest
  subst hrest
  rw [l.drop_text] at hend
  obtain ⟨body, blanks, htake, hbody, hblanks⟩ := heredocEnd?_spec hend
  refine ⟨l, body, blanks, ?_, hbody.imp_left And.right, hblanks⟩
  have htext : (l.text ++ rest).take (l.text.length + m) = l.text ++ rest.take m :=
    List.take_length_add_append m
  rw [← htake, ← htext, show 2 + l.text.length + m = l.text.length + m + 2 by omega]
  rfl

/-! ## Numbers -/

theorem isDigits_cons {d : Char} (r : List Char) (h : d.isDigit = true) :
    IsDigits (d :: r.take (runLength isDigitOrGroup r)) :=
  ⟨d, _, rfl, h, all_take_runLength isDigitOrGroup r⟩

theorem isDigits_take {r : List Char} (h : r.head?.any Char.isDigit = true) :
    IsDigits (r.take (runLength isDigitOrGroup r)) := by
  obtain ⟨d, hd, hdigit⟩ := (Option.any_eq_true _ _).1 h
  obtain ⟨r, rfl⟩ := List.head?_eq_some_iff.1 hd
  rw [runLength_cons, if_pos (by rw [isDigitOrGroup, hdigit, Bool.true_or]), List.take_succ_cons]
  exact isDigits_cons r hdigit

theorem take_signLength (r : List Char) :
    r.take (signLength r) = [] ∨ r.take (signLength r) = ['+'] ∨ r.take (signLength r) = ['-'] := by
  unfold signLength
  split
  · rename_i hsign
    obtain ⟨s, hs, hmark⟩ := (Option.any_eq_true _ _).1 hsign
    obtain ⟨r, rfl⟩ := List.head?_eq_some_iff.1 hs
    rcases Bool.or_eq_true_iff.1 hmark with hs | hs
    · rw [beq_iff_eq.1 hs]
      exact .inr (.inl rfl)
    · rw [beq_iff_eq.1 hs]
      exact .inr (.inr rfl)
  · exact .inl rfl

/-- What is taken as an exponent is one, or nothing is. -/
theorem exponent_word (cs : List Char) :
    cs.take (exponentLength cs) = [] ∨ IsExponent (cs.take (exponentLength cs)) := by
  cases cs with
  | nil => exact .inl rfl
  | cons e r =>
    rw [exponentLength_cons]
    split
    · rename_i hletter
      split
      · exact .inl rfl
      · rename_i hrun
        refine .inr ⟨e, r.take (signLength r),
          (r.drop (signLength r)).take (runLength Char.isDigit (r.drop (signLength r))), ?_, hletter,
          take_signLength r, ?_, all_take_runLength Char.isDigit _⟩
        · rw [← List.take_add, Nat.add_assoc, Nat.add_comm 1, List.take_succ_cons]
        · obtain ⟨d, s, hds, -⟩ := exists_cons_of_runLength hrun
          rw [Ne, List.take_eq_nil_iff, not_or]
          exact ⟨hrun, by rw [hds]; exact List.cons_ne_nil d s⟩
    · exact .inl rfl

theorem pointNumber_word {r : List Char} (h : r.head?.any Char.isDigit = true) {whole : List Char}
    (hwhole : whole = [] ∨ IsDigits whole) :
    IsDecimal (whole ++ '.' :: r.take (pointNumber r).2) := by
  rw [pointNumber, List.take_add]
  exact .fraction hwhole (isDigits_take h) (exponent_word _)

theorem exponentLength_pos_word {cs : List Char} (h : exponentLength cs ≠ 0) :
    IsExponent (cs.take (exponentLength cs)) := by
  refine (exponent_word cs).resolve_left fun hnil => ?_
  rcases List.take_eq_nil_iff.1 hnil with hzero | rfl
  · exact h hzero
  · exact h rfl

/-- What follows the whole part of a decimal number. -/
theorem fraction_word {whole cs : List Char} (hwhole : IsDigits whole)
    (h : fractionLength cs ≠ 0) : IsDecimal (whole ++ cs.take (fractionLength cs)) := by
  by_cases hpoint : cs.head? = some '.'
  · obtain ⟨r, rfl⟩ := List.head?_eq_some_iff.1 hpoint
    rw [fractionLength_point, Nat.add_comm, List.take_succ_cons]
    split
    · rename_i hdigit
      exact pointNumber_word hdigit (.inr hwhole)
    · exact .point hwhole (exponent_word r)
  · rw [fractionLength_of_ne hpoint] at h ⊢
    exact .exponent hwhole (exponentLength_pos_word h)

theorem number_word {c : Char} (r : List Char) (h : c.isDigit = true) :
    IsWord (some (number c r).1) (c :: r.take (number c r).2) := by
  unfold number
  split
  · rename_i n hbased
    split at hbased
    · rename_i hc
      subst hc
      cases r with
      | nil => cases hbased
      | cons letter r =>
        rw [basedLength?_cons] at hbased
        split at hbased
        · cases hbased
        · rename_i hrun
          cases hbased
          obtain ⟨d, s, hds, -⟩ := exists_cons_of_runLength hrun
          refine .inr ⟨letter, _, by rw [List.take_succ_cons], ?_, all_take_runLength _ r⟩
          rw [Ne, List.take_eq_nil_iff, not_or]
          exact ⟨hrun, by rw [hds]; exact List.cons_ne_nil d s⟩
    · cases hbased
  · simp only
    split
    · exact .inl (isDigits_cons r h)
    · rename_i hfraction
      rw [List.take_add]
      exact fraction_word (isDigits_cons r h) hfraction

/-! ## Signs -/

/-- The operator that is found is the longest one that the text starts with. -/
theorem operator?_spec {cs : List Char} {o : Operator} {n : Nat} (h : operator? cs = some (o, n)) :
    (String.ofList (cs.take n), o) ∈ Operator.spellings ∧
      ∀ s ∈ Operator.spellings, s.1.toList <+: cs → s.1.length ≤ n := by
  -- the longer spellings come first, so a longer one that fits would have been found
  have hsorted : Operator.spellings.Pairwise fun s t => t.1.length ≤ s.1.length := by
    decide +kernel
  obtain ⟨⟨text, sign⟩, hfind, heq⟩ := Option.map_eq_some_iff.1 h
  cases heq
  obtain ⟨hfits, before, later, hspellings, hbefore⟩ := List.find?_eq_some_iff_append.1 hfind
  have htext := List.isPrefixOf_iff_prefix.1 hfits
  rw [hspellings] at hsorted ⊢
  refine ⟨?_, fun s hs hinitial => ?_⟩
  · rw [← String.length_toList, ← List.prefix_iff_eq_take.1 htext, String.ofList_toList]
    exact List.mem_append_right _ List.mem_cons_self
  · rcases List.mem_append.1 hs with hs | hs
    · have hnot : (!s.1.toList.isPrefixOf cs) = true := hbefore s hs
      rw [List.isPrefixOf_iff_prefix.2 hinitial] at hnot
      cases hnot
    · rcases List.mem_cons.1 hs with rfl | hs
      · exact Nat.le_refl _
      · exact (List.pairwise_cons.1 (List.pairwise_append.1 hsorted).2.1).1 s hs

theorem spelling_ne_empty {spelling : String × Operator} (h : spelling ∈ Operator.spellings) :
    spelling.1 ≠ "" := by
  have hall : (Operator.spellings.all fun spelling => spelling.1 != "") = true := by decide +kernel
  exact bne_iff_ne.1 (List.all_eq_true.1 hall spelling h)

theorem operator?_eq_none_iff {cs : List Char} :
    operator? cs = none ↔ ∀ s ∈ Operator.spellings, ¬ s.1.toList <+: cs := by
  rw [operator?, Option.map_eq_none_iff, List.find?_eq_none]
  exact forall₂_congr fun s _ => not_congr List.isPrefixOf_iff_prefix

/-- A sign is a separator, the longest operator that the text starts with, or a character that no
    operator starts with. -/
theorem sign_word {c : Char} {r : List Char} (h : IsSign c r) :
    IsWord (sign c r).1 (c :: r.take (sign c r).2) := by
  unfold sign
  split
  · rename_i hc
    subst hc
    rfl
  · split
    · rename_i o n hfound
      obtain ⟨hmem, -⟩ := operator?_spec hfound
      cases n with
      | zero => exact absurd rfl (spelling_ne_empty hmem)
      | succ n => exact hmem
    · refine ⟨c, rfl, Bool.eq_false_iff.2 h.whitespace, ?_⟩
      rw [isIdentPart, Bool.eq_false_iff.2 h.word, Bool.eq_false_iff.2 h.number]
      rfl

/-! ## Tags -/

theorem closeTag_word (r : List Char) :
    IsWord (some .closeTag) ('?' :: '>' :: r.take (newlineLength r)) := by
  refine ⟨r.take (newlineLength r), rfl, ?_⟩
  by_cases hzero : newlineLength r = 0
  · rw [hzero]
    exact .inl rfl
  · obtain ⟨feed, hfeed, hinitial, hlength⟩ := exists_feed_of_newlineLength hzero
    rw [hlength, ← List.prefix_iff_eq_take.1 hinitial]
    exact .inr hfeed

theorem tagEnd?_word {r : List Char} {m : Nat} (h : tagEnd? r = some m) :
    r.take m = [] ∨ r.take m = ['\r', '\n'] ∨ ∃ c, r.take m = [c] ∧ isBlank c = true := by
  cases r with
  | nil => exact .inl List.take_nil
  | cons c r =>
    rw [tagEnd?_cons] at h
    split at h
    · rename_i hreturn
      cases h
      obtain ⟨rfl, hfeed⟩ := hreturn
      obtain ⟨r, rfl⟩ := List.head?_eq_some_iff.1 hfeed
      exact .inr (.inl rfl)
    · split at h
      · rename_i hblank
        cases h
        exact .inr (.inr ⟨c, rfl, hblank⟩)
      · cases h

theorem openTag?_word {c : Char} {r : List Char} {kind : Kind} {n : Nat}
    (h : openTag? (c :: r) = some (kind, n)) : IsWord (some kind) (c :: r.take (n - 1)) := by
  rcases openTag?_eq_some_iff.1 h with
    ⟨r, heq, rfl, rfl⟩ | ⟨a, b, d, r, m, heq, ⟨ha, hb, hd⟩, hm, rfl, rfl⟩
  · cases heq
    rfl
  · cases heq
    refine ⟨[a, b, d], r.take m, ?_, by simp [ha, hb, hd], tagEnd?_word hm⟩
    rw [show 5 + m - 1 = m + 4 by omega]
    rfl

/-! ## Lexemes -/

theorem wordKind_word {afterAccess : Bool} {word : List Char} (h : IsName word) :
    IsWord (some (wordKind afterAccess word)) word := by
  rcases wordKind_cases afterAccess word with hkind | ⟨k, hkind⟩
  · rw [hkind]
    exact h
  · rw [hkind]
    exact ⟨h, wordKind_eq_keyword hkind⟩

/-- Every lexeme of code is a word of its kind. -/
theorem code_isWord {afterAccess : Bool} {c : Char} {r : List Char} {kind : Option Kind} {n : Nat}
    (h : code afterAccess c r = .ok (kind, n)) : IsWord kind (c :: r.take n) := by
  have hconstruct := code_construct afterAccess c r
  rw [h] at hconstruct
  cases hconstruct with
  | closeTag hsigns =>
    obtain ⟨rfl, hmark⟩ := hsigns
    obtain ⟨r, rfl⟩ := List.head?_eq_some_iff.1 hmark
    rw [List.tail_cons, Nat.add_comm, List.take_succ_cons]
    exact closeTag_word r
  | whitespace hspace =>
    refine ⟨List.cons_ne_nil _ _, List.forall_mem_cons.2 ⟨mem_of_isWhitespace hspace, ?_⟩⟩
    exact fun d hd => mem_of_isWhitespace (all_take_runLength isWhitespace r d hd)
  | @blockComment m hopen hend =>
    obtain ⟨rfl, hstar⟩ := hopen
    obtain ⟨r, rfl⟩ := List.head?_eq_some_iff.1 hstar
    rw [List.tail_cons] at hend ⊢
    rw [Nat.add_comm, List.take_succ_cons]
    have hcomment := isBlockComment_of_commentEnd? hend
    have hdoc := startsDoc_iff hend
    split
    · rename_i hopens
      exact ⟨hcomment, hdoc.2 hopens⟩
    · rename_i hopens
      exact .inr ⟨hcomment, mt hdoc.1 hopens⟩
  | lineComment hopen => exact .inl (isLineComment_of_opening hopen)
  | dollarWord hdollar =>
    obtain ⟨rfl, hname⟩ := hdollar
    exact ⟨_, rfl, isName_take hname⟩
  | word hstart => exact wordKind_word (isName_cons r hstart)
  | number hdigit => exact number_word r hdigit
  | pointNumber hpoint =>
    obtain ⟨rfl, hdigit⟩ := hpoint
    exact pointNumber_word hdigit (.inl rfl)
  | quoted hquote hend => exact .inl (isQuoted_of_quoteEnd? hquote hend)
  | heredoc hstart hopening hend =>
    obtain ⟨rfl, hr⟩ := hstart
    exact .inr (isHeredoc_of_heredocEnd? hr hopening hend)
  | sign hsign => exact sign_word hsign

theorem markup_isWord (c : Char) (r : List Char) :
    IsWord (some (markup c r).1) (c :: r.take (markup c r).2) := by
  unfold markup
  split
  · rename_i hopen
    exact openTag?_word hopen
  · exact List.cons_ne_nil _ _

end PhpOutline.Lexeme

namespace PhpOutline.LexState

/-- Every lexeme is a word of its kind. -/
theorem lexeme_isWord {st : LexState} {c : Char} {r : List Char} {kind : Option Kind} {n : Nat}
    (h : st.lexeme c r = .ok (kind, n)) : Lexeme.IsWord kind (c :: r.take n) := by
  unfold lexeme at h
  split at h
  · exact Lexeme.code_isWord h
  · cases h
    exact Lexeme.markup_isWord c r

end PhpOutline.LexState
