import PhpOutline.Proofs.Lookahead

/-!
# Heredocs

The opening line of a heredoc is a shape of its own: blanks, a label that may stand in quotes and a
line end. It is found wherever it stands in full. The closing label is looked for at the start of
every line, and the first one that ends a word is taken, so it depends on the text after it by one
character only.

Results:
* `OpeningLine.heredocOpening?_text`, `exists_openingLine`: what an opening line is.
* `heredocOpening?_append`, `heredocOpening?_none_append`: opening lines and the text after them.
* `heredocEnd?_append`: the closing label and the text after it.
-/

namespace PhpOutline.Lexeme

open PhpOutline.Text

variable {w x y : List Char}

/-! ## Opening lines -/

/-- A character of a heredoc's label. -/
def isLabelChar (c : Char) : Bool := c.isAlphanum || c == '_'

theorem isSpaceOrTab_of_isLabelChar {c : Char} (hc : isLabelChar c = true) :
    isSpaceOrTab c = false := by
  rw [Bool.eq_false_iff]
  intro h
  simp only [isSpaceOrTab, Bool.or_eq_true, beq_iff_eq] at h
  rcases h with rfl | rfl
  · exact absurd hc (by decide)
  · exact absurd hc (by decide)

/-- The opening line of a heredoc after its three signs: blanks, the label between two quotes or
    none, and a line end. -/
structure OpeningLine where
  blanks : List Char
  quote : List Char
  label : List Char
  feed : List Char
  blanks_all : ∀ c ∈ blanks, isSpaceOrTab c = true
  quote_eq : quote = [] ∨ quote = ['\''] ∨ quote = ['"']
  label_all : ∀ c ∈ label, isLabelChar c = true
  label_head : label.head?.any (fun c => !c.isDigit) = true
  feed_eq : feed = ['\n'] ∨ feed = ['\r', '\n']

theorem takeWhile_append_of_head {p : Char → Bool} (hw : ∀ c ∈ w, p c = true)
    (hx : x.head?.any p = false) : (w ++ x).takeWhile p = w := by
  rw [List.takeWhile_append_of_pos hw]
  cases x with
  | nil => simp
  | cons c x => rw [List.takeWhile_cons_of_neg (by simpa using hx), List.append_nil]

theorem runLength_append_of_head {p : Char → Bool} (hw : ∀ c ∈ w, p c = true)
    (hx : x.head?.any p = false) : runLength p (w ++ x) = w.length := by
  rw [runLength, takeWhile_append_of_head hw hx]

namespace OpeningLine

variable (l : OpeningLine)

/-- The text of an opening line. -/
def text : List Char := l.blanks ++ (l.quote ++ (l.label ++ (l.quote ++ l.feed)))

theorem text_append (rest : List Char) :
    l.text ++ rest = l.blanks ++ (l.quote ++ (l.label ++ (l.quote ++ (l.feed ++ rest)))) := by
  simp only [text, List.append_assoc]

/-- The text that comes after the signs and the opening line of a heredoc. -/
theorem drop_text (body : List Char) :
    (['<', '<'] ++ (l.text ++ body)).drop (2 + l.text.length) = body := by
  rw [Nat.add_comm]
  exact List.drop_left

theorem exists_label_eq_cons : ∃ c r, l.label = c :: r ∧ isLabelChar c = true := by
  have hhead := l.label_head
  have hall := l.label_all
  cases hlabel : l.label with
  | nil => rw [hlabel] at hhead; cases hhead
  | cons c r => exact ⟨c, r, rfl, hall c (by rw [hlabel]; exact List.mem_cons_self)⟩

theorem labelQuote_eq (rest : List Char) :
    labelQuote (l.quote ++ (l.label ++ rest)) = l.quote := by
  obtain ⟨c, r, hlabel, hc⟩ := l.exists_label_eq_cons
  rw [hlabel]
  rcases l.quote_eq with hquote | hquote | hquote
  · rw [hquote, List.nil_append, List.cons_append]
    unfold labelQuote
    split
    · rename_i heq
      cases heq
      exact absurd hc (by decide)
    · rename_i heq
      cases heq
      exact absurd hc (by decide)
    · rfl
  · rw [hquote]
    rfl
  · rw [hquote]
    rfl

/-- An opening line is read as such, whatever comes after it. -/
theorem heredocOpening?_text (rest : List Char) :
    heredocOpening? (l.text ++ rest) = some (l.label, l.text.length) := by
  obtain ⟨c, r, hlabel, hc⟩ := l.exists_label_eq_cons
  have hblanks : runLength isSpaceOrTab
      (l.blanks ++ (l.quote ++ (l.label ++ (l.quote ++ (l.feed ++ rest))))) = l.blanks.length := by
    refine runLength_append_of_head l.blanks_all ?_
    rcases l.quote_eq with hquote | hquote | hquote
    · rw [hquote, hlabel]
      exact isSpaceOrTab_of_isLabelChar hc
    · rw [hquote]
      rfl
    · rw [hquote]
      rfl
  have hword : (l.label ++ (l.quote ++ (l.feed ++ rest))).takeWhile
      (fun c => c.isAlphanum || c == '_') = l.label := by
    refine takeWhile_append_of_head l.label_all ?_
    rcases l.quote_eq with hquote | hquote | hquote
    · rcases l.feed_eq with hfeed | hfeed
      · rw [hquote, hfeed]; rfl
      · rw [hquote, hfeed]; rfl
    · rw [hquote]; rfl
    · rw [hquote]; rfl
  have hclosing : l.quote.isPrefixOf (l.quote ++ (l.feed ++ rest)) = true :=
    List.isPrefixOf_iff_prefix.2 (List.prefix_append _ _)
  have hfeed : newlineLength (l.feed ++ rest) = l.feed.length := by
    rcases l.feed_eq with h | h
    · rw [h]; rfl
    · rw [h]; rfl
  rw [text_append]
  unfold heredocOpening?
  simp only [hblanks, List.drop_left, labelQuote_eq, hword, l.label_head, hclosing, hfeed, if_true]
  split
  · rename_i hnone
    rcases l.feed_eq with h | h
    · rw [h] at hnone; cases hnone
    · rw [h] at hnone; cases hnone
  · simp only [text, List.length_append]
    rw [show ∀ a b c d e : Nat, a + b + c + d + e = a + (b + (c + (d + e))) by omega]

end OpeningLine

theorem labelQuote_cases (cs : List Char) :
    labelQuote cs = [] ∨ labelQuote cs = ['\''] ∨ labelQuote cs = ['"'] := by
  unfold labelQuote
  split
  · exact .inr (.inl rfl)
  · exact .inr (.inr rfl)
  · exact .inl rfl

theorem exists_feed_of_newlineLength {cs : List Char} (h : newlineLength cs ≠ 0) :
    ∃ feed, (feed = ['\n'] ∨ feed = ['\r', '\n']) ∧ feed <+: cs ∧
      newlineLength cs = feed.length := by
  rw [newlineLength_eq] at h ⊢
  split
  · rename_i htwo
    exact ⟨_, .inr rfl, htwo, rfl⟩
  · rename_i htwo
    rw [if_neg htwo] at h
    split
    · rename_i hone
      exact ⟨_, .inl rfl, hone, rfl⟩
    · rename_i hone
      exact absurd (if_neg hone) h

theorem exists_openingLine {cs label : List Char} {n : Nat}
    (h : heredocOpening? cs = some (label, n)) :
    ∃ l : OpeningLine, l.label = label ∧ l.text <+: cs ∧ n = l.text.length := by
  unfold heredocOpening? at h
  simp only at h
  -- the text is taken apart in the order of the reading
  have hblanks := List.prefix_iff_eq_append.1 (List.takeWhile_prefix isSpaceOrTab (l := cs))
  have hblanks_all := List.all_eq_true.1 (List.all_takeWhile (p := isSpaceOrTab) (l := cs))
  unfold runLength at h
  generalize cs.takeWhile isSpaceOrTab = blanks at h hblanks hblanks_all
  generalize cs.drop blanks.length = afterBlanks at h hblanks
  have hquote := List.prefix_iff_eq_append.1 (labelQuote_isInitial afterBlanks)
  have hquote_eq := labelQuote_cases afterBlanks
  generalize labelQuote afterBlanks = quote at h hquote hquote_eq
  generalize afterBlanks.drop quote.length = afterQuote at h hquote
  have hword := List.prefix_iff_eq_append.1
    (List.takeWhile_prefix (fun c => c.isAlphanum || c == '_') (l := afterQuote))
  have hword_all : ∀ c ∈ afterQuote.takeWhile (fun c => c.isAlphanum || c == '_'),
      isLabelChar c = true := List.all_eq_true.1 List.all_takeWhile
  generalize afterQuote.takeWhile (fun c => c.isAlphanum || c == '_') = word at h hword hword_all
  generalize afterQuote.drop word.length = afterWord at h hword
  split at h
  · rename_i hhead
    split at h
    · rename_i hclosing
      have hclosing := List.prefix_iff_eq_append.1 (List.isPrefixOf_iff_prefix.1 hclosing)
      generalize afterWord.drop quote.length = afterClosing at h hclosing
      split at h
      · cases h
      · rename_i hline
        cases h
        obtain ⟨feed, hfeed_eq, ⟨rest, rfl⟩, hlength⟩ := exists_feed_of_newlineLength hline
        refine ⟨⟨blanks, quote, _, feed, hblanks_all, hquote_eq, hword_all, hhead, hfeed_eq⟩,
          rfl, ⟨rest, ?_⟩, ?_⟩
        · rw [OpeningLine.text_append]
          simp only
          rw [hclosing, hword, hquote, hblanks]
        · simp only [OpeningLine.text, List.length_append, hlength]
          omega
    · cases h
  · cases h

theorem OpeningLine.not_mem_text (l : OpeningLine) : '?' ∉ l.text := by
  have hblanks : '?' ∉ l.blanks := fun h => absurd (l.blanks_all _ h) (by decide)
  have hquote : '?' ∉ l.quote := by
    rcases l.quote_eq with h | h | h
    · rw [h]; decide
    · rw [h]; decide
    · rw [h]; decide
  have hlabel : '?' ∉ l.label := fun h => absurd (l.label_all _ h) (by decide)
  have hfeed : '?' ∉ l.feed := by
    rcases l.feed_eq with h | h
    · rw [h]; decide
    · rw [h]; decide
  simp [text, hblanks, hquote, hlabel, hfeed]

/-- An opening line within `w` is found whatever comes after it. -/
theorem heredocOpening?_append {label : List Char} {n : Nat}
    (h : heredocOpening? (w ++ x) = some (label, n)) (hn : n ≤ w.length) (y : List Char) :
    heredocOpening? (w ++ y) = some (label, n) := by
  obtain ⟨l, rfl, htext, rfl⟩ := exists_openingLine h
  obtain ⟨rest, hrest⟩ := isPrefix_exchange htext hn y
  rw [← hrest, l.heredocOpening?_text]

/-- No opening line shows after the signs of a heredoc. -/
theorem heredocOpening?_none_append (hs : Shows x y) (hsigns : ['<', '<'] <+: w ++ y)
    (h : heredocOpening? ((w ++ x).drop 2) = none) : heredocOpening? ((w ++ y).drop 2) = none := by
  by_contra hne
  obtain ⟨⟨label, n⟩, hopening⟩ := Option.ne_none_iff_exists'.1 hne
  obtain ⟨l, -, htext, -⟩ := exists_openingLine hopening
  have hinitial : ['<', '<'] ++ l.text <+: w ++ y := by
    rw [← List.prefix_iff_eq_append.1 hsigns]
    exact (List.prefix_append_right_inj _).2 htext
  have hmark : '?' ∉ ['<', '<'] ++ l.text := by simp [l.not_mem_text]
  obtain ⟨rest, hrest⟩ := hs.append w _ (noTag_of_not_mem hmark) hinitial
  rw [← hrest, List.append_assoc, List.drop_left' (show ['<', '<'].length = 2 from rfl),
    l.heredocOpening?_text] at h
  cases h

/-- A closing label within `w` is found if the character after it is the same or there is none. -/
theorem closingLabel?_append {label : List Char} {n : Nat}
    (hhead : ∀ c ∈ y.head?, c ∈ x.head?) (h : closingLabel? label (w ++ x) = some n)
    (hn : n ≤ w.length) : closingLabel? label (w ++ y) = some n := by
  unfold closingLabel? at h ⊢
  simp only at h ⊢
  split at h
  · rename_i hcond
    cases h
    have hle : runLength isSpaceOrTab (w ++ x) ≤ w.length := by omega
    have hlength : label.length ≤ (w.drop (runLength isSpaceOrTab (w ++ x))).length := by
      rw [List.length_drop]
      omega
    rw [List.drop_append_of_le_length hle, List.drop_append_of_le_length hlength,
      Bool.and_eq_true, Bool.not_eq_true'] at hcond
    obtain ⟨hlabel, hword⟩ := hcond
    rw [runLength_append hhead hle, List.drop_append_of_le_length hle,
      List.drop_append_of_le_length hlength, if_pos]
    rw [Bool.and_eq_true, Bool.not_eq_true']
    constructor
    · exact List.isPrefixOf_iff_prefix.2
        (isPrefix_exchange (List.isPrefixOf_iff_prefix.1 hlabel) hlength y)
    · rw [Bool.eq_false_iff] at hword ⊢
      exact mt (head?_any_of_head (head_append hhead _)) hword
  · cases h

theorem not_mem_of_closingLabel? {label cs : List Char} {n : Nat}
    (h : closingLabel? label cs = some n) (hlabel : '\n' ∉ label) : '\n' ∉ cs.take n := by
  unfold closingLabel? at h
  simp only at h
  split at h
  · rename_i hcond
    cases h
    have hblanks : cs.take (runLength isSpaceOrTab cs) = cs.takeWhile isSpaceOrTab :=
      (List.prefix_iff_eq_take.1 (List.takeWhile_prefix _)).symm
    have hword := List.prefix_iff_eq_take.1
      (List.isPrefixOf_iff_prefix.1 (Bool.and_eq_true_iff.1 hcond).1)
    rw [List.take_add, hblanks, ← hword, List.mem_append, not_or]
    refine ⟨fun hmem => ?_, hlabel⟩
    exact absurd (List.all_eq_true.1 List.all_takeWhile _ hmem) (by decide)
  · cases h

/-- A closing label that is not at the start comes after a line end. -/
theorem mem_of_heredocEnd? {label cs : List Char} {n : Nat}
    (h : heredocEnd? label false cs = some n) : '\n' ∈ cs.take n := by
  induction cs generalizing n with
  | nil =>
    rw [heredocEnd?] at h
    cases h
  | cons c r ih =>
    rw [heredocEnd?] at h
    obtain ⟨m, hm, rfl⟩ := Option.map_eq_some_iff.1 h
    rw [List.take_succ_cons, List.mem_cons]
    by_cases hc : c = '\n'
    · exact .inl hc.symm
    · rw [beq_eq_false_iff_ne.2 hc] at hm
      exact .inr (ih hm)

/-- A closing label that is not the end of `w` is found whatever comes after `w`. -/
theorem closingLabel?_exchange {label : List Char} {n : Nat}
    (h : closingLabel? label (w ++ x) = some n) (hn : n < w.length) (y : List Char) :
    closingLabel? label (w ++ y) = some n := by
  obtain ⟨c, r, hrest⟩ := List.exists_cons_of_length_pos
    (show 0 < (w.drop n).length by rw [List.length_drop]; omega)
  have hhead : ∀ d ∈ (c :: r ++ y).head?, d ∈ (c :: r ++ x).head? := fun d hd => hd
  rw [← List.take_append_drop n w, hrest, List.append_assoc] at h ⊢
  exact closingLabel?_append hhead h (by rw [List.length_take]; omega)

theorem heredocEnd?_eq_some_iff {label cs : List Char} {lineStart : Bool} {n : Nat} :
    heredocEnd? label lineStart cs = some n ↔
      (lineStart = true ∧ closingLabel? label cs = some n) ∨
        ((lineStart = true → closingLabel? label cs = none) ∧
          ∃ c r m, cs = c :: r ∧ heredocEnd? label (c == '\n') r = some m ∧ n = m + 1) := by
  rw [heredocEnd?.eq_def]
  cases lineStart with
  | false =>
    cases cs with
    | nil => simp
    | cons c r => simp [Option.map_eq_some_iff, eq_comm (a := n)]
  | true =>
    cases hclosing : closingLabel? label cs with
    | none =>
      cases cs with
      | nil => simp [hclosing]
      | cons c r => simp [hclosing, Option.map_eq_some_iff, eq_comm (a := n)]
    | some m => simp [hclosing]

theorem heredocEnd?_append {label : List Char} {lineStart : Bool} {n : Nat}
    (hlabel : '\n' ∉ label) (hhead : ∀ c ∈ y.head?, c ∈ x.head?)
    (h : heredocEnd? label lineStart (w ++ x) = some n) (hn : n ≤ w.length) :
    heredocEnd? label lineStart (w ++ y) = some n := by
  induction w generalizing lineStart n with
  | nil =>
    rcases heredocEnd?_eq_some_iff.1 h with ⟨hstart, hclosing⟩ | ⟨-, c, r, m, -, -, rfl⟩
    · exact heredocEnd?_eq_some_iff.2 (.inl ⟨hstart, closingLabel?_append hhead hclosing hn⟩)
    · cases hn
  | cons c w ih =>
    rcases heredocEnd?_eq_some_iff.1 h with ⟨hstart, hclosing⟩ | ⟨hnone, d, r, m, heq, hlater, rfl⟩
    · exact heredocEnd?_eq_some_iff.2 (.inl ⟨hstart, closingLabel?_append hhead hclosing hn⟩)
    · rw [List.cons_append] at heq
      obtain ⟨rfl, rfl⟩ := List.cons.inj heq
      have hm := Nat.le_of_succ_le_succ hn
      refine heredocEnd?_eq_some_iff.2
        (.inr ⟨fun hstart => ?_, c, w ++ y, m, rfl, ih hlater hm, rfl⟩)
      -- a label found here instead would stand before a line end of `c :: w`, so it would have
      -- been found before as well
      have hfeed : '\n' ∈ c :: w := by
        by_cases hc : c = '\n'
        · exact hc ▸ List.mem_cons_self
        · rw [beq_eq_false_iff_ne.2 hc] at hlater
          have hmem := mem_of_heredocEnd? hlater
          rw [List.take_append_of_le_length hm] at hmem
          exact List.mem_cons_of_mem _ (List.mem_of_mem_take hmem)
      by_contra hne
      obtain ⟨k, hk⟩ := Option.ne_none_iff_exists'.1 hne
      have hlt : k < (c :: w).length := by
        by_contra hge
        have hinitial : c :: w <+: (c :: w ++ y).take k :=
          List.prefix_take_iff.2 ⟨List.prefix_append _ _, Nat.le_of_not_lt hge⟩
        exact not_mem_of_closingLabel? hk hlabel (hinitial.subset hfeed)
      rw [closingLabel?_exchange hk hlt x] at hnone
      exact absurd (hnone hstart) (Option.some_ne_none k)

end PhpOutline.Lexeme
