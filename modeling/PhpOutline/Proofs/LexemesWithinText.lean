import Mathlib.Tactic.Common
import PhpOutline.Token.Lexer

/-!
# Lexemes end within the text

A lexeme at `c :: r` is given by the number of characters of `r` that belong to it. Here it is shown
that every construct chooses an extent inside of the text: neither an escape at the end of a literal
nor a closing label nor a line end after a tag reaches beyond the last character.

Results:
* `markup_le`, `code_le`: the extent of a lexeme outside and inside of code.
* `LexState.lexeme_le`: the extent of the lexeme in any state.
-/

namespace PhpOutline.Lexeme

open PhpOutline.Text

theorem runLength_le (p : Char → Bool) (cs : List Char) : runLength p cs ≤ cs.length :=
  (List.takeWhile_sublist p).length_le

/-! ## Markup -/

theorem newlineLength_le (cs : List Char) : newlineLength cs ≤ cs.length := by
  unfold newlineLength
  split
  · simp only [List.length_cons]; omega
  · simp only [List.length_cons]; omega
  · omega

theorem tagEnd?_le {cs : List Char} {n : Nat} (h : tagEnd? cs = some n) : n ≤ cs.length := by
  unfold tagEnd? at h
  split at h
  · cases h; exact Nat.le_refl 0
  · cases h; simp only [List.length_cons]; omega
  · split at h
    · cases h; simp only [List.length_cons]; omega
    · cases h

theorem openTag?_le {cs : List Char} {kind : Kind} {n : Nat} (h : openTag? cs = some (kind, n)) :
    n ≤ cs.length := by
  unfold openTag? at h
  split at h
  · cases h; simp only [List.length_cons]; omega
  · split at h
    · obtain ⟨m, hm, heq⟩ := Option.map_eq_some_iff.1 h
      have hle := tagEnd?_le hm
      cases heq
      simp only [List.length_cons]; omega
    · cases h
  · cases h

theorem markupLength_le (cs : List Char) : markupLength cs ≤ cs.length := by
  induction cs with
  | nil => exact Nat.le_refl 0
  | cons c r ih =>
    rw [markupLength]
    split
    · exact Nat.zero_le _
    · exact Nat.succ_le_succ ih

theorem markup_le (c : Char) (r : List Char) : (markup c r).2 ≤ r.length := by
  unfold markup
  split
  · rename_i kind n htag
    have hle := openTag?_le htag
    simp only [List.length_cons] at hle ⊢; omega
  · exact markupLength_le r

/-! ## Comments and literals -/

theorem commentEnd?_le {cs : List Char} {n : Nat} (h : commentEnd? cs = some n) :
    n ≤ cs.length := by
  fun_induction commentEnd? cs generalizing n with
  | case1 r => cases h; simp only [List.length_cons]; omega
  | case2 c r _ ih =>
    obtain ⟨m, hm, rfl⟩ := Option.map_eq_some_iff.1 h
    exact Nat.succ_le_succ (ih hm)
  | case3 => cases h

theorem lineCommentLength_le (cs : List Char) : lineCommentLength cs ≤ cs.length := by
  fun_induction lineCommentLength cs with
  | case1 => exact Nat.le_refl 0
  | case2 => simp only [List.length_cons]; omega
  | case3 => exact Nat.zero_le _
  | case4 c r _ _ ih => exact Nat.succ_le_succ ih

-- A backslash takes the character after it along; one at the very end has none to take, and the
-- literal is then unterminated.
theorem quoteEnd?_le {quote : Char} {cs : List Char} {n : Nat} (h : quoteEnd? quote cs = some n) :
    n ≤ cs.length := by
  fun_induction quoteEnd? quote cs generalizing n with
  | case1 => cases h
  | case2 => cases h
  | case3 c r ih =>
    obtain ⟨m, hm, rfl⟩ := Option.map_eq_some_iff.1 h
    exact Nat.add_le_add_right (ih hm) 2
  | case4 r => cases h; simp only [List.length_cons]; omega
  | case5 c r _ _ _ ih =>
    obtain ⟨m, hm, rfl⟩ := Option.map_eq_some_iff.1 h
    exact Nat.succ_le_succ (ih hm)

/-! ## Numbers -/

theorem exponentLength_le (cs : List Char) : exponentLength cs ≤ cs.length := by
  unfold exponentLength
  split
  · rename_i e r
    split
    · split
      · rename_i s r'
        have hsigned := runLength_le Char.isDigit r'
        have hplain := runLength_le Char.isDigit (s :: r')
        split
        · split <;> simp only [List.length_cons] at * <;> omega
        · split <;> simp only [List.length_cons] at * <;> omega
      · exact Nat.zero_le _
    · exact Nat.zero_le _
  · exact Nat.zero_le _

theorem fractionLength_le (cs : List Char) : fractionLength cs ≤ cs.length := by
  unfold fractionLength
  split
  · rename_i r
    split
    · rename_i d r'
      split
      · have hrun := runLength_le isDigitOrGroup r'
        have hexp := exponentLength_le (r'.drop (runLength isDigitOrGroup r'))
        rw [List.length_drop] at hexp
        simp only [List.length_cons]; omega
      · have hexp := exponentLength_le (d :: r')
        simp only [List.length_cons] at hexp ⊢; omega
    · exact Nat.le_refl 1
  · exact exponentLength_le _

theorem basedLength?_le {cs : List Char} {n : Nat} (h : basedLength? cs = some n) :
    n ≤ cs.length := by
  unfold basedLength? at h
  split at h
  · rename_i x r
    have hdigits : (if x = 'x' ∨ x = 'X' then runLength isHexOrGroup r
        else if x = 'b' ∨ x = 'B' then runLength isBinaryOrGroup r else 0) ≤ r.length := by
      split
      · exact runLength_le _ r
      · split
        · exact runLength_le _ r
        · exact Nat.zero_le _
    simp only [Option.ite_none_left_eq_some, Option.some.injEq] at h
    rw [← h.2]
    exact Nat.succ_le_succ hdigits
  · cases h

theorem number_le (c : Char) (r : List Char) : (number c r).2 ≤ r.length := by
  unfold number
  split
  · rename_i n hbased
    split at hbased
    · exact basedLength?_le hbased
    · cases hbased
  · have hrun := runLength_le isDigitOrGroup r
    have hfrac := fractionLength_le (r.drop (runLength isDigitOrGroup r))
    rw [List.length_drop] at hfrac
    simp only
    split
    · exact hrun
    · simp only at hfrac ⊢; omega

theorem pointNumber_le (r : List Char) : (pointNumber r).2 ≤ r.length := by
  have hrun := runLength_le isDigitOrGroup r
  have hexp := exponentLength_le (r.drop (runLength isDigitOrGroup r))
  rw [List.length_drop] at hexp
  unfold pointNumber
  simp only; omega

/-! ## Heredocs -/

theorem labelQuote_isInitial (cs : List Char) : labelQuote cs <+: cs := by
  unfold labelQuote
  split
  · exact ⟨_, rfl⟩
  · exact ⟨_, rfl⟩
  · exact List.nil_prefix

theorem heredocOpening?_le {cs label : List Char} {n : Nat}
    (h : heredocOpening? cs = some (label, n)) : n ≤ cs.length := by
  unfold heredocOpening? at h
  simp only at h
  -- Each part of the opening line is taken from what the part before it has left.
  have hblanks := runLength_le isSpaceOrTab cs
  generalize runLength isSpaceOrTab cs = blanks at h hblanks
  have hquote := (labelQuote_isInitial (cs.drop blanks)).length_le
  generalize labelQuote (cs.drop blanks) = quote at h hquote
  have hlabel := runLength_le (fun c => c.isAlphanum || c == '_')
    ((cs.drop blanks).drop quote.length)
  unfold runLength at hlabel
  generalize ((cs.drop blanks).drop quote.length).takeWhile
    (fun c => c.isAlphanum || c == '_') = word at h hlabel
  split at h
  · split at h
    · rename_i hclosing
      have hclosing := (List.isPrefixOf_iff_prefix.1 hclosing).length_le
      have hline := newlineLength_le
        ((((cs.drop blanks).drop quote.length).drop word.length).drop quote.length)
      split at h
      · cases h
      · cases h
        simp only [List.length_drop] at hquote hlabel hclosing hline
        omega
    · cases h
  · cases h

theorem closingLabel?_le {label cs : List Char} {n : Nat} (h : closingLabel? label cs = some n) :
    n ≤ cs.length := by
  unfold closingLabel? at h
  simp only at h
  have hblanks := runLength_le isSpaceOrTab cs
  split at h
  · rename_i hcond
    rw [Bool.and_eq_true] at hcond
    have hlabel := (List.isPrefixOf_iff_prefix.1 hcond.1).length_le
    cases h
    rw [List.length_drop] at hlabel
    omega
  · cases h

theorem heredocEnd?_le {label cs : List Char} {lineStart : Bool} {n : Nat}
    (h : heredocEnd? label lineStart cs = some n) : n ≤ cs.length := by
  induction cs generalizing lineStart n with
  | nil =>
    rw [heredocEnd?] at h
    split at h
    · rename_i m hm
      cases h
      split at hm
      · exact closingLabel?_le hm
      · cases hm
    · cases h
  | cons c r ih =>
    rw [heredocEnd?] at h
    split at h
    · rename_i m hm
      cases h
      split at hm
      · exact closingLabel?_le hm
      · cases hm
    · obtain ⟨m, hm, rfl⟩ := Option.map_eq_some_iff.1 h
      exact Nat.succ_le_succ (ih hm)

/-! ## Code -/

theorem operator?_le {cs : List Char} {o : Operator} {n : Nat} (h : operator? cs = some (o, n)) :
    n ≤ cs.length := by
  obtain ⟨⟨text, sign⟩, hfind, heq⟩ := Option.map_eq_some_iff.1 h
  have hprefix := List.find?_some hfind
  have hle := (List.isPrefixOf_iff_prefix.1 hprefix).length_le
  rw [String.length_toList] at hle
  cases heq
  exact hle

theorem sign_le (c : Char) (r : List Char) : (sign c r).2 ≤ r.length := by
  unfold sign
  split
  · exact Nat.zero_le _
  · split
    · rename_i o n hop
      have hle := operator?_le hop
      simp only [List.length_cons] at hle ⊢; omega
    · exact Nat.zero_le _

/-- The text `c :: r` starts with a sign: it opens none of the other constructs of code. -/
structure IsSign (c : Char) (r : List Char) : Prop where
  closeTag : ¬ (c = '?' ∧ r.head? = some '>')
  whitespace : ¬ isWhitespace c = true
  blockComment : ¬ (c = '/' ∧ r.head? = some '*')
  lineComment : ¬ ((c = '/' ∧ r.head? = some '/') ∨ c = '#')
  dollarWord : ¬ (c = '$' ∧ r.head?.any isIdentStart = true)
  word : ¬ isIdentStart c = true
  number : ¬ c.isDigit = true
  pointNumber : ¬ (c = '.' ∧ r.head?.any Char.isDigit = true)
  quoted : ¬ (c = '\'' ∨ c = '"' ∨ c = '`')
  heredoc : c = '<' ∧ ['<', '<'].isPrefixOf r = true → heredocOpening? (r.drop 2) = none

/-- The constructs of code: what is found at `c :: r` and the condition under which it is found. -/
inductive Construct (afterAccess : Bool) (c : Char) (r : List Char) :
    Except Unterminated (Option Kind × Nat) → Prop where
  | closeTag (h : c = '?' ∧ r.head? = some '>') :
      Construct afterAccess c r (.ok (some .closeTag, 1 + newlineLength r.tail))
  | whitespace (h : isWhitespace c = true) :
      Construct afterAccess c r (.ok (some .whitespace, runLength isWhitespace r))
  | blockComment {n : Nat} (h : c = '/' ∧ r.head? = some '*')
      (hend : commentEnd? r.tail = some n) :
      Construct afterAccess c r
        (.ok (some (if opensDoc r.tail then .docComment else .comment), 1 + n))
  | openComment (h : c = '/' ∧ r.head? = some '*') (hend : commentEnd? r.tail = none) :
      Construct afterAccess c r (.error .comment)
  | lineComment (h : (c = '/' ∧ r.head? = some '/') ∨ c = '#') :
      Construct afterAccess c r (.ok (some .comment, lineCommentLength r))
  | dollarWord (h : c = '$' ∧ r.head?.any isIdentStart = true) :
      Construct afterAccess c r (.ok (some .variable, runLength isIdentPart r))
  | word (h : isIdentStart c = true) :
      Construct afterAccess c r
        (.ok (some (wordKind afterAccess (c :: r.take (runLength isIdentPart r))),
          runLength isIdentPart r))
  | number (h : c.isDigit = true) :
      Construct afterAccess c r (.ok (some (number c r).1, (number c r).2))
  | pointNumber (h : c = '.' ∧ r.head?.any Char.isDigit = true) :
      Construct afterAccess c r (.ok (some (pointNumber r).1, (pointNumber r).2))
  | quoted {n : Nat} (h : c = '\'' ∨ c = '"' ∨ c = '`')
      (hend : quoteEnd? c r = some n) :
      Construct afterAccess c r (.ok (some .literal, n))
  | openQuote (h : c = '\'' ∨ c = '"' ∨ c = '`') (hend : quoteEnd? c r = none) :
      Construct afterAccess c r (.error .quoted)
  | heredoc {label : List Char} {n m : Nat} (h : c = '<' ∧ ['<', '<'].isPrefixOf r = true)
      (hopening : heredocOpening? (r.drop 2) = some (label, n))
      (hend : heredocEnd? label true (r.drop (2 + n)) = some m) :
      Construct afterAccess c r (.ok (some .literal, 2 + n + m))
  | openHeredoc {label : List Char} {n : Nat} (h : c = '<' ∧ ['<', '<'].isPrefixOf r = true)
      (hopening : heredocOpening? (r.drop 2) = some (label, n))
      (hend : heredocEnd? label true (r.drop (2 + n)) = none) :
      Construct afterAccess c r (.error (.heredoc (String.ofList label)))
  | sign (h : IsSign c r) : Construct afterAccess c r (.ok ((sign c r).1, (sign c r).2))

/-- Every lexeme of code is one of the constructs. -/
theorem code_construct (afterAccess : Bool) (c : Char) (r : List Char) :
    Construct afterAccess c r (code afterAccess c r) := by
  unfold code
  by_cases hclose : c = '?' ∧ r.head? = some '>'
  · rw [if_pos hclose]; exact .closeTag hclose
  rw [if_neg hclose]
  by_cases hspace : isWhitespace c = true
  · rw [if_pos hspace]; exact .whitespace hspace
  rw [if_neg hspace]
  by_cases hblock : c = '/' ∧ r.head? = some '*'
  · rw [if_pos hblock]
    cases hend : commentEnd? r.tail with
    | none => exact .openComment hblock hend
    | some n => exact .blockComment hblock hend
  rw [if_neg hblock]
  by_cases hline : (c = '/' ∧ r.head? = some '/') ∨ c = '#'
  · rw [if_pos hline]; exact .lineComment hline
  rw [if_neg hline]
  by_cases hvar : c = '$' ∧ r.head?.any isIdentStart = true
  · rw [if_pos hvar]; exact .dollarWord hvar
  rw [if_neg hvar]
  by_cases hword : isIdentStart c = true
  · rw [if_pos hword]; exact .word hword
  rw [if_neg hword]
  by_cases hdigit : c.isDigit = true
  · rw [if_pos hdigit]; exact .number hdigit
  rw [if_neg hdigit]
  by_cases hpoint : c = '.' ∧ r.head?.any Char.isDigit = true
  · rw [if_pos hpoint]; exact .pointNumber hpoint
  rw [if_neg hpoint]
  by_cases hquote : c = '\'' ∨ c = '"' ∨ c = '`'
  · rw [if_pos hquote]
    cases hend : quoteEnd? c r with
    | none => exact .openQuote hquote hend
    | some n => exact .quoted hquote hend
  rw [if_neg hquote]
  by_cases hstart : c = '<' ∧ ['<', '<'].isPrefixOf r = true
  · rw [if_pos hstart]
    cases hopening : heredocOpening? (r.drop 2) with
    | none =>
      exact .sign ⟨hclose, hspace, hblock, hline, hvar, hword, hdigit, hpoint, hquote,
        fun _ => hopening⟩
    | some opening =>
      obtain ⟨label, n⟩ := opening
      cases hend : heredocEnd? label true (r.drop (2 + n)) with
      | none => simp only [hend]; exact .openHeredoc hstart hopening hend
      | some m => simp only [hend]; exact .heredoc hstart hopening hend
  · rw [if_neg hstart]
    exact .sign ⟨hclose, hspace, hblock, hline, hvar, hword, hdigit, hpoint, hquote,
      fun h => absurd h hstart⟩

/-- A lexeme of code lies within the text. -/
theorem code_le {afterAccess : Bool} {c : Char} {r : List Char} {kind : Option Kind} {n : Nat}
    (h : code afterAccess c r = .ok (kind, n)) : n ≤ r.length := by
  have hconstruct := code_construct afterAccess c r
  rw [h] at hconstruct
  cases hconstruct with
  | closeTag hclose =>
    have hline := newlineLength_le r.tail
    have hpos := List.length_pos_of_mem (List.mem_of_mem_head? hclose.2)
    rw [List.length_tail] at hline
    omega
  | whitespace => exact runLength_le _ r
  | blockComment hopen hend =>
    have hle := commentEnd?_le hend
    have hpos := List.length_pos_of_mem (List.mem_of_mem_head? hopen.2)
    rw [List.length_tail] at hle
    omega
  | lineComment => exact lineCommentLength_le r
  | dollarWord => exact runLength_le _ r
  | word => exact runLength_le _ r
  | number => exact number_le c r
  | pointNumber => exact pointNumber_le r
  | quoted _ hend => exact quoteEnd?_le hend
  | heredoc hstart hopening hend =>
    have hmarks := (List.isPrefixOf_iff_prefix.1 hstart.2).length_le
    have hopening := heredocOpening?_le hopening
    have hend := heredocEnd?_le hend
    simp only [List.length_drop, List.length_cons, List.length_nil] at hmarks hopening hend
    omega
  | sign => exact sign_le c r

end PhpOutline.Lexeme

namespace PhpOutline.LexState

/-- A lexeme lies within the text, outside and inside of code. -/
theorem lexeme_le {st : LexState} {c : Char} {r : List Char} {kind : Option Kind} {n : Nat}
    (h : st.lexeme c r = .ok (kind, n)) : n ≤ r.length := by
  unfold lexeme at h
  split at h
  · exact Lexeme.code_le h
  · cases h
    exact Lexeme.markup_le c r

end PhpOutline.LexState
