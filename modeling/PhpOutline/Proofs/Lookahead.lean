import Mathlib.Data.List.Chain
import PhpOutline.Proofs.Spelling

/-!
# Looking ahead

Which lexeme stands at some place depends on the text after it: a longer operator, an exponent, a
closing tag or the opening line of a heredoc may begin where the lexeme ends. Here it is said how
little that is. A part that ends within a text stays what it is when the text after it is exchanged
for one that shows no more; cutting a text is such an exchange, and so is any change behind a
closing tag.

Results:
* `shows_nil`, `shows_closeTag`, `Shows.append`: texts that show what others show.
* `runLength_append`, `newlineLength_append`: runs of characters and line ends.
* `commentEnd?_append`, `lineCommentLength_append`, `quoteEnd?_append`: comments and literals.
* `number_append`, `pointNumber_append`: numbers, which look up to three characters ahead.
-/

namespace PhpOutline.Lexeme

open PhpOutline.Text

variable {w x y : List Char}

/-! ## What a text shows -/

/-- The text has no closing tag in it. -/
def NoTag (t : List Char) : Prop := t.IsChain fun a b => ¬ (a = '?' ∧ b = '>')

instance (t : List Char) : Decidable (NoTag t) := inferInstanceAs (Decidable (t.IsChain _))

/-- The text `x` shows what `y` shows: whatever `y` starts with, up to a closing tag, `x` starts
    with as well. -/
def Shows (x y : List Char) : Prop := ∀ t, NoTag t → t <+: y → t <+: x

theorem shows_nil (x : List Char) : Shows x [] := by
  intro t _ ht
  rw [List.prefix_nil.1 ht]
  exact List.nil_prefix

/-- What comes after a closing tag is not shown. -/
theorem shows_closeTag (v v' : List Char) : Shows ('?' :: '>' :: v) ('?' :: '>' :: v') := by
  intro t htag ht
  rcases t with _ | ⟨a, _ | ⟨b, t⟩⟩
  · exact List.nil_prefix
  · obtain ⟨rfl, -⟩ := List.cons_prefix_cons.1 ht
    exact ⟨'>' :: v, rfl⟩
  · obtain ⟨rfl, hrest⟩ := List.cons_prefix_cons.1 ht
    obtain ⟨rfl, -⟩ := List.cons_prefix_cons.1 hrest
    exact absurd ⟨rfl, rfl⟩ (List.isChain_cons_cons.1 htag).1

theorem Shows.append (h : Shows x y) (w : List Char) : Shows (w ++ x) (w ++ y) := by
  induction w with
  | nil => exact h
  | cons c w ih =>
    rintro (_ | ⟨d, t⟩) htag ht
    · exact List.nil_prefix
    · obtain ⟨rfl, hrest⟩ := List.cons_prefix_cons.1 ht
      exact List.cons_prefix_cons.2 ⟨rfl, ih t htag.tail hrest⟩

theorem Shows.head (h : Shows x y) : ∀ c ∈ y.head?, c ∈ x.head? := by
  intro c hc
  obtain ⟨later, rfl⟩ := List.head?_eq_some_iff.1 hc
  obtain ⟨more, rfl⟩ := h [c] (List.isChain_singleton c) ⟨later, rfl⟩
  rfl

theorem head?_any_of_head (hhead : ∀ c ∈ y.head?, c ∈ x.head?) {p : Char → Bool}
    (hy : y.head?.any p = true) : x.head?.any p = true := by
  obtain ⟨c, hc, hp⟩ := (Option.any_eq_true _ _).1 hy
  exact (Option.any_eq_true _ _).2 ⟨c, hhead c hc, hp⟩

theorem head_append (hhead : ∀ c ∈ y.head?, c ∈ x.head?) (w : List Char) :
    ∀ c ∈ (w ++ y).head?, c ∈ (w ++ x).head? := by
  cases w with
  | nil => exact hhead
  | cons d w => exact fun c hc => hc

theorem Shows.eq_nil (h : Shows [] y) : y = [] := by
  cases y with
  | nil => rfl
  | cons c y => exact absurd (h.head c rfl) (Option.not_mem_none c)

/-- A text without a question mark has no closing tag in it. -/
theorem noTag_of_not_mem {t : List Char} (h : '?' ∉ t) : NoTag t := by
  refine List.isChain_iff_forall_rel_of_append_cons_cons.2 ?_
  rintro a b l₁ l₂ rfl ⟨rfl, -⟩
  exact h (by simp)

/-! ## Runs -/

theorem runLength_cons (p : Char → Bool) (c : Char) (cs : List Char) :
    runLength p (c :: cs) = if p c then runLength p cs + 1 else 0 := by
  rw [runLength, List.takeWhile_cons]
  split
  · rfl
  · rfl

/-- A run that ends within `w` sees one character ahead. -/
theorem runLength_append {p : Char → Bool} (hhead : ∀ c ∈ y.head?, c ∈ x.head?)
    (h : runLength p (w ++ x) ≤ w.length) : runLength p (w ++ y) = runLength p (w ++ x) := by
  induction w with
  | nil =>
    cases y with
    | nil => exact (Nat.le_zero.1 h).symm
    | cons c y =>
      obtain ⟨x, rfl⟩ := List.head?_eq_some_iff.1 (hhead c rfl)
      simp only [List.nil_append, runLength_cons] at h ⊢
      split at h
      · simp at h
      · rename_i hc
        rw [if_neg hc, if_neg hc]
  | cons c w ih =>
    simp only [List.cons_append, runLength_cons] at h ⊢
    split at h
    · rename_i hc
      rw [if_pos hc, if_pos hc, ih (Nat.le_of_succ_le_succ h)]
    · rename_i hc
      rw [if_neg hc, if_neg hc]

/-! ## Line ends and comments -/

/-- What stands at the start of a text and ends within `w` does not depend on what follows `w`. -/
theorem isPrefix_exchange {t : List Char} (h : t <+: w ++ x) (ht : t.length ≤ w.length)
    (y : List Char) : t <+: w ++ y :=
  (List.prefix_of_prefix_length_le h (List.prefix_append w x) ht).trans (List.prefix_append w y)

theorem newlineLength_eq (cs : List Char) :
    newlineLength cs =
      if ['\r', '\n'] <+: cs then 2 else if ['\n'] <+: cs then 1 else 0 := by
  unfold newlineLength
  split
  · simp
  · simp
  · rename_i hreturn hfeed
    rw [if_neg, if_neg]
    · rintro ⟨r, rfl⟩
      exact hfeed r rfl
    · rintro ⟨r, rfl⟩
      exact hreturn r rfl

theorem newlineLength_append (hs : Shows x y) (h : newlineLength (w ++ x) ≤ w.length) :
    newlineLength (w ++ y) = newlineLength (w ++ x) := by
  have hshow := hs.append w
  have hreturn := hshow ['\r', '\n'] (noTag_of_not_mem (by decide))
  have hfeed := hshow ['\n'] (noTag_of_not_mem (by decide))
  rw [newlineLength_eq] at h
  rw [newlineLength_eq, newlineLength_eq]
  split at h
  · rename_i htwo
    rw [if_pos htwo, if_pos (isPrefix_exchange htwo h y)]
  · rename_i htwo
    rw [if_neg htwo, if_neg (mt hreturn htwo)]
    split at h
    · rename_i hone
      rw [if_pos hone, if_pos (isPrefix_exchange hone h y)]
    · rename_i hone
      rw [if_neg hone, if_neg (mt hfeed hone)]

theorem commentEnd?_append {n : Nat} (h : commentEnd? (w ++ x) = some n) (hn : n ≤ w.length)
    (y : List Char) : commentEnd? (w ++ y) = some n := by
  generalize hcs : w ++ x = cs at h
  fun_induction commentEnd? cs generalizing w n with
  | case1 r =>
    cases h
    rcases w with _ | ⟨a, _ | ⟨b, w⟩⟩
    · cases hn
    · simp at hn
    · cases hcs
      rfl
  | case2 c r hopen ih =>
    obtain ⟨m, hm, rfl⟩ := Option.map_eq_some_iff.1 h
    have hpos := commentEnd?_pos hm
    rcases w with _ | ⟨a, _ | ⟨b, w⟩⟩
    · cases hn
    · simp at hn; omega
    · cases hcs
      have hlater := ih (Nat.le_of_succ_le_succ hn) rfl hm
      rw [List.cons_append, commentEnd?, hlater]
      · rfl
      · rintro r rfl hr
        cases hr
        exact hopen _ rfl rfl
  | case3 => cases h

theorem opensDoc_append (h : 2 ≤ w.length) : opensDoc (w ++ y) = opensDoc (w ++ x) := by
  rcases w with _ | ⟨a, _ | ⟨b, w⟩⟩
  · cases h
  · simp at h
  · by_cases ha : a = '*'
    · subst ha
      rfl
    · simp [opensDoc, ha]

/-- A line comment ends with its line, before a closing tag or with the text. -/
theorem lineCommentLength_append (hs : Shows x y)
    (htag : ['?', '>'] <+: x → y = [] ∨ ['?', '>'] <+: y)
    (h : lineCommentLength (w ++ x) = w.length) : lineCommentLength (w ++ y) = w.length := by
  generalize hcs : w ++ x = cs at h
  fun_induction lineCommentLength cs generalizing w with
  | case1 =>
    obtain ⟨rfl, rfl⟩ := List.append_eq_nil_iff.1 hcs
    rw [hs.eq_nil]
    rfl
  | case2 r =>
    rcases w with _ | ⟨a, _ | ⟨b, w⟩⟩
    · cases h
    · cases hcs
      rfl
    · cases h
  | case3 r =>
    obtain rfl := List.length_eq_zero_iff.1 h.symm
    rcases htag ⟨r, hcs.symm⟩ with rfl | ⟨r', rfl⟩
    · rfl
    · rfl
  | case4 c r hfeed hclose ih =>
    rcases w with _ | ⟨a, w⟩
    · cases h
    · cases hcs
      have hlater := ih rfl (Nat.succ.inj h)
      rw [List.cons_append, lineCommentLength, hlater]
      · rfl
      · rintro rfl
        exact hfeed rfl
      · rintro r' rfl hr
        obtain ⟨more, hmore⟩ := List.head?_eq_some_iff.1 ((hs.append w).head '>' (by rw [hr]; rfl))
        exact hclose more rfl hmore

/-! ## Literals -/

theorem quoteEnd?_cons_of_ne {quote c : Char} (hc : c ≠ '\\') (r : List Char) :
    quoteEnd? quote (c :: r) = if c = quote then some 1 else (quoteEnd? quote r).map (· + 1) := by
  rw [quoteEnd?]
  · exact fun h _ => hc h
  · exact fun _ _ h _ => hc h

theorem ne_backslash {c : Char} {r : List Char} (hlone : c = '\\' → r = [] → False)
    (hescape : ∀ d s, c = '\\' → r = d :: s → False) : c ≠ '\\' := by
  rintro rfl
  cases r with
  | nil => exact hlone rfl rfl
  | cons d s => exact hescape d s rfl rfl

theorem quoteEnd?_append {quote : Char} {n : Nat} (h : quoteEnd? quote (w ++ x) = some n)
    (hn : n ≤ w.length) (y : List Char) : quoteEnd? quote (w ++ y) = some n := by
  generalize hcs : w ++ x = cs at h
  fun_induction quoteEnd? quote cs generalizing w n with
  | case1 => cases h
  | case2 => cases h
  | case3 c r ih =>
    obtain ⟨m, hm, rfl⟩ := Option.map_eq_some_iff.1 h
    rcases w with _ | ⟨a, _ | ⟨b, w⟩⟩
    · cases hn
    · simp at hn
    · cases hcs
      have hlater := ih (Nat.le_of_succ_le_succ (Nat.le_of_succ_le_succ hn)) rfl hm
      rw [List.cons_append, List.cons_append, quoteEnd?, hlater]
      rfl
  | case4 r hlone hescape =>
    have hquote := ne_backslash hlone hescape
    cases h
    rcases w with _ | ⟨a, w⟩
    · cases hn
    · cases hcs
      rw [List.cons_append, quoteEnd?_cons_of_ne hquote, if_pos rfl]
  | case5 c r hlone hescape hne ih =>
    have hc := ne_backslash hlone hescape
    obtain ⟨m, hm, rfl⟩ := Option.map_eq_some_iff.1 h
    rcases w with _ | ⟨a, w⟩
    · cases hn
    · cases hcs
      rw [List.cons_append, quoteEnd?_cons_of_ne hc, if_neg hne,
        ih (Nat.le_of_succ_le_succ hn) rfl hm]
      rfl

/-! ## Numbers -/

/-- The length of an optional sign. -/
def signLength (cs : List Char) : Nat := if cs.head?.any fun s => s == '+' || s == '-' then 1 else 0

theorem exponentLength_cons (e : Char) (r : List Char) :
    exponentLength (e :: r) =
      if e = 'e' ∨ e = 'E' then
        if runLength Char.isDigit (r.drop (signLength r)) = 0 then 0
        else 1 + signLength r + runLength Char.isDigit (r.drop (signLength r))
      else 0 := by
  unfold exponentLength
  by_cases hletter : e = 'e' ∨ e = 'E'
  · simp only [if_pos hletter]
    cases r with
    | nil => rfl
    | cons s r =>
      by_cases hs : s = '+' ∨ s = '-'
      · have hlength : signLength (s :: r) = 1 := by simp [signLength, hs]
        simp only [if_pos hs, hlength, List.drop_succ_cons, List.drop_zero]
        split
        · rename_i hrun
          rw [if_pos hrun]
        · rename_i hrun
          rw [if_neg hrun]
          omega
      · have hlength : signLength (s :: r) = 0 := by simp [signLength, hs]
        simp only [if_neg hs, hlength, List.drop_zero]
        split
        · rename_i hrun
          rw [if_pos hrun]
        · rename_i hrun
          rw [if_neg hrun]
          omega
  · simp only [if_neg hletter]

theorem exists_cons_of_runLength {p : Char → Bool} {cs : List Char} (h : runLength p cs ≠ 0) :
    ∃ c r, cs = c :: r ∧ p c = true := by
  cases cs with
  | nil => exact absurd rfl h
  | cons c r =>
    rw [runLength_cons] at h
    exact ⟨c, r, rfl, by by_contra hc; exact h (if_neg hc)⟩

/-- An exponent shows in its letter, its sign and its first digit. -/
theorem exists_isPrefix_of_exponent {cs : List Char} (h : exponentLength cs ≠ 0) :
    ∃ t, t <+: cs ∧ '?' ∉ t ∧ ∀ z, exponentLength (t ++ z) ≠ 0 := by
  rcases cs with _ | ⟨e, r⟩
  · exact absurd rfl h
  rw [exponentLength_cons] at h
  split at h
  · rename_i hletter
    have he : '?' ≠ e := by rintro rfl; simp at hletter
    split at h
    · exact absurd rfl h
    · rename_i hrun
      by_cases hsign : (r.head?.any fun s => s == '+' || s == '-') = true
      · rw [signLength, if_pos hsign] at hrun
        obtain ⟨s, hs, hmark⟩ := (Option.any_eq_true _ _).1 hsign
        obtain ⟨r, rfl⟩ := List.head?_eq_some_iff.1 hs
        obtain ⟨d, r, hr, hd⟩ := exists_cons_of_runLength hrun
        simp only [List.drop_succ_cons, List.drop_zero] at hr
        subst hr
        refine ⟨[e, s, d], ⟨r, rfl⟩, ?_, fun z => ?_⟩
        · have hs' : '?' ≠ s := by rintro rfl; simp at hmark
          have hd' : '?' ≠ d := by rintro rfl; simp at hd
          simp [he, hs', hd']
        · rw [List.cons_append, exponentLength_cons, if_pos hletter]
          simp [signLength, hmark, runLength_cons, hd]
      · rw [signLength, if_neg hsign, List.drop_zero] at hrun
        obtain ⟨d, r, rfl, hd⟩ := exists_cons_of_runLength hrun
        refine ⟨[e, d], ⟨r, rfl⟩, ?_, fun z => ?_⟩
        · have hd' : '?' ≠ d := by rintro rfl; simp at hd
          simp [he, hd']
        · rw [List.cons_append, exponentLength_cons, if_pos hletter]
          rw [List.head?_cons, Option.any_some] at hsign
          simp [signLength, hsign, runLength_cons, hd]
  · exact absurd rfl h

theorem exponentLength_append (hs : Shows x y) (h : exponentLength (w ++ x) ≤ w.length) :
    exponentLength (w ++ y) = exponentLength (w ++ x) := by
  by_cases hzero : exponentLength (w ++ x) = 0
  · by_contra hne
    obtain ⟨t, ht, hmark, hexponent⟩ := exists_isPrefix_of_exponent (hzero ▸ hne)
    obtain ⟨z, hz⟩ := hs.append w t (noTag_of_not_mem hmark) ht
    exact hexponent z (hz ▸ hzero)
  · rcases w with _ | ⟨e, w⟩
    · exact absurd (Nat.le_zero.1 h) hzero
    simp only [List.cons_append, exponentLength_cons, List.length_cons] at h hzero ⊢
    split at h
    · rename_i hletter
      rw [if_pos hletter] at hzero ⊢
      rw [if_pos hletter]
      split at h
      · rename_i hrun
        rw [if_pos hrun] at hzero
        exact absurd rfl hzero
      · rename_i hrun
        rw [if_neg hrun]
        -- there is a digit in `w`, so its sign is in `w` as well
        have hsign : signLength (w ++ y) = signLength (w ++ x) := by
          cases w with
          | nil => simp only [List.length_nil] at h; omega
          | cons s w => rfl
        have hle : signLength (w ++ x) ≤ w.length := by omega
        rw [List.drop_append_of_le_length hle] at h hrun ⊢
        rw [hsign, List.drop_append_of_le_length hle,
          runLength_append hs.head (by rw [List.length_drop]; omega), if_neg hrun]
    · rename_i hletter
      rw [if_neg hletter, if_neg hletter]

theorem pointNumber_append (hs : Shows x y) (h : (pointNumber (w ++ x)).2 ≤ w.length) :
    pointNumber (w ++ y) = pointNumber (w ++ x) := by
  simp only [pointNumber] at h ⊢
  have hle : runLength isDigitOrGroup (w ++ x) ≤ w.length := by omega
  have hrun := runLength_append hs.head hle
  rw [List.drop_append_of_le_length hle] at h ⊢
  rw [hrun, List.drop_append_of_le_length hle,
    exponentLength_append hs (by rw [List.length_drop]; omega)]

/-- After a point there are digits with an optional exponent, or an exponent alone. -/
theorem fractionLength_point (r : List Char) :
    fractionLength ('.' :: r) =
      1 + if r.head?.any Char.isDigit then (pointNumber r).2 else exponentLength r := by
  unfold fractionLength
  simp only
  cases r with
  | nil => rfl
  | cons d r =>
    by_cases hd : d.isDigit = true
    · have hrun : runLength isDigitOrGroup (d :: r) = runLength isDigitOrGroup r + 1 := by
        rw [runLength_cons, if_pos (by simp [isDigitOrGroup, hd])]
      simp only [hd, if_true, pointNumber, hrun, List.head?_cons, Option.any_some,
        List.drop_succ_cons]
      omega
    · simp only [hd, List.head?_cons, Option.any_some]
      rfl

theorem fractionLength_of_ne {cs : List Char} (h : cs.head? ≠ some '.') :
    fractionLength cs = exponentLength cs := by
  unfold fractionLength
  split
  · exact absurd rfl h
  · rfl

theorem pointNumber_pos {cs : List Char} (h : cs.head?.any Char.isDigit = true) :
    0 < (pointNumber cs).2 := by
  obtain ⟨d, hd, hdigit⟩ := (Option.any_eq_true _ _).1 h
  obtain ⟨r, rfl⟩ := List.head?_eq_some_iff.1 hd
  simp only [pointNumber, runLength_cons, isDigitOrGroup, hdigit, Bool.true_or, if_true]
  omega

theorem fractionLength_append (hs : Shows x y) (h : fractionLength (w ++ x) ≤ w.length) :
    fractionLength (w ++ y) = fractionLength (w ++ x) := by
  have hshow := hs.append w
  by_cases hpoint : (w ++ x).head? = some '.'
  · rcases w with _ | ⟨c, w⟩
    · obtain ⟨r, rfl⟩ := List.head?_eq_some_iff.1 hpoint
      rw [List.nil_append, fractionLength_point] at h
      simp at h
    · cases hpoint
      rw [List.cons_append, fractionLength_point, List.length_cons] at h
      rw [List.cons_append, List.cons_append, fractionLength_point, fractionLength_point]
      split at h
      · rename_i hdigit
        have hpos := pointNumber_pos hdigit
        have hdigit' : (w ++ y).head?.any Char.isDigit = true := by
          cases w with
          | nil => simp only [List.length_nil] at h; omega
          | cons d w => exact hdigit
        rw [if_pos hdigit, if_pos hdigit', pointNumber_append hs (by omega)]
      · rename_i hdigit
        rw [if_neg hdigit, if_neg (mt (head?_any_of_head (hs.append w).head) hdigit),
          exponentLength_append hs (by omega)]
  · rw [fractionLength_of_ne hpoint] at h
    rw [fractionLength_of_ne hpoint, fractionLength_of_ne (mt (hshow.head '.') hpoint),
      exponentLength_append hs h]

/-- The digits after the letter of a base other than ten. -/
def isBasedDigit (letter : Char) : Char → Bool :=
  if letter = 'x' ∨ letter = 'X' then isHexOrGroup
  else if letter = 'b' ∨ letter = 'B' then isBinaryOrGroup
  else fun _ => false

theorem basedLength?_cons (letter : Char) (r : List Char) :
    basedLength? (letter :: r) =
      if runLength (isBasedDigit letter) r = 0 then none
      else some (runLength (isBasedDigit letter) r + 1) := by
  have hrun : runLength (isBasedDigit letter) r =
      if letter = 'x' ∨ letter = 'X' then runLength isHexOrGroup r
      else if letter = 'b' ∨ letter = 'B' then runLength isBinaryOrGroup r
      else 0 := by
    unfold isBasedDigit
    split
    · rfl
    · split
      · rfl
      · cases r with
        | nil => rfl
        | cons c r => rw [runLength_cons, if_neg Bool.false_ne_true]
  rw [hrun]
  rfl

/-- A number in another base shows in its letter and its first digit. -/
theorem exists_isPrefix_of_based {cs : List Char} (h : basedLength? cs ≠ none) :
    ∃ t, t <+: cs ∧ '?' ∉ t ∧ ∀ z, basedLength? (t ++ z) ≠ none := by
  rcases cs with _ | ⟨letter, r⟩
  · exact absurd rfl h
  rw [basedLength?_cons] at h
  split at h
  · exact absurd rfl h
  · rename_i hrun
    obtain ⟨d, r, rfl, hd⟩ := exists_cons_of_runLength hrun
    refine ⟨[letter, d], ⟨r, rfl⟩, ?_, fun z => ?_⟩
    · have hletter : '?' ≠ letter := by rintro rfl; simp [isBasedDigit] at hd
      have hdigit : '?' ≠ d := by
        rintro rfl
        unfold isBasedDigit at hd
        split at hd
        · exact absurd hd (by decide)
        · split at hd
          · exact absurd hd (by decide)
          · exact absurd hd Bool.false_ne_true
      simp [hletter, hdigit]
    · rw [List.cons_append, basedLength?_cons]
      simp [runLength_cons, hd]

theorem basedLength?_append (hs : Shows x y)
    (h : ∀ n, basedLength? (w ++ x) = some n → n ≤ w.length) :
    basedLength? (w ++ y) = basedLength? (w ++ x) := by
  cases hbased : basedLength? (w ++ x) with
  | none =>
    by_contra hne
    obtain ⟨t, ht, hmark, hsome⟩ := exists_isPrefix_of_based hne
    obtain ⟨z, hz⟩ := hs.append w t (noTag_of_not_mem hmark) ht
    exact hsome z (hz ▸ hbased)
  | some n =>
    have hn := h n hbased
    rcases w with _ | ⟨letter, w⟩
    · rw [List.length_nil] at hn
      obtain ⟨letter, r, rfl⟩ : ∃ letter r, x = letter :: r := by
        cases x with
        | nil => cases hbased
        | cons letter r => exact ⟨letter, r, rfl⟩
      rw [List.nil_append, basedLength?_cons] at hbased
      split at hbased
      · cases hbased
      · cases hbased
        omega
    · rw [List.cons_append, basedLength?_cons] at hbased ⊢
      split at hbased
      · cases hbased
      · rename_i hrun
        cases hbased
        rw [runLength_append hs.head (Nat.le_of_succ_le_succ hn), if_neg hrun]

theorem number_append {c : Char} (hs : Shows x y) (h : (number c (w ++ x)).2 ≤ w.length) :
    number c (w ++ y) = number c (w ++ x) := by
  have hbased : (if c = '0' then basedLength? (w ++ y) else none) =
      if c = '0' then basedLength? (w ++ x) else none := by
    split
    · rename_i hzero
      refine basedLength?_append hs fun n hn => ?_
      rw [number, if_pos hzero, hn] at h
      exact h
    · rfl
  unfold number at h ⊢
  rw [hbased]
  split at h
  · rfl
  · simp only at h ⊢
    have hle : runLength isDigitOrGroup (w ++ x) ≤ w.length := by
      split at h
      · exact h
      · simp only at h
        omega
    rw [List.drop_append_of_le_length hle] at h ⊢
    have hfraction : fractionLength (w.drop (runLength isDigitOrGroup (w ++ x)) ++ x) ≤
        (w.drop (runLength isDigitOrGroup (w ++ x))).length := by
      rw [List.length_drop]
      split at h
      · omega
      · simp only at h
        omega
    rw [runLength_append hs.head hle, List.drop_append_of_le_length hle,
      fractionLength_append hs hfraction]

end PhpOutline.Lexeme
