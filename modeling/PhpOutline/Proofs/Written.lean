import PhpOutline.Proofs.HeadersIgnoreTrivia

/-!
# Parts of written declarations

How the parts of a declaration are written in tokens: gaps of white space and comments, and parts in
which brackets balance. A part may hold any tokens, as long as none of its stops stands outside of
brackets. A scan at some bracket depth passes over a part as a whole and is at the same depth after
it, so that it stops where the writer of the declaration put a stop.

Results:
* `isOpener_eq`, `isCloser_eq`: brackets among tokens of single characters.
* `collectFrom_nested`, `afterBalanced?_nested`, `splitParameters?_nested`: scans over tokens in
  which brackets balance.
* `Gap.significant`: the next token after a gap.
* `Part.collect_append`, `Part.splitParameters?`, `Part.skipBalanced`: a part up to its stop, in a
  parameter and in brackets.
-/

namespace PhpOutline

/-! ## Tokens -/

theorem occursIn_singleton (c : Char) (row : List Char) : occursIn [c] row = row.contains c := by
  induction row with
  | nil => rfl
  | cons d row ih => rw [occursIn, ih, List.contains_cons]; simp [List.isPrefixOf]

namespace Token

/-- The token of some punctuation on a line. -/
def punct (sign : String) (line : Int) : Token := ⟨none, sign, line⟩

/-- An opening bracket. -/
def opens (t : Token) : Bool := t.isPunct "(" || t.isPunct "[" || t.isPunct openBrace

/-- A closing bracket. -/
def closes (t : Token) : Bool := t.isPunct ")" || t.isPunct "]" || t.isPunct closeBrace

/-- Punctuation is a single character, as it is in lexed tokens. -/
def isSingle (t : Token) : Bool := t.kind.isSome || t.content.toList.length == 1

@[simp] theorem isPunct_punct (sign other : String) (line : Int) :
    (punct sign line).isPunct other = (sign == other) := rfl

theorem isSingle_punct (c : Char) (line : Int) :
    (punct (String.ofList [c]) line).isSingle = true := by
  simp [isSingle, punct]

theorem isSingle_of_isSome {t : Token} (h : t.kind.isSome = true) : t.isSingle = true := by
  rw [isSingle, h, Bool.true_or]

theorem any_isPunct (t : Token) (stops : List String) :
    stops.any t.isPunct = (t.kind.isNone && stops.contains t.content) := by
  induction stops with
  | nil => simp
  | cons stop stops ih =>
    rw [List.any_cons, ih, isPunct, List.contains_cons, Bool.and_or_distrib_left]

variable {t : Token}

/-- A single character is one of the brackets of a row if it is in the row. -/
theorem occursIn_eq (h : t.isSingle = true) (a b c : Char) :
    (t.kind.isNone && occursIn t.content.toList [a, b, c]) =
      (t.isPunct (String.ofList [a]) || t.isPunct (String.ofList [b]) ||
        t.isPunct (String.ofList [c])) := by
  obtain ⟨kind, content, line⟩ := t
  cases kind with
  | some kind => rfl
  | none =>
    obtain ⟨d, hd⟩ := List.length_eq_one_iff.1 (beq_iff_eq.1 h)
    obtain rfl : content = String.ofList [d] := String.toList_injective (by simpa using hd)
    have hpunct : ∀ e : Char,
        (⟨none, String.ofList [d], line⟩ : Token).isPunct (String.ofList [e]) = (d == e) := by
      intro e
      simp [isPunct, beq_eq_decide]
    rw [hpunct, hpunct, hpunct, hd, occursIn_singleton]
    simp [Bool.or_assoc, Bool.beq_eq_decide_eq]

theorem isOpener_eq (h : t.isSingle = true) : t.isOpener = t.opens := occursIn_eq h ..

theorem closes_of_opens (h : t.opens = true) : t.closes = false := by
  simp only [opens, isPunct, Bool.or_eq_true, Bool.and_eq_true, beq_iff_eq] at h
  obtain (⟨-, hsign⟩ | ⟨-, hsign⟩) | ⟨-, hsign⟩ := h <;>
    simp [closes, isPunct, hsign, openBrace, closeBrace]

theorem isCloser_eq (h : t.isSingle = true) : t.isCloser = t.closes := by
  rw [isCloser, occursIn_eq h, isOpener_eq h]
  show (!t.opens && t.closes) = t.closes
  cases hopens : t.opens with
  | false => rw [Bool.not_false, Bool.true_and]
  | true => rw [closes_of_opens hopens, Bool.and_false]

end Token

namespace Written

open Reading

/-! ## Brackets that balance -/

/-- Brackets balance in some tokens that start at a bracket depth and end at depth zero, and none of
    the stops stands at depth zero. -/
def nested (stops : List String) : (depth : Nat) → List Token → Bool
  | depth, [] => depth == 0
  | depth, t :: ts =>
    if depth == 0 && stops.any t.isPunct then false
    else if t.opens then nested stops (depth + 1) ts
    else if t.closes then depth != 0 && nested stops (depth - 1) ts
    else nested stops depth ts

/-- The first token of a nested part is no stop, and the rest of the part is nested at the depth
    after that token. -/
theorem nested_cons {stops : List String} {depth : Nat} {t : Token} {ts : List Token}
    (h : nested stops depth (t :: ts) = true) :
    ¬ (depth = 0 ∧ stops.any t.isPunct = true) ∧
      ((t.opens = true ∧ nested stops (depth + 1) ts = true) ∨
        (t.opens = false ∧ t.closes = true ∧ 0 < depth ∧ nested stops (depth - 1) ts = true) ∨
        (t.opens = false ∧ t.closes = false ∧ nested stops depth ts = true)) := by
  rw [nested] at h
  split at h
  · cases h
  · rename_i hstop
    refine ⟨by simpa using hstop, ?_⟩
    split at h
    · exact .inl ⟨‹_›, h⟩
    · split at h
      · rename_i hopens hcloses
        obtain ⟨hdepth, hrest⟩ := Bool.and_eq_true_iff.1 h
        exact .inr (.inl ⟨by simpa using hopens, hcloses,
          Nat.pos_of_ne_zero (by simpa using hdepth), hrest⟩)
      · exact .inr (.inr ⟨by simpa using ‹¬ t.opens = true›, by simpa using ‹¬ t.closes = true›, h⟩)

/-- A token that is no bracket and no stop. -/
def Plain (stops : List String) (t : Token) : Prop :=
  stops.any t.isPunct = false ∧ t.opens = false ∧ t.closes = false

theorem plain_of_isSome (stops : List String) {t : Token} (h : t.kind.isSome = true) :
    Plain stops t := by
  obtain ⟨kind, hkind⟩ := Option.isSome_iff_exists.1 h
  have hpunct : ∀ sign, t.isPunct sign = false := by
    intro sign
    rw [Token.isPunct, hkind]
    rfl
  exact ⟨by simp [hpunct], by simp [Token.opens, hpunct], by simp [Token.closes, hpunct]⟩

section Scans

variable {stops : List String} {depth : Nat} {ts : List Token}

theorem nested_cons_of_plain {t : Token} (ht : Plain stops t) :
    nested stops depth (t :: ts) = nested stops depth ts := by
  obtain ⟨hstop, hopens, hcloses⟩ := ht
  simp [nested, hstop, hopens, hcloses]

theorem nested_of_plain (h : ∀ t ∈ ts, Plain stops t) : nested stops 0 ts = true := by
  induction ts with
  | nil => rfl
  | cons t ts ih =>
    obtain ⟨ht, hts⟩ := List.forall_mem_cons.1 h
    rw [nested_cons_of_plain ht, ih hts]

/-- Two nested parts one after the other. -/
theorem nested_append (h : nested stops depth ts = true) (us : List Token) :
    nested stops depth (ts ++ us) = nested stops 0 us := by
  induction ts generalizing depth with
  | nil =>
    obtain rfl : depth = 0 := beq_iff_eq.1 h
    rfl
  | cons t ts ih =>
    obtain ⟨hstop, hcases⟩ := nested_cons h
    rw [List.cons_append, nested, if_neg (by simpa using hstop)]
    obtain ⟨hopens, hrest⟩ | ⟨hopens, hcloses, hdepth, hrest⟩ | ⟨hopens, hcloses, hrest⟩ := hcases
    · rw [if_pos hopens, ih hrest]
    · rw [if_neg (by simp [hopens]), if_pos hcloses, ih hrest]
      simp [Nat.ne_of_gt hdepth]
    · rw [if_neg (by simp [hopens]), if_neg (by simp [hcloses]), ih hrest]

/-- Collecting goes over a nested part and on from depth zero. -/
theorem collectFrom_nested (hsingle : ∀ t ∈ ts, t.isSingle = true)
    (htags : ∀ t ∈ ts, t.isKind .closeTag = false) (h : nested stops depth ts = true)
    (rest : List Token) :
    collectFrom stops depth (ts ++ rest) = (collectFrom stops 0 rest).map (ts ++ ·) id := by
  induction ts generalizing depth with
  | nil =>
    obtain rfl : depth = 0 := beq_iff_eq.1 h
    rfl
  | cons t ts ih =>
    obtain ⟨ht, hsingle⟩ := List.forall_mem_cons.1 hsingle
    obtain ⟨htag, htags⟩ := List.forall_mem_cons.1 htags
    have hopener := Token.isOpener_eq ht
    have hcloser := Token.isCloser_eq ht
    obtain ⟨hstop, hcases⟩ := nested_cons h
    rw [Token.any_isPunct, Bool.and_eq_true] at hstop
    rw [List.cons_append, collectFrom, if_neg (by simp [htag]), if_neg hstop, hopener, hcloser]
    obtain ⟨hopens, hrest⟩ | ⟨hopens, hcloses, hdepth, hrest⟩ | ⟨hopens, hcloses, hrest⟩ := hcases
    · rw [if_pos hopens, ih hsingle htags hrest]
      rfl
    · rw [if_neg (by simp [hopens]), if_pos hcloses, if_neg (by omega), ih hsingle htags hrest]
      rfl
    · rw [if_neg (by simp [hopens]), if_neg (by simp [hcloses]), ih hsingle htags hrest]
      rfl

/-- Passing over brackets goes over a nested part within them. -/
theorem afterBalanced?_nested (hsingle : ∀ t ∈ ts, t.isSingle = true)
    (h : nested stops depth ts = true) (rest : List Token) :
    afterBalanced? (depth + 1) (ts ++ rest) = afterBalanced? 1 rest := by
  -- The scan also counts the bracket before the part and is one deeper than the part.
  induction ts generalizing depth with
  | nil =>
    obtain rfl : depth = 0 := beq_iff_eq.1 h
    rfl
  | cons t ts ih =>
    obtain ⟨ht, hsingle⟩ := List.forall_mem_cons.1 hsingle
    have hopener := Token.isOpener_eq ht
    have hcloser := Token.isCloser_eq ht
    rw [List.cons_append, afterBalanced?, hopener, hcloser]
    obtain ⟨hopens, hrest⟩ | ⟨hopens, hcloses, hdepth, hrest⟩ | ⟨hopens, hcloses, hrest⟩ :=
      (nested_cons h).2
    · rw [if_pos hopens, ← ih hsingle hrest]
      rfl
    · have hone : ((depth - 1 : Nat) : Int) + 1 = depth + 1 - 1 := by omega
      rw [if_neg (by simp [hopens]), if_pos hcloses, if_neg (by omega), ← hone, ih hsingle hrest]
    · rw [if_neg (by simp [hopens]), if_neg (by simp [hcloses]), ih hsingle hrest]

/-- Dividing parameters goes over a nested part without commas and adds it to the first of them. -/
theorem splitParameters?_nested (hsingle : ∀ t ∈ ts, t.isSingle = true)
    (h : nested [","] depth ts = true) (rest : List Token) :
    splitParameters? depth (ts ++ rest) =
      (splitParameters? 0 rest).map (Prod.map (ts ++ ·) id) := by
  induction ts generalizing depth with
  | nil =>
    obtain rfl : depth = 0 := beq_iff_eq.1 h
    exact (Option.map_id_apply).symm
  | cons t ts ih =>
    obtain ⟨ht, hsingle⟩ := List.forall_mem_cons.1 hsingle
    have hopener := Token.isOpener_eq ht
    have hcloser := Token.isCloser_eq ht
    obtain ⟨hstop, hcases⟩ := nested_cons h
    have hcomma : ¬ (t.isPunct "," = true ∧ (depth : Int) = 0) := by
      rintro ⟨hpunct, hzero⟩
      exact hstop ⟨by omega, by simp [hpunct]⟩
    have hmap : ∀ out : Option (List Token × List (List Token) × List Token),
        (out.map (Prod.map (ts ++ ·) id)).map (fun x => (t :: x.1, x.2.1, x.2.2)) =
          out.map (Prod.map (t :: ts ++ ·) id) := by
      intro out
      cases out <;> rfl
    rw [List.cons_append, splitParameters?, if_neg hcomma, hopener, hcloser, ← hmap]
    obtain ⟨hopens, hrest⟩ | ⟨hopens, hcloses, hdepth, hrest⟩ | ⟨hopens, hcloses, hrest⟩ := hcases
    · rw [if_neg (by simp [Token.closes_of_opens hopens])]
      simp only [hopens, if_true]
      rw [← ih hsingle hrest]
      rfl
    · have hone : ((depth - 1 : Nat) : Int) = depth - 1 := by omega
      rw [if_neg (by rintro ⟨-, hzero, -⟩; omega)]
      simp only [hopens, hcloses, Bool.false_eq_true, if_false, if_true]
      rw [← ih hsingle hrest, hone]
    · rw [if_neg (by simp [hcloses])]
      simp only [hopens, hcloses, Bool.false_eq_true, if_false]
      rw [← ih hsingle hrest]

end Scans

/-! ## Gaps and parts -/

/-- White space and comments between the parts of a declaration. -/
structure Gap where
  tokens : List Token
  trivia : ∀ t ∈ tokens, t.isTrivia = true

/-- Tokens in which brackets balance, with none of the stops outside of brackets. Trivia may stand
    anywhere among them, and closing tags only if `tags`. -/
structure Part (stops : List String) (tags : Bool) where
  tokens : List Token
  single : ∀ t ∈ tokens, t.isSingle = true
  nested : nested stops 0 tokens = true
  untagged : tags = false → ∀ t ∈ tokens, t.isKind .closeTag = false

/-- The text of a typed token and its line. The kind of the token follows from its place. -/
structure Word where
  text : String
  line : Int

/-- The token of a kind with a text on a line. -/
def Word.token (w : Word) (kind : Kind) : Token := ⟨some kind, w.text, w.line⟩

theorem Gap.significant (g : Gap) {t : Token} (ht : t.isTrivia = false) (line : Int)
    (rest : List Token) : significant line (g.tokens ++ t :: rest) = .ok (t, rest) :=
  significant_eq_ok_iff.2 ⟨ht, g.tokens, g.trivia, rfl⟩

theorem Gap.kind_isSome (g : Gap) : ∀ t ∈ g.tokens, t.kind.isSome = true := by
  intro t ht
  rw [← Option.not_isNone, Token.isNone_of_isTrivia (g.trivia t ht), Bool.not_false]

theorem Gap.bare_append (g : Gap) (ts : List Token) : bare (g.tokens ++ ts) = bare ts := by
  have hgap : bare g.tokens = [] := List.filter_eq_nil_iff.2 fun t ht => by simp [g.trivia t ht]
  rw [Reading.bare_append, hgap, List.nil_append]

namespace Part

variable {stops : List String} {tags : Bool}

/-- A part without tokens. -/
def empty : Part stops tags := ⟨[], by simp, rfl, by simp⟩

/-- One part after another. -/
def append (p q : Part stops tags) : Part stops tags where
  tokens := p.tokens ++ q.tokens
  single := List.forall_mem_append.2 ⟨p.single, q.single⟩
  nested := by rw [nested_append p.nested, q.nested]
  untagged h := List.forall_mem_append.2 ⟨p.untagged h, q.untagged h⟩

/-- A token that is no bracket and no stop. -/
def ofPlain (t : Token) (hsingle : t.isSingle = true) (hplain : Plain stops t)
    (htag : tags = false → t.isKind .closeTag = false) : Part stops tags where
  tokens := [t]
  single := by simpa using hsingle
  nested := nested_of_plain (by simpa using hplain)
  untagged := by simpa using htag

/-- A token that has a kind. -/
def ofTyped (t : Token) (ht : t.kind.isSome = true)
    (htag : tags = false → t.isKind .closeTag = false) : Part stops tags :=
  ofPlain t (Token.isSingle_of_isSome ht) (plain_of_isSome stops ht) htag

/-- White space and comments. -/
def ofGap (g : Gap) : Part stops tags where
  tokens := g.tokens
  single t ht := Token.isSingle_of_isSome (g.kind_isSome t ht)
  nested := nested_of_plain fun t ht => plain_of_isSome stops (g.kind_isSome t ht)
  untagged _ t ht := Token.isKind_of_isTrivia (g.trivia t ht) rfl

/-- A part is collected up to a stop after it. -/
theorem collect_append (p : Part stops false) {t : Token} (ht : stops.any t.isPunct = true)
    (rest : List Token) : collect stops (p.tokens ++ t :: rest) = (p.tokens, t :: rest) := by
  have hend : EndsPart stops (0 : Nat) t := by
    rw [Token.any_isPunct, Bool.and_eq_true] at ht
    exact .inr ⟨rfl, .inl ht⟩
  rw [collect, collectFrom_nested p.single (p.untagged rfl) p.nested, collectFrom_of_ends rest hend]
  simp

/-- A part without commas outside of brackets belongs to one parameter. -/
theorem splitParameters? (p : Part [","] tags) (rest : List Token) :
    splitParameters? 0 (p.tokens ++ rest) =
      (splitParameters? 0 rest).map (Prod.map (p.tokens ++ ·) id) :=
  splitParameters?_nested p.single p.nested rest

/-- A part in brackets is passed over with its brackets. -/
theorem skipBalanced (p : Part stops tags) {opener closer : Token}
    (hopener : opener.isSingle = true) (hopens : opener.opens = true)
    (hcloser : closer.isSingle = true) (hcloses : closer.closes = true) (line : Int)
    (rest : List Token) :
    skipBalanced line (opener :: (p.tokens ++ closer :: rest)) = .ok rest := by
  have hnot : closer.opens = false := by
    by_contra h
    rw [Token.closes_of_opens (by simpa using h)] at hcloses
    cases hcloses
  have hafter : afterBalanced? 0 (opener :: (p.tokens ++ closer :: rest)) = some rest := by
    rw [afterBalanced?, Token.isOpener_eq hopener, if_pos hopens]
    refine (afterBalanced?_nested p.single p.nested _).trans ?_
    rw [afterBalanced?, Token.isOpener_eq hcloser, Token.isCloser_eq hcloser,
      if_neg (by simp [hnot]), if_pos hcloses, if_pos rfl]
  rw [Reading.skipBalanced, hafter]

end Part

end Written

end PhpOutline
