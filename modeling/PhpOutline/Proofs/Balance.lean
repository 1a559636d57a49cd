import Mathlib.Data.Nat.Find
import PhpOutline.Proofs.Longest
import PhpOutline.Proofs.Written

/-!
# Balance of brackets

Opening brackets less closing brackets, counted among the first tokens from a place on. In tokens
whose punctuation is single characters, as it is in lexed tokens, both scans over brackets are exact
for this count: passing over a bracketed part ends right after the first token that brings the count
back to zero, and collecting a part ends before the first token that ends it at count zero.

Results:
* `lex_isSingle`: punctuation in lexed tokens.
* `depth_eq_balance`, `endsPart_iff`: depth and the end of a part, by counting.
* `afterBalanced?_cons`: one step over a bracketed part.
* `afterBalanced?_eq_some_iff`, `afterBalanced?_eq_none_iff`: passing over a bracketed part.
* `exists_collects`: collecting a part.
* `scans_balance`: all of it.
-/

namespace PhpOutline

/-- Punctuation in lexed tokens is single characters. -/
theorem lex_isSingle {source : String} {ts : List Token} (hlex : lex source = .ok ts) :
    ∀ t ∈ ts, t.isSingle = true := by
  intro t ht
  obtain ⟨last, hscan⟩ := lexFrom_eq_ok_iff.1 hlex
  obtain ⟨before, later, rfl⟩ := List.append_of_mem ht
  have hword := hscan.isWord
  cases hkind : t.kind with
  | some kind => exact Token.isSingle_of_isSome (by rw [hkind]; rfl)
  | none =>
    rw [hkind] at hword
    obtain ⟨c, hc, -⟩ := hword
    simp [Token.isSingle, hc]

theorem Token.kind_eq_none_of_closes {t : Token} (h : t.closes = true) : t.kind = none := by
  simp only [closes, isPunct, Bool.or_eq_true, Bool.and_eq_true, Option.isNone_iff_eq_none] at h
  obtain (⟨hkind, -⟩ | ⟨hkind, -⟩) | ⟨hkind, -⟩ := h <;> exact hkind

namespace Reading

/-! ## Counting -/

/-- Opening brackets less closing brackets among some tokens. -/
def balance (ts : List Token) : Int := (ts.countP Token.opens : Int) - ts.countP Token.closes

/-- A token that ends a part if brackets before it balance to `count`: a closing tag, or punctuation
    at zero that is in `stops` or a closing bracket. -/
def IsEnd (stops : List String) (count : Int) (t : Token) : Prop :=
  t.kind = some .closeTag ∨ t.kind = none ∧ count = 0 ∧ (t.content ∈ stops ∨ t.closes = true)

/-- Of the tokens after the first one, the one at index `i` is the first to bring the count to
    zero. -/
structure Closes (ts : List Token) (i : Nat) : Prop where
  later : 0 < i
  lt : i < ts.length
  zero : balance (ts.take (i + 1)) = 0
  first : ∀ j, 0 < j → j < i → balance (ts.take (j + 1)) ≠ 0

/-- Passing over a bracketed part succeeds if some later token brings the count back to zero, and
    leaves the tokens after the first such token. Otherwise it fails with no token left. -/
structure PassesOver (line : Int) (ts : List Token) : Prop where
  succeeds_iff : (∃ rest, skipBalanced line ts = .ok rest) ↔
    ∃ i, 0 < i ∧ i < ts.length ∧ balance (ts.take (i + 1)) = 0
  ok_iff : ∀ rest, skipBalanced line ts = .ok rest ↔ ∃ i, Closes ts i ∧ rest = ts.drop (i + 1)
  error_iff : ∀ e, skipBalanced line ts = .error e ↔
    e = ⟨⟨.unbalanced, line⟩, []⟩ ∧
      ∀ i, 0 < i → i < ts.length → balance (ts.take (i + 1)) ≠ 0

/-- Collecting takes the first `n` tokens, up to the first token that ends the part or to the end,
    and leaves the others. At no place in them have more brackets been closed than opened. -/
structure Collects (stops : List String) (ts : List Token) (n : Nat) : Prop where
  le : n ≤ ts.length
  collect_eq : collect stops ts = (ts.take n, ts.drop n)
  isEnd : ∀ t, ts[n]? = some t → IsEnd stops (balance (ts.take n)) t
  first : ∀ j t, j < n → ts[j]? = some t → ¬ IsEnd stops (balance (ts.take j)) t
  nonneg : ∀ j, j ≤ n → 0 ≤ balance (ts.take j)

variable {ts rest : List Token} {t : Token} {stops : List String} {line d : Int} {i : Nat}

theorem bracket_eq (h : t.isSingle = true) :
    t.bracket = (if t.opens then 1 else 0) - (if t.closes then 1 else 0) := by
  rw [Token.bracket, Token.isOpener_eq h, Token.isCloser_eq h]
  cases hopens : t.opens with
  | true => simp [Token.closes_of_opens hopens]
  | false => cases t.closes <;> rfl

theorem depth_eq_balance (hsingle : ∀ t ∈ ts, t.isSingle = true) : depth ts = balance ts := by
  induction ts with
  | nil => rfl
  | cons t ts ih =>
    obtain ⟨ht, hts⟩ := List.forall_mem_cons.1 hsingle
    rw [depth_cons, ih hts, bracket_eq ht, balance, balance, List.countP_cons, List.countP_cons]
    split <;> split <;> omega

theorem depth_take (hsingle : ∀ t ∈ ts, t.isSingle = true) (n : Nat) :
    depth (ts.take n) = balance (ts.take n) :=
  depth_eq_balance fun t ht => hsingle t (List.mem_of_mem_take ht)

theorem endsPart_iff (h : t.isSingle = true) : EndsPart stops d t ↔ IsEnd stops d t := by
  rw [EndsPart, IsEnd, Token.isCloser_eq h, Option.isNone_iff_eq_none, List.contains_iff_mem,
    Token.isKind, beq_iff_eq]
  refine or_congr_right ⟨?_, ?_⟩
  · rintro ⟨hd, ⟨hkind, hmem⟩ | hcloses⟩
    · exact ⟨hkind, hd, .inl hmem⟩
    · exact ⟨Token.kind_eq_none_of_closes hcloses, hd, .inr hcloses⟩
  · rintro ⟨hkind, hd, hmem | hcloses⟩
    · exact ⟨hd, .inl ⟨hkind, hmem⟩⟩
    · exact ⟨hd, .inr hcloses⟩

/-! ## Passing over a bracketed part -/

/-- Within brackets, a step either closes the last of them or goes on at the depth after the
    token. -/
theorem afterBalanced?_cons (hd : 0 < d) :
    afterBalanced? d (t :: ts) =
      if d + t.bracket = 0 then some ts else afterBalanced? (d + t.bracket) ts := by
  rw [afterBalanced?]
  by_cases hopen : t.isOpener = true
  · rw [if_pos hopen, Token.bracket_of_isOpener hopen, if_neg (by omega)]
  rw [if_neg hopen]
  by_cases hcloser : t.isCloser = true
  · rw [if_pos hcloser, Token.bracket_of_isCloser hcloser]
    by_cases hone : d = 1
    · rw [if_pos hone, if_pos (by omega)]
    · rw [if_neg hone, if_neg (by omega)]
      rfl
  · have hzero : t.bracket = 0 := by simp [Token.bracket, hopen, hcloser]
    rw [if_neg hcloser, hzero, Int.add_zero, if_neg (by omega)]

theorem neg_one_le_bracket (t : Token) : -1 ≤ t.bracket := by
  unfold Token.bracket
  split
  · omega
  · split <;> omega

/-- From depth `d`, the depth is zero after the token at index `i`, and not before. -/
structure Zeroes (d : Int) (ts : List Token) (i : Nat) : Prop where
  lt : i < ts.length
  zero : d + depth (ts.take (i + 1)) = 0
  first : ∀ j, j < i → d + depth (ts.take (j + 1)) ≠ 0

theorem zeroes_cons_zero : Zeroes d (t :: ts) 0 ↔ d + t.bracket = 0 := by
  constructor
  · rintro ⟨-, hzero, -⟩
    simpa using hzero
  · intro h
    exact ⟨Nat.succ_pos _, by simpa using h, fun j hj => absurd hj (Nat.not_lt_zero j)⟩

theorem zeroes_cons_succ :
    Zeroes d (t :: ts) (i + 1) ↔ d + t.bracket ≠ 0 ∧ Zeroes (d + t.bracket) ts i := by
  constructor
  · rintro ⟨hlt, hzero, hfirst⟩
    refine ⟨?_, Nat.lt_of_succ_lt_succ hlt, ?_, fun j hj => ?_⟩
    · simpa using hfirst 0 (Nat.succ_pos i)
    · rwa [List.take_succ_cons, depth_cons, ← Int.add_assoc] at hzero
    · have := hfirst (j + 1) (Nat.succ_lt_succ hj)
      rwa [List.take_succ_cons, depth_cons, ← Int.add_assoc] at this
  · rintro ⟨hne, hlt, hzero, hfirst⟩
    refine ⟨Nat.succ_lt_succ hlt, ?_, fun j hj => ?_⟩
    · rwa [List.take_succ_cons, depth_cons, ← Int.add_assoc]
    · cases j with
      | zero => simpa using hne
      | succ j =>
        rw [List.take_succ_cons, depth_cons, ← Int.add_assoc]
        exact hfirst j (Nat.lt_of_succ_lt_succ hj)

theorem afterBalanced?_eq_some_iff (hd : 0 < d) :
    afterBalanced? d ts = some rest ↔ ∃ i, Zeroes d ts i ∧ rest = ts.drop (i + 1) := by
  -- A token lowers the depth by one at most, so it stays positive until it is zero.
  induction ts generalizing d with
  | nil =>
    refine iff_of_false (fun h => nomatch h) ?_
    rintro ⟨i, ⟨hlt, -, -⟩, -⟩
    exact Nat.not_lt_zero i hlt
  | cons t ts ih =>
    have hge := neg_one_le_bracket t
    rw [afterBalanced?_cons hd]
    by_cases hzero : d + t.bracket = 0
    · rw [if_pos hzero, Option.some.injEq]
      constructor
      · rintro rfl
        exact ⟨0, zeroes_cons_zero.2 hzero, rfl⟩
      · rintro ⟨i, hi, rfl⟩
        cases i with
        | zero => rfl
        | succ i => exact absurd hzero (zeroes_cons_succ.1 hi).1
    · rw [if_neg hzero, ih (by omega)]
      constructor
      · rintro ⟨i, hi, rfl⟩
        exact ⟨i + 1, zeroes_cons_succ.2 ⟨hzero, hi⟩, rfl⟩
      · rintro ⟨i, hi, rfl⟩
        cases i with
        | zero => exact absurd (zeroes_cons_zero.1 hi) hzero
        | succ i => exact ⟨i, (zeroes_cons_succ.1 hi).2, rfl⟩

theorem skipBalanced_eq_ok_iff :
    skipBalanced line ts = .ok rest ↔ afterBalanced? 0 ts = some rest := by
  unfold skipBalanced
  cases afterBalanced? 0 ts with
  | none => exact iff_of_false (fun h => nomatch h) fun h => nomatch h
  | some after => rw [Except.ok.injEq, Option.some.injEq]

theorem skipBalanced_eq_error_iff {e : Failure} :
    skipBalanced line ts = .error e ↔
      e = ⟨⟨.unbalanced, line⟩, []⟩ ∧ ∀ rest, skipBalanced line ts ≠ .ok rest := by
  unfold skipBalanced
  cases afterBalanced? 0 ts with
  | none => simp [fail, eq_comm]
  | some after => simp

/-- Some later token brings the count to zero if there is a first one that does. -/
theorem exists_closes_iff :
    (∃ i, Closes ts i) ↔ ∃ i, 0 < i ∧ i < ts.length ∧ balance (ts.take (i + 1)) = 0 := by
  constructor
  · rintro ⟨i, hi⟩
    exact ⟨i, hi.later, hi.lt, hi.zero⟩
  · intro h
    obtain ⟨hlater, hlt, hzero⟩ := Nat.find_spec h
    refine ⟨Nat.find h, hlater, hlt, hzero, fun j hj hfind hzero => ?_⟩
    exact Nat.find_min h hfind ⟨hj, Nat.lt_trans hfind hlt, hzero⟩

/-- After an opening bracket, the count is one more than the depth of the tokens after it. -/
theorem closes_cons_iff (hsingle : ∀ u ∈ t :: ts, u.isSingle = true) (hopens : t.opens = true) :
    Closes (t :: ts) (i + 1) ↔ Zeroes 1 ts i := by
  have hopener : t.isOpener = true := by
    rw [Token.isOpener_eq (hsingle t List.mem_cons_self), hopens]
  have hcount : ∀ k, balance ((t :: ts).take (k + 1 + 1)) = 1 + depth (ts.take (k + 1)) := by
    intro k
    rw [← depth_take hsingle, List.take_succ_cons, depth_cons, Token.bracket_of_isOpener hopener]
  constructor
  · rintro ⟨-, hlt, hzero, hfirst⟩
    refine ⟨Nat.lt_of_succ_lt_succ hlt, (hcount i).symm.trans hzero, fun j hj => ?_⟩
    rw [← hcount]
    exact hfirst (j + 1) (Nat.succ_pos j) (Nat.succ_lt_succ hj)
  · rintro ⟨hlt, hzero, hfirst⟩
    refine ⟨Nat.succ_pos i, Nat.succ_lt_succ hlt, (hcount i).trans hzero, fun j hj hji => ?_⟩
    obtain ⟨k, rfl⟩ := Nat.exists_eq_add_of_le' hj
    rw [hcount]
    exact hfirst k (Nat.lt_of_succ_lt_succ hji)

theorem skipBalanced_cons_eq_ok_iff (hsingle : ∀ u ∈ t :: ts, u.isSingle = true)
    (hopens : t.opens = true) :
    skipBalanced line (t :: ts) = .ok rest ↔
      ∃ i, Closes (t :: ts) i ∧ rest = (t :: ts).drop (i + 1) := by
  have hopener : t.isOpener = true := by
    rw [Token.isOpener_eq (hsingle t List.mem_cons_self), hopens]
  rw [skipBalanced_eq_ok_iff, afterBalanced?, if_pos hopener, afterBalanced?_eq_some_iff (by omega)]
  constructor
  · rintro ⟨i, hi, rfl⟩
    exact ⟨i + 1, (closes_cons_iff hsingle hopens).2 hi, rfl⟩
  · rintro ⟨i, hi, rfl⟩
    obtain ⟨k, rfl⟩ := Nat.exists_eq_add_of_le' hi.later
    exact ⟨k, (closes_cons_iff hsingle hopens).1 hi, rfl⟩

theorem passesOver_of_opens (hsingle : ∀ u ∈ t :: ts, u.isSingle = true) (hopens : t.opens = true)
    (line : Int) : PassesOver line (t :: ts) := by
  have hsucceeds : (∃ rest, skipBalanced line (t :: ts) = .ok rest) ↔
      ∃ i, 0 < i ∧ i < (t :: ts).length ∧ balance ((t :: ts).take (i + 1)) = 0 := by
    rw [← exists_closes_iff]
    simp only [skipBalanced_cons_eq_ok_iff hsingle hopens]
    constructor
    · rintro ⟨rest, i, hi, -⟩
      exact ⟨i, hi⟩
    · rintro ⟨i, hi⟩
      exact ⟨_, i, hi, rfl⟩
  refine ⟨hsucceeds, fun rest => skipBalanced_cons_eq_ok_iff hsingle hopens, fun e => ?_⟩
  rw [skipBalanced_eq_error_iff, ← not_exists, hsucceeds]
  simp only [not_exists, not_and]

/-! ## Collecting a part -/

theorem nonneg_add_bracket (hd : 0 ≤ d) (h : ¬ EndsPart stops d t) : 0 ≤ d + t.bracket := by
  obtain ⟨n, rfl⟩ := Int.eq_ofNat_of_zero_le hd
  exact (collectFrom_of_not_ends [] h).1

/-- The depth does not go below zero within a part. -/
theorem IsPart.nonneg {collected after : List Token} (h : IsPart stops d collected after)
    (hd : 0 ≤ d) (j : Nat) : 0 ≤ d + depth (collected.take j) := by
  induction collected generalizing d j with
  | nil => simpa using hd
  | cons t collected ih =>
    obtain ⟨ht, hpart⟩ := isPart_cons.1 h
    cases j with
    | zero => simpa using hd
    | succ j =>
      rw [List.take_succ_cons, depth_cons, ← Int.add_assoc]
      exact ih hpart (nonneg_add_bracket hd ht) j

theorem exists_collects (hsingle : ∀ t ∈ ts, t.isSingle = true) (stops : List String) :
    ∃ n, Collects stops ts n := by
  rcases hcollect : collect stops ts with ⟨collected, after⟩
  obtain ⟨rfl, hpart⟩ := collect_eq_iff.1 hcollect
  have htake : ∀ j, j ≤ collected.length →
      balance ((collected ++ after).take j) = 0 + depth (collected.take j) := by
    intro j hj
    rw [← depth_take hsingle, List.take_append_of_le_length hj, Int.zero_add]
  have hend : ∀ j t, (collected ++ after)[j]? = some t → ∀ count,
      EndsPart stops count t ↔ IsEnd stops count t :=
    fun j t ht count => endsPart_iff (hsingle t (List.mem_of_getElem? ht))
  refine ⟨collected.length, ⟨?_, ?_, ?_, ?_, ?_⟩⟩
  · simp
  · rw [hcollect, List.take_left, List.drop_left]
  · intro t ht
    rw [htake _ (Nat.le_refl _), List.take_length, ← hend _ t ht]
    rw [List.getElem?_append_right (Nat.le_refl _), Nat.sub_self, ← List.head?_eq_getElem?] at ht
    obtain ⟨rest, rfl⟩ := List.head?_eq_some_iff.1 ht
    exact hpart.2 t rest rfl
  · intro j t hj ht
    rw [htake j (Nat.le_of_lt hj), ← hend j t ht]
    rw [List.getElem?_append_left hj] at ht
    obtain ⟨-, rfl⟩ := List.getElem?_eq_some_iff.1 ht
    refine hpart.1 (collected.take j) _ (collected.drop (j + 1)) ?_
    rw [List.getElem_cons_drop, List.take_append_drop]
  · intro j hj
    rw [htake j hj]
    exact hpart.nonneg (Int.le_refl 0) j

/-- Both scans over brackets are exact in tokens whose punctuation is single characters, as it is in
    lexed tokens. -/
theorem scans_balance :
    (∀ source ts, lex source = .ok ts → ∀ t ∈ ts, t.isSingle = true) ∧
      ∀ ts : List Token, (∀ t ∈ ts, t.isSingle = true) →
        (∀ line opener later, ts = opener :: later → opener.opens = true → PassesOver line ts) ∧
          ∀ stops, ∃ n, Collects stops ts n := by
  refine ⟨fun source ts hlex => lex_isSingle hlex, fun ts hsingle => ⟨?_, exists_collects hsingle⟩⟩
  rintro line opener later rfl hopens
  exact passesOver_of_opens hsingle hopens line

/-- In `(a[)}{`, where brackets of different shapes close each other, the bracketed part ends at
    index 4, and a part that stops at an opening brace ends before index 5. -/
theorem scans_balance_shapes :
    let ts : List Token :=
      [⟨none, "(", 1⟩, ⟨some .name, "a", 1⟩, ⟨none, "[", 1⟩, ⟨none, ")", 1⟩, ⟨none, closeBrace, 1⟩,
       ⟨none, openBrace, 1⟩]
    lex "<?php (a[)\x7d\x7b" = .ok (⟨some .openTag, "<?php ", 1⟩ :: ts) ∧
      (Closes ts 4 ∧ skipBalanced 1 ts = .ok [⟨none, openBrace, 1⟩]) ∧
      Collects [openBrace] ts 5 := by
  intro ts
  have hlex : lex "<?php (a[)\x7d\x7b" = .ok (⟨some .openTag, "<?php ", 1⟩ :: ts) := by
    decide +kernel
  have hsingle : ∀ t ∈ ts, t.isSingle = true :=
    fun t ht => scans_balance.1 _ _ hlex t (List.mem_cons_of_mem _ ht)
  obtain ⟨hpasses, hcollects⟩ := scans_balance.2 ts hsingle
  have hcloses : Closes ts 4 := by
    refine ⟨by omega, by decide, by decide +kernel, fun j hj hlt => ?_⟩
    obtain rfl | rfl | rfl : j = 1 ∨ j = 2 ∨ j = 3 := by omega
    all_goals decide +kernel
  obtain ⟨n, hn⟩ := hcollects [openBrace]
  have hlength : (collect [openBrace] ts).1.length = 5 := by decide +kernel
  obtain rfl : n = 5 := by
    have hle := hn.le
    rw [hn.collect_eq, List.length_take] at hlength
    omega
  have hpassed := ((hpasses 1 _ _ rfl (by decide +kernel)).ok_iff _).2 ⟨4, hcloses, rfl⟩
  exact ⟨hlex, ⟨hcloses, hpassed⟩, hn⟩

end Reading

end PhpOutline
