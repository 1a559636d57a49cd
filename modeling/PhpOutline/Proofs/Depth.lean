import Mathlib.Tactic.Common
import PhpOutline.Declaration.Brackets

/-!
# Bracket depth

The depth after some tokens is the number of brackets they open less the number they close.
Collecting a part stops at the first token that ends the part at the depth reached so far, and
passing over a bracketed part stops where the depth comes back to zero.

Results:
* `collectFrom_of_ends`, `collectFrom_of_not_ends`: one step of collecting.
* `collect_eq_iff`: what is collected, in terms of depth.
* `collect_takes`, `skipBalanced_takes`: both depend only on the tokens they go over.
-/

namespace PhpOutline

/-- What a token adds to the depth. -/
def Token.bracket (t : Token) : Int := if t.isOpener then 1 else if t.isCloser then -1 else 0

theorem Token.bracket_of_isOpener {t : Token} (h : t.isOpener = true) : t.bracket = 1 := by
  simp [bracket, h]

theorem Token.bracket_of_isCloser {t : Token} (h : t.isCloser = true) : t.bracket = -1 := by
  have hopen : t.isOpener = false := by
    unfold isCloser at h
    simpa using (Bool.and_eq_true_iff.1 h).1
  simp [bracket, hopen, h]

namespace Reading

/-- The depth after some tokens: brackets opened less brackets closed. -/
def depth : List Token → Int
  | [] => 0
  | t :: ts => t.bracket + depth ts

@[simp] theorem depth_nil : depth [] = 0 := rfl

@[simp] theorem depth_cons (t : Token) (ts : List Token) :
    depth (t :: ts) = t.bracket + depth ts := rfl

@[simp] theorem depth_append (ts us : List Token) : depth (ts ++ us) = depth ts + depth us := by
  induction ts with
  | nil => simp
  | cons t ts ih => rw [List.cons_append, depth_cons, depth_cons, ih, Int.add_assoc]

/-! ## Collecting -/

/-- A token that ends a collected part at some depth: a closing tag, or at depth zero punctuation in
    `stops` or a closing bracket. -/
def EndsPart (stops : List String) (depth : Int) (t : Token) : Prop :=
  t.isKind .closeTag = true ∨
    depth = 0 ∧ ((t.kind.isNone = true ∧ stops.contains t.content = true) ∨ t.isCloser = true)

theorem collectFrom_of_ends {stops : List String} {depth : Nat} {t : Token} (rest : List Token)
    (h : EndsPart stops depth t) : collectFrom stops depth (t :: rest) = ([], t :: rest) := by
  rw [collectFrom]
  by_cases hclose : t.isKind .closeTag = true
  · rw [if_pos hclose]
  rw [if_neg hclose]
  obtain ⟨hdepth, hend⟩ := h.resolve_left hclose
  have hdepth : depth = 0 := by omega
  by_cases hstop : t.kind.isNone = true ∧ stops.contains t.content = true
  · rw [if_pos ⟨hdepth, hstop⟩]
  · have hcloser := hend.resolve_left hstop
    have hopen : ¬ t.isOpener = true := by
      intro hopen
      simp [Token.isCloser, hopen] at hcloser
    rw [if_neg (fun h => hstop h.2), if_neg hopen, if_pos hcloser, if_pos hdepth]

/-- A token that does not end the part is collected, and the part goes on at the depth after it. -/
theorem collectFrom_of_not_ends {stops : List String} {depth : Nat} {t : Token} (rest : List Token)
    (h : ¬ EndsPart stops depth t) :
    0 ≤ depth + t.bracket ∧
      collectFrom stops depth (t :: rest) =
        (t :: (collectFrom stops (depth + t.bracket).toNat rest).1,
          (collectFrom stops (depth + t.bracket).toNat rest).2) := by
  have hclose : ¬ t.isKind .closeTag = true := fun hc => h (.inl hc)
  have hstop : ¬ (depth = 0 ∧ t.kind.isNone = true ∧ stops.contains t.content = true) :=
    fun hs => h (.inr ⟨by omega, .inl hs.2⟩)
  rw [collectFrom, if_neg hclose, if_neg hstop]
  by_cases hopen : t.isOpener = true
  · rw [if_pos hopen, Token.bracket_of_isOpener hopen]
    exact ⟨by omega, rfl⟩
  rw [if_neg hopen]
  by_cases hcloser : t.isCloser = true
  · have hdepth : ¬ depth = 0 := fun hd => h (.inr ⟨by omega, .inr hcloser⟩)
    rw [if_pos hcloser, if_neg hdepth, Token.bracket_of_isCloser hcloser]
    refine ⟨by omega, ?_⟩
    rw [show ((depth : Int) + -1).toNat = depth - 1 by omega]
  · rw [if_neg hcloser]
    have hzero : t.bracket = 0 := by simp [Token.bracket, hopen, hcloser]
    rw [hzero]
    exact ⟨by omega, by rw [show ((depth : Int) + 0).toNat = depth by omega]⟩

/-- Nothing in the tokens `collected` ends a part that starts at some depth, and what follows them
    does. -/
def IsPart (stops : List String) (depth : Int) (collected after : List Token) : Prop :=
  (∀ pre t post, collected = pre ++ t :: post → ¬ EndsPart stops (depth + Reading.depth pre) t) ∧
    ∀ t rest, after = t :: rest → EndsPart stops (depth + Reading.depth collected) t

theorem isPart_cons {stops : List String} {depth : Int} {t : Token} {collected after : List Token} :
    IsPart stops depth (t :: collected) after ↔
      ¬ EndsPart stops depth t ∧ IsPart stops (depth + t.bracket) collected after := by
  constructor
  · rintro ⟨hinner, hafter⟩
    refine ⟨?_, fun pre u post hsplit => ?_, fun u rest hu => ?_⟩
    · simpa using hinner [] t collected rfl
    · have := hinner (t :: pre) u post (by rw [hsplit]; rfl)
      rwa [depth_cons, ← Int.add_assoc] at this
    · have := hafter u rest hu
      rwa [depth_cons, ← Int.add_assoc] at this
  · rintro ⟨ht, hinner, hafter⟩
    refine ⟨fun pre u post hsplit => ?_, fun u rest hu => ?_⟩
    · cases pre with
      | nil =>
        obtain ⟨rfl, rfl⟩ := List.cons.inj hsplit
        simpa using ht
      | cons v pre =>
        obtain ⟨rfl, rfl⟩ := List.cons.inj hsplit
        rw [depth_cons, ← Int.add_assoc]
        exact hinner pre u post rfl
    · rw [depth_cons, ← Int.add_assoc]
      exact hafter u rest hu

theorem collectFrom_eq_iff {stops : List String} {depth : Nat} {ts collected after : List Token} :
    collectFrom stops depth ts = (collected, after) ↔
      ts = collected ++ after ∧ IsPart stops depth collected after := by
  induction ts generalizing depth collected with
  | nil =>
    constructor
    · intro h
      cases h
      exact ⟨rfl, by simp [IsPart]⟩
    · rintro ⟨hts, -⟩
      obtain ⟨rfl, rfl⟩ := List.nil_eq_append_iff.1 hts
      rfl
  | cons t r ih =>
    by_cases hend : EndsPart stops depth t
    · rw [collectFrom_of_ends r hend]
      constructor
      · intro h
        cases h
        refine ⟨rfl, by simp, fun u rest hu => ?_⟩
        obtain ⟨rfl, -⟩ := List.cons.inj hu
        simpa using hend
      · rintro ⟨hts, hpart⟩
        cases collected with
        | nil => rw [hts]; rfl
        | cons u collected =>
          obtain ⟨rfl, -⟩ := List.cons.inj hts
          exact absurd hend (isPart_cons.1 hpart).1
    · obtain ⟨hpos, heq⟩ := collectFrom_of_not_ends r hend
      have hcast : (((depth : Int) + t.bracket).toNat : Int) = depth + t.bracket :=
        Int.toNat_of_nonneg hpos
      rw [heq]
      constructor
      · intro h
        cases h
        obtain ⟨hts, hpart⟩ := ih.1 rfl
        rw [hcast] at hpart
        exact ⟨by rw [List.cons_append, ← hts], isPart_cons.2 ⟨hend, hpart⟩⟩
      · rintro ⟨hts, hpart⟩
        cases collected with
        | nil =>
          have := hpart.2 t r (by simpa using hts.symm)
          exact absurd (by simpa using this) hend
        | cons u collected =>
          obtain ⟨rfl, rfl⟩ := List.cons.inj hts
          have hlater : IsPart stops (((depth : Int) + t.bracket).toNat : Int) collected after := by
            rw [hcast]
            exact (isPart_cons.1 hpart).2
          rw [ih.2 ⟨rfl, hlater⟩]

/-- A collected part runs up to the first token that ends it. -/
theorem collect_eq_iff {stops : List String} {ts collected after : List Token} :
    collect stops ts = (collected, after) ↔
      ts = collected ++ after ∧ IsPart stops 0 collected after :=
  collectFrom_eq_iff

/-- A collected part ends at a token that is left, so it is the same whenever that token follows. -/
theorem collect_takes {stops : List String} {ts collected after : List Token} {t : Token}
    (h : collect stops ts = (collected, t :: after)) :
    ts = collected ++ t :: after ∧
      ∀ more, collect stops (collected ++ t :: more) = (collected, t :: more) := by
  obtain ⟨hts, hinner, hend⟩ := collect_eq_iff.1 h
  refine ⟨hts, fun more => collect_eq_iff.2 ⟨rfl, hinner, fun u rest hu => ?_⟩⟩
  obtain ⟨rfl, -⟩ := List.cons.inj hu
  exact hend t after rfl

/-! ## Passing over brackets -/

theorem afterBalanced?_takes {depth : Int} {ts rest : List Token}
    (h : afterBalanced? depth ts = some rest) :
    ∃ taken, ts = taken ++ rest ∧ ∀ more, afterBalanced? depth (taken ++ more) = some more := by
  induction ts generalizing depth with
  | nil => cases h
  | cons t r ih =>
    rw [afterBalanced?] at h
    split_ifs at h with hopen hcloser hone
    · obtain ⟨taken, rfl, hmore⟩ := ih h
      exact ⟨t :: taken, rfl, fun more => by
        rw [List.cons_append, afterBalanced?, if_pos hopen, hmore]⟩
    · cases h
      exact ⟨[t], rfl, fun more => by
        rw [List.singleton_append, afterBalanced?, if_neg hopen, if_pos hcloser, if_pos hone]⟩
    · obtain ⟨taken, rfl, hmore⟩ := ih h
      exact ⟨t :: taken, rfl, fun more => by
        rw [List.cons_append, afterBalanced?, if_neg hopen, if_pos hcloser, if_neg hone, hmore]⟩
    · obtain ⟨taken, rfl, hmore⟩ := ih h
      exact ⟨t :: taken, rfl, fun more => by
        rw [List.cons_append, afterBalanced?, if_neg hopen, if_neg hcloser, hmore]⟩

theorem skipBalanced_takes {line : Int} {ts rest : List Token}
    (h : skipBalanced line ts = .ok rest) :
    ∃ taken, ts = taken ++ rest ∧ ∀ more, skipBalanced line (taken ++ more) = .ok more := by
  unfold skipBalanced at h
  split at h
  · rename_i r hr
    cases h
    obtain ⟨taken, rfl, hmore⟩ := afterBalanced?_takes hr
    exact ⟨taken, rfl, fun more => by rw [skipBalanced, hmore]⟩
  · cases h

end Reading

end PhpOutline
