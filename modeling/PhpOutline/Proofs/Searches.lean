import PhpOutline.Cursor

/-!
# Searches from a cursor

A cursor under a sequence of calls. Looking never moves it, and no call moves it back. Two searches
look for the first token of a kind among a number of tokens after the cursor: one only looks and is
stopped by kinds, the other one moves along and is stopped by contents. What they give is said by
indices in the list of all tokens, for any bound, also a negative one.

Results:
* `Meets.of_next`, `meets_succ_iff`: what a search meets, one token at a time.
* `Arrives.unique`: where a search that moves along gets to.
* `Cursor.find_eq_some_iff`, `Cursor.goto_eq_iff`: the two searches.
* `Cursor.toList_run`, `Cursor.position_le_run`: what a run preserves.
* `Cursor.run_disciplined`: all of it, after every run.
-/

namespace PhpOutline

/-! ## Windows -/

/-- Index `i` is one of the `limit` indices after a place. -/
def InWindow (place : Nat) (limit : Int) (i : Nat) : Prop := place < i ∧ (i : Int) ≤ place + limit

/-- No token between two indices has a property. -/
def NoneBetween (tokens : List Token) (p : Token → Prop) (place i : Nat) : Prop :=
  ∀ j u, place < j → j < i → tokens[j]? = some u → ¬ p u

/-- No token of a window has a property. -/
def NoneWithin (tokens : List Token) (p : Token → Prop) (place : Nat) (limit : Int) : Prop :=
  ∀ j u, InWindow place limit j → tokens[j]? = some u → ¬ p u

/-- The token at index `i` is the first one of a window that has a property. -/
structure IsFirst (tokens : List Token) (p : Token → Prop) (place : Nat) (limit : Int) (i : Nat)
    (t : Token) : Prop where
  window : InWindow place limit i
  getElem : tokens[i]? = some t
  holds : p t
  first : NoneBetween tokens p place i

/-- The token at index `i` is the first one of a window that is looked for, and no token that stops
    the search precedes it. -/
structure Meets (tokens : List Token) (p stop : Token → Prop) (place : Nat) (limit : Int) (i : Nat)
    (t : Token) : Prop extends IsFirst tokens p place limit i t where
  unstopped : NoneBetween tokens stop place i

/-- A search that moves along and meets nothing ends at index `i`: on the first token of the window
    that stops it; if there is none, at the end of the window or of the tokens. -/
def EndsAt (tokens : List Token) (stop : Token → Prop) (place : Nat) (limit : Int) (i : Nat) :
    Prop :=
  (∃ t, IsFirst tokens stop place limit i t) ∨
    NoneWithin tokens stop place limit ∧ (i : Int) = min (place + max 0 limit) tokens.length

/-- What a search that moves along gives, and the index where it ends. -/
def Arrives (tokens : List Token) (p stop : Token → Prop) (place : Nat) (limit : Int) :
    Option Token → Nat → Prop
  | some t, i => Meets tokens p stop place limit i t
  | none, i => (∀ j u, ¬ Meets tokens p stop place limit j u) ∧ EndsAt tokens stop place limit i

section Windows

variable {tokens : List Token} {p stop : Token → Prop} {place i j n : Nat} {limit : Int}
  {t u : Token}

/-! ### One result -/

theorem IsFirst.le (h : IsFirst tokens p place limit i t) (h' : IsFirst tokens p place limit j u) :
    i ≤ j := by
  refine Nat.le_of_not_lt fun hlt => ?_
  exact h.first j u h'.window.1 hlt h'.getElem h'.holds

theorem IsFirst.unique (h : IsFirst tokens p place limit i t)
    (h' : IsFirst tokens p place limit j u) : i = j ∧ t = u := by
  obtain rfl : i = j := Nat.le_antisymm (h.le h') (h'.le h)
  exact ⟨rfl, Option.some.inj (h.getElem.symm.trans h'.getElem)⟩

theorem IsFirst.not_noneWithin (h : IsFirst tokens p place limit i t) :
    ¬ NoneWithin tokens p place limit :=
  fun hnone => hnone i t h.window h.getElem h.holds

theorem EndsAt.unique (h : EndsAt tokens stop place limit i)
    (h' : EndsAt tokens stop place limit j) : i = j := by
  rcases h with ⟨t, ht⟩ | ⟨hnone, hi⟩
  · rcases h' with ⟨u, hu⟩ | ⟨hnone, -⟩
    · exact (ht.unique hu).1
    · exact absurd hnone ht.not_noneWithin
  · rcases h' with ⟨u, hu⟩ | ⟨-, hj⟩
    · exact absurd hnone hu.not_noneWithin
    · exact Int.ofNat_inj.1 (hi.trans hj.symm)

theorem Arrives.unique {o o' : Option Token} (h : Arrives tokens p stop place limit o i)
    (h' : Arrives tokens p stop place limit o' j) : o = o' ∧ i = j := by
  cases o with
  | none =>
    cases o' with
    | none => exact ⟨rfl, h.2.unique h'.2⟩
    | some u => exact absurd h' (h.1 j u)
  | some t =>
    cases o' with
    | none => exact absurd h (h'.1 i t)
    | some u =>
      obtain ⟨hi, rfl⟩ := h.toIsFirst.unique h'.toIsFirst
      exact ⟨rfl, hi⟩

/-! ### Empty windows -/

theorem not_inWindow (hlimit : limit ≤ 0) : ¬ InWindow place limit i := by
  rintro ⟨hi, hle⟩
  omega

theorem not_meets_of_nonpos (hlimit : limit ≤ 0) : ¬ Meets tokens p stop place limit i t :=
  fun h => not_inWindow hlimit h.window

/-- A search that may not move stays where it is. -/
theorem Arrives.of_nonpos (hlimit : limit ≤ 0) (hplace : place ≤ tokens.length) :
    Arrives tokens p stop place limit none place := by
  refine ⟨fun j u => not_meets_of_nonpos hlimit, .inr ⟨fun j u hj => ?_, ?_⟩⟩
  · exact absurd hj (not_inWindow hlimit)
  · omega

/-! ### The next token -/

theorem getElem?_eq_none_of_lt (hnext : tokens[place + 1]? = none) (hi : place < i) :
    tokens[i]? = none := by
  rw [List.getElem?_eq_none_iff] at hnext ⊢
  omega

/-- The next token has the property, and the window has at least one token. -/
theorem IsFirst.of_next (hnext : tokens[place + 1]? = some t) (ht : p t) :
    IsFirst tokens p place ((n + 1 : Nat) : Int) (place + 1) t where
  window := ⟨by omega, by omega⟩
  getElem := hnext
  holds := ht
  first j u hj hlt := by omega

theorem Meets.of_next (hnext : tokens[place + 1]? = some t) (ht : p t) :
    Meets tokens p stop place ((n + 1 : Nat) : Int) (place + 1) t :=
  ⟨.of_next hnext ht, fun j u hj hlt => by omega⟩

theorem not_meets_of_end (hnext : tokens[place + 1]? = none) :
    ¬ Meets tokens p stop place limit i t := by
  intro h
  cases (getElem?_eq_none_of_lt hnext h.window.1).symm.trans h.getElem

theorem not_meets_of_stop (hnext : tokens[place + 1]? = some u) (hu : ¬ p u) (hstop : stop u) :
    ¬ Meets tokens p stop place limit i t := by
  intro h
  rcases Nat.eq_or_lt_of_le (Nat.succ_le_of_lt h.window.1) with rfl | hlt
  · cases hnext.symm.trans h.getElem
    exact hu h.holds
  · exact h.unstopped (place + 1) u (Nat.lt_succ_self place) hlt hnext hstop

/-- A token without the property can be left out in front. -/
theorem noneBetween_succ_iff (hnext : tokens[place + 1]? = some u) (hu : ¬ p u) :
    NoneBetween tokens p place i ↔ NoneBetween tokens p (place + 1) i := by
  constructor
  · intro h j v hj
    exact h j v (by omega)
  · intro h j v hj hlt hv
    rcases Nat.eq_or_lt_of_le (Nat.succ_le_of_lt hj) with rfl | hj
    · cases hnext.symm.trans hv
      exact hu
    · exact h j v hj hlt hv

theorem noneWithin_succ_iff (hnext : tokens[place + 1]? = some u) (hu : ¬ p u) :
    NoneWithin tokens p place ((n + 1 : Nat) : Int) ↔ NoneWithin tokens p (place + 1) n := by
  constructor
  · rintro h j v ⟨hj, hle⟩
    exact h j v ⟨by omega, by omega⟩
  · rintro h j v ⟨hj, hle⟩ hv
    rcases Nat.eq_or_lt_of_le (Nat.succ_le_of_lt hj) with rfl | hj
    · cases hnext.symm.trans hv
      exact hu
    · exact h j v ⟨hj, by omega⟩ hv

theorem isFirst_succ_iff (hnext : tokens[place + 1]? = some u) (hu : ¬ p u) :
    IsFirst tokens p place ((n + 1 : Nat) : Int) i t ↔ IsFirst tokens p (place + 1) n i t := by
  constructor
  · rintro ⟨⟨hi, hle⟩, hget, ht, hfirst⟩
    have hne : i ≠ place + 1 := by
      rintro rfl
      cases hnext.symm.trans hget
      exact hu ht
    exact ⟨⟨by omega, by omega⟩, hget, ht, (noneBetween_succ_iff hnext hu).1 hfirst⟩
  · rintro ⟨⟨hi, hle⟩, hget, ht, hfirst⟩
    exact ⟨⟨by omega, by omega⟩, hget, ht, (noneBetween_succ_iff hnext hu).2 hfirst⟩

theorem meets_succ_iff (hnext : tokens[place + 1]? = some u) (hu : ¬ p u) (hstop : ¬ stop u) :
    Meets tokens p stop place ((n + 1 : Nat) : Int) i t ↔
      Meets tokens p stop (place + 1) n i t := by
  constructor
  · rintro ⟨hfirst, hunstopped⟩
    exact ⟨(isFirst_succ_iff hnext hu).1 hfirst, (noneBetween_succ_iff hnext hstop).1 hunstopped⟩
  · rintro ⟨hfirst, hunstopped⟩
    exact ⟨(isFirst_succ_iff hnext hu).2 hfirst, (noneBetween_succ_iff hnext hstop).2 hunstopped⟩

theorem endsAt_succ_iff (hnext : tokens[place + 1]? = some u) (hstop : ¬ stop u) :
    EndsAt tokens stop place ((n + 1 : Nat) : Int) i ↔ EndsAt tokens stop (place + 1) n i := by
  have hreach :
      (place : Int) + max 0 ((n + 1 : Nat) : Int) = (place + 1 : Nat) + max 0 (n : Int) := by
    omega
  simp only [EndsAt, isFirst_succ_iff hnext hstop, noneWithin_succ_iff hnext hstop, hreach]

theorem arrives_succ_iff {o : Option Token} (hnext : tokens[place + 1]? = some u) (hu : ¬ p u)
    (hstop : ¬ stop u) :
    Arrives tokens p stop place ((n + 1 : Nat) : Int) o i ↔
      Arrives tokens p stop (place + 1) n o i := by
  cases o with
  | none => simp only [Arrives, meets_succ_iff hnext hu hstop, endsAt_succ_iff hnext hstop]
  | some t => exact meets_succ_iff hnext hu hstop

theorem Arrives.le {o : Option Token} (h : Arrives tokens p stop place limit o i)
    (hplace : place ≤ tokens.length) : place ≤ i := by
  cases o with
  | some t => exact Nat.le_of_lt h.window.1
  | none =>
    rcases h.2 with ⟨t, ht⟩ | ⟨-, hi⟩
    · exact Nat.le_of_lt ht.window.1
    · omega

/-- Without a next token, a search that moves along ends at the end of the tokens. -/
theorem Arrives.of_end (hnext : tokens[place + 1]? = none) (hplace : place ≤ tokens.length) :
    Arrives tokens p stop place ((n + 1 : Nat) : Int) none tokens.length := by
  refine ⟨fun j u => not_meets_of_end hnext, .inr ⟨fun j u hj hu => ?_, ?_⟩⟩
  · cases (getElem?_eq_none_of_lt hnext hj.1).symm.trans hu
  · rw [List.getElem?_eq_none_iff] at hnext
    omega

end Windows

namespace Token

/-- A token of a kind. -/
def HasKind (kind : Kind) (t : Token) : Prop := t.kind = some kind

/-- A token of one of some kinds. -/
def HasKindIn (kinds : List Kind) (t : Token) : Prop := ∃ kind ∈ kinds, t.kind = some kind

/-- A token with one of some contents. -/
def HasContentIn (contents : List String) (t : Token) : Prop := t.content ∈ contents

variable {t : Token} {kind : Kind} {kinds : List Kind}

theorem isKind_eq_true_iff : t.isKind kind = true ↔ HasKind kind t := beq_iff_eq

theorem any_contains_iff : t.kind.any kinds.contains = true ↔ HasKindIn kinds t := by
  simp only [Option.any_eq_true, List.contains_iff_mem, HasKindIn]
  constructor
  · rintro ⟨kind, hkind, hmem⟩
    exact ⟨kind, hmem, hkind⟩
  · rintro ⟨kind, hmem, hkind⟩
    exact ⟨kind, hkind, hmem⟩

end Token

namespace Cursor

/-! ## Places in the list -/

variable {c d : Cursor} {kind : Kind} {limit : Int} {n : Nat} {t u : Token}

theorem getElem?_toList_add (c : Cursor) (k : Nat) : c.toList[c.position + k]? = c.rest[k]? := by
  rw [toList, List.getElem?_append_right (by simp [position])]
  simp [position]

theorem current_eq (c : Cursor) : c.current = c.toList[c.position]? := by
  rw [current, List.head?_eq_getElem?, ← getElem?_toList_add, Nat.add_zero]

theorem current_advance (c : Cursor) : c.advance.current = c.toList[c.position + 1]? := by
  rw [current, rest_advance, List.head?_tail, getElem?_toList_add]

theorem position_le_length (c : Cursor) : c.position ≤ c.toList.length := by
  rw [length_toList]
  exact position_le_size c

theorem position_advance_of_some (h : c.advance.current = some t) :
    c.advance.position = c.position + 1 := by
  rw [current_advance] at h
  obtain ⟨hlt, -⟩ := List.getElem?_eq_some_iff.1 h
  rw [length_toList] at hlt
  rw [position_advance]
  omega

theorem position_advance_of_none (h : c.advance.current = none) :
    c.advance.position = c.toList.length := by
  rw [current_advance, List.getElem?_eq_none_iff] at h
  have hle := position_le_length c
  rw [length_toList] at h hle ⊢
  rw [position_advance]
  omega

/-- A cursor is given by its tokens and its position. -/
theorem eq_of_position (htokens : c.toList = d.toList) (hposition : c.position = d.position) :
    c = d := by
  have hlength : c.passed.reverse.length = d.passed.reverse.length := by
    simpa [position] using hposition
  obtain ⟨hpassed, hrest⟩ := List.append_inj htokens hlength
  cases c
  cases d
  exact Cursor.mk.injEq .. ▸ ⟨List.reverse_inj.1 hpassed, hrest⟩

/-! ## The search that only looks -/

theorem find_eq_some_iff_of_nonpos {stops : List Kind} (hlimit : limit ≤ 0) :
    c.find kind limit stops = some t ↔
      ∃ i, Meets c.toList (Token.HasKind kind) (Token.HasKindIn stops) c.position limit i t := by
  have hnone : c.find kind limit stops = none := by simp [find, Int.toNat_of_nonpos hlimit]
  rw [hnone]
  exact iff_of_false (fun h => nomatch h) fun ⟨i, hi⟩ => not_meets_of_nonpos hlimit hi

theorem find_of_end {stops : List Kind} (h : c.advance.current = none) :
    c.find kind limit stops = none := by
  rw [current, List.head?_eq_none_iff, rest_advance] at h
  simp [find, h]

theorem find_succ {stops : List Kind} (h : c.advance.current = some u) :
    c.find kind ((n + 1 : Nat) : Int) stops =
      if u.isKind kind then some u
      else if u.kind.any stops.contains then none
      else c.advance.find kind n stops := by
  obtain ⟨later, hlater⟩ := List.head?_eq_some_iff.1 h
  have htail : c.rest.tail = u :: later := by rw [← rest_advance, hlater]
  simp only [find, htail, hlater, Int.toNat_natCast, List.take_succ_cons, List.find?_cons,
    List.tail_cons]
  cases hkind : u.isKind kind with
  | true => simp [hkind]
  | false => cases hstop : u.kind.any stops.contains <;> simp [hkind]

theorem find_natCast_eq_some_iff {stops : List Kind} :
    c.find kind (n : Int) stops = some t ↔
      ∃ i, Meets c.toList (Token.HasKind kind) (Token.HasKindIn stops) c.position n i t := by
  induction n generalizing c with
  | zero => exact find_eq_some_iff_of_nonpos (Int.le_refl 0)
  | succ n ih =>
    cases hnext : c.advance.current with
    | none =>
      rw [find_of_end hnext]
      rw [current_advance] at hnext
      exact iff_of_false (fun h => nomatch h) fun ⟨i, hi⟩ => not_meets_of_end hnext hi
    | some u =>
      rw [find_succ hnext]
      have hplace := position_advance_of_some hnext
      rw [current_advance] at hnext
      split
      · next hkind =>
        have hfirst : Meets c.toList (Token.HasKind kind) (Token.HasKindIn stops) c.position
            ((n + 1 : Nat) : Int) (c.position + 1) u :=
          .of_next hnext (Token.isKind_eq_true_iff.1 hkind)
        constructor
        · intro h
          cases h
          exact ⟨_, hfirst⟩
        · rintro ⟨i, hi⟩
          rw [(hi.toIsFirst.unique hfirst.toIsFirst).2]
      · next hkind =>
        rw [Token.isKind_eq_true_iff] at hkind
        split
        · next hstop =>
          rw [Token.any_contains_iff] at hstop
          exact iff_of_false (fun h => nomatch h)
            fun ⟨i, hi⟩ => not_meets_of_stop hnext hkind hstop hi
        · next hstop =>
          rw [Token.any_contains_iff] at hstop
          rw [ih, toList_advance, hplace]
          exact exists_congr fun i => (meets_succ_iff hnext hkind hstop).symm

/-- The search that only looks gives what it meets, and nothing else. -/
theorem find_eq_some_iff {stops : List Kind} :
    c.find kind limit stops = some t ↔
      ∃ i, Meets c.toList (Token.HasKind kind) (Token.HasKindIn stops) c.position limit i t := by
  rcases Int.le_total limit 0 with hlimit | hlimit
  · exact find_eq_some_iff_of_nonpos hlimit
  · obtain ⟨n, rfl⟩ := Int.eq_ofNat_of_zero_le hlimit
    exact find_natCast_eq_some_iff

/-! ## The search that moves along -/

theorem gotoWithin_of_end {stops : List String} (h : c.advance.current = none) :
    c.gotoWithin kind stops (n + 1) = (none, c.advance) := by
  simp only [gotoWithin, h]

theorem gotoWithin_succ {stops : List String} (h : c.advance.current = some u) :
    c.gotoWithin kind stops (n + 1) =
      if u.isKind kind then (some u, c.advance)
      else if stops.contains u.content then (none, c.advance)
      else c.advance.gotoWithin kind stops n := by
  simp only [gotoWithin, h]

theorem gotoWithin_arrives (c : Cursor) (kind : Kind) (stops : List String) (n : Nat) :
    Arrives c.toList (Token.HasKind kind) (Token.HasContentIn stops) c.position n
      (c.gotoWithin kind stops n).1 (c.gotoWithin kind stops n).2.position := by
  -- The window of the advanced cursor, with one token less, is the window without its first token.
  induction n generalizing c with
  | zero => exact .of_nonpos (Int.le_refl 0) (position_le_length c)
  | succ n ih =>
    cases hnext : c.advance.current with
    | none =>
      rw [gotoWithin_of_end hnext, position_advance_of_none hnext]
      rw [current_advance] at hnext
      exact .of_end hnext (position_le_length c)
    | some u =>
      rw [gotoWithin_succ hnext]
      have hplace := position_advance_of_some hnext
      rw [current_advance] at hnext
      split
      · next hkind =>
        rw [hplace]
        exact Meets.of_next hnext (Token.isKind_eq_true_iff.1 hkind)
      · next hkind =>
        rw [Token.isKind_eq_true_iff] at hkind
        split
        · next hstop =>
          rw [List.contains_iff_mem] at hstop
          rw [hplace]
          exact ⟨fun j v => not_meets_of_stop hnext hkind hstop, .inl ⟨u, .of_next hnext hstop⟩⟩
        · next hstop =>
          rw [List.contains_iff_mem] at hstop
          have hlater := ih c.advance
          rw [toList_advance, hplace] at hlater
          exact (arrives_succ_iff hnext hkind hstop).2 hlater

theorem goto_arrives (c : Cursor) (kind : Kind) (limit : Int) (stops : List String) :
    Arrives c.toList (Token.HasKind kind) (Token.HasContentIn stops) c.position limit
      (c.goto kind limit stops).1 (c.goto kind limit stops).2.position := by
  unfold goto
  rcases Int.le_total limit 0 with hlimit | hlimit
  · rw [Int.toNat_of_nonpos hlimit]
    exact .of_nonpos hlimit (position_le_length c)
  · obtain ⟨n, rfl⟩ := Int.eq_ofNat_of_zero_le hlimit
    exact gotoWithin_arrives c kind stops n

/-- The search that moves along gives what it meets and ends there, or else where it is stopped. -/
theorem goto_eq_iff {stops : List String} {o : Option Token} :
    c.goto kind limit stops = (o, d) ↔
      d.toList = c.toList ∧
        Arrives c.toList (Token.HasKind kind) (Token.HasContentIn stops) c.position limit o
          d.position := by
  have harrives := goto_arrives c kind limit stops
  constructor
  · intro h
    rw [h] at harrives
    exact ⟨by rw [← toList_goto c kind limit stops, h], harrives⟩
  · rintro ⟨htokens, hd⟩
    obtain ⟨hfound, hposition⟩ := harrives.unique hd
    have hcursor : (c.goto kind limit stops).2 = d :=
      eq_of_position ((toList_goto ..).trans htokens.symm) hposition
    exact Prod.ext hfound hcursor

/-- Without stops, both searches give the same. -/
theorem find_eq_goto (c : Cursor) (kind : Kind) (limit : Int) :
    c.find kind limit [] = (c.goto kind limit []).1 := by
  have hstops : (Token.HasKindIn [] : Token → Prop) = Token.HasContentIn [] := by
    funext t
    simp [Token.HasKindIn, Token.HasContentIn]
  have harrives := goto_arrives c kind limit []
  cases hgoto : (c.goto kind limit []).1 with
  | some t =>
    rw [hgoto] at harrives
    rw [find_eq_some_iff, hstops]
    exact ⟨_, harrives⟩
  | none =>
    rw [hgoto] at harrives
    rw [Option.eq_none_iff_forall_ne_some]
    intro t ht
    rw [find_eq_some_iff, hstops] at ht
    obtain ⟨i, hi⟩ := ht
    exact harrives.1 i t hi

/-! ## Runs -/

/-- A call on a cursor. -/
inductive Call where
  | size
  | position
  | atEnd
  | current
  | advance
  | peek (offset : Int)
  | find (kind : Kind) (limit : Int) (stops : List Kind)
  | goto (kind : Kind) (limit : Int) (stops : List String)
  deriving DecidableEq, Repr

/-- What a call gives back. -/
inductive Reply where
  | number (n : Nat)
  | flag (holds : Bool)
  | token (t : Option Token)

/-- What a call gives back, and the cursor after it. -/
def answer (c : Cursor) : Call → Reply × Cursor
  | .size => (.number c.size, c)
  | .position => (.number c.position, c)
  | .atEnd => (.flag c.atEnd, c)
  | .current => (.token c.current, c)
  | .advance => (.token c.advance.current, c.advance)
  | .peek offset => (.token (c.peek offset), c)
  | .find kind limit stops => (.token (c.find kind limit stops), c)
  | .goto kind limit stops => (c.goto kind limit stops).map .token id

/-- The cursor after a call. -/
def step (c : Cursor) (call : Call) : Cursor := (c.answer call).2

/-- The cursor after some calls. -/
def run (c : Cursor) (calls : List Call) : Cursor := calls.foldl step c

/-- The calls that may move a cursor. -/
def Call.moves : Call → Bool
  | .advance => true
  | .goto .. => true
  | _ => false

theorem step_of_not_moves {call : Call} (h : call.moves = false) : c.step call = c := by
  cases call with
  | advance => cases h
  | goto => cases h
  | _ => rfl

theorem toList_step (c : Cursor) (call : Call) : (c.step call).toList = c.toList := by
  cases call with
  | advance => exact toList_advance c
  | goto kind limit stops => exact toList_goto c kind limit stops
  | _ => rfl

theorem position_le_step (c : Cursor) (call : Call) : c.position ≤ (c.step call).position := by
  cases call with
  | advance =>
    have hle := position_le_size c
    show c.position ≤ c.advance.position
    rw [position_advance]
    omega
  | goto kind limit stops => exact (goto_arrives c kind limit stops).le (position_le_length c)
  | _ => exact Nat.le_refl _

theorem toList_run (c : Cursor) (calls : List Call) : (c.run calls).toList = c.toList := by
  induction calls generalizing c with
  | nil => rfl
  | cons call calls ih => exact (ih (c.step call)).trans (toList_step c call)

theorem position_le_run (c : Cursor) (calls : List Call) : c.position ≤ (c.run calls).position := by
  induction calls generalizing c with
  | nil => exact Nat.le_refl _
  | cons call calls ih => exact Nat.le_trans (position_le_step c call) (ih (c.step call))

/-- A cursor over some tokens stays within them. It never moves back, and calls that only look do
    not move it. -/
structure Disciplined (tokens : List Token) (c : Cursor) : Prop where
  toList : c.toList = tokens
  position_le : c.position ≤ tokens.length
  current : c.current = tokens[c.position]?
  forward : ∀ calls, c.position ≤ (c.run calls).position
  still : ∀ call, call.moves = false → c.step call = c

/-- What the two searches from a cursor over some tokens give, for every kind, bound and list of
    stops. Without stops they agree. -/
structure Searches (tokens : List Token) (c : Cursor) : Prop where
  find_iff : ∀ kind limit stops t, c.find kind limit stops = some t ↔
    ∃ i, Meets tokens (Token.HasKind kind) (Token.HasKindIn stops) c.position limit i t
  goto_iff : ∀ kind limit stops o d, c.goto kind limit stops = (o, d) ↔
    d.toList = tokens ∧
      Arrives tokens (Token.HasKind kind) (Token.HasContentIn stops) c.position limit o d.position
  agree : ∀ kind limit, c.find kind limit [] = (c.goto kind limit []).1

/-- Whatever has been called before, a cursor keeps its discipline, and its searches are exact. -/
theorem run_disciplined (tokens : List Token) (calls : List Call) :
    Disciplined tokens ((ofList tokens).run calls) ∧
      Searches tokens ((ofList tokens).run calls) := by
  have htokens : ((ofList tokens).run calls).toList = tokens := toList_run (ofList tokens) calls
  generalize (ofList tokens).run calls = c at htokens
  subst htokens
  refine ⟨⟨rfl, position_le_length c, current_eq c, position_le_run c, ?_⟩, ⟨?_, ?_, ?_⟩⟩
  · exact fun call => step_of_not_moves
  · exact fun kind limit stops t => find_eq_some_iff
  · exact fun kind limit stops o d => goto_eq_iff
  · exact find_eq_goto c

end Cursor

end PhpOutline
