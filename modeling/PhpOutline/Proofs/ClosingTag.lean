import PhpOutline.Proofs.Scoping
import PhpOutline.Proofs.Statements

/-!
# Statements and the closing tag

A closing tag ends the code around it, so a statement before it should leave it for the pass over
the file. A constant and an included file do: what they collect ends at a closing tag at the latest,
whatever brackets are open. A `use` statement looks for its semicolon only and runs over every
closing tag before it; a namespace statement looks for names, a semicolon or an opening brace.

Results:
* `Cursor.keepsTag_iff`: which tokens may be passed.
* `Reading.readConstants_untagged`, `Reading.readIncludeTarget_untagged`: constants and included
  files.
* `Symbols.useClauses_rest`, `Symbols.namespaceParts_passes`: how far the other two go.
* `Symbols.handle_keepsTag`: all four statements.
-/

namespace PhpOutline

/-! ## Closing tags -/

/-- No closing tag is among the tokens. -/
def Untagged (ts : List Token) : Prop := ∀ t ∈ ts, t.isKind .closeTag = false

/-- The tokens before the first closing tag. -/
def beforeTag (ts : List Token) : List Token := ts.takeWhile (!·.isKind .closeTag)

/-- The tokens from the first closing tag on. -/
def fromTag (ts : List Token) : List Token := ts.dropWhile (!·.isKind .closeTag)

theorem untagged_nil : Untagged [] := List.forall_mem_nil _

theorem untagged_cons {t : Token} {ts : List Token} :
    Untagged (t :: ts) ↔ t.isKind .closeTag = false ∧ Untagged ts := List.forall_mem_cons

theorem untagged_append {ts us : List Token} :
    Untagged (ts ++ us) ↔ Untagged ts ∧ Untagged us := List.forall_mem_append

theorem isKind_of_isPunct {t : Token} {sign : String} (h : t.isPunct sign = true) (kind : Kind) :
    t.isKind kind = false := by
  have hnone : t.kind = none := by
    rw [Token.isPunct, Bool.and_eq_true] at h
    exact Option.isNone_iff_eq_none.1 h.1
  simp [Token.isKind, hnone]

theorem isKind_of_isKeyword {t : Token} {word : Keyword} (h : t.isKeyword word = true) :
    t.isKind .closeTag = false := by
  have hkind : t.kind = some (.keyword word) := by simpa [Token.isKeyword] using h
  simp [Token.isKind, hkind]

/-- Tokens that hold a closing tag are more than those before the first one. -/
theorem length_beforeTag_lt {taken : List Token} (h : ¬ Untagged taken) (rest : List Token) :
    (beforeTag (taken ++ rest)).length < taken.length := by
  induction taken with
  | nil => exact absurd untagged_nil h
  | cons t taken ih =>
    rw [beforeTag, List.cons_append, List.length_cons]
    cases ht : t.isKind .closeTag with
    | true =>
      rw [List.takeWhile_cons_of_neg (by simp [ht])]
      exact Nat.succ_pos _
    | false =>
      rw [List.takeWhile_cons_of_pos (by simp [ht]), List.length_cons]
      exact Nat.succ_lt_succ (ih fun hlater => h (untagged_cons.2 ⟨ht, hlater⟩))

namespace Cursor

/-- The cursor `after` is not past the first closing tag from `c` on, so that tag and all tokens
    after it are still to come. -/
structure KeepsTag (c after : Cursor) : Prop where
  position_le : after.position ≤ c.position + (beforeTag c.rest).length
  suffix : fromTag c.rest <:+ after.rest

/-- The first closing tag is kept exactly if no closing tag is passed. -/
theorem keepsTag_iff {c after : Cursor} {taken : List Token} (htoks : after.toList = c.toList)
    (hrest : c.rest = taken ++ after.rest) : c.KeepsTag after ↔ Untagged taken := by
  have hlength : c.rest.length = taken.length + after.rest.length := by
    rw [hrest, List.length_append]
  have hposition : after.position = c.position + taken.length := by
    have hsize := congrArg List.length htoks
    rw [length_toList, length_toList, size, size] at hsize
    unfold position
    omega
  constructor
  · intro h
    by_contra htagged
    have hlt := length_beforeTag_lt htagged after.rest
    have hle := h.position_le
    rw [hrest, hposition] at hle
    omega
  · intro h
    have hpass : ∀ t ∈ taken, (!t.isKind .closeTag) = true := fun t ht => by rw [h t ht]; rfl
    constructor
    · rw [hposition, hrest, beforeTag, List.takeWhile_append_of_pos hpass, List.length_append]
      omega
    · rw [hrest, fromTag, List.dropWhile_append_of_pos hpass]
      exact List.dropWhile_suffix _

theorem rest_moveTo {c : Cursor} {taken rest : List Token} (h : c.rest = taken ++ rest) :
    (c.moveTo rest).rest = rest := by
  have hlength : c.rest.length - rest.length = taken.length := by
    rw [h, List.length_append, Nat.add_sub_cancel]
  rw [moveTo, rest_skip, hlength, h, List.drop_left]

end Cursor

/-! ## Constants and included files -/

namespace Reading

theorem untagged_of_collect {stops : List String} {ts part after : List Token}
    (h : Reading.collect stops ts = (part, after)) : Untagged part := by
  intro t ht
  obtain ⟨pre, post, hsplit⟩ := List.append_of_mem ht
  have hgoes := (collect_eq_iff.1 h).2.1 pre t post hsplit
  rw [← Bool.not_eq_true]
  exact fun htag => hgoes (.inl htag)

/-- The sign that ends a part may be taken with it. -/
theorem untagged_before {part later : List Token} {sign : Token} {text : String}
    (hpart : Untagged part) (hsign : sign.isPunct text = true) (hlater : Untagged later) :
    Untagged (part ++ sign :: later) :=
  untagged_append.2 ⟨hpart, untagged_cons.2 ⟨isKind_of_isPunct hsign _, hlater⟩⟩

/-- A list of constants takes no closing tag. -/
theorem readConstants_untagged {scope : String} {line : Int} {doc : Option Docblock}
    {ts rest : List Token} {first : ConstantDecl} {others : List ConstantDecl}
    (h : readConstants scope line doc ts = .ok (first, others, rest)) :
    ∃ taken, ts = taken ++ rest ∧ Untagged taken := by
  -- the recursion is on what follows a comma, which is shorter
  induction hlen : ts.length using Nat.strongRecOn generalizing ts first others with
  | ind n ih =>
    obtain ⟨head, name, sign, afterSign, value, afterValue, hhead, -, hsign, hvalue, -, hend⟩ :=
      readConstants_eq_ok_iff.1 h
    have hheadUntagged := untagged_of_collect hhead
    have hvalueUntagged := untagged_of_collect hvalue
    obtain rfl := append_of_collect hhead
    obtain rfl := append_of_collect hvalue
    rcases hend with ⟨rfl, -, rfl⟩ |
      ⟨stop, after, rfl, ⟨hcomma, second, later, hread, -⟩ | ⟨-, -, hrest⟩⟩
    · -- the tokens end with the value
      refine ⟨head ++ sign :: value, by simp, ?_⟩
      exact untagged_before hheadUntagged hsign hvalueUntagged
    · -- a comma, and further constants
      have hshort : after.length < n := by
        rw [← hlen]
        simp only [List.length_append, List.length_cons]
        omega
      obtain ⟨taken, rfl, htaken⟩ := ih _ hshort hread rfl
      refine ⟨head ++ sign :: (value ++ stop :: taken), by simp, ?_⟩
      exact untagged_before hheadUntagged hsign (untagged_before hvalueUntagged hcomma htaken)
    · split at hrest
      · next hsemicolon =>
        subst hrest
        refine ⟨head ++ sign :: (value ++ [stop]), by simp, ?_⟩
        exact untagged_before hheadUntagged hsign
          (untagged_before hvalueUntagged hsemicolon untagged_nil)
      · -- something else ends the value and is left, a closing tag among others
        subst hrest
        refine ⟨head ++ sign :: value, by simp, ?_⟩
        exact untagged_before hheadUntagged hsign hvalueUntagged

/-- The expression of an included file takes no closing tag. -/
theorem readIncludeTarget_untagged (ts : List Token) :
    ∃ taken, ts = taken ++ (readIncludeTarget ts).2 ∧ Untagged taken := by
  unfold readIncludeTarget
  cases hcollect : Reading.collect [";"] ts with
  | mk part after =>
    have hpart := untagged_of_collect hcollect
    obtain rfl := append_of_collect hcollect
    cases after with
    | nil => exact ⟨part, rfl, hpart⟩
    | cons stop later =>
      simp only
      split
      · next hsemicolon =>
        exact ⟨part ++ [stop], by simp, untagged_before hpart hsemicolon untagged_nil⟩
      · exact ⟨part, rfl, hpart⟩

end Reading

/-! ## Statements that look for a sign -/

/-- No closing tag stands before the first of some signs, or at all if none of them comes. -/
def ClosedBy (signs : List String) (ts : List Token) : Prop :=
  Untagged (ts.takeWhile fun t => !signs.any t.isPunct)

theorem untagged_of_closedBy {signs : List String} {front rest : List Token}
    (h : ClosedBy signs (front ++ rest)) (hfront : ∀ t ∈ front, signs.any t.isPunct = false) :
    Untagged (front ++ rest.take 1) := by
  have hpass : ∀ t ∈ front, (!signs.any t.isPunct) = true := fun t ht => by rw [hfront t ht]; rfl
  rw [ClosedBy, List.takeWhile_append_of_pos hpass, untagged_append] at h
  refine untagged_append.2 ⟨h.1, ?_⟩
  cases rest with
  | nil => exact untagged_nil
  | cons t rest =>
    refine untagged_cons.2 ⟨?_, untagged_nil⟩
    -- the token is one of the signs, or one more before them
    cases ht : signs.any t.isPunct with
    | true =>
      obtain ⟨sign, -, hsign⟩ := List.any_eq_true.1 ht
      exact isKind_of_isPunct hsign _
    | false =>
      have hlater := h.2
      rw [List.takeWhile_cons_of_pos (by rw [ht]; rfl)] at hlater
      exact (untagged_cons.1 hlater).1

namespace Symbols

/-- A `use` statement ends after its first semicolon or with the tokens. -/
theorem useClauses_rest (depth : Int) (ts : List Token) :
    (useClauses depth ts).2.2 = (ts.dropWhile (!·.isPunct ";")).tail := by
  induction ts generalizing depth with
  | nil => rfl
  | cons t rest ih =>
    rw [useClauses]
    by_cases hsemicolon : t.isPunct ";" = true
    · rw [if_pos hsemicolon, List.dropWhile_cons_of_neg (by simp [hsemicolon]), List.tail_cons]
    · rw [if_neg hsemicolon, List.dropWhile_cons_of_pos (by simpa using hsemicolon)]
      split
      · exact ih depth
      · exact ih _

/-- The tokens of a `use` statement hold no closing tag exactly if none comes before its
    semicolon. -/
theorem exists_taken_of_use (ts : List Token) :
    ∃ taken, ts = taken ++ (readUse ts).2 ∧ (Untagged taken ↔ ClosedBy [";"] ts) := by
  have hrest : (readUse ts).2 = (ts.dropWhile (!·.isPunct ";")).tail := useClauses_rest 0 ts
  have hsigns : (fun t : Token => !List.any [";"] t.isPunct) = (!·.isPunct ";") := by
    funext t
    rw [List.any_cons, List.any_nil, Bool.or_false]
  have hsplit := ts.takeWhile_append_dropWhile (p := (!·.isPunct ";"))
  rw [hrest, ClosedBy, hsigns]
  cases hdrop : ts.dropWhile (!·.isPunct ";") with
  | nil =>
    rw [hdrop, List.append_nil] at hsplit
    exact ⟨ts.takeWhile (!·.isPunct ";"), by simpa using hsplit.symm, Iff.rfl⟩
  | cons stop later =>
    have hstop : stop.isPunct ";" = true := by
      have := List.head?_dropWhile_not (!·.isPunct ";") ts
      rw [hdrop] at this
      simpa using this
    rw [hdrop] at hsplit
    refine ⟨ts.takeWhile (!·.isPunct ";") ++ [stop], by simpa using hsplit.symm, ?_⟩
    rw [untagged_append, untagged_cons]
    exact ⟨fun h => h.1, fun h => ⟨h, isKind_of_isPunct hstop _, untagged_nil⟩⟩

/-- The signs that end the search for the parts of a namespace. -/
def scopeSigns : List String := [";", openBrace]

/-- The search for a part of a namespace passes over no sign that ends it. -/
theorem gotoWithin_passes {c : Cursor} (hc : ∀ t ∈ c.current, scopeSigns.any t.isPunct = false)
    (limit : Nat) :
    ∃ front, c.rest = front ++ (c.gotoWithin .name [";", openBrace] limit).2.rest ∧
      ∀ t ∈ front, scopeSigns.any t.isPunct = false := by
  induction limit generalizing c with
  | zero => exact ⟨[], rfl, List.forall_mem_nil _⟩
  | succ limit ih =>
    cases hrest : c.rest with
    | nil =>
      refine ⟨[], ?_, List.forall_mem_nil _⟩
      simp [Cursor.gotoWithin, Cursor.advance, Cursor.current, hrest]
    | cons t rest =>
      have ht : scopeSigns.any t.isPunct = false := hc t (by rw [Cursor.current, hrest]; rfl)
      have hadvance : c.advance = ⟨t :: c.passed, rest⟩ := by rw [Cursor.advance, hrest]
      have hone : ∃ front, t :: rest = front ++ c.advance.rest ∧
          ∀ u ∈ front, scopeSigns.any u.isPunct = false := by
        rw [hadvance]
        exact ⟨[t], rfl, List.forall_mem_singleton.2 ht⟩
      rw [Cursor.gotoWithin]
      split
      · exact hone
      · next u hu =>
        split
        · exact hone
        · split
          · exact hone
          · next hstops =>
            -- the next token is examined and passed over, so it is no sign
            have hpassed : scopeSigns.any u.isPunct = false := by
              rw [← Bool.not_eq_true, List.any_eq_true]
              rintro ⟨sign, hsign, hpunct⟩
              have hcontent : u.content = sign := by
                rw [Token.isPunct, Bool.and_eq_true] at hpunct
                exact eq_of_beq hpunct.2
              exact hstops (List.contains_iff_mem.2 (hcontent ▸ hsign))
            obtain ⟨front, hfront, hsigns⟩ := ih (c := c.advance) (by
              rw [hu]
              exact fun v hv => Option.mem_some_iff.1 hv ▸ hpassed)
            refine ⟨t :: front, ?_, List.forall_mem_cons.2 ⟨ht, hsigns⟩⟩
            rw [List.cons_append, ← hfront, hadvance]

theorem current_gotoWithin {c : Cursor} {limit : Nat} {stops : List String} {kind : Kind}
    {t : Token} (h : (c.gotoWithin kind stops limit).1 = some t) :
    (c.gotoWithin kind stops limit).2.current = some t ∧ t.isKind kind = true := by
  induction limit generalizing c with
  | zero => cases h
  | succ limit ih =>
    rw [Cursor.gotoWithin] at h ⊢
    split at h
    · cases h
    · next u hu =>
      split at h
      · next hkind =>
        cases h
        rw [if_pos hkind]
        exact ⟨hu, hkind⟩
      · next hkind =>
        rw [if_neg hkind]
        split at h
        · cases h
        · next hstops =>
          rw [if_neg hstops]
          exact ih h

/-- The search for all parts of a namespace passes over no sign that ends it. -/
theorem namespaceParts_passes {c : Cursor}
    (hc : ∀ t ∈ c.current, scopeSigns.any t.isPunct = false) :
    ∃ front, c.rest = front ++ (namespaceParts c).2.rest ∧
      ∀ t ∈ front, scopeSigns.any t.isPunct = false := by
  induction hlen : c.rest.length using Nat.strongRecOn generalizing c with
  | ind n ih =>
    obtain ⟨front, hfront, hsigns⟩ := gotoWithin_passes hc 5
    cases hgoto : c.gotoWithin .name [";", openBrace] 5 with
    | mk found after =>
      rw [hgoto] at hfront
      cases found with
      | none =>
        rw [namespaceParts_of_none hgoto]
        exact ⟨front, hfront, hsigns⟩
      | some t =>
        -- the search goes on from a name, which is no sign either
        have hfirst : (c.gotoWithin .name [";", openBrace] 5).1 = some t := by rw [hgoto]
        have hfound := current_gotoWithin hfirst
        rw [hgoto] at hfound
        have hname : scopeSigns.any t.isPunct = false := by
          rw [← Bool.not_eq_true, List.any_eq_true]
          rintro ⟨sign, -, hpunct⟩
          rw [isKind_of_isPunct hpunct] at hfound
          exact Bool.false_ne_true hfound.2
        have hshort : after.rest.length < n := by
          have hlt := (gotoWithin_length .name [";", openBrace] 5 c).2
          rw [hgoto, hlen] at hlt
          exact hlt rfl
        obtain ⟨later, hlater, hlaterSigns⟩ := ih _ hshort (by
          rw [hfound.1]
          exact fun u hu => Option.mem_some_iff.1 hu ▸ hname) rfl
        rw [namespaceParts_of_some hgoto]
        refine ⟨front ++ later, ?_, List.forall_mem_append.2 ⟨hsigns, hlaterSigns⟩⟩
        rw [hfront, hlater, List.append_assoc]

/-- A namespace statement takes no closing tag if a sign ends it before. -/
theorem exists_taken_of_scope {c : Cursor} {t : Token} {ts : List Token} (hrest : c.rest = t :: ts)
    (ht : t.isKeyword .namespaceKw = true)
    (h : (c.peek 1).any (·.isKind .separator) = true ∨ ClosedBy scopeSigns ts) :
    ∃ taken, c.rest = taken ++ (readNamespace c).2.rest ∧ Untagged taken := by
  have hkeyword := isKind_of_isKeyword ht
  have hone : c.rest = [t] ++ c.advance.rest := by
    rw [Cursor.rest_advance, hrest, List.tail_cons, List.singleton_append]
  -- what a statement takes that is no relative name
  have hparts : ClosedBy scopeSigns ts → ∃ taken,
      c.rest = taken ++ (namespaceParts c).2.advance.rest ∧ Untagged taken := by
    intro hclosed
    have hstart : ∀ u ∈ c.current, scopeSigns.any u.isPunct = false := by
      intro u hu
      rw [Cursor.current, hrest, List.head?_cons, Option.mem_some_iff] at hu
      rw [← hu, ← Bool.not_eq_true, List.any_eq_true]
      rintro ⟨sign, -, hpunct⟩
      rw [Token.isKeyword, ← Token.isKind, isKind_of_isPunct hpunct] at ht
      exact Bool.false_ne_true ht
    obtain ⟨front, hfront, hsigns⟩ := namespaceParts_passes hstart
    rw [Cursor.rest_advance, hfront]
    generalize (namespaceParts c).2.rest = rest at hfront
    refine ⟨front ++ rest.take 1, by cases rest <;> simp, ?_⟩
    rw [hrest] at hfront
    cases front with
    | nil =>
      rw [← hfront.trans (List.nil_append _)]
      exact untagged_cons.2 ⟨hkeyword, untagged_nil⟩
    | cons u front =>
      obtain ⟨rfl, rfl⟩ := List.cons.inj hfront
      have hfrontSigns := (List.forall_mem_cons.1 hsigns).2
      exact untagged_cons.2 ⟨hkeyword, untagged_of_closedBy hclosed hfrontSigns⟩
  unfold readNamespace
  split
  · next following hpeek =>
    rw [hpeek, Option.any_some] at h
    by_cases hseparator : following.isKind .separator = true
    · rw [if_pos hseparator]
      exact ⟨[t], hone, untagged_cons.2 ⟨hkeyword, untagged_nil⟩⟩
    · rw [if_neg hseparator]
      exact hparts (h.resolve_left hseparator)
  · next hpeek =>
    rw [hpeek, Option.any_none] at h
    exact hparts (h.resolve_left Bool.false_ne_true)

/-! ## All statements -/

theorem exists_rest_of_handled {α : Type} {s' : Symbols} {c after : Cursor}
    {enter : α → List Event × Symbols} {n : Noted (α × List Token)}
    (h : (handled c enter n).result = .ok (s', after)) :
    ∃ a rest, n.result = .ok (a, rest) ∧ after = c.moveTo rest := by
  unfold handled at h
  simp only at h
  split at h
  · cases h
  · next a rest hresult =>
    cases h
    exact ⟨a, rest, hresult, rfl⟩

/-- Which statements leave the first closing tag after their keyword, with all tokens from it on, to
    the pass over the file: a constant and an included file in any case, a `use` statement exactly
    if no closing tag comes before its semicolon, and a namespace statement if it is a relative name
    or if no closing tag comes before its semicolon or its brace. -/
theorem handle_keepsTag {s s' : Symbols} {c after : Cursor} {t : Token} {st : Statement}
    (ht : c.current = some t) (hst : statement? t = some st)
    (h : (s.handle c st).result = .ok (s', after)) :
    (st = .constant ∨ st = .inclusion → c.KeepsTag after) ∧
    (st = .use → (c.KeepsTag after ↔ ClosedBy [";"] c.rest.tail)) ∧
    (st = .scope → (c.peek 1).any (·.isKind .separator) = true ∨ ClosedBy scopeSigns c.rest.tail →
      c.KeepsTag after) := by
  have htoks := toList_handle h
  have hword := statement?_eq_some_iff.1 hst
  obtain ⟨ts, hrest⟩ := List.head?_eq_some_iff.1 ht
  have hkeyword : t.isKind .closeTag = false := by
    obtain ⟨word, -, hkeyword⟩ := List.any_eq_true.1 hword
    exact isKind_of_isKeyword hkeyword
  -- a reader that is handed the tokens after the keyword
  have hkept : ∀ {taken rest : List Token}, ts = taken ++ rest → after = c.moveTo rest →
      (c.KeepsTag after ↔ Untagged taken) := by
    rintro taken rest rfl rfl
    have htaken : c.rest = (t :: taken) ++ rest := hrest
    have hmoved : c.rest = (t :: taken) ++ (c.moveTo rest).rest := by
      rw [Cursor.rest_moveTo htaken, htaken]
    rw [Cursor.keepsTag_iff htoks hmoved, untagged_cons]
    exact and_iff_right hkeyword
  refine ⟨?_, ?_, ?_⟩
  · rintro (rfl | rfl)
    · obtain ⟨d, rest, hread, hafter⟩ := exists_rest_of_handled h
      rw [Reading.readConstant_eq hrest hword] at hread
      obtain ⟨others, hconstants⟩ := Reading.readConstantFrom_eq_ok_iff.1 hread
      obtain ⟨taken, htaken, huntagged⟩ := Reading.readConstants_untagged hconstants
      exact (hkept htaken hafter).2 huntagged
    · obtain ⟨d, rest, hread, hafter⟩ := exists_rest_of_handled h
      rw [Reading.readInclude_eq hrest hword] at hread
      obtain ⟨taken, htaken, huntagged⟩ := Reading.readIncludeTarget_untagged ts
      cases hread
      exact (hkept htaken hafter).2 huntagged
  · rintro rfl
    obtain ⟨taken, htaken, hclosed⟩ := exists_taken_of_use ts
    have hafter : c.moveTo (readUse c.rest.tail).2 = after := (Prod.mk.inj (Except.ok.inj h)).2
    rw [hrest, List.tail_cons] at hafter ⊢
    exact (hkept htaken hafter.symm).trans hclosed
  · rintro rfl hended
    have hafter : (readNamespace c).2 = after := (Prod.mk.inj (Except.ok.inj h)).2
    have hnamespace : t.isKeyword .namespaceKw = true := by simpa [Statement.words] using hword
    rw [hrest, List.tail_cons] at hended
    obtain ⟨taken, htaken, huntagged⟩ := exists_taken_of_scope hrest hnamespace hended
    rw [hafter] at htaken
    exact (Cursor.keepsTag_iff htoks htaken).2 huntagged

/-- A constant leaves a closing tag in its brackets, and a `use` statement runs over one. -/
theorem handle_keepsTag_in_brackets :
    let later : List Token := [⟨some .closeTag, "?>", 1⟩, ⟨some .openTag, "<?php ", 1⟩,
      ⟨some (.keyword .classKw), "class", 1⟩, ⟨none, ";", 1⟩]
    let atConst : Cursor := ⟨[], [⟨some (.keyword .constKw), "const", 1⟩, ⟨some .name, "A", 1⟩,
      ⟨none, "=", 1⟩, ⟨none, "[", 1⟩] ++ later⟩
    let atUse : Cursor :=
      ⟨[], [⟨some (.keyword .useKw), "use", 1⟩, ⟨some .name, "A", 1⟩] ++ later⟩
    (∃ s after, (handle {} atConst .constant).result = .ok (s, after) ∧ after.rest = later ∧
      atConst.KeepsTag after) ∧
    ∃ s after, (handle {} atUse .use).result = .ok (s, after) ∧ after.rest = [] ∧
      ¬ atUse.KeepsTag after := by
  intro later atConst atUse
  have hconst : (handle {} atConst .constant).result =
      .ok ({ constants := [("A", ⟨"A", "default", 1, none, "["⟩)] }, atConst.skip 4) := by
    decide +kernel
  have huse : (handle {} atUse .use).result =
      .ok ({ aliases := [("class", "A?><?php")] }, atUse.skip 6) := by
    decide +kernel
  have hopen : ¬ ClosedBy [";"] atUse.rest.tail := by
    intro h
    exact absurd (h ⟨some .closeTag, "?>", 1⟩ (by decide)) (by decide)
  refine ⟨⟨_, _, hconst, rfl, ?_⟩, ⟨_, _, huse, rfl, fun hkeeps => hopen ?_⟩⟩
  · exact (handle_keepsTag rfl rfl hconst).1 (.inl rfl)
  · exact ((handle_keepsTag rfl rfl huse).2.1 rfl).1 hkeeps

end Symbols

end PhpOutline
