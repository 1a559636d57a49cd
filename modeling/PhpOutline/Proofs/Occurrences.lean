import PhpOutline.Marker
import PhpOutline.Proofs.Scoping

/-!
# Where markers start

The markers of a source text are looked for in its raw lines, without regard to tokens, and a marker
takes the text up to the next one along. Here each marker is given the offset that it starts at. A
term has no slash in it, so a marker never reaches into one that starts after it: the markers of a
line are all its occurrences, and every comment that starts with a term has its marker, on the line
that lexing counts for the comment.

Results:
* `scanAt_map_snd`: the markers with their offsets are the markers.
* `suffix_of_occurrence`: what starts within a marker starts in the text after it.
* `inLineAt_eq`: the markers of a line are its occurrences.
* `exists_mem_inLinesAt`: the marker at a place of a source text.
* `scan_of_lex`: a token that starts with a marker, such as a line comment.
-/

namespace PhpOutline

open PhpOutline.Text

namespace Marker

/-! ## Offsets -/

/-- The text after a marker, given the text after its term. -/
def afterText (terms : List String) (after : List Char) : List Char :=
  (textStart after).drop (beforeNext terms (textStart after)).length

theorem afterText_length {terms : List String} {cs after : List Char} {term : String}
    (h : occurrence? terms cs = some (term, after)) :
    (afterText terms after).length < cs.length := by
  have hocc := occurrence?_length h
  have htext := textStart_length after
  rw [afterText, List.length_drop]
  omega

/-- The markers of a line with the offsets they start at, the line being at `offset`. -/
def inLineAt (terms : List String) (offset : Nat) (cs : List Char) : List (Nat × String × String) :=
  match cs with
  | [] => []
  | c :: r =>
    match h : occurrence? terms (c :: r) with
    | none => inLineAt terms (offset + 1) r
    | some (term, after) =>
      (offset, term, String.ofList (trim (beforeNext terms (textStart after)))) ::
        inLineAt terms (offset + ((c :: r).length - (afterText terms after).length))
          (afterText terms after)
termination_by cs.length
decreasing_by
  · exact Nat.lt_succ_self _
  · exact afterText_length h

/-- The markers of numbered lines with their offsets. A line feed stands after every line. -/
def inLinesAt (terms : List String) : (offset : Nat) → (first : Int) → List (List Char) →
    List (Nat × Marker)
  | _, _, [] => []
  | offset, n, line :: later =>
    ((inLineAt terms offset line).map fun (start, term, content) => (start, ⟨term, content, n⟩)) ++
      inLinesAt terms (offset + line.length + 1) (n + 1) later

/-- The markers of a source text with their offsets. -/
def scanAt (terms : List String) (contents : String) : List (Nat × Marker) :=
  inLinesAt terms 0 1 (splitAtNewlines contents.toList)

section Offsets

variable {terms : List String}

theorem inLine_cons_of_none {c : Char} {r : List Char} (h : occurrence? terms (c :: r) = none) :
    inLine terms (c :: r) = inLine terms r := by
  rw [inLine]
  split
  · rfl
  · rename_i h'
    rw [h] at h'
    cases h'

theorem inLine_cons_of_some {c : Char} {r after : List Char} {term : String}
    (h : occurrence? terms (c :: r) = some (term, after)) :
    inLine terms (c :: r) =
      (term, String.ofList (trim (beforeNext terms (textStart after)))) ::
        inLine terms (afterText terms after) := by
  rw [inLine]
  split
  · rename_i h'
    rw [h] at h'
    cases h'
  · rename_i h'
    rw [h] at h'
    cases h'
    rfl

theorem inLineAt_map_snd (offset : Nat) (cs : List Char) :
    (inLineAt terms offset cs).map Prod.snd = inLine terms cs := by
  fun_induction inLineAt terms offset cs with
  | case1 offset => rw [inLine, List.map_nil]
  | case2 offset c r h ih => rw [inLine_cons_of_none h, ih]
  | case3 offset c r term after h ih =>
    rw [inLine_cons_of_some h, List.map_cons, ih]

theorem inLinesAt_map_snd (offset : Nat) (n : Int) (ls : List (List Char)) :
    (inLinesAt terms offset n ls).map Prod.snd = inLines terms n ls := by
  induction ls generalizing offset n with
  | nil => rfl
  | cons line later ih =>
    rw [inLinesAt, inLines, List.map_append, ih, List.map_map, ← inLineAt_map_snd offset line,
      List.map_map]
    rfl

/-- The markers with their offsets are the markers. -/
theorem scanAt_map_snd (terms : List String) (contents : String) :
    (scanAt terms contents).map Prod.snd = scan terms contents := inLinesAt_map_snd _ _ _

end Offsets

/-! ## Occurrences -/

section Occurrences

variable {terms : List String} {cs after : List Char} {term : String} {k n : Nat}

theorem exists_of_termAfter? (h : termAfter? terms cs n = some (term, after)) :
    ∃ k ≤ n, term? terms (cs.drop k) = some term ∧ after = (cs.drop k).drop term.length := by
  induction n with
  | zero =>
    obtain ⟨t, ht, heq⟩ := Option.map_eq_some_iff.1 h
    cases heq
    exact ⟨0, Nat.le_refl 0, ht, rfl⟩
  | succ n ih =>
    rw [termAfter?] at h
    split at h
    · rename_i ht
      cases h
      exact ⟨n + 1, Nat.le_refl _, ht, rfl⟩
    · obtain ⟨k, hk, hfound⟩ := ih h
      exact ⟨k, Nat.le_succ_of_le hk, hfound⟩

theorem isSome_termAfter? (hk : k ≤ n) (h : (term? terms (cs.drop k)).isSome = true) :
    (termAfter? terms cs n).isSome = true := by
  induction n with
  | zero =>
    rw [Nat.le_zero.1 hk, List.drop_zero] at h
    rw [termAfter?, Option.isSome_map]
    exact h
  | succ n ih =>
    rw [termAfter?]
    split
    · rfl
    · rename_i hnone
      have hne : k ≠ n + 1 := by
        rintro rfl
        rw [hnone] at h
        cases h
      exact ih (by omega)

/-- Two slashes, blanks and one of the terms are an occurrence. -/
theorem isSome_occurrence? {blanks rest : List Char} (hterm : term ∈ terms)
    (hblanks : ∀ c ∈ blanks, isBlank c = true) :
    (occurrence? terms ('/' :: '/' :: (blanks ++ (term.toList ++ rest)))).isSome = true := by
  rw [occurrence?]
  refine isSome_termAfter? (k := blanks.length) ?_ ?_
  · rw [List.takeWhile_append_of_pos hblanks, List.length_append]
    exact Nat.le_add_right _ _
  · rw [List.drop_left, term?, List.find?_isSome]
    exact ⟨term, hterm, List.isPrefixOf_iff_prefix.2 (List.prefix_append _ _)⟩

/-! ## Markers do not overlap -/

/-- Terms that are not empty and have no slash in them. -/
def Slashless (terms : List String) : Prop := ∀ term ∈ terms, term ≠ "" ∧ '/' ∉ term.toList

/-- Terms that can be found within a line and that have no slash in them. -/
def Plain (terms : List String) : Prop :=
  ∀ term ∈ terms, term ≠ "" ∧ '/' ∉ term.toList ∧ '\n' ∉ term.toList

instance (terms : List String) : Decidable (Plain terms) := List.decidableBAll _ terms

theorem Plain.slashless (h : Plain terms) : Slashless terms :=
  fun term hterm => ⟨(h term hterm).1, (h term hterm).2.1⟩

/-- Between the slashes of a marker and the text after its term there is something, and there are no
    slashes. -/
theorem exists_gap_of_occurrence? (hterms : Slashless terms)
    (h : occurrence? terms cs = some (term, after)) :
    ∃ gap, cs = '/' :: '/' :: (gap ++ after) ∧ gap ≠ [] ∧ '/' ∉ gap := by
  unfold occurrence? at h
  split at h
  · rename_i r
    obtain ⟨k, hk, hterm, rfl⟩ := exists_of_termAfter? h
    rw [term?] at hterm
    obtain ⟨hne, hslash⟩ := hterms term (List.mem_of_find?_eq_some hterm)
    have hinitial := List.find?_some hterm
    obtain ⟨rest, hrest⟩ := List.isPrefixOf_iff_prefix.1 hinitial
    have hblanks : r.take k <+: r.takeWhile isBlank := by
      refine List.prefix_of_prefix_length_le (List.take_prefix k r) (List.takeWhile_prefix _) ?_
      exact Nat.le_trans (List.length_take_le k r) hk
    refine ⟨r.take k ++ term.toList, ?_, ?_, ?_⟩
    · rw [← hrest, ← String.length_toList, List.drop_left, List.append_assoc, hrest,
        List.take_append_drop]
    · intro hnil
      exact hne (String.toList_inj.1 (List.append_eq_nil_iff.1 hnil).2)
    · rw [List.mem_append, not_or]
      refine ⟨fun hmem => ?_, hslash⟩
      have hblank := List.all_eq_true.1 List.all_takeWhile _ (hblanks.subset hmem)
      exact absurd hblank (by decide)
  · cases h

theorem exists_gap_of_trimStart (cs : List Char) : ∃ gap, cs = gap ++ trimStart cs ∧ '/' ∉ gap := by
  refine ⟨cs.takeWhile isBlank, List.takeWhile_append_dropWhile.symm, fun hmem => ?_⟩
  exact absurd (List.all_eq_true.1 List.all_takeWhile _ hmem) (by decide)

theorem exists_gap_of_textStart (cs : List Char) : ∃ gap, cs = gap ++ textStart cs ∧ '/' ∉ gap := by
  unfold textStart
  split
  · rename_i r
    obtain ⟨gap, hgap, hslash⟩ := exists_gap_of_trimStart r
    refine ⟨':' :: gap, ?_, ?_⟩
    · rw [List.cons_append, ← hgap]
    · simp [hslash]
  · exact exists_gap_of_trimStart cs

/-- The text starts with a marker. -/
def Occurs (terms : List String) (cs : List Char) : Prop := (occurrence? terms cs).isSome = true

variable {place gap : List Char}

theorem Occurs.exists_eq (h : Occurs terms place) : ∃ r, place = '/' :: '/' :: r := by
  unfold Occurs occurrence? at h
  split at h
  · exact ⟨_, rfl⟩
  · cases h

/-- A place that starts with a slash is not within a text without slashes. -/
theorem suffix_of_gap (h : Occurs terms place) (hplace : place <:+ gap ++ cs) (hgap : '/' ∉ gap) :
    place <:+ cs := by
  obtain ⟨r, rfl⟩ := h.exists_eq
  induction gap with
  | nil => exact hplace
  | cons c gap ih =>
    rw [List.mem_cons, not_or] at hgap
    rw [List.cons_append] at hplace
    rcases List.suffix_cons_iff.1 hplace with heq | hlater
    · exact absurd (List.cons.inj heq).1 hgap.1
    · exact ih hgap.2 hlater

theorem suffix_drop_beforeNext (h : Occurs terms place) (hplace : place <:+ cs) :
    place <:+ cs.drop (beforeNext terms cs).length := by
  induction cs with
  | nil => exact hplace
  | cons c r ih =>
    rw [beforeNext]
    split
    · exact hplace
    · rename_i hnone
      rcases List.suffix_cons_iff.1 hplace with rfl | hlater
      · exact absurd h hnone
      · exact ih hlater

/-- What starts within a marker starts in the text after it. -/
theorem suffix_of_occurrence (hterms : Slashless terms)
    (h : occurrence? terms cs = some (term, after)) (hplace : Occurs terms place)
    (hsuffix : place <:+ cs) (hne : place ≠ cs) :
    place <:+ afterText terms after := by
  obtain ⟨gap, rfl, hgap, hslash⟩ := exists_gap_of_occurrence? hterms h
  obtain ⟨gap', hgap', hslash'⟩ := exists_gap_of_textStart after
  have hafter : place <:+ gap ++ after := by
    rcases List.suffix_cons_iff.1 hsuffix with heq | hlater
    · exact absurd heq hne
    rcases List.suffix_cons_iff.1 hlater with heq | hlater
    · -- the second slash and what follows are no two slashes
      obtain ⟨r, rfl⟩ := hplace.exists_eq
      obtain ⟨c, gap, rfl⟩ := List.exists_cons_of_ne_nil hgap
      cases heq
      exact absurd List.mem_cons_self hslash
    · exact hlater
  have htext : place <:+ textStart after := by
    refine suffix_of_gap hplace ?_ hslash'
    rw [← hgap']
    exact suffix_of_gap hplace hafter hslash
  exact suffix_drop_beforeNext hplace htext

/-! ## The markers of a line -/

/-- The markers that start anywhere in a text, with their offsets. -/
def occurrencesFrom (terms : List String) (offset : Nat) : List Char → List (Nat × String × String)
  | [] => []
  | c :: r =>
    ((occurrence? terms (c :: r)).map fun (term, after) =>
      (offset, term, String.ofList (trim (beforeNext terms (textStart after))))).toList ++
        occurrencesFrom terms (offset + 1) r

/-- A part in which no marker starts is passed. -/
theorem occurrencesFrom_of_suffix {rest : List Char} {offset : Nat} (hrest : rest <:+ cs)
    (h : ∀ place, Occurs terms place → place <:+ cs → place <:+ rest) :
    occurrencesFrom terms offset cs =
      occurrencesFrom terms (offset + (cs.length - rest.length)) rest := by
  induction cs generalizing offset with
  | nil => rw [List.suffix_nil.1 hrest, Nat.sub_self, Nat.add_zero]
  | cons c r ih =>
    rcases List.suffix_cons_iff.1 hrest with rfl | hlater
    · rw [Nat.sub_self, Nat.add_zero]
    have hle := hlater.length_le
    have hnone : occurrence? terms (c :: r) = none := by
      by_contra hne
      have hplace := h (c :: r) (Option.isSome_iff_ne_none.2 hne) List.suffix_rfl
      have := hplace.length_le
      rw [List.length_cons] at this
      omega
    have hlater' : ∀ place, Occurs terms place → place <:+ r → place <:+ rest :=
      fun place hplace hsuffix => h place hplace (hsuffix.trans (List.suffix_cons c r))
    rw [occurrencesFrom, hnone, ih hlater hlater', List.length_cons,
      show offset + 1 + (r.length - rest.length) = offset + (r.length + 1 - rest.length) by omega]
    rfl

/-- The markers of a line are all that start in it. -/
theorem inLineAt_eq (hterms : Slashless terms) (offset : Nat) (cs : List Char) :
    inLineAt terms offset cs = occurrencesFrom terms offset cs := by
  fun_induction inLineAt terms offset cs with
  | case1 offset => rfl
  | case2 offset c r h ih =>
    rw [occurrencesFrom, h, ih]
    rfl
  | case3 offset c r term after h ih =>
    have hrest : afterText terms after <:+ r := by
      obtain ⟨gap, heq, -, -⟩ := exists_gap_of_occurrence? hterms h
      obtain ⟨gap', hgap', -⟩ := exists_gap_of_textStart after
      have hafter : after <:+ r := ⟨'/' :: gap, (List.cons.inj heq).2.symm⟩
      have htext : textStart after <:+ after := ⟨gap', hgap'.symm⟩
      exact ((List.drop_suffix _ _).trans htext).trans hafter
    have hlater : ∀ place, Occurs terms place → place <:+ r → place <:+ afterText terms after := by
      intro place hplace hsuffix
      refine suffix_of_occurrence hterms h hplace (hsuffix.trans (List.suffix_cons c r)) ?_
      rintro rfl
      have := hsuffix.length_le
      rw [List.length_cons] at this
      omega
    have hle := hrest.length_le
    have hoffset : offset + 1 + (r.length - (afterText terms after).length) =
        offset + (r.length + 1 - (afterText terms after).length) := by omega
    rw [occurrencesFrom, h, ih, occurrencesFrom_of_suffix hrest hlater, List.length_cons, hoffset]
    rfl

theorem exists_mem_occurrencesFrom (h : Occurs terms place) (before : List Char) (offset : Nat) :
    ∃ entry ∈ occurrencesFrom terms offset (before ++ place), entry.1 = offset + before.length := by
  induction before generalizing offset with
  | nil =>
    obtain ⟨r, rfl⟩ := h.exists_eq
    obtain ⟨⟨term, after⟩, hfound⟩ := Option.isSome_iff_exists.1 h
    rw [List.nil_append, occurrencesFrom, hfound]
    exact ⟨_, List.mem_append_left _ List.mem_cons_self, rfl⟩
  | cons c before ih =>
    obtain ⟨entry, hentry, hoffset⟩ := ih (offset + 1)
    refine ⟨entry, List.mem_append_right _ hentry, ?_⟩
    rw [hoffset, List.length_cons]
    omega

end Occurrences

end Marker

/-! ## The markers of a source text -/

namespace Text

theorem exists_splitOnChar_eq (sep : Char) (cs : List Char) :
    ∃ later, splitOnChar sep cs = cs.takeWhile (· != sep) :: later := by
  induction cs with
  | nil => exact ⟨[], rfl⟩
  | cons c r ih =>
    obtain ⟨later, hlater⟩ := ih
    rw [splitOnChar]
    by_cases hc : c = sep
    · rw [if_pos hc, List.takeWhile_cons_of_neg (by simp [hc])]
      exact ⟨_, rfl⟩
    · rw [if_neg hc, hlater, List.takeWhile_cons_of_pos (by simp [hc])]
      exact ⟨later, rfl⟩

theorem takeWhile_append_of_not_mem {sep : Char} {a : List Char} (h : sep ∉ a) (b : List Char) :
    (a ++ b).takeWhile (· != sep) = a ++ b.takeWhile (· != sep) :=
  List.takeWhile_append_of_pos fun _ hc => bne_iff_ne.2 fun heq => h (heq ▸ hc)

end Text

namespace Marker

variable {terms : List String} {place : List Char}

/-- A marker is found at every place whose line starts with one, on the line that the line feeds
    before the place lead to. -/
theorem exists_mem_inLinesAt (hterms : Plain terms)
    (h : Occurs terms (place.takeWhile (· != '\n'))) (before : List Char) (offset : Nat) (n : Int) :
    ∃ entry ∈ inLinesAt terms offset n (splitOnChar '\n' (before ++ place)),
      entry.1 = offset + before.length ∧ entry.2.line = n + newlines before := by
  induction hlen : before.length using Nat.strongRecOn generalizing before offset n with
  | ind k ih =>
    by_cases hfeed : '\n' ∈ before
    · obtain ⟨line, later, rfl, hline⟩ := List.eq_append_cons_of_mem hfeed
      rw [List.length_append, List.length_cons] at hlen
      obtain ⟨entry, hentry, hstart, hnumber⟩ :=
        ih later.length (by omega) later (offset + line.length + 1) (n + 1) rfl
      rw [List.append_assoc, List.cons_append, splitOnChar_append_cons,
        splitOnChar_of_not_mem hline, List.singleton_append, inLinesAt]
      refine ⟨entry, List.mem_append_right _ hentry, ?_, ?_⟩
      · omega
      · have hcount : newlines (line ++ '\n' :: later) = newlines later + 1 := by
          rw [newlines, List.count_append, List.count_eq_zero.2 hline, List.count_cons_self,
            Nat.zero_add, newlines]
        rw [hnumber, hcount]
        omega
    · obtain ⟨⟨start, term, content⟩, hentry, hstart⟩ := exists_mem_occurrencesFrom h before offset
      rw [← inLineAt_eq hterms.slashless] at hentry
      obtain ⟨later, hsplit⟩ := exists_splitOnChar_eq '\n' (before ++ place)
      rw [takeWhile_append_of_not_mem hfeed] at hsplit
      rw [hsplit, inLinesAt]
      refine ⟨(start, ⟨term, content, n⟩), List.mem_append_left _ (List.mem_map_of_mem hentry),
        hlen ▸ hstart, ?_⟩
      rw [newlines, List.count_eq_zero.2 hfeed, Int.natCast_zero, Int.add_zero]

end Marker

open PhpOutline.Reading

/-- Every token that starts with two slashes, blanks within the line and one of the terms, such as a
    line comment, has its marker. The marker starts where the token starts, and it is on the line
    that the token is on. -/
theorem scan_of_lex {source : String} {before after : List Token} {t : Token}
    {terms : List String} {term : String} {blanks rest : List Char}
    (hterms : Marker.Plain terms) (hlex : lex source = .ok (before ++ t :: after))
    (hcontent : t.content.toList = '/' :: '/' :: (blanks ++ (term.toList ++ rest)))
    (hblanks : ∀ c ∈ blanks, isBlank c = true ∧ c ≠ '\n') (hterm : term ∈ terms) :
    ∃ m, ((joined before).length, m) ∈ Marker.scanAt terms source ∧
      m ∈ Marker.scan terms source ∧ m.line = t.line := by
  obtain ⟨last, hscan⟩ := lexFrom_eq_ok_iff.1 hlex
  have hcovers := hscan.covers
  have hline := hcovers.line_eq before.length t (by simp)
  rw [List.take_left] at hline
  let place := '/' :: '/' :: (blanks ++ (term.toList ++ (rest ++ (joined after).toList)))
  have hsource : source.toList = (joined before).toList ++ place := by
    rw [← hcovers.joined_eq, toList_joined_append, toList_joined_cons, hcontent]
    simp [place]
  have hfirst : place.takeWhile (· != '\n') =
      '/' :: '/' :: (blanks ++ (term.toList ++
        (rest ++ (joined after).toList).takeWhile (· != '\n'))) := by
    have hfeed : '\n' ∉ blanks := fun hmem => (hblanks _ hmem).2 rfl
    rw [List.takeWhile_cons_of_pos rfl, List.takeWhile_cons_of_pos rfl,
      takeWhile_append_of_not_mem hfeed, takeWhile_append_of_not_mem (hterms term hterm).2.2]
  have hplace : Marker.Occurs terms (place.takeWhile (· != '\n')) := by
    rw [hfirst]
    exact Marker.isSome_occurrence? hterm fun c hc => (hblanks c hc).1
  obtain ⟨⟨start, m⟩, hm, hstart, hnumber⟩ :=
    Marker.exists_mem_inLinesAt hterms hplace (joined before).toList 0 1
  rw [← hsource] at hm
  rw [Nat.zero_add, String.length_toList] at hstart
  subst hstart
  refine ⟨m, hm, ?_, hnumber.trans hline.symm⟩
  rw [← Marker.scanAt_map_snd]
  exact List.mem_map_of_mem hm

/-- A comment after a literal that a marker starts in: the marker of the literal ends before it. -/
theorem scan_of_lex_after_literal :
    let source := "<?php\n$a = \"// TODO x\"; // FIXME: y\n"
    let before : List Token :=
      [⟨some .openTag, "<?php\n", 1⟩, ⟨some .variable, "$a", 2⟩, ⟨some .whitespace, " ", 2⟩,
       ⟨none, "=", 2⟩, ⟨some .whitespace, " ", 2⟩, ⟨some .literal, "\"// TODO x\"", 2⟩,
       ⟨none, ";", 2⟩, ⟨some .whitespace, " ", 2⟩]
    let comment : Token := ⟨some .comment, "// FIXME: y\n", 2⟩
    lex source = .ok (before ++ [comment]) ∧
      ∃ m, (24, m) ∈ Marker.scanAt ["TODO", "FIXME"] source ∧
        m ∈ Marker.scan ["TODO", "FIXME"] source ∧ m.line = 2 := by
  intro source before comment
  have hlex : lex source = .ok (before ++ [comment]) := by decide +kernel
  have hcontent : comment.content.toList =
      '/' :: '/' :: ([' '] ++ ("FIXME".toList ++ ": y\n".toList)) := by decide +kernel
  have hblanks : ∀ c ∈ [' '], Text.isBlank c = true ∧ c ≠ '\n' := by
    intro c hc
    rw [List.mem_singleton.1 hc]
    decide
  have hstart : (joined before).length = 24 := by decide +kernel
  refine ⟨hlex, ?_⟩
  rw [← hstart]
  exact scan_of_lex (by decide +kernel) hlex hcontent hblanks (by decide)

end PhpOutline
