import Mathlib.Data.List.Forall2
import PhpOutline.Proofs.Occurrences

/-!
# The markers of a source text

What the markers of a source text are, said without the search for them. A marker occurs where two
slashes, blanks and one of the terms stand in a line; of several terms that stand there, the first
one in the list counts. Its text runs from the term, past a colon, to the next occurrence on the
line. If no term starts with a blank or has a slash in it, then the markers found are the
occurrences, each once, line by line and from left to right.

Results:
* `splitOnChar_eq_splitOn`: the lines of a source text.
* `standsBefore_of_occurrence?`, `occurs_iff`: what is found at a place, and where.
* `isMarkerAt_of_occurrence?`: the term and the text of what is found.
* `inLine_places`, `scan_places`: the markers of a line and of a source text.
-/

namespace PhpOutline

open PhpOutline.Text

namespace Text

/-- Splitting at a character is that of lists. -/
theorem splitOnChar_eq_splitOn (sep : Char) (cs : List Char) :
    splitOnChar sep cs = cs.splitOn sep := by
  induction cs with
  | nil => rfl
  | cons c r ih =>
    rw [splitOnChar, ih, List.splitOn_eq_splitOnP, List.splitOn_eq_splitOnP,
      List.splitOnP_cons_eq_if_modifyHead]
    by_cases hc : c = sep
    · rw [if_pos hc, if_pos (beq_iff_eq.2 hc)]
    · rw [if_neg hc, if_neg (mt beq_iff_eq.1 hc)]
      cases hr : r.splitOnP (· == sep) with
      | nil => exact absurd hr (List.splitOnP_ne_nil _ r)
      | cons piece pieces => rfl

/-- Blanks at the front of a text are trimmed. -/
theorem trim_append_left {blanks : List Char} (h : ∀ c ∈ blanks, isBlank c = true)
    (cs : List Char) : trim (blanks ++ cs) = trim cs := by
  rw [trim, trim, trimStart, trimStart, List.dropWhile_append_of_pos h]

end Text

namespace Marker

/-! ## Occurrences -/

/-- Two slashes, blanks and a term stand at the start of a text, and `after` follows them. -/
def StandsBefore (term : String) (cs after : List Char) : Prop :=
  ∃ blanks, (∀ c ∈ blanks, isBlank c = true) ∧
    cs = '/' :: '/' :: (blanks ++ (term.toList ++ after))

/-- A marker occurs at an index of a line. -/
def OccursAt (terms : List String) (line : List Char) (i : Nat) : Prop :=
  ∃ term ∈ terms, ∃ after, StandsBefore term (line.drop i) after

/-- Terms that are not empty, have no slash in them and do not start with a blank. -/
def Findable (terms : List String) : Prop :=
  ∀ term ∈ terms, term ≠ "" ∧ '/' ∉ term.toList ∧ term.toList.head?.any isBlank = false

instance (terms : List String) : Decidable (Findable terms) := List.decidableBAll _ terms

section Occurrences

variable {terms : List String} {cs after line : List Char} {term : String}

theorem Findable.slashless (h : Findable terms) : Slashless terms :=
  fun term hterm => ⟨(h term hterm).1, (h term hterm).2.1⟩

/-- A term starts where the blanks before it end. -/
theorem Findable.takeWhile_eq (h : Findable terms) (hterm : term ∈ terms) {blanks : List Char}
    (hblanks : ∀ c ∈ blanks, isBlank c = true) (after : List Char) :
    (blanks ++ (term.toList ++ after)).takeWhile isBlank = blanks := by
  obtain ⟨hne, -, hhead⟩ := h term hterm
  obtain ⟨c, r, hterm⟩ := List.exists_cons_of_ne_nil fun hnil => hne (String.toList_inj.1 hnil)
  rw [hterm] at hhead ⊢
  rw [List.takeWhile_append_of_pos hblanks, List.cons_append,
    List.takeWhile_cons_of_neg (by simpa using hhead), List.append_nil]

/-- What is found at the start of a text: a term that stands there, and no earlier one in the list
    does. -/
theorem standsBefore_of_occurrence? (hterms : Findable terms)
    (h : occurrence? terms cs = some (term, after)) :
    StandsBefore term cs after ∧
      ∃ front back, terms = front ++ term :: back ∧
        ∀ t ∈ front, ∀ rest, ¬ StandsBefore t cs rest := by
  unfold occurrence? at h
  split at h
  · rename_i r
    obtain ⟨k, hk, hterm, hafter⟩ := exists_of_termAfter? h
    have hmem := List.mem_of_find?_eq_some hterm
    obtain ⟨hinitial, front, back, heq, hfront⟩ := List.find?_eq_some_iff_append.1 hterm
    obtain ⟨rest, hrest⟩ := List.isPrefixOf_iff_prefix.1 hinitial
    obtain rfl : rest = after := by
      rw [hafter, ← hrest, ← String.length_toList, List.drop_left]
    have htake : ∀ c ∈ r.take k, isBlank c = true := by
      have hblanks : r.take k <+: r.takeWhile isBlank :=
        List.prefix_of_prefix_length_le (List.take_prefix k r) (List.takeWhile_prefix _)
          (Nat.le_trans (List.length_take_le k r) hk)
      exact fun c hc => List.all_eq_true.1 List.all_takeWhile c (hblanks.subset hc)
    have hr : r = r.take k ++ (term.toList ++ rest) := by rw [hrest, List.take_append_drop]
    refine ⟨⟨r.take k, htake, congrArg _ (congrArg _ hr)⟩, front, back, heq, ?_⟩
    rintro t ht more ⟨blanks, hblanks, hcs⟩
    -- both terms start where the blanks end, so the earlier one would have been found
    have hr' : r = blanks ++ (t.toList ++ more) := (List.cons.inj (List.cons.inj hcs).2).2
    have hsame : r.take k = blanks := by
      have htmem : t ∈ terms := heq ▸ List.mem_append_left _ ht
      rw [← hterms.takeWhile_eq htmem hblanks more, ← hr', hr, hterms.takeWhile_eq hmem htake]
      rw [← hr]
    have hprefix : t.toList <+: r.drop k := by
      rw [hr, hsame, List.append_cancel_left_eq] at hr'
      rw [← hrest, hr']
      exact List.prefix_append _ _
    have hnot := hfront t ht
    rw [List.isPrefixOf_iff_prefix.2 hprefix] at hnot
    cases hnot
  · cases h

/-- Something is found where a marker occurs. -/
theorem occurs_iff (hterms : Findable terms) {i : Nat} :
    Occurs terms (line.drop i) ↔ OccursAt terms line i := by
  constructor
  · intro h
    obtain ⟨⟨term, after⟩, hfound⟩ := Option.isSome_iff_exists.1 h
    obtain ⟨hstands, front, back, rfl, -⟩ := standsBefore_of_occurrence? hterms hfound
    exact ⟨term, List.mem_append_right _ List.mem_cons_self, after, hstands⟩
  · rintro ⟨term, hterm, after, blanks, hblanks, hdrop⟩
    rw [Occurs, hdrop]
    exact isSome_occurrence? hterm hblanks

/-! ## Terms and texts -/

/-- A text without the colon at its start, if there is one. -/
def withoutColon : List Char → List Char
  | ':' :: r => r
  | cs => cs

/-- The marker that occurs at an index of a line: its term is the first one in the list that stands
    there, and its text, trimmed, runs from the term and a colon to the index `next` of the next
    occurrence or to the end of the line. -/
def IsMarkerAt (terms : List String) (line : List Char) (i : Nat) (term content : String) : Prop :=
  ∃ text next,
    StandsBefore term (line.drop i) (text ++ line.drop next) ∧
    (∃ front back, terms = front ++ term :: back ∧
      ∀ t ∈ front, ∀ rest, ¬ StandsBefore t (line.drop i) rest) ∧
    (next = line.length ∨ OccursAt terms line next) ∧
    (∀ j, i < j → j < next → ¬ OccursAt terms line j) ∧
    i < next ∧ content = String.ofList (trim (withoutColon text))

theorem beforeNext_append (terms : List String) (cs : List Char) :
    beforeNext terms cs ++ cs.drop (beforeNext terms cs).length = cs := by
  induction cs with
  | nil => rfl
  | cons c r ih =>
    rw [beforeNext]
    split
    · rfl
    · exact congrArg _ ih

/-- What follows a term is the text of the marker, with a colon and blanks before it, and then the
    text after the marker. -/
theorem exists_text (terms : List String) (after : List Char) :
    ∃ text, after = text ++ afterText terms after ∧
      trim (withoutColon text) = trim (beforeNext terms (textStart after)) := by
  have hbody := beforeNext_append terms (textStart after)
  have hblanks (cs : List Char) : ∀ c ∈ cs.takeWhile isBlank, isBlank c = true :=
    List.all_eq_true.1 List.all_takeWhile
  have hsplit (cs : List Char) : cs = cs.takeWhile isBlank ++ trimStart cs :=
    List.takeWhile_append_dropWhile.symm
  by_cases hcolon : ∃ r, after = ':' :: r
  · obtain ⟨r, rfl⟩ := hcolon
    refine ⟨':' :: (r.takeWhile isBlank ++ beforeNext terms (textStart (':' :: r))), ?_,
      trim_append_left (hblanks r) _⟩
    rw [List.cons_append, List.append_assoc, afterText, hbody]
    exact congrArg _ (hsplit r)
  · have hstart : textStart after = trimStart after := by
      unfold textStart
      split
      · exact absurd ⟨_, rfl⟩ hcolon
      · rfl
    have hafter : after = after.takeWhile isBlank ++ beforeNext terms (textStart after) ++
        afterText terms after := by
      rw [List.append_assoc, afterText, hbody, hstart]
      exact hsplit after
    refine ⟨_, hafter, ?_⟩
    rw [withoutColon, trim_append_left (hblanks after)]
    intro r hr
    rw [hr] at hafter
    exact hcolon ⟨_, hafter⟩

/-- Where the text of a marker ends, the line ends or a marker occurs. -/
theorem afterText_cases (terms : List String) (after : List Char) :
    afterText terms after = [] ∨ Occurs terms (afterText terms after) := by
  unfold afterText
  induction textStart after with
  | nil => exact .inl rfl
  | cons c r ih =>
    rw [beforeNext]
    split
    · rename_i hoccurs
      exact .inr hoccurs
    · exact ih

/-- What is found at an index of a line is the marker there. -/
theorem isMarkerAt_of_occurrence? (hterms : Findable terms) {i : Nat}
    (h : occurrence? terms (line.drop i) = some (term, after)) :
    IsMarkerAt terms line i term
      (String.ofList (trim (beforeNext terms (textStart after)))) := by
  obtain ⟨hstands, hfirst⟩ := standsBefore_of_occurrence? hterms h
  obtain ⟨text, hafter, htrim⟩ := exists_text terms after
  have hshort := afterText_length h
  have hsuffix : afterText terms after <:+ line := by
    obtain ⟨blanks, -, hdrop⟩ := hstands
    refine List.IsSuffix.trans ⟨'/' :: '/' :: (blanks ++ (term.toList ++ text)), ?_⟩
      (List.drop_suffix i line)
    rw [hdrop, List.cons_append, List.cons_append, List.append_assoc, List.append_assoc, ← hafter]
  have hdrop := List.suffix_iff_eq_drop.1 hsuffix
  rw [List.length_drop] at hshort
  have hle := hsuffix.length_le
  refine ⟨text, line.length - (afterText terms after).length, ?_, hfirst, ?_, ?_, by omega,
    by rw [htrim]⟩
  · rwa [← hdrop, ← hafter]
  · rcases afterText_cases terms after with hnil | hoccurs
    · exact .inl (by rw [hnil, List.length_nil, Nat.sub_zero])
    · rw [hdrop] at hoccurs
      exact .inr ((occurs_iff hterms).1 hoccurs)
  · intro j hij hj hoccurs
    -- what starts within the marker starts in the text after it
    have hwithin : line.drop j <:+ line.drop i := by
      rw [← Nat.add_sub_cancel' (Nat.le_of_lt hij), ← List.drop_drop]
      exact List.drop_suffix _ _
    have hne : line.drop j ≠ line.drop i := by
      intro heq
      have := congrArg List.length heq
      rw [List.length_drop, List.length_drop] at this
      omega
    have hplace := suffix_of_occurrence hterms.slashless h ((occurs_iff hterms).2 hoccurs) hwithin hne
    have := hplace.length_le
    rw [List.length_drop] at this
    omega

end Occurrences

/-! ## Lines -/

section Lines

variable {terms : List String}

/-- The entries of a line: an index, with what is found there. -/
theorem mem_occurrencesFrom_iff {offset : Nat} {cs : List Char} {entry : Nat × String × String} :
    entry ∈ occurrencesFrom terms offset cs ↔
      ∃ k term after, occurrence? terms (cs.drop k) = some (term, after) ∧
        entry = (offset + k, term,
          String.ofList (trim (beforeNext terms (textStart after)))) := by
  induction cs generalizing offset with
  | nil => simp [occurrencesFrom, occurrence?]
  | cons c r ih =>
    rw [occurrencesFrom, List.mem_append, ih]
    constructor
    · rintro (hhere | ⟨k, term, after, hfound, rfl⟩)
      · obtain ⟨⟨term, after⟩, hfound, rfl⟩ :=
          Option.map_eq_some_iff.1 (Option.mem_toList.1 hhere)
        exact ⟨0, term, after, hfound, rfl⟩
      · exact ⟨k + 1, term, after, hfound, by rw [Nat.add_right_comm, Nat.add_assoc]⟩
    · rintro ⟨k, term, after, hfound, rfl⟩
      cases k with
      | zero =>
        left
        rw [List.drop_zero] at hfound
        rw [hfound]
        simp
      | succ k => exact .inr ⟨k, term, after, hfound, by rw [Nat.add_right_comm, Nat.add_assoc]⟩

theorem pairwise_occurrencesFrom (offset : Nat) (cs : List Char) :
    (occurrencesFrom terms offset cs).Pairwise fun a b => a.1 < b.1 := by
  induction cs generalizing offset with
  | nil => exact .nil
  | cons c r ih =>
    rw [occurrencesFrom, List.pairwise_append]
    refine ⟨?_, ih (offset + 1), ?_⟩
    · cases occurrence? terms (c :: r) with
      | none => exact .nil
      | some found => exact List.pairwise_singleton _ _
    · intro a ha b hb
      obtain ⟨found, -, rfl⟩ := Option.map_eq_some_iff.1 (Option.mem_toList.1 ha)
      obtain ⟨k, term, after, -, rfl⟩ := mem_occurrencesFrom_iff.1 hb
      simp only
      omega

/-- The markers of a line are those that occur in it, from left to right. -/
theorem inLine_places (hterms : Findable terms) (line : List Char) :
    ∃ starts : List Nat, starts.Pairwise (· < ·) ∧ (∀ i, i ∈ starts ↔ OccursAt terms line i) ∧
      List.Forall₂ (fun i found => IsMarkerAt terms line i found.1 found.2) starts
        (inLine terms line) := by
  refine ⟨(occurrencesFrom terms 0 line).map Prod.fst, ?_, fun i => ?_, ?_⟩
  · exact List.pairwise_map.2 (pairwise_occurrencesFrom 0 line)
  · rw [← occurs_iff hterms, List.mem_map]
    constructor
    · rintro ⟨entry, hentry, rfl⟩
      obtain ⟨k, term, after, hfound, rfl⟩ := mem_occurrencesFrom_iff.1 hentry
      rw [Nat.zero_add]
      exact Option.isSome_iff_exists.2 ⟨_, hfound⟩
    · intro hoccurs
      obtain ⟨⟨term, after⟩, hfound⟩ := Option.isSome_iff_exists.1 hoccurs
      exact ⟨_, mem_occurrencesFrom_iff.2 ⟨i, term, after, hfound, rfl⟩, Nat.zero_add i⟩
  · rw [← inLineAt_map_snd 0, inLineAt_eq hterms.slashless, List.forall₂_map_left_iff,
      List.forall₂_map_right_iff, List.forall₂_same]
    intro entry hentry
    obtain ⟨k, term, after, hfound, rfl⟩ := mem_occurrencesFrom_iff.1 hentry
    rw [Nat.zero_add]
    exact isMarkerAt_of_occurrence? hterms hfound

end Lines

/-! ## Source texts -/

/-- Some markers are the occurrences of the terms in numbered lines, each once, line by line and
    from left to right. A place is the number of a line and an index in it. -/
def ListOccurrences (terms : List String) (lines : List (List Char × Nat)) (markers : List Marker) :
    Prop :=
  ∃ places : List (Nat × Nat), places.Pairwise (Prod.Lex (· < ·) (· < ·)) ∧
    (∀ n i, (n, i) ∈ places ↔ ∃ line, (line, n) ∈ lines ∧ OccursAt terms line i) ∧
    List.Forall₂ (fun place marker => marker.line = place.1 ∧
      ∃ line, (line, place.1) ∈ lines ∧
        IsMarkerAt terms line place.2 marker.term marker.content) places markers

/-- The markers of lines that are numbered from `n` on. -/
theorem inLines_places {terms : List String} (hterms : Findable terms) (n : Nat)
    (ls : List (List Char)) : ListOccurrences terms (ls.zipIdx n) (inLines terms n ls) := by
  induction ls generalizing n with
  | nil => exact ⟨[], .nil, by simp, .nil⟩
  | cons line later ih =>
    obtain ⟨starts, hstarts, hmem, hmarkers⟩ := inLine_places hterms line
    obtain ⟨places, hplaces, hplace, hlater⟩ := ih (n + 1)
    refine ⟨starts.map (n, ·) ++ places, ?_, fun m i => ?_, ?_⟩
    · refine List.pairwise_append.2 ⟨?_, hplaces, ?_⟩
      · exact List.pairwise_map.2 (hstarts.imp fun hlt => .right n hlt)
      · rintro ⟨a, i⟩ ha ⟨m, j⟩ hb
        obtain ⟨_, _, heq⟩ := List.mem_map.1 ha
        obtain ⟨line', hline', -⟩ := (hplace m j).1 hb
        have hle := List.le_snd_of_mem_zipIdx hline'
        cases heq
        exact .left _ _ hle
    · rw [List.mem_append, hplace, List.zipIdx_cons]
      simp only [List.mem_map, Prod.mk.injEq, List.mem_cons, hmem]
      constructor
      · rintro (⟨_, hoccurs, rfl, rfl⟩ | ⟨line', hline', hoccurs⟩)
        · exact ⟨line, .inl ⟨rfl, rfl⟩, hoccurs⟩
        · exact ⟨line', .inr hline', hoccurs⟩
      · rintro ⟨line', ⟨rfl, rfl⟩ | hline', hoccurs⟩
        · exact .inl ⟨i, hoccurs, rfl, rfl⟩
        · exact .inr ⟨line', hline', hoccurs⟩
    · rw [inLines, List.zipIdx_cons]
      refine List.rel_append ?_ (hlater.imp ?_)
      · rw [List.forall₂_map_left_iff, List.forall₂_map_right_iff]
        exact hmarkers.imp fun i found h => ⟨rfl, line, List.mem_cons_self, h⟩
      · rintro place marker ⟨hline, line', hline', h⟩
        exact ⟨hline, line', List.mem_cons_of_mem _ hline', h⟩

/-- The markers of a source text are the occurrences of the terms in its lines, which are counted
    from one. -/
theorem scan_places {terms : List String} (hterms : Findable terms) (contents : String) :
    ListOccurrences terms ((contents.toList.splitOn '\n').zipIdx 1) (scan terms contents) := by
  rw [← splitOnChar_eq_splitOn]
  exact inLines_places hterms 1 _

/-- Three markers on two lines: a shorter term comes first in the list and counts, a third slash
    does not keep a marker from being found, and only one colon is left out. -/
theorem scan_places_two_lines :
    let terms := ["TO", "TODO", "FIXME"]
    let contents := "a // TODO: x //FIXME y\n///  FIXME:: z "
    Findable terms ∧
      scan terms contents =
        [⟨"TO", "DO: x", 1⟩, ⟨"FIXME", "y", 1⟩, ⟨"FIXME", ": z", 2⟩] ∧
      ListOccurrences terms ((contents.toList.splitOn '\n').zipIdx 1) (scan terms contents) := by
  intro terms contents
  have hterms : Findable terms := by decide +kernel
  exact ⟨hterms, by decide +kernel, scan_places hterms contents⟩

end Marker

end PhpOutline
