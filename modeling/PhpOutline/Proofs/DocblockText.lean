import PhpOutline.Proofs.DocComments

/-!
# Docblocks keep their text

Reading a docblock trims lines, joins them to paragraphs, folds lines into the description of a tag
and cuts names off. All of this adds and drops blanks only: the other characters of the lines of the
comment, without their gutters, come back in the same order in the short description, the long
description and the tags. And every line that starts with an at sign gives one tag.

Results:
* `solid_trim`: trimming drops blanks only.
* `solid_paragraphsFrom`: the characters of the paragraphs.
* `solid_tagsFrom`: the characters and the number of the tags.
* `read_keeps_text`: the characters of a docblock are those of its comment.
-/

namespace PhpOutline

open PhpOutline.Text

/-! ## Characters that are not blank -/

namespace Text

/-- The characters of a text that are not blank. -/
def solid (cs : List Char) : List Char := cs.filter fun c => !isBlank c

@[simp] theorem solid_nil : solid [] = [] := rfl

theorem solid_cons_of_blank {c : Char} (h : isBlank c = true) (cs : List Char) :
    solid (c :: cs) = solid cs := List.filter_cons_of_neg (by simp [h])

theorem solid_cons_of_not_blank {c : Char} (h : isBlank c = false) (cs : List Char) :
    solid (c :: cs) = c :: solid cs := List.filter_cons_of_pos (by simp [h])

@[simp] theorem solid_append (a b : List Char) : solid (a ++ b) = solid a ++ solid b :=
  List.filter_append ..

theorem solid_eq_nil {cs : List Char} (h : ∀ c ∈ cs, isBlank c = true) : solid cs = [] :=
  List.filter_eq_nil_iff.2 fun c hc => by simp [h c hc]

theorem solid_reverse (cs : List Char) : solid cs.reverse = (solid cs).reverse :=
  List.filter_reverse

@[simp] theorem solid_trimStart (cs : List Char) : solid (trimStart cs) = solid cs := by
  have hfront : solid (cs.takeWhile isBlank) = [] :=
    solid_eq_nil (List.all_eq_true.1 List.all_takeWhile)
  calc solid (trimStart cs) = solid (cs.takeWhile isBlank) ++ solid (trimStart cs) := by
        rw [hfront, List.nil_append]
    _ = solid cs := by rw [← solid_append, trimStart, List.takeWhile_append_dropWhile]

@[simp] theorem solid_trimEnd (cs : List Char) : solid (trimEnd cs) = solid cs := by
  have hstart : solid (cs.reverse.dropWhile isBlank) = solid cs.reverse := solid_trimStart _
  rw [trimEnd, solid_reverse, hstart, solid_reverse, List.reverse_reverse]

/-- Trimming drops blanks only. -/
@[simp] theorem solid_trim (cs : List Char) : solid (trim cs) = solid cs := by
  rw [trim, solid_trimEnd, solid_trimStart]

/-- Blanks between texts add no other characters. -/
theorem solid_intercalate {sep : List Char} (hsep : ∀ c ∈ sep, isBlank c = true)
    (ls : List (List Char)) : solid (sep.intercalate ls) = solid ls.flatten := by
  induction ls with
  | nil => rfl
  | cons l ls ih =>
    cases ls with
    | nil => simp
    | cons l' ls =>
      rw [List.intercalate_cons_cons, List.flatten_cons, solid_append, solid_append, solid_append,
        ih, solid_eq_nil hsep, List.append_nil]

theorem solid_flatten_map {f : List Char → List Char} (hf : ∀ l, solid (f l) = solid l)
    (ls : List (List Char)) : solid (ls.map f).flatten = solid ls.flatten := by
  induction ls with
  | nil => rfl
  | cons l ls ih => rw [List.map_cons, List.flatten_cons, List.flatten_cons, solid_append,
      solid_append, hf, ih]

end Text

namespace Docblock

/-! ## Descriptions -/

/-- The characters of the paragraphs are those of the open paragraph and of the lines after it. -/
theorem solid_paragraphsFrom (current ls : List (List Char)) :
    solid (paragraphsFrom current ls).flatten.flatten =
      solid current.flatten ++ solid ls.flatten := by
  induction ls generalizing current with
  | nil => cases current <;> simp [paragraphsFrom]
  | cons line later ih =>
    rw [paragraphsFrom]
    split
    · -- a blank line has no other characters
      rename_i hblank
      have hline : solid line = [] := by
        rw [← solid_trim, List.isEmpty_iff.1 hblank, solid_nil]
      split
      · rename_i hcurrent
        rw [ih, List.isEmpty_iff.1 hcurrent, List.flatten_cons, solid_append, hline]
        rfl
      · rw [List.flatten_cons, List.flatten_append, solid_append, ih, List.flatten_cons,
          solid_append, hline]
        rfl
    · rw [ih, List.flatten_append, solid_append, List.flatten_singleton, solid_trim,
        List.flatten_cons, solid_append, List.append_assoc]

theorem solid_paragraphs (ls : List (List Char)) :
    solid (paragraphs ls).flatten = solid ls.flatten := by
  have hparagraph (paras : List (List (List Char))) :
      solid (paras.map paragraphText).flatten = solid paras.flatten.flatten := by
    induction paras with
    | nil => rfl
    | cons p ps ih =>
      rw [List.map_cons, List.flatten_cons, solid_append, ih, paragraphText,
        solid_intercalate (List.forall_mem_singleton.2 rfl), List.flatten_cons, List.flatten_append,
        solid_append]
  rw [paragraphs, hparagraph, solid_paragraphsFrom]
  rfl

/-- The first paragraph and the others, with blank lines between them. -/
theorem solid_descriptions (paras : List (List Char)) :
    solid (paras.head?.getD []) ++ solid (['\n', '\n'].intercalate paras.tail) =
      solid paras.flatten := by
  have hsep : ∀ c ∈ ['\n', '\n'], isBlank c = true := List.all_eq_true.1 rfl
  rw [solid_intercalate hsep]
  cases paras with
  | nil => rfl
  | cons p ps => rw [List.flatten_cons, solid_append]; rfl

/-! ## Tags -/

/-- The text of a tag: the at sign, the name and the description. -/
def tagText (tag : DocTag) : List Char := '@' :: (tag.name.toList ++ tag.description.toList)

theorem solid_tagText (tag : DocTag) :
    solid (tagText tag) = '@' :: (solid tag.name.toList ++ solid tag.description.toList) := by
  rw [tagText, solid_cons_of_not_blank rfl, solid_append]

theorem solid_tagText_of_tag? {line : List Char} {tag : DocTag} (h : tag? line = some tag) :
    solid (tagText tag) = solid line := by
  obtain ⟨name, rest, rfl, -, -, rfl⟩ := tag?_eq_some_iff.1 h
  rw [solid_tagText, String.toList_ofList, String.toList_ofList, solid_trim,
    solid_cons_of_not_blank rfl, solid_append]

/-- A further line of description adds its characters to the tag. -/
theorem solid_tagText_extendTag (tag : DocTag) (line : List Char) :
    solid (tagText (extendTag tag line)) = solid (tagText tag) ++ solid line := by
  unfold extendTag
  split
  · rename_i hempty
    rw [List.isEmpty_iff.1 hempty, solid_nil, List.append_nil]
  · rw [solid_tagText, solid_tagText, String.toList_ofList, solid_trim, solid_append,
      solid_cons_of_blank rfl, solid_trim, List.cons_append, List.append_assoc]

/-- The characters and the number of the tags of some lines: every line that starts with an at sign
    gives a tag, and the others add to the tag before them. -/
theorem solid_tagsFrom {tag : DocTag} {ls : List (List Char)} {tags : List DocTag}
    (h : tagsFrom tag ls = .ok tags) :
    solid (tags.flatMap tagText) = solid (tagText tag) ++ solid ls.flatten ∧
      tags.length = ls.countP opensTag + 1 := by
  induction ls generalizing tag tags with
  | nil =>
    cases h
    simp
  | cons line later ih =>
    rw [tagsFrom] at h
    split at h
    · rename_i hopens
      split at h
      · cases h
      · rename_i next hnext
        cases hfound : tagsFrom next later with
        | error cause => rw [hfound] at h; cases h
        | ok found =>
          rw [hfound] at h
          cases h
          obtain ⟨htext, hlength⟩ := ih hfound
          rw [List.flatMap_cons, solid_append, htext, solid_tagText_of_tag? hnext,
            List.flatten_cons, solid_append, List.length_cons, hlength,
            List.countP_cons_of_pos hopens]
          exact ⟨rfl, rfl⟩
    · rename_i hopens
      obtain ⟨htext, hlength⟩ := ih h
      rw [htext, hlength, solid_tagText_extendTag, List.flatten_cons, solid_append,
        List.append_assoc, List.countP_cons_of_neg hopens]
      exact ⟨rfl, rfl⟩

theorem solid_readTags {ls : List (List Char)} {tags : List DocTag} (h : readTags ls = .ok tags)
    (hopens : ∀ l ∈ ls.head?, opensTag l = true) :
    solid (tags.flatMap tagText) = solid ls.flatten ∧ tags.length = ls.countP opensTag := by
  cases ls with
  | nil =>
    cases h
    exact ⟨rfl, rfl⟩
  | cons line later =>
    rw [readTags] at h
    split at h
    · cases h
    · rename_i tag htag
      obtain ⟨htext, hlength⟩ := solid_tagsFrom h
      rw [htext, hlength, solid_tagText_of_tag? htag, List.flatten_cons, solid_append,
        List.countP_cons_of_pos (hopens line rfl)]
      exact ⟨rfl, rfl⟩

/-! ## Docblocks -/

/-- The text of a docblock: its descriptions and its tags. -/
def text (d : Docblock) : List Char :=
  d.short.toList ++ (d.long.toList ++ d.tags.flatMap tagText)

theorem solid_ofBody {body : List Char} {line : Int} {d : Docblock} (h : ofBody body line = .ok d) :
    solid d.text = solid (bodyLines body).flatten ∧
      d.tags.length = (bodyLines body).countP opensTag := by
  unfold ofBody at h
  simp only at h
  split at h
  · cases h
  · rename_i tags htags
    cases h
    generalize bodyLines body = ls at htags
    have hfirst : ∀ l ∈ (ls.dropWhile fun l => !opensTag l).head?, opensTag l = true := by
      intro l hl
      have hhead := List.head?_dropWhile_not (fun l => !opensTag l) ls
      rw [hl] at hhead
      simpa using hhead
    have hnone : (ls.takeWhile fun l => !opensTag l).countP opensTag = 0 := by
      refine List.countP_eq_zero.2 fun l hl => ?_
      simpa using List.all_eq_true.1 List.all_takeWhile l hl
    obtain ⟨htext, hlength⟩ := solid_readTags htags hfirst
    constructor
    · calc solid (text _)
          = solid (paragraphs (ls.takeWhile fun l => !opensTag l)).flatten ++
              solid (tags.flatMap tagText) := by
            rw [← solid_descriptions, text]
            simp only [String.toList_ofList, solid_append, List.append_assoc]
        _ = solid ls.flatten := by
            rw [solid_paragraphs, htext, ← solid_append, ← List.flatten_append,
              List.takeWhile_append_dropWhile]
    · calc tags.length
          = (ls.takeWhile fun l => !opensTag l).countP opensTag +
              (ls.dropWhile fun l => !opensTag l).countP opensTag := by
            rw [hnone, hlength, Nat.zero_add]
        _ = ls.countP opensTag := by rw [← List.countP_append, List.takeWhile_append_dropWhile]

theorem opensTag_trimEnd (l : List Char) : opensTag (trimEnd l) = opensTag l := by
  rw [Bool.eq_iff_iff, opensTag_iff, opensTag_iff]
  obtain ⟨blanks, hsplit⟩ := trimEnd_isPrefix l
  cases hend : trimEnd l with
  | cons c r =>
    rw [← hsplit, hend]
    rfl
  | nil =>
    refine iff_of_false (by simp) fun hat => ?_
    obtain ⟨r, rfl⟩ := List.head?_eq_some_iff.1 hat
    have hsolid := solid_trimEnd ('@' :: r)
    rw [hend] at hsolid
    cases hsolid

/-- The characters of a docblock that are not blank are those of its comment, in the same order: the
    lines of the body without their gutters hold the short description, the long description and the
    tags. As many tags are read as lines start with an at sign. -/
theorem read_keeps_text {raw : String} {line : Int} {d : Docblock} (h : read raw line = .ok d) :
    ∃ body, trim raw.toList = "/**".toList ++ (body ++ "*/".toList) ∧
      solid d.text = solid ((lines body).map stripGutter).flatten ∧
      d.tags.length = ((lines body).map stripGutter).countP opensTag := by
  obtain ⟨body, hraw, hbody⟩ := read_eq_ok_iff.1 h
  obtain ⟨htext, hlength⟩ := solid_ofBody hbody
  have hlines : bodyLines body = ((lines body).map stripGutter).map trimEnd := by
    rw [List.map_map]
    rfl
  refine ⟨body, hraw, ?_, ?_⟩
  · rw [htext, hlines, solid_flatten_map solid_trimEnd]
  · rw [hlength, hlines, List.countP_map]
    exact List.countP_congr fun l _ => by rw [Function.comp_apply, opensTag_trimEnd]

/-- Lines that a form feed and a next-line character end, a blank line between paragraphs, an at
    sign within a line, and a tag of three lines. -/
theorem read_keeps_text_of_tag :
    let raw := "/** A\x0c\t*b\u0085 *\n * c @d\n * @e-f\n *  g\n ** h */"
    let d : Docblock := ⟨"A\nb", "c @d", [⟨"e-f", "g * h"⟩], 3⟩
    read raw 3 = .ok d ∧
      ∃ body, trim raw.toList = "/**".toList ++ (body ++ "*/".toList) ∧
        solid d.text = solid ((lines body).map stripGutter).flatten ∧
        d.tags.length = ((lines body).map stripGutter).countP opensTag := by
  intro raw d
  have hread : read raw 3 = .ok d := by decide +kernel
  exact ⟨hread, read_keeps_text hread⟩

end Docblock

end PhpOutline
