import PhpOutline.Proofs.DocblockText

/-!
# Docblocks in their usual layout

A docblock is usually written with one star at the start of every line, a bare star between
paragraphs and one line for each tag, which further lines may continue. Here paragraphs and tags are
given with the conditions under which they can be written so, and the comment that holds them is
written out. Reading it gives the paragraphs and the tags back.

Results:
* `lines_rows`: the lines of a text in which line feeds stand before them.
* `paragraphsFrom_paragraphs`: paragraphs with blank lines between them.
* `foldl_extendTag`: the description of a tag of several lines.
* `tagsFrom_tags`: tags one after another.
* `Layout.read_render`: a docblock in its usual layout is read back.
-/

namespace PhpOutline

open PhpOutline.Text

/-! ## Lines and trimming -/

namespace Text

theorem isBlank_of_isLineEnd {c : Char} (h : isLineEnd c = true) : isBlank c = true := by
  simp only [isLineEnd, Bool.or_eq_true, Bool.and_eq_true, decide_eq_true_eq, beq_iff_eq] at h
  simp only [isBlank, Bool.or_eq_true, Bool.and_eq_true, decide_eq_true_eq, beq_iff_eq]
  omega

/-- A line feed ends the line before it. -/
theorem lines_append_newline {row : List Char} (hrow : ∀ c ∈ row, isLineEnd c = false)
    (rest : List Char) : lines (row ++ '\n' :: rest) = row :: lines rest := by
  induction row with
  | nil => rfl
  | cons c row ih =>
    obtain ⟨hc, hrow⟩ := List.forall_mem_cons.1 hrow
    have hreturn : c ≠ '\r' := by
      rintro rfl
      cases hc
    rw [List.cons_append, lines, if_neg fun h => hreturn h.1, hc, if_neg Bool.false_ne_true,
      ih hrow]

/-- The lines of a text in which a line feed stands before every line but the first, and which ends
    with a line of one space. -/
theorem lines_rows {row : List Char} {rows : List (List Char)}
    (hrow : ∀ c ∈ row, isLineEnd c = false) (hrows : ∀ r ∈ rows, ∀ c ∈ r, isLineEnd c = false) :
    lines (row ++ (rows.flatMap ('\n' :: ·) ++ ['\n', ' '])) = row :: (rows ++ [[' ']]) := by
  induction rows generalizing row with
  | nil => exact lines_append_newline hrow [' ']
  | cons r rows ih =>
    obtain ⟨hr, hrows⟩ := List.forall_mem_cons.1 hrows
    rw [List.flatMap_cons, List.cons_append, List.cons_append, lines_append_newline hrow,
      List.append_assoc, ih hr hrows, List.cons_append]

theorem intercalate_cons {α : Type} (sep l : List α) (ls : List (List α)) :
    sep.intercalate (l :: ls) = l ++ ls.flatMap (sep ++ ·) := by
  induction ls generalizing l with
  | nil => simp
  | cons l' ls ih =>
    rw [List.intercalate_cons_cons, ih, List.flatMap_cons, List.append_assoc, List.append_assoc]

theorem map_intercalate {α β : Type} (f : α → β) (sep : List α) (ls : List (List α)) :
    (sep.intercalate ls).map f = (sep.map f).intercalate (ls.map (List.map f)) := by
  cases ls with
  | nil => rfl
  | cons l ls =>
    rw [List.map_cons, intercalate_cons, intercalate_cons, List.map_append, List.map_flatMap,
      List.flatMap_map]
    simp only [List.map_append]

theorem trimEnd_eq_self {cs : List Char} (h : ∀ c, cs.getLast? = some c → isBlank c = false) :
    trimEnd cs = cs := by
  rcases List.eq_nil_or_concat' cs with rfl | ⟨front, last, rfl⟩
  · rfl
  · exact trimEnd_concat_of_not_blank (h last List.getLast?_concat)

end Text

namespace Docblock

/-! ## Written docblocks -/

/-- A text within one line that no blank starts or ends. -/
structure Chunk where
  text : List Char
  trimmed : trim text = text
  inLine : ∀ c ∈ text, isLineEnd c = false

/-- A line of text: not empty, and not the start of a tag. -/
structure TextLine extends Chunk where
  text_ne : text ≠ []
  plain : text.head? ≠ some '@'

/-- A tag: a name, a first piece of description that may be empty, and further lines. -/
structure WrittenTag where
  name : List Char
  first : Chunk
  more : List TextLine
  isName : IsTagName name

/-- A docblock to be written: paragraphs, none of which is empty, and tags. -/
structure Layout where
  paragraphs : List (List TextLine)
  tags : List WrittenTag
  paragraphs_ne : ∀ p ∈ paragraphs, p ≠ []

/-- A line of a comment after a star and a space. -/
def row (text : List Char) : List Char := [' ', '*', ' '] ++ text

/-- A line of a comment with a star only. -/
def bareRow : List Char := [' ', '*']

/-- The first line of a tag. -/
def WrittenTag.opening (t : WrittenTag) : List Char := '@' :: (t.name ++ ' ' :: t.first.text)

/-- The lines of a comment for a tag. -/
def WrittenTag.rows (t : WrittenTag) : List (List Char) :=
  row t.opening :: t.more.map fun l => row l.text

/-- The tag that is read: the pieces of description that are not empty, with spaces between them. -/
def WrittenTag.tag (t : WrittenTag) : DocTag where
  name := String.ofList t.name
  description := String.ofList <|
    [' '].intercalate ((t.first.text :: t.more.map (·.text)).filter fun piece => !piece.isEmpty)

namespace Layout

/-- The lines of the comment between its first and its last. -/
def rows (l : Layout) : List (List Char) :=
  [bareRow].intercalate (l.paragraphs.map fun p => p.map fun line => row line.text) ++
    l.tags.flatMap WrittenTag.rows

/-- The comment. -/
def render (l : Layout) : String :=
  String.ofList (['\n'].intercalate (["/**".toList] ++ (l.rows ++ [" */".toList])))

/-- The texts of the paragraphs. -/
def paragraphTexts (l : Layout) : List (List Char) :=
  l.paragraphs.map fun p => ['\n'].intercalate (p.map (·.text))

/-- The docblock that is read from the comment on a given line. -/
def docblock (l : Layout) (line : Int) : Docblock where
  short := String.ofList (l.paragraphTexts.head?.getD [])
  long := String.ofList (['\n', '\n'].intercalate l.paragraphTexts.tail)
  tags := l.tags.map WrittenTag.tag
  line := line

end Layout

/-! ## Pieces of a line -/

namespace Chunk

variable (k : Chunk)

theorem not_isBlank_head? : ∀ c, k.text.head? = some c → isBlank c = false := by
  intro c hc
  obtain ⟨blanks, hsplit⟩ := trimEnd_isPrefix (trimStart k.text)
  rw [← trim, k.trimmed] at hsplit
  have hhead : (trimStart k.text).head? = some c := by
    rw [← hsplit, List.head?_append, hc]
    rfl
  exact isBlank_of_head?_trimStart hhead

theorem not_isBlank_getLast? : ∀ c, k.text.getLast? = some c → isBlank c = false := by
  intro c hc
  rw [← k.trimmed, trim] at hc
  exact not_isBlank_getLast?_trimEnd hc

theorem trimEnd_text : trimEnd k.text = k.text := trimEnd_eq_self k.not_isBlank_getLast?

end Chunk

theorem TextLine.opensTag_text (l : TextLine) : opensTag l.text = false :=
  beq_eq_false_iff_ne.2 l.plain

theorem IsTagName.not_isBlank {name : List Char} (h : IsTagName name) :
    ∀ c ∈ name, isBlank c = false := by
  obtain ⟨c, r, rfl, hstart, hpart⟩ := h
  have hfirst : isTagPart c = true := by
    rcases Bool.or_eq_true_iff.1 hstart with hword | hslash
    · rw [isTagPart, isWord]
      rcases Bool.or_eq_true_iff.1 hword with hletter | hunder
      · simp [Char.isAlphanum, hletter]
      · simp [hunder]
    · simp [isTagPart, hslash]
  have hall : ∀ d ∈ c :: r, isTagPart d = true := List.forall_mem_cons.2 ⟨hfirst, hpart⟩
  intro d hd
  refine Bool.eq_false_iff.2 fun hblank => ?_
  have hd := hall d hd
  rw [isTagPart_of_isBlank hblank] at hd
  cases hd

theorem stripGutter_row (text : List Char) : stripGutter (row text) = text := rfl

theorem inLine_row {text : List Char} (h : ∀ c ∈ text, isLineEnd c = false) :
    ∀ c ∈ row text, isLineEnd c = false := by
  have hsigns : ([' ', '*', ' '].all fun c => !isLineEnd c) = true := rfl
  intro c hc
  rcases List.mem_append.1 hc with hc | hc
  · simpa using List.all_eq_true.1 hsigns c hc
  · exact h c hc

theorem WrittenTag.inLine_rows (t : WrittenTag) : ∀ r ∈ t.rows, ∀ c ∈ r, isLineEnd c = false := by
  refine List.forall_mem_cons.2 ⟨inLine_row fun c hc => ?_, fun r hr => ?_⟩
  · rcases List.mem_cons.1 hc with rfl | hc
    · rfl
    rcases List.mem_append.1 hc with hc | hc
    · refine Bool.eq_false_iff.2 fun hend => ?_
      have hsolid := t.isName.not_isBlank c hc
      rw [isBlank_of_isLineEnd hend] at hsolid
      cases hsolid
    rcases List.mem_cons.1 hc with rfl | hc
    · rfl
    · exact t.first.inLine c hc
  · obtain ⟨line, -, rfl⟩ := List.mem_map.1 hr
    exact inLine_row line.inLine

/-- The first line of a tag is read as the tag without its further lines. -/
theorem WrittenTag.tag?_opening (t : WrittenTag) :
    tag? (trimEnd t.opening) = some ⟨String.ofList t.name, String.ofList t.first.text⟩ := by
  rw [tag?_eq_some_iff]
  by_cases hfirst : t.first.text = []
  · -- the space after the name is trimmed
    refine ⟨t.name, [], ?_, t.isName, by simp, by rw [hfirst]; rfl⟩
    have hlast : ∀ c, ('@' :: t.name).getLast? = some c → isBlank c = false := by
      intro c hc
      rcases List.mem_cons.1 (List.mem_of_getLast? hc) with rfl | hc
      · rfl
      · exact t.isName.not_isBlank c hc
    have hspace : trimEnd ('@' :: t.name ++ [' ']) = trimEnd ('@' :: t.name) := by
      simp [trimEnd, isBlank]
    rw [opening, hfirst, ← List.cons_append, hspace, trimEnd_eq_self hlast, List.append_nil]
  · refine ⟨t.name, ' ' :: t.first.text, ?_, t.isName, by simp [isBlank], ?_⟩
    · refine trimEnd_eq_self fun c hc => t.first.not_isBlank_getLast? c ?_
      obtain ⟨d, r, htext⟩ := List.exists_cons_of_ne_nil hfirst
      rw [opening, htext] at hc
      rw [htext]
      simpa [List.getLast?_cons, List.getLast?_append] using hc
    · have htrim : trim (' ' :: t.first.text) = trim t.first.text := rfl
      rw [htrim, t.first.trimmed]

/-! ## Paragraphs -/

/-- The lines of a paragraph are added to the open one. -/
theorem paragraphsFrom_append (p : List TextLine) (current rest : List (List Char)) :
    paragraphsFrom current (p.map (·.text) ++ rest) =
      paragraphsFrom (current ++ p.map (·.text)) rest := by
  induction p generalizing current with
  | nil => simp
  | cons l p ih =>
    have hne : l.text.isEmpty = false := List.isEmpty_eq_false_iff.2 l.text_ne
    rw [List.map_cons, List.cons_append, paragraphsFrom, l.trimmed, hne, if_neg Bool.false_ne_true,
      ih, List.append_assoc, List.singleton_append]

/-- An empty line closes the open paragraph. -/
theorem paragraphsFrom_empty {current : List (List Char)} (h : current ≠ [])
    (rest : List (List Char)) :
    paragraphsFrom current ([] :: rest) = current :: paragraphsFrom [] rest := by
  rw [paragraphsFrom, trim_nil, List.isEmpty_nil, if_pos rfl, List.isEmpty_eq_false_iff.2 h,
    if_neg Bool.false_ne_true]

theorem paragraphsFrom_open {current blanks : List (List Char)} (h : current ≠ [])
    (hblanks : blanks = [] ∨ blanks = [[]]) : paragraphsFrom current blanks = [current] := by
  rcases hblanks with rfl | rfl
  · rw [paragraphsFrom, List.isEmpty_eq_false_iff.2 h, if_neg Bool.false_ne_true]
  · rw [paragraphsFrom_empty h]
    rfl

/-- Paragraphs with empty lines between them are read back, also if an empty line ends them. -/
theorem paragraphsFrom_paragraphs {ps : List (List TextLine)} (hps : ∀ p ∈ ps, p ≠ [])
    {blanks : List (List Char)} (hblanks : blanks = [] ∨ blanks = [[]]) :
    paragraphsFrom [] ([[]].intercalate (ps.map fun p => p.map (·.text)) ++ blanks) =
      ps.map fun p => p.map (·.text) := by
  induction ps with
  | nil => rcases hblanks with rfl | rfl <;> rfl
  | cons p ps ih =>
    obtain ⟨hp, hps⟩ := List.forall_mem_cons.1 hps
    have hne : p.map (·.text) ≠ [] := by simpa using hp
    cases ps with
    | nil =>
      rw [List.map_singleton, List.intercalate_singleton, paragraphsFrom_append,
        List.nil_append, paragraphsFrom_open hne hblanks]
    | cons q ps =>
      have ih := ih hps
      rw [List.map_cons] at ih ⊢
      rw [List.map_cons, List.intercalate_cons_cons, List.append_assoc, List.append_assoc,
        paragraphsFrom_append, List.nil_append, List.singleton_append, paragraphsFrom_empty hne, ih]

/-! ## Tags -/

/-- Lines that open no tag are folded into the tag before them. -/
theorem tagsFrom_append {ls : List (List Char)} (hls : ∀ l ∈ ls, opensTag l = false) (tag : DocTag)
    (rest : List (List Char)) :
    tagsFrom tag (ls ++ rest) = tagsFrom (ls.foldl extendTag tag) rest := by
  induction ls generalizing tag with
  | nil => rfl
  | cons l ls ih =>
    obtain ⟨hl, hls⟩ := List.forall_mem_cons.1 hls
    rw [List.cons_append, tagsFrom, hl, if_neg Bool.false_ne_true, ih hls, List.foldl_cons]

/-- A description and a further line of it. -/
def spaced (first next : List Char) : List Char :=
  [' '].intercalate ([first, next].filter fun piece => !piece.isEmpty)

theorem spaced_nil {next : List Char} (h : next ≠ []) : spaced [] next = next := by
  simp [spaced, h]

theorem spaced_of_ne {first next : List Char} (hfirst : first ≠ []) (hnext : next ≠ []) :
    spaced first next = first ++ ' ' :: next := by
  simp [spaced, hfirst, hnext, List.intercalate_cons_cons]

theorem trim_spaced (first : Chunk) (next : TextLine) :
    trim (first.text ++ ' ' :: next.text) = spaced first.text next.text := by
  by_cases hfirst : first.text = []
  · rw [hfirst, spaced_nil next.text_ne]
    exact next.trimmed
  · rw [spaced_of_ne hfirst next.text_ne]
    refine trim_eq_self (fun c hc => first.not_isBlank_head? c ?_) fun c hc =>
      next.not_isBlank_getLast? c ?_
    · rwa [List.head?_append_of_ne_nil _ hfirst] at hc
    · obtain ⟨d, r, htext⟩ := List.exists_cons_of_ne_nil next.text_ne
      rw [htext] at hc ⊢
      simpa [List.getLast?_append, List.getLast?_cons] using hc

/-- A description that a further line has been folded into. -/
def Chunk.extend (first : Chunk) (next : TextLine) : Chunk where
  text := spaced first.text next.text
  trimmed := by rw [← trim_spaced, trim_trim]
  inLine := by
    rw [← trim_spaced]
    intro c hc
    rcases List.mem_append.1 (trim_subset _ hc) with hc | hc
    · exact first.inLine c hc
    · rcases List.mem_cons.1 hc with rfl | hc
      · rfl
      · exact next.inLine c hc

theorem extendTag_chunk (name : String) (first : Chunk) (next : TextLine) :
    extendTag ⟨name, String.ofList first.text⟩ next.text =
      ⟨name, String.ofList (first.extend next).text⟩ := by
  rw [extendTag, List.isEmpty_eq_false_iff.2 next.text_ne, if_neg Bool.false_ne_true,
    String.toList_ofList, next.trimmed, trim_spaced]
  rfl

/-- The description of a tag of several lines: the pieces that are not empty, with spaces between
    them. -/
theorem foldl_extendTag (name : String) (first : Chunk) (more : List TextLine) :
    (more.map (·.text)).foldl extendTag ⟨name, String.ofList first.text⟩ =
      ⟨name, String.ofList ([' '].intercalate
        ((first.text :: more.map (·.text)).filter fun piece => !piece.isEmpty))⟩ := by
  induction more generalizing first with
  | nil => by_cases hfirst : first.text = [] <;> simp [hfirst]
  | cons next more ih =>
    rw [List.map_cons, List.foldl_cons, extendTag_chunk, ih]
    have hnext := next.text_ne
    by_cases hfirst : first.text = []
    · simp [Chunk.extend, hfirst, spaced_nil hnext, hnext]
    · simp [Chunk.extend, hfirst, spaced_of_ne hfirst hnext, hnext, intercalate_cons]

/-- The lines of a tag as they stand in the body of the comment. -/
def WrittenTag.lines (t : WrittenTag) : List (List Char) :=
  trimEnd t.opening :: t.more.map (·.text)

theorem WrittenTag.opensTag_opening (t : WrittenTag) : opensTag (trimEnd t.opening) = true :=
  opensTag_of_tag? t.tag?_opening

theorem WrittenTag.tagsFrom_more (t : WrittenTag) (rest : List (List Char)) :
    tagsFrom ⟨String.ofList t.name, String.ofList t.first.text⟩ (t.more.map (·.text) ++ rest) =
      tagsFrom t.tag rest := by
  have hplain : ∀ l ∈ t.more.map (·.text), opensTag l = false := by
    intro l hl
    obtain ⟨line, -, rfl⟩ := List.mem_map.1 hl
    exact line.opensTag_text
  rw [tagsFrom_append hplain, foldl_extendTag]
  rfl

/-- Tags one after another are read back after the tag before them. -/
theorem tagsFrom_tags (tag : DocTag) (ts : List WrittenTag) :
    tagsFrom tag (ts.flatMap WrittenTag.lines ++ [[]]) = .ok (tag :: ts.map WrittenTag.tag) := by
  induction ts generalizing tag with
  | nil => rfl
  | cons t ts ih =>
    rw [List.flatMap_cons, WrittenTag.lines, List.cons_append, List.cons_append, tagsFrom,
      t.opensTag_opening, if_pos rfl, t.tag?_opening]
    simp only [List.append_assoc, t.tagsFrom_more, ih]
    rfl

theorem readTags_tags (t : WrittenTag) (ts : List WrittenTag) :
    readTags ((t :: ts).flatMap WrittenTag.lines ++ [[]]) =
      .ok ((t :: ts).map WrittenTag.tag) := by
  rw [List.flatMap_cons, WrittenTag.lines, List.cons_append, List.cons_append, readTags,
    t.tag?_opening]
  simp only [List.append_assoc, t.tagsFrom_more, tagsFrom_tags]
  rfl

/-! ## The comment -/

/-- The docblock of a body whose lines fall into a description and tags. -/
theorem ofBody_eq {body : List Char} {line : Int} {front back : List (List Char)}
    {tags : List DocTag} (hlines : bodyLines body = front ++ back)
    (hfront : ∀ l ∈ front, opensTag l = false) (hback : ∀ l ∈ back.head?, opensTag l = true)
    (htags : readTags back = .ok tags) :
    ofBody body line = .ok ⟨String.ofList ((paragraphs front).head?.getD []),
      String.ofList (['\n', '\n'].intercalate (paragraphs front).tail), tags, line⟩ := by
  have hplain : ∀ l ∈ front, (!opensTag l) = true := fun l hl => by rw [hfront l hl]; rfl
  have hstop : back.takeWhile (fun l => !opensTag l) = [] ∧
      back.dropWhile (fun l => !opensTag l) = back := by
    cases back with
    | nil => exact ⟨rfl, rfl⟩
    | cons l back => simp [hback l rfl]
  unfold ofBody
  simp only [hlines, List.takeWhile_append_of_pos hplain, List.dropWhile_append_of_pos hplain,
    hstop, List.append_nil, htags]

namespace Layout

variable (l : Layout)

/-- The lines of the description as they stand in the body of the comment. -/
def description : List (List Char) := [[]].intercalate (l.paragraphs.map fun p => p.map (·.text))

/-- The text between the opening and the closing of the comment. -/
def body : List Char := l.rows.flatMap ('\n' :: ·) ++ ['\n', ' ']

theorem toList_render : l.render.toList = ['/', '*', '*'] ++ (l.body ++ ['*', '/']) := by
  rw [render, String.toList_ofList, List.singleton_append, intercalate_cons, List.flatMap_append,
    body, List.append_assoc]
  rfl

/-- No line of the comment holds the end of a line. -/
theorem inLine_rows : ∀ r ∈ l.rows, ∀ c ∈ r, isLineEnd c = false := by
  have hbare : ∀ r ∈ [bareRow], ∀ c ∈ r, isLineEnd c = false := by simp [bareRow, isLineEnd]
  refine List.forall_mem_append.2 ⟨forall_mem_intercalate hbare fun p hp r hr => ?_, fun r hr => ?_⟩
  · obtain ⟨lines, -, rfl⟩ := List.mem_map.1 hp
    obtain ⟨line, -, rfl⟩ := List.mem_map.1 hr
    exact inLine_row line.inLine
  · obtain ⟨t, -, ht⟩ := List.mem_flatMap.1 hr
    exact t.inLine_rows r ht

/-- The lines of the body without their gutters and trailing blanks. -/
theorem bodyLines_body :
    bodyLines l.body = [] :: (l.description ++ (l.tags.flatMap WrittenTag.lines ++ [[]])) := by
  have hlines : Text.lines l.body = [] :: (l.rows ++ [[' ']]) :=
    @lines_rows [] l.rows (by simp) l.inLine_rows
  have hparagraphs : (l.paragraphs.map fun p => p.map fun line => row line.text).map
      (List.map fun line => trimEnd (stripGutter line)) =
        l.paragraphs.map fun p => p.map (·.text) := by
    simp only [List.map_map, Function.comp_def, stripGutter_row, Chunk.trimEnd_text]
  have htags : (l.tags.flatMap WrittenTag.rows).map (fun line => trimEnd (stripGutter line)) =
      l.tags.flatMap WrittenTag.lines := by
    simp only [List.map_flatMap, WrittenTag.rows, List.map_cons, List.map_map, Function.comp_def,
      stripGutter_row, Chunk.trimEnd_text]
    rfl
  rw [bodyLines, hlines, List.map_cons, List.map_append, rows, List.map_append, map_intercalate,
    hparagraphs, htags, List.append_assoc]
  rfl

/-- No line before the first tag opens one. -/
theorem opensTag_description {blanks : List (List Char)} (hblanks : blanks = [] ∨ blanks = [[]]) :
    ∀ r ∈ [] :: (l.description ++ blanks), opensTag r = false := by
  have hempty : ∀ r ∈ [[]], opensTag r = false := List.forall_mem_singleton.2 rfl
  refine List.forall_mem_cons.2 ⟨rfl, List.forall_mem_append.2 ⟨?_, ?_⟩⟩
  · refine forall_mem_intercalate hempty fun p hp r hr => ?_
    obtain ⟨lines, -, rfl⟩ := List.mem_map.1 hp
    obtain ⟨line, -, rfl⟩ := List.mem_map.1 hr
    exact line.opensTag_text
  · rcases hblanks with rfl | rfl
    · exact fun r hr => nomatch hr
    · exact hempty

theorem paragraphs_description {blanks : List (List Char)}
    (hblanks : blanks = [] ∨ blanks = [[]]) :
    Docblock.paragraphs ([] :: (l.description ++ blanks)) = l.paragraphTexts := by
  have hskip : paragraphsFrom [] ([] :: (l.description ++ blanks)) =
      paragraphsFrom [] (l.description ++ blanks) := rfl
  rw [Docblock.paragraphs, hskip, description, paragraphsFrom_paragraphs l.paragraphs_ne hblanks,
    List.map_map]
  rfl

/-- A docblock in its usual layout is read back, whatever its paragraphs and tags are and whatever
    line it is on: the first paragraph, the others with empty lines between them, and the tags with
    their descriptions in one line. -/
theorem read_render (line : Int) : read l.render line = .ok (l.docblock line) := by
  refine read_eq_ok_iff.2 ⟨l.body, by rw [toList_render, trim_comment], ?_⟩
  have hlines := l.bodyLines_body
  -- the empty last line belongs to the last tag if there is one, and to the description otherwise
  cases htags : l.tags with
  | nil =>
    rw [htags, List.flatMap_nil, List.nil_append, ← List.append_nil (_ :: _)] at hlines
    rw [ofBody_eq hlines (l.opensTag_description (.inr rfl)) (by simp) rfl,
      l.paragraphs_description (.inr rfl), docblock, htags]
    rfl
  | cons t ts =>
    rw [htags, ← List.cons_append, ← List.append_nil l.description] at hlines
    have hopens : ∀ r ∈ ((t :: ts).flatMap WrittenTag.lines ++ [[]]).head?, opensTag r = true := by
      rintro r hr
      cases hr
      exact t.opensTag_opening
    rw [ofBody_eq hlines (l.opensTag_description (.inl rfl)) hopens (readTags_tags t ts),
      l.paragraphs_description (.inl rfl), docblock, htags]

/-- Lines that hold a closing sign and an at sign, and a tag whose description starts on the line
    after its name. -/
theorem read_render_of_folded :
    let star : TextLine := ⟨⟨['*', '/', 'a'], rfl, by simp [isLineEnd]⟩, by simp, by simp⟩
    let text : TextLine := ⟨⟨['b', ' ', '@', 'c'], rfl, by simp [isLineEnd]⟩, by simp, by simp⟩
    let tag : WrittenTag := ⟨['x', '-', 'y'], ⟨[], rfl, by simp⟩, [text, star],
      ⟨'x', ['-', 'y'], rfl, rfl, List.all_eq_true.1 rfl⟩⟩
    let l : Layout := ⟨[[star], [text]], [tag], by simp⟩
    l.render = "/**\n * */a\n *\n * b @c\n * @x-y \n * b @c\n * */a\n */" ∧
      read l.render 4 = .ok ⟨"*/a", "b @c", [⟨"x-y", "b @c */a"⟩], 4⟩ := by
  intro star text tag l
  have hrender : l.render = "/**\n * */a\n *\n * b @c\n * @x-y \n * b @c\n * */a\n */" := by
    decide +kernel
  have hblock : l.docblock 4 = ⟨"*/a", "b @c", [⟨"x-y", "b @c */a"⟩], 4⟩ := by decide +kernel
  exact ⟨hrender, hblock ▸ l.read_render 4⟩

end Layout

end Docblock

end PhpOutline
