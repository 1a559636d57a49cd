import PhpOutline.Docblock
import PhpOutline.Proofs.Listing
import PhpOutline.Proofs.Longest

/-!
# Doc comments and docblocks

A docblock is read from a comment that has a body between `/**` and `*/`. A line of the body that
starts with an at sign has to be a tag: the at sign, a name, and then nothing or blanks and text.
The first line that starts so and is no tag makes the reading fail, and nothing else does. The doc
comments of a source text all have a body, so their tags are all that can be wrong with them.

Results:
* `body?_eq_some_iff`: the comments that have a body.
* `tag?_eq_some_iff`: the lines that are tags.
* `read_eq_ok_iff`, `read_eq_error_iff`: what reading a comment gives.
* `read_docComment_fails_iff`: the doc comments of a source text that are not docblocks.
-/

namespace PhpOutline

open PhpOutline.Text PhpOutline.Reading

/-! ## Blanks -/

namespace Text

/-- The numbers of the blanks. -/
def blankCodes : List Nat :=
  List.range' 9 5 ++ List.range' 28 5 ++ [0x85, 0xA0, 0x1680] ++ List.range' 0x2000 11 ++
    [0x2028, 0x2029, 0x202F, 0x205F, 0x3000]

theorem mem_blankCodes {c : Char} (h : isBlank c = true) : c.toNat ∈ blankCodes := by
  simp only [isBlank, Bool.or_eq_true, Bool.and_eq_true, decide_eq_true_eq, beq_iff_eq] at h
  simp only [blankCodes, List.mem_append, List.mem_range'_1, List.mem_cons, List.not_mem_nil]
  omega

/-- No blank is a character of a word. -/
theorem isWord_of_isBlank {c : Char} (h : isBlank c = true) : isWord c = false := by
  have hall : (blankCodes.all fun n => !isWord (Char.ofNat n)) = true := by decide +kernel
  have hword := List.all_eq_true.1 hall c.toNat (mem_blankCodes h)
  rwa [Char.ofNat_toNat, Bool.not_eq_true'] at hword

end Text

namespace Docblock

/-! ## Bodies -/

/-- A comment has the body that stands between its opening and its closing. -/
theorem body?_eq_some_iff {raw body : List Char} :
    body? raw = some body ↔ trim raw = ['/', '*', '*'] ++ (body ++ ['*', '/']) := by
  unfold body?
  simp only
  generalize trim raw = cs
  constructor
  · intro h
    split at h
    · rename_i hcond
      simp only [Bool.and_eq_true, List.isPrefixOf_iff_prefix, decide_eq_true_eq] at hcond
      obtain ⟨⟨⟨rest, rfl⟩, hend⟩, hlength⟩ := hcond
      -- the closing is too far back to share a star with the opening
      have hwhole : ['*', '/'] <:+ "/**".toList ++ rest := by
        rw [← List.reverse_prefix]
        exact hend
      have hrest : ['*', '/'].length ≤ rest.length := by
        rw [List.length_append] at hlength
        exact Nat.le_of_add_le_add_left hlength
      obtain ⟨inner, rfl⟩ :=
        List.suffix_of_suffix_length_le hwhole (List.suffix_append _ rest) hrest
      cases h
      change _ = ['/', '*', '*'] ++ (List.take _ (inner ++ ['*', '/']) ++ ['*', '/'])
      rw [List.take_left' (by simp)]
      rfl
    · cases h
  · rintro rfl
    rw [if_pos]
    · simp
    · simp [List.isPrefixOf]

/-! ## Tags -/

/-- A tag name: an ASCII letter, the underscore or a backslash, and then word characters,
    backslashes and hyphens. -/
def IsTagName (name : List Char) : Prop :=
  ∃ c r, name = c :: r ∧ isTagStart c = true ∧ ∀ d ∈ r, isTagPart d = true

/-- A line that is a tag: an at sign, a name, and then the end of the line or blanks and text. -/
def IsTagLine (line : List Char) : Prop :=
  ∃ name rest, line = '@' :: (name ++ rest) ∧ IsTagName name ∧
    (rest = [] ∨ ∃ gap text, rest = gap ++ text ∧ gap ≠ [] ∧ text ≠ [] ∧
      ∀ c ∈ gap, isBlank c = true)

/-- A line that starts like a tag and is none. -/
def IsMalformed (line : List Char) : Prop := line.head? = some '@' ∧ ¬ IsTagLine line

theorem isTagPart_of_isBlank {c : Char} (h : isBlank c = true) : isTagPart c = false := by
  have hne : ∀ d : Char, isBlank d = false → c ≠ d := by
    rintro d hd rfl
    rw [hd] at h
    cases h
  rw [isTagPart, isWord_of_isBlank h, beq_false_of_ne (hne '\\' rfl), beq_false_of_ne (hne '-' rfl)]
  rfl

/-- A tag is read from a line with an at sign and a name that the end or a blank follows. -/
theorem tag?_eq_some_iff {line : List Char} {tag : DocTag} :
    tag? line = some tag ↔
      ∃ name rest, line = '@' :: (name ++ rest) ∧ IsTagName name ∧
        (∀ c ∈ rest.head?, isBlank c = true) ∧
        tag = ⟨String.ofList name, String.ofList (trim rest)⟩ := by
  constructor
  · intro h
    unfold tag? at h
    split at h
    · rename_i c r
      simp only at h
      split at h
      · rename_i hcond
        cases h
        obtain ⟨hstart, hblank⟩ := Bool.and_eq_true_iff.1 hcond
        refine ⟨c :: r.takeWhile isTagPart, r.dropWhile isTagPart, ?_,
          ⟨c, _, rfl, hstart, List.all_eq_true.1 List.all_takeWhile⟩,
          (Option.all_eq_true _ _).1 hblank, rfl⟩
        rw [List.cons_append, List.takeWhile_append_dropWhile]
      · cases h
    · cases h
  · rintro ⟨name, rest, rfl, ⟨c, r, rfl, hstart, hpart⟩, hblank, rfl⟩
    have hstop : rest.head?.any isTagPart = false :=
      (Option.any_eq_false _ _).2 fun d hd => isTagPart_of_isBlank (hblank d hd)
    have htake := Lexeme.takeWhile_append_of_head hpart hstop
    have hdrop : (r ++ rest).dropWhile isTagPart = rest := by
      have hsplit := List.takeWhile_append_dropWhile (p := isTagPart) (l := r ++ rest)
      rwa [htake, List.append_cancel_left_eq] at hsplit
    rw [List.cons_append, tag?]
    simp only [htake, hdrop, hstart, (Option.all_eq_true _ _).2 hblank, Bool.and_self, if_true]

theorem isTagLine_iff {line : List Char} (hlast : ∀ c, line.getLast? = some c → isBlank c = false) :
    IsTagLine line ↔ ∃ tag, tag? line = some tag := by
  constructor
  · rintro ⟨name, rest, rfl, hname, hrest⟩
    refine ⟨_, tag?_eq_some_iff.2 ⟨name, rest, rfl, hname, fun c hc => ?_, rfl⟩⟩
    rcases hrest with rfl | ⟨gap, text, rfl, hgap, -, hblank⟩
    · cases hc
    · obtain ⟨d, gap, rfl⟩ := List.exists_cons_of_ne_nil hgap
      cases hc
      exact hblank c List.mem_cons_self
  · rintro ⟨tag, htag⟩
    obtain ⟨name, rest, rfl, hname, hblank, -⟩ := tag?_eq_some_iff.1 htag
    refine ⟨name, rest, rfl, hname, ?_⟩
    cases hrest : rest with
    | nil => exact .inl rfl
    | cons d r =>
      rw [← hrest]
      refine .inr ⟨rest.takeWhile isBlank, rest.dropWhile isBlank,
        List.takeWhile_append_dropWhile.symm, ?_, fun hnil => ?_,
        List.all_eq_true.1 List.all_takeWhile⟩
      · rw [hrest, List.takeWhile_cons_of_pos (hblank d (by rw [hrest]; rfl))]
        exact List.cons_ne_nil _ _
      · -- without text the line would end with a blank
        have hall : ∀ c ∈ rest, isBlank c = true := by
          rw [← List.takeWhile_append_dropWhile (p := isBlank) (l := rest), hnil, List.append_nil]
          exact List.all_eq_true.1 List.all_takeWhile
        have hne : rest ≠ [] := by rw [hrest]; exact List.cons_ne_nil _ _
        have hend : ('@' :: (name ++ rest)).getLast? = some (rest.getLast hne) := by
          rw [← List.cons_append, List.getLast?_append, List.getLast?_eq_some_getLast hne]
          rfl
        have hsolid := hlast _ hend
        rw [hall _ (List.getLast_mem hne)] at hsolid
        cases hsolid

theorem opensTag_iff {line : List Char} : opensTag line = true ↔ line.head? = some '@' :=
  beq_iff_eq

theorem opensTag_of_tag? {line : List Char} {tag : DocTag} (h : tag? line = some tag) :
    opensTag line = true := by
  obtain ⟨name, rest, rfl, -⟩ := tag?_eq_some_iff.1 h
  rfl

/-- The line starts like a tag and none is read from it. -/
def refusesTag (line : List Char) : Bool := opensTag line && (tag? line).isNone

theorem refusesTag_iff {line : List Char}
    (hlast : ∀ c, line.getLast? = some c → isBlank c = false) :
    refusesTag line = true ↔ IsMalformed line := by
  rw [refusesTag, Bool.and_eq_true, opensTag_iff, IsMalformed, isTagLine_iff hlast]
  refine and_congr_right fun _ => ?_
  cases tag? line <;> simp

theorem refusesTag_of_not_opensTag {line : List Char} (h : opensTag line = false) :
    refusesTag line = false := by
  rw [refusesTag, h, Bool.false_and]

theorem refusesTag_of_none {line : List Char} (hopens : opensTag line = true)
    (htag : tag? line = none) : refusesTag line = true := by
  rw [refusesTag, hopens, htag]
  rfl

theorem refusesTag_of_some {line : List Char} {tag : DocTag} (h : tag? line = some tag) :
    refusesTag line = false := by
  rw [refusesTag, h, Option.isNone_some, Bool.and_false]

/-- Reading the lines after a tag fails at the first line that starts like a tag and is none. -/
theorem tagsFrom_eq_error_iff {tag : DocTag} {ls : List (List Char)} {cause : DocblockError.Cause} :
    tagsFrom tag ls = .error cause ↔
      ∃ l, ls.find? refusesTag = some l ∧ cause = .malformedTag (String.ofList l) := by
  induction ls generalizing tag with
  | nil => simp [tagsFrom]
  | cons line later ih =>
    rw [tagsFrom]
    cases hopens : opensTag line with
    | false =>
      have hskip := refusesTag_of_not_opensTag hopens
      rw [if_neg Bool.false_ne_true, ih, List.find?_cons_of_neg (Bool.eq_false_iff.1 hskip)]
    | true =>
      rw [if_pos rfl]
      cases htag : tag? line with
      | none =>
        simp [List.find?_cons_of_pos (refusesTag_of_none hopens htag), eq_comm]
      | some next =>
        have hskip := refusesTag_of_some htag
        have hlater : tagsFrom next later = .error cause ↔ _ := ih
        rw [List.find?_cons_of_neg (Bool.eq_false_iff.1 hskip), ← hlater]
        simp only
        generalize tagsFrom next later = found
        cases found <;> simp [Except.map]

/-- The same of all lines of a body. -/
theorem readTags_eq_error_iff {ls : List (List Char)} {cause : DocblockError.Cause} :
    readTags (ls.dropWhile fun l => !opensTag l) = .error cause ↔
      ∃ l, ls.find? refusesTag = some l ∧ cause = .malformedTag (String.ofList l) := by
  induction ls with
  | nil => simp [readTags]
  | cons line later ih =>
    cases hopens : opensTag line with
    | false =>
      have hskip := refusesTag_of_not_opensTag hopens
      rw [List.dropWhile_cons_of_pos (by simp [hopens]), ih,
        List.find?_cons_of_neg (Bool.eq_false_iff.1 hskip)]
    | true =>
      rw [List.dropWhile_cons_of_neg (by simp [hopens]), readTags]
      cases htag : tag? line with
      | none =>
        simp [List.find?_cons_of_pos (refusesTag_of_none hopens htag), eq_comm]
      | some tag =>
        rw [List.find?_cons_of_neg (Bool.eq_false_iff.1 (refusesTag_of_some htag))]
        exact tagsFrom_eq_error_iff

/-! ## Reading -/

theorem read_eq_ok_iff {raw : String} {line : Int} {d : Docblock} :
    read raw line = .ok d ↔
      ∃ body, trim raw.toList = ['/', '*', '*'] ++ (body ++ ['*', '/']) ∧
        ofBody body line = .ok d := by
  unfold read
  simp only [← body?_eq_some_iff]
  cases body? raw.toList with
  | none => simp
  | some body =>
    simp only [Option.some_inj, exists_eq_left']
    generalize ofBody body line = result
    cases result <;> simp

theorem ofBody_eq_error_iff {body : List Char} {line : Int} {cause : DocblockError.Cause} :
    ofBody body line = .error cause ↔
      ∃ l, (bodyLines body).find? refusesTag = some l ∧
        cause = .malformedTag (String.ofList l) := by
  rw [← readTags_eq_error_iff]
  unfold ofBody
  simp only
  cases readTags ((bodyLines body).dropWhile fun l => !opensTag l) <;> simp

/-- Reading a comment that has a body fails at the first line of it that starts like a tag and is
    none. -/
theorem read_eq_error_iff {raw : String} {body : List Char} {line : Int} {e : DocblockError}
    (hraw : trim raw.toList = ['/', '*', '*'] ++ (body ++ ['*', '/'])) :
    read raw line = .error e ↔
      ∃ l, (bodyLines body).find? refusesTag = some l ∧
        e = ⟨.malformedTag (String.ofList l), line⟩ := by
  unfold read
  rw [body?_eq_some_iff.2 hraw]
  simp only
  cases hbody : ofBody body line with
  | ok d =>
    refine iff_of_false (fun h => nomatch h) ?_
    rintro ⟨l, hl, -⟩
    rw [ofBody_eq_error_iff.2 ⟨l, hl, rfl⟩] at hbody
    cases hbody
  | error cause =>
    obtain ⟨l, hl, rfl⟩ := ofBody_eq_error_iff.1 hbody
    simp [hl, eq_comm]

theorem message_malformedTag (text : String) (line : Int) :
    DocblockError.message ⟨.malformedTag text, line⟩ =
      s!"Line {line}: Malformed tag {quoted text}" := by
  have hwords : ": Malformed tag " = ": " ++ "Malformed tag " := by decide
  show "Line " ++ toString line ++ ": " ++ ("Malformed tag " ++ quoted text) =
    "Line " ++ toString line ++ ": Malformed tag " ++ quoted text
  rw [hwords]
  simp only [String.append_assoc]

/-- A line of a body ends with a character that is not blank. -/
theorem not_isBlank_getLast?_of_mem_bodyLines {body l : List Char} (h : l ∈ bodyLines body) :
    ∀ c, l.getLast? = some c → isBlank c = false := by
  obtain ⟨line, -, rfl⟩ := List.mem_map.1 h
  exact fun c hc => not_isBlank_getLast?_trimEnd hc

/-! ## Doc comments of a source text -/

/-- A doc comment has a body between its opening and its closing. -/
theorem exists_body_of_docComment {w : List Char} (h : Lexeme.IsWord (some .docComment) w) :
    ∃ body, w = ['/', '*', '*'] ++ (body ++ ['*', '/']) := by
  obtain ⟨⟨-, i, hi, hclose, -⟩, c, r, rfl, hblank⟩ := h
  -- the closing cannot start at the second star or at the blank after it
  obtain ⟨k, rfl⟩ : ∃ k, i = k + 4 := by
    refine Nat.exists_eq_add_of_le' ?_
    by_contra hlt
    obtain rfl | rfl : i = 2 ∨ i = 3 := by omega
    · cases hclose
      exact absurd hblank (by decide)
    · cases hclose
      exact absurd hblank (by decide)
  change r.drop k = ['*', '/'] at hclose
  refine ⟨c :: r.take k, ?_⟩
  show _ = ['/', '*', '*', c] ++ (r.take k ++ ['*', '/'])
  rw [← hclose, List.take_append_drop]
  rfl

theorem trim_comment (body : List Char) :
    trim (['/', '*', '*'] ++ (body ++ ['*', '/'])) = ['/', '*', '*'] ++ (body ++ ['*', '/']) := by
  refine trim_eq_self (fun c hc => ?_) fun c hc => ?_
  · cases hc
    decide
  · rw [← List.append_assoc, List.getLast?_append] at hc
    cases hc
    decide

/-- Every doc comment of a source text has a body, and it is a docblock unless a line of the body
    starts like a tag and is none. The error is on the line of the comment and shows the first such
    line. -/
theorem read_docComment_fails_iff {source : String} {ts : List Token} {t : Token}
    (hlex : lex source = .ok ts) (ht : t ∈ ts) (hdoc : t.kind = some .docComment) :
    ∃ body, t.content.toList = "/**".toList ++ (body ++ "*/".toList) ∧
      ((∃ e, read t.content t.line = .error e) ↔ ∃ l ∈ bodyLines body, IsMalformed l) ∧
      ∀ e, read t.content t.line = .error e →
        e.cause ≠ .notDocumentation ∧ e.line = t.line ∧
        ∃ before l after, bodyLines body = before ++ l :: after ∧ IsMalformed l ∧
          (∀ k ∈ before, ¬ IsMalformed k) ∧
          e.message = s!"Line {t.line}: Malformed tag {quoted (String.ofList l)}" := by
  obtain ⟨last, hscan⟩ := lexFrom_eq_ok_iff.1 hlex
  obtain ⟨front, back, rfl⟩ := List.append_of_mem ht
  have hword := hscan.isWord
  rw [hdoc] at hword
  obtain ⟨body, hcontent⟩ := exists_body_of_docComment hword
  have hraw : trim t.content.toList = _ := (congrArg trim hcontent).trans (trim_comment body)
  have hlast := fun l (hl : l ∈ bodyLines body) => not_isBlank_getLast?_of_mem_bodyLines hl
  refine ⟨body, hcontent, ⟨?_, ?_⟩, ?_⟩
  · rintro ⟨e, he⟩
    obtain ⟨l, hfind, -⟩ := (read_eq_error_iff hraw).1 he
    have hl := List.mem_of_find?_eq_some hfind
    exact ⟨l, hl, (refusesTag_iff (hlast l hl)).1 (List.find?_some hfind)⟩
  · rintro ⟨l, hl, hbad⟩
    have hsome : ((bodyLines body).find? refusesTag).isSome = true :=
      List.find?_isSome.2 ⟨l, hl, (refusesTag_iff (hlast l hl)).2 hbad⟩
    obtain ⟨first, hfirst⟩ := Option.isSome_iff_exists.1 hsome
    exact ⟨_, (read_eq_error_iff hraw).2 ⟨first, hfirst, rfl⟩⟩
  · intro e he
    obtain ⟨l, hfind, rfl⟩ := (read_eq_error_iff hraw).1 he
    obtain ⟨hl, before, after, hlines, hbefore⟩ := List.find?_eq_some_iff_append.1 hfind
    refine ⟨(fun h => nomatch h), rfl, before, l, after, hlines, ?_, fun k hk hbad => ?_,
      message_malformedTag _ _⟩
    · exact (refusesTag_iff (hlast l (List.mem_of_find?_eq_some hfind))).1 hl
    · have hmem : k ∈ bodyLines body := by
        rw [hlines]
        exact List.mem_append_left _ hk
      have hnot := hbefore k hk
      rw [(refusesTag_iff (hlast k hmem)).2 hbad] at hnot
      cases hnot

/-- A tag that is one, and after it a name that starts with a hyphen. -/
theorem read_docComment_fails_iff_hyphen :
    let source := "<?php\n/** a\n * @see b\n * @-c\n */"
    let t : Token := ⟨some .docComment, "/** a\n * @see b\n * @-c\n */", 2⟩
    lex source = .ok [⟨some .openTag, "<?php\n", 1⟩, t] ∧
      read t.content t.line = .error ⟨.malformedTag "@-c", 2⟩ ∧
      ∃ body, t.content.toList = "/**".toList ++ (body ++ "*/".toList) ∧
        ∃ l ∈ bodyLines body, IsMalformed l := by
  intro source t
  have hlex : lex source = .ok [⟨some .openTag, "<?php\n", 1⟩, t] := by decide +kernel
  have hread : read t.content t.line = .error ⟨.malformedTag "@-c", 2⟩ := by decide +kernel
  obtain ⟨body, hcontent, hfails, -⟩ :=
    read_docComment_fails_iff hlex (t := t) (by simp) rfl
  exact ⟨hlex, hread, body, hcontent, hfails.1 ⟨_, hread⟩⟩

end Docblock

end PhpOutline
