import PhpOutline.Xml.Printer
import PhpOutline.Xml.Reader

/-!
# Reading printed markup

What the reader makes of each part that the printer writes, with any text after it: names, escaped
characters, attribute values, attributes, tags and the content between tags.

Results:
* `name?_append`: a name is read up to the first character that cannot continue it;
* `value?_escapeValue`: an escaped value ends at its quote and stands for the value it was made of;
* `attributes?_print`: attributes are read back, if their names are names and no name comes twice;
* `Content.pieces?_print`: content is cut into the pieces it was written from.
-/

namespace PhpOutline.Xml

/-! ## Names -/

/-- A text that is a name. -/
def isXmlName (s : String) : Bool :=
  match s.toList with
  | [] => false
  | c :: r => isNameStart c && r.all isNamePart

theorem isXmlName_iff {s : String} :
    isXmlName s = true ↔
      ∃ c r, s.toList = c :: r ∧ isNameStart c = true ∧ ∀ d ∈ r, isNamePart d = true := by
  unfold isXmlName
  split
  · next h => simp [h]
  · next c r h => simp [h, and_assoc]

theorem isNamePart_of_start {c : Char} (h : isNameStart c = true) : isNamePart c = true := by
  simp [isNamePart, h]

/-- A character that may stand in a name is none of those that may not. -/
theorem ne_of_isNamePart {c d : Char} (h : isNamePart c = true)
    (hd : isNamePart d = false := by decide) : c ≠ d := by
  rintro rfl
  simp [hd] at h

theorem isXmlBlank_of_isNamePart {c : Char} (h : isNamePart c = true) : isXmlBlank c = false := by
  simp [isXmlBlank, ne_of_isNamePart (d := ' ') h, ne_of_isNamePart (d := '\t') h,
    ne_of_isNamePart (d := '\n') h, ne_of_isNamePart (d := '\r') h]

theorem isNamePart_of_mem {s : String} (h : isXmlName s = true) {c : Char}
    (hc : c ∈ s.toList) : isNamePart c = true := by
  obtain ⟨d, r, hs, hstart, hrest⟩ := isXmlName_iff.1 h
  rw [hs] at hc
  rcases List.mem_cons.1 hc with rfl | hmem
  · exact isNamePart_of_start hstart
  · exact hrest c hmem

/-- The first character of a name. -/
theorem exists_cons_of_isXmlName {s : String} (h : isXmlName s = true) :
    ∃ c r, s.toList = c :: r ∧ isNamePart c = true := by
  obtain ⟨c, r, hs, hstart, -⟩ := isXmlName_iff.1 h
  exact ⟨c, r, hs, isNamePart_of_start hstart⟩

theorem name?_append {s : String} {cs : List Char} (h : isXmlName s = true)
    (hcs : ∀ c ∈ cs.head?, isNamePart c = false) : name? (s.toList ++ cs) = some (s, cs) := by
  obtain ⟨c, r, hs, hstart, hrest⟩ := isXmlName_iff.1 h
  have hstop : cs.takeWhile isNamePart = [] ∧ cs.dropWhile isNamePart = cs := by
    cases cs with
    | nil => exact ⟨rfl, rfl⟩
    | cons d cs => simp [hcs d rfl]
  rw [hs, List.cons_append, name?, if_pos hstart, List.takeWhile_append_of_pos hrest,
    List.dropWhile_append_of_pos hrest, hstop.1, hstop.2, List.append_nil, ← hs, String.ofList_toList]

/-! ## Characters -/

/-- A character of character data is written as it is or as a reference to it. -/
theorem escapeTextChar_cases (c : Char) :
    (escapeTextChar c = [c] ∧ c ≠ '&' ∧ c ≠ '<' ∧ c ≠ '>') ∨
      ∃ body, escapeTextChar c = '&' :: body ∧
        ∀ rest, reference? (body ++ rest) = some (c, rest) := by
  unfold escapeTextChar
  split
  · next h => exact .inr ⟨"amp;".toList, rfl, fun rest => h ▸ rfl⟩
  split
  · next h => exact .inr ⟨"lt;".toList, rfl, fun rest => h ▸ rfl⟩
  split
  · next h => exact .inr ⟨"gt;".toList, rfl, fun rest => h ▸ rfl⟩
  · next ha hl hg => exact .inl ⟨rfl, ha, hl, hg⟩

/-- A character of a value is written as it is or as a reference to it. White space other than a
    space is always a reference. -/
theorem escapeValueChar_cases (c : Char) :
    (escapeValueChar c = [c] ∧ c ≠ '&' ∧ c ≠ '<' ∧ c ≠ '"' ∧ (isXmlBlank c = true → c = ' ')) ∨
      ∃ body, escapeValueChar c = '&' :: body ∧
        ∀ rest, reference? (body ++ rest) = some (c, rest) := by
  unfold escapeValueChar
  split
  · next h => exact .inr ⟨"quot;".toList, rfl, fun rest => h ▸ rfl⟩
  split
  · next h => exact .inr ⟨"#13;".toList, rfl, fun rest => h ▸ rfl⟩
  split
  · next h => exact .inr ⟨"#10;".toList, rfl, fun rest => h ▸ rfl⟩
  split
  · next h => exact .inr ⟨"#09;".toList, rfl, fun rest => h ▸ rfl⟩
  · next hq hr hn ht =>
    rcases escapeTextChar_cases c with ⟨hc, ha, hl, -⟩ | href
    · refine .inl ⟨hc, ha, hl, hq, fun hblank => ?_⟩
      simpa [isXmlBlank, hr, hn, ht] using hblank
    · exact .inr href

/-! ## Values and attributes -/

theorem value?_quote (quote : Char) (rest : List Char) :
    value? quote (quote :: rest) = some ([], rest) := by
  rw [value?, if_pos rfl]

theorem value?_reference {c : Char} {cs rest : List Char}
    (h : reference? cs = some (c, rest)) :
    value? '"' ('&' :: cs) = (value? '"' rest).map fun (v, r) => (c :: v, r) := by
  rw [value?, if_neg (by decide), if_neg (by decide), if_pos rfl]
  split
  · next hnone => simp [h] at hnone
  · next d r hsome =>
    obtain ⟨rfl, rfl⟩ : c = d ∧ rest = r := by simpa [h] using hsome
    rfl

theorem value?_escapeValueChar (c : Char) (cs : List Char) :
    value? '"' (escapeValueChar c ++ cs) =
      (value? '"' cs).map fun (v, r) => (c :: v, r) := by
  rcases escapeValueChar_cases c with ⟨hc, ha, hl, hq, hblank⟩ | ⟨body, hc, href⟩
  · have hkeep : (if isXmlBlank c then ' ' else c) = c := by
      split
      · next h => exact (hblank h).symm
      · rfl
    rw [hc, List.singleton_append, value?, if_neg hq, if_neg hl, if_neg ha]
    simp only [hkeep]
  · rw [hc, List.cons_append, value?_reference (href cs)]

theorem value?_escapeValue (s : String) (rest : List Char) :
    value? '"' (escapeValue s ++ '"' :: rest) = some (s.toList, rest) := by
  unfold escapeValue
  induction s.toList with
  | nil => exact value?_quote '"' rest
  | cons c cs ih => rw [List.flatMap_cons, List.append_assoc, value?_escapeValueChar, ih]; rfl

theorem attribute?_print {a : Attribute} (h : isXmlName a.1 = true) (rest : List Char) :
    attribute? (a.1.toList ++ '=' :: '"' :: (escapeValue a.2 ++ '"' :: rest)) =
      some (a, rest) := by
  have hname : name? (a.1.toList ++ '=' :: '"' :: (escapeValue a.2 ++ '"' :: rest)) =
      some (a.1, '=' :: '"' :: (escapeValue a.2 ++ '"' :: rest)) :=
    name?_append h fun c hc => by
      obtain rfl : '=' = c := by simpa using hc
      decide
  have hequals : equals? ('=' :: '"' :: (escapeValue a.2 ++ '"' :: rest)) =
      some ('"' :: (escapeValue a.2 ++ '"' :: rest)) := rfl
  simp [attribute?, hname, hequals, value?_escapeValue]

/-- The names of the attributes of a tag are names, and none comes twice. -/
structure AttributesNamed (attributes : List Attribute) : Prop where
  names : ∀ a ∈ attributes, isXmlName a.1 = true
  nodup : (attributes.map Prod.fst).Nodup

/-- The end of a starting tag. -/
def tagEnd (isEmpty : Bool) : List Char := if isEmpty then " />".toList else ['>']

theorem attributes?_tagEnd (isEmpty : Bool) (rest : List Char) :
    attributes? (tagEnd isEmpty ++ rest) = some ([], isEmpty, rest) := by
  cases isEmpty <;> rw [attributes?] <;> rfl

theorem attributes?_printAttribute {a : Attribute} {as : List Attribute} {isEmpty : Bool}
    {cs rest : List Char} (hname : isXmlName a.1 = true) (hnew : a.1 ∉ as.map Prod.fst)
    (hcs : attributes? cs = some (as, isEmpty, rest)) :
    attributes? (printAttribute id a ++ cs) = some (a :: as, isEmpty, rest) := by
  obtain ⟨c, r, hc, hpart⟩ := exists_cons_of_isXmlName hname
  have hread := attribute?_print hname cs
  have hdrop : (printAttribute id a ++ cs).dropWhile isXmlBlank =
      a.1.toList ++ '=' :: '"' :: (escapeValue a.2 ++ '"' :: cs) := by
    have hspace : isXmlBlank ' ' = true := rfl
    simp [printAttribute, hc, isXmlBlank_of_isNamePart hpart, hspace]
  have hlookup : as.lookup a.1 = none := by
    refine List.lookup_eq_none_iff.2 fun b hb => ?_
    simpa using fun heq => hnew (List.mem_map.2 ⟨b, hb, heq.symm⟩)
  rw [attributes?]
  split
  -- the text after the blank starts with the name, so the tag does not end here
  · next h =>
    rw [hdrop, hc] at h
    exact absurd (List.cons.inj h).1 (ne_of_isNamePart hpart)
  · next h =>
    rw [hdrop, hc] at h
    exact absurd (List.cons.inj h).1 (ne_of_isNamePart hpart)
  · rw [if_pos (by rfl)]
    split
    · next h => simp [hdrop, hread] at h
    · next b r h =>
      obtain ⟨rfl, rfl⟩ : a = b ∧ cs = r := by simpa [hdrop, hread] using h
      simp [hcs, hlookup]

theorem attributes?_print {attributes : List Attribute} (h : AttributesNamed attributes)
    (isEmpty : Bool) (rest : List Char) :
    attributes? (attributes.flatMap (printAttribute id) ++ (tagEnd isEmpty ++ rest)) =
      some (attributes, isEmpty, rest) := by
  obtain ⟨hnames, hnodup⟩ := h
  induction attributes with
  | nil => exact attributes?_tagEnd isEmpty rest
  | cons a as ih =>
    rw [List.forall_mem_cons] at hnames
    rw [List.map_cons, List.nodup_cons] at hnodup
    rw [List.flatMap_cons, List.append_assoc]
    exact attributes?_printAttribute hnames.1 hnodup.1 (ih hnames.2 hnodup.2)

/-! ## Tags -/

/-- Nothing of a tag but its name can start with a character of a name. -/
theorem head?_attributes (as : List Attribute) (isEmpty : Bool) (rest : List Char) :
    ∀ c ∈ (as.flatMap (printAttribute id) ++ (tagEnd isEmpty ++ rest)).head?,
      isNamePart c = false := by
  intro c hc
  cases as with
  | nil =>
    cases isEmpty with
    | false => obtain rfl : '>' = c := by simpa [tagEnd] using hc
               decide
    | true => obtain rfl : ' ' = c := by simpa [tagEnd] using hc
              decide
  | cons a as =>
    obtain rfl : ' ' = c := by simpa [printAttribute] using hc
    decide

/-- The pieces that a starting tag stands for. -/
def startPieces (tag : String) (attributes : List Attribute) (isEmpty : Bool) : List Piece :=
  .start tag attributes :: if isEmpty then [.close tag] else []

theorem piece?_start {tag : String} {attributes : List Attribute} (htag : isXmlName tag = true)
    (h : AttributesNamed attributes) (isEmpty : Bool) (rest : List Char) :
    piece? (printOpening id tag attributes ++ (tagEnd isEmpty ++ rest)) =
      some (startPieces tag attributes isEmpty, rest) := by
  have hname := name?_append htag (head?_attributes attributes isEmpty rest)
  have hattributes := attributes?_print h isEmpty rest
  have hstart : startTag? (tag.toList ++ (attributes.flatMap (printAttribute id) ++
      (tagEnd isEmpty ++ rest))) = some (startPieces tag attributes isEmpty, rest) := by
    simp only [startTag?, hname, hattributes, Option.map_some, startPieces]
  rw [printOpening, id_eq, List.cons_append, List.cons_append, List.append_assoc, piece?,
    if_pos rfl, ← hstart]
  -- the name does not start like a closing tag, an instruction or a comment
  obtain ⟨c, r, hc, hpart⟩ := exists_cons_of_isXmlName htag
  rw [hc, List.cons_append]
  unfold markup?
  split
  · next heq => exact absurd (List.cons.inj heq).1 (ne_of_isNamePart hpart)
  · next heq => exact absurd (List.cons.inj heq).1 (ne_of_isNamePart hpart)
  · next heq => exact absurd (List.cons.inj heq).1 (ne_of_isNamePart hpart)
  · next heq => exact absurd (List.cons.inj heq).1 (ne_of_isNamePart hpart)
  · rfl

/-- A closing tag. -/
def closingTag (tag : String) : List Char := '<' :: '/' :: (tag.toList ++ ['>'])

theorem piece?_close {tag : String} (h : isXmlName tag = true) (rest : List Char) :
    piece? (closingTag tag ++ rest) = some ([.close tag], rest) := by
  have hname : name? (tag.toList ++ '>' :: rest) = some (tag, '>' :: rest) :=
    name?_append h fun c hc => by
      obtain rfl : '>' = c := by simpa using hc
      decide
  have hblank : ('>' :: rest).dropWhile isXmlBlank = '>' :: rest := rfl
  simp [closingTag, piece?, markup?, closeTag?, hname, hblank]

/-! ## Character data -/

/-- The piece that a character of character data is read as. -/
def charPiece (c : Char) : Piece :=
  if escapeTextChar c = [c] then .literal c else .reference c

/-- No escaped text starts with the end of a tag, whatever markup follows it. -/
theorem head?_escaped {cs rest : List Char} (hrest : ∀ c ∈ rest.head?, c = '<') :
    (cs.flatMap escapeTextChar ++ rest).head? ≠ some '>' := by
  intro h
  cases cs with
  | nil => exact absurd (hrest '>' h) (by decide)
  | cons c cs =>
    rcases escapeTextChar_cases c with ⟨hc, -, -, hg⟩ | ⟨body, hc, -⟩
    · exact hg (by simpa [hc] using h)
    · simp [hc] at h

/-- The end of a literal section does not come up in an escaped text. -/
theorem isPrefixOf_escaped (c : Char) {cs rest : List Char} (hrest : ∀ c ∈ rest.head?, c = '<') :
    [']', ']', '>'].isPrefixOf (c :: (cs.flatMap escapeTextChar ++ rest)) = false := by
  rw [Bool.eq_false_iff]
  intro h
  obtain ⟨t, ht⟩ := List.isPrefixOf_iff_prefix.1 h
  have htail : cs.flatMap escapeTextChar ++ rest = ']' :: '>' :: t := (List.cons.inj ht).2.symm
  cases cs with
  | nil => exact absurd (hrest ']' (congrArg List.head? htail)) (by decide)
  | cons d cs =>
    rcases escapeTextChar_cases d with ⟨hd, -, -, -⟩ | ⟨body, hd, -⟩
    · rw [List.flatMap_cons, hd, List.append_assoc, List.singleton_append] at htail
      exact head?_escaped hrest (congrArg List.head? (List.cons.inj htail).2)
    · rw [List.flatMap_cons, hd] at htail
      exact absurd (List.cons.inj htail).1 (by decide)

theorem pieces?_of_piece {cs rest : List Char} {ps : List Piece}
    (h : piece? cs = some (ps, rest)) : pieces? cs = (pieces? rest).map (ps ++ ·) := by
  have hne : cs.isEmpty = false := by
    cases cs with
    | nil => simp [piece?] at h
    | cons c cs => rfl
  rw [pieces?, hne, if_neg Bool.false_ne_true]
  split
  · next hnone => simp [h] at hnone
  · next qs r hsome =>
    obtain ⟨rfl, rfl⟩ : ps = qs ∧ rest = r := by simpa [h] using hsome
    rfl

theorem pieces?_escapeText (s : String) {rest : List Char} (hrest : ∀ c ∈ rest.head?, c = '<') :
    pieces? (escapeText s ++ rest) = (pieces? rest).map (s.toList.map charPiece ++ ·) := by
  unfold escapeText
  induction s.toList with
  | nil => simp
  | cons c cs ih =>
    have hpiece : piece? (escapeTextChar c ++ (cs.flatMap escapeTextChar ++ rest)) =
        some ([charPiece c], cs.flatMap escapeTextChar ++ rest) := by
      rcases escapeTextChar_cases c with ⟨hc, ha, hl, -⟩ | ⟨body, hc, href⟩
      · rw [charPiece, if_pos hc, hc, List.singleton_append, piece?, if_neg hl, if_neg ha,
          isPrefixOf_escaped c hrest, if_neg Bool.false_ne_true]
      · have hreference : escapeTextChar c ≠ [c] := by
          rw [hc]
          intro heq
          obtain ⟨rfl, rfl⟩ := List.cons.inj heq
          exact absurd hc (by decide)
        rw [charPiece, if_neg hreference, hc, List.cons_append, piece?, if_neg (by decide),
          if_pos rfl, href]
        rfl
    rw [List.flatMap_cons, List.append_assoc, pieces?_of_piece hpiece, ih, Option.map_map]
    rfl

/-! ## Content -/

/-- The names of a content are names, and no tag has two attributes of one name. -/
def Content.Named : Content → Prop
  | .stop _ => True
  | .child _ tag attributes inner rest =>
    isXmlName tag = true ∧ AttributesNamed attributes ∧ inner.Named ∧ rest.Named

/-- The pieces of a content. -/
def Content.pieces : Content → List Piece
  | .stop text => text.toList.map charPiece
  | .child text tag attributes inner rest =>
    text.toList.map charPiece ++ .start tag attributes ::
      (inner.pieces ++ .close tag :: rest.pieces)

/-- What follows the opening of a tag. -/
theorem printRest_eq (tag : String) (inner : Content) :
    printRest id tag (inner = .empty) (inner.print id) =
      tagEnd (inner = .empty) ++
        if inner = .empty then [] else inner.print id ++ closingTag tag := by
  by_cases h : inner = .empty
  · simp [printRest, tagEnd, h]
  · simp [printRest, tagEnd, closingTag, h]

/-- A tag, the content of an element and the closing tag, if the content is read back. -/
theorem pieces?_element {tag : String} {attributes : List Attribute} {inner : Content}
    (htag : isXmlName tag = true) (hattributes : AttributesNamed attributes)
    (hinner : ∀ rest : List Char, (∀ c ∈ rest.head?, c = '<') →
      pieces? (inner.print id ++ rest) = (pieces? rest).map (inner.pieces ++ ·))
    (rest : List Char) :
    pieces? (printOpening id tag attributes ++
        printRest id tag (inner = .empty) (inner.print id) ++ rest) =
      (pieces? rest).map (.start tag attributes :: (inner.pieces ++ [.close tag]) ++ ·) := by
  rw [printRest_eq, List.append_assoc, List.append_assoc,
    pieces?_of_piece (piece?_start htag hattributes _ _)]
  by_cases h : inner = .empty
  · simp [startPieces, h, Content.empty, Content.pieces]
  · have hclose : ∀ c ∈ (closingTag tag ++ rest).head?, c = '<' := by
      simp [closingTag]
    rw [if_neg h, List.append_assoc, hinner _ hclose, pieces?_of_piece (piece?_close htag rest)]
    simp [startPieces, h, Option.map_map, Function.comp_def]

theorem Content.pieces?_print {c : Content} (h : c.Named) {rest : List Char}
    (hrest : ∀ d ∈ rest.head?, d = '<') :
    pieces? (c.print id ++ rest) = (pieces? rest).map (c.pieces ++ ·) := by
  induction c generalizing rest with
  | stop text => exact pieces?_escapeText text hrest
  | child text tag attributes inner later ihInner ihLater =>
    obtain ⟨htag, hattributes, hinner, hlater⟩ := h
    have hopen : ∀ d ∈ (printOpening id tag attributes ++
        printRest id tag (inner = .empty) (inner.print id) ++ (later.print id ++ rest)).head?,
        d = '<' := by
      simp [printOpening]
    rw [Content.print, List.append_assoc, List.append_assoc, List.append_assoc,
      ← List.append_assoc (printOpening ..), pieces?_escapeText text hopen,
      pieces?_element htag hattributes (fun _ => ihInner hinner), ihLater hlater hrest]
    simp [Content.pieces, Option.map_map, Function.comp_def]

end PhpOutline.Xml
