import PhpOutline.Proofs.Markup

/-!
# Printing and reading elements

An element whose names are names is read back from its text exactly when its character data and its
attribute values consist of characters of XML. What is read back is the element itself, but for the
line ends of its character data, which a reader writes as line feeds.

Results:
* `element?_pieces`: the pieces of a content go to the innermost open element;
* `Content.unifyLineEnds_print`: line ends change in character data only;
* `Content.all_isXmlChar_print`: what the characters of a printed content are;
* `Element.read?_text`, `Element.read?_text_isSome`: printing, then reading.
-/

namespace PhpOutline.Xml

/-! ## Trees from pieces -/

/-- One content after another; character data that meets is one run. -/
def Content.join : Content → Content → Content
  | .stop s, .stop t => .stop (s ++ t)
  | .stop s, .child t tag attributes inner rest => .child (s ++ t) tag attributes inner rest
  | .child s tag attributes inner rest, c => .child s tag attributes inner (rest.join c)

namespace Content

@[simp] theorem empty_join (c : Content) : empty.join c = c := by
  cases c <;> simp [empty, join]

@[simp] theorem join_empty (c : Content) : c.join empty = c := by
  induction c with
  | stop text => simp [empty, join]
  | child text tag attributes inner rest _ ih => rw [join, ih]

theorem pushChar_join (c : Content) (d : Char) (s : String) :
    (c.pushChar d).join (.stop s) = c.join (.stop (String.ofList (d :: s.toList))) := by
  induction c with
  | stop text => simp [pushChar, join, ← String.toList_inj]
  | child text tag attributes inner rest _ ih => simp only [pushChar, join, ih]

/-- A run of character data, a child and what follows them are one content. -/
theorem push_join (c : Content) (text tag : String) (attributes : List Attribute)
    (inner rest : Content) :
    ((c.join (.stop text)).push ⟨tag, attributes, inner⟩).join rest =
      c.join (.child text tag attributes inner rest) := by
  induction c with
  | stop s => simp [join, push]
  | child s t as i r _ ih => simp only [join, push, ih]

end Content

theorem element?_chars (e : Element) (es : List Element) (s : String) (ps : List Piece) :
    element? (e :: es) (s.toList.map charPiece ++ ps) =
      element? (⟨e.tag, e.attributes, e.content.join (.stop s)⟩ :: es) ps := by
  obtain ⟨cs, rfl⟩ : ∃ cs, s = String.ofList cs := ⟨s.toList, by simp⟩
  rw [String.toList_ofList]
  induction cs generalizing e with
  | nil =>
    have hnil : e.content.join (.stop (String.ofList [])) = e.content := e.content.join_empty
    rw [hnil]
    rfl
  | cons c cs ih =>
    have hstep : element? (e :: es) (charPiece c :: (cs.map charPiece ++ ps)) =
        element? (e.pushChar c :: es) (cs.map charPiece ++ ps) := by
      unfold charPiece
      split <;> rfl
    rw [List.map_cons, List.cons_append, hstep, ih, Element.pushChar, Content.pushChar_join,
      String.toList_ofList]

/-- The pieces of a content go to the innermost open element. -/
theorem element?_pieces (e : Element) (es : List Element) (c : Content) (ps : List Piece) :
    element? (e :: es) (c.pieces ++ ps) =
      element? (⟨e.tag, e.attributes, e.content.join c⟩ :: es) ps := by
  induction c generalizing e es ps with
  | stop text => exact element?_chars e es text ps
  | child text tag attributes inner rest ihInner ihRest =>
    have hclose (f : Element) (qs : List Piece) :
        element? (⟨tag, attributes, inner⟩ :: f :: es) (.close tag :: qs) =
          element? (f.push ⟨tag, attributes, inner⟩ :: es) qs := by
      simp [element?]
    rw [Content.pieces, List.append_assoc, element?_chars, List.cons_append, element?,
      List.append_assoc, ihInner, Content.empty_join, List.cons_append, hclose, ihRest,
      Element.push, Content.push_join]

theorem element?_root (tag : String) (attributes : List Attribute) (c : Content)
    (ps : List Piece) :
    element? [] (.start tag attributes :: (c.pieces ++ .close tag :: ps)) =
      some (⟨tag, attributes, c⟩, ps) := by
  rw [element?, element?_pieces, Content.empty_join]
  simp [element?]

/-! ## Line ends -/

/-- A text with every line end written as a line feed. -/
def unified (s : String) : String := String.ofList (unifyLineEnds s.toList)

/-- Content with the line ends of its character data unified. -/
def Content.unified : Content → Content
  | .stop text => .stop (Xml.unified text)
  | .child text tag attributes inner rest =>
    .child (Xml.unified text) tag attributes inner.unified rest.unified

theorem unifyLineEnds_append {cs : List Char} (h : '\r' ∉ cs) (rest : List Char) :
    unifyLineEnds (cs ++ rest) = cs ++ unifyLineEnds rest := by
  induction cs with
  | nil => rfl
  | cons c cs ih =>
    rw [List.mem_cons, not_or] at h
    rw [List.cons_append, unifyLineEnds, if_neg (Ne.symm h.1), ih h.2, List.cons_append]

theorem unifyLineEnds_return (cs : List Char) :
    unifyLineEnds ('\r' :: cs) =
      if cs.head? = some '\n' then unifyLineEnds cs else '\n' :: unifyLineEnds cs := by
  rw [unifyLineEnds, if_pos rfl]

theorem unifyLineEnds_eq_nil {cs : List Char} : unifyLineEnds cs = [] ↔ cs = [] := by
  induction cs with
  | nil => simp [unifyLineEnds]
  | cons c cs ih =>
    refine iff_of_false (fun h => ?_) (List.cons_ne_nil c cs)
    unfold unifyLineEnds at h
    split at h
    · split at h
      · next hfeed => simp [ih.1 h] at hfeed
      · simp at h
    · simp at h

theorem not_mem_escapeTextChar {c : Char} (h : c ≠ '\r') : '\r' ∉ escapeTextChar c := by
  unfold escapeTextChar
  split
  · decide
  split
  · decide
  split
  · decide
  · simpa using h.symm

theorem not_mem_escapeValue (s : String) : '\r' ∉ escapeValue s := by
  simp only [escapeValue, List.mem_flatMap, not_exists, not_and]
  intro c _
  unfold escapeValueChar
  split
  · decide
  split
  · decide
  split
  · decide
  split
  · decide
  · next hreturn _ _ => exact not_mem_escapeTextChar hreturn

theorem head?_flatMap_escape (cs : List Char) {rest : List Char}
    (hrest : ∀ c ∈ rest.head?, c = '<') :
    (cs.flatMap escapeTextChar ++ rest).head? = some '\n' ↔ cs.head? = some '\n' := by
  cases cs with
  | nil =>
    simp only [List.flatMap_nil, List.nil_append, List.head?_nil, reduceCtorEq, iff_false]
    exact fun h => absurd (hrest '\n' h) (by decide)
  | cons c cs =>
    rcases escapeTextChar_cases c with ⟨hc, -, -, -⟩ | ⟨body, hc, href⟩
    · simp [hc]
    · have hfeed : c ≠ '\n' := by
        rintro rfl
        exact absurd hc (by simp [escapeTextChar])
      simp [hc, hfeed]

theorem unifyLineEnds_escapeText (s : String) {rest : List Char}
    (hrest : ∀ c ∈ rest.head?, c = '<') :
    unifyLineEnds (escapeText s ++ rest) = escapeText (unified s) ++ unifyLineEnds rest := by
  simp only [escapeText, unified, String.toList_ofList]
  induction s.toList with
  | nil => rfl
  | cons c cs ih =>
    rw [List.flatMap_cons, List.append_assoc]
    by_cases hc : c = '\r'
    · subst hc
      -- the escaped text goes on with a line feed exactly if the text does
      have hfeed := head?_flatMap_escape cs hrest
      rw [show escapeTextChar '\r' = ['\r'] from rfl, List.singleton_append, unifyLineEnds_return,
        unifyLineEnds_return, ih]
      by_cases hhead : cs.head? = some '\n'
      · rw [if_pos (hfeed.2 hhead), if_pos hhead]
      · rw [if_neg (mt hfeed.1 hhead), if_neg hhead]
        rfl
    · rw [unifyLineEnds_append (not_mem_escapeTextChar hc), ih, unifyLineEnds, if_neg hc,
        List.flatMap_cons, List.append_assoc]

theorem not_mem_name {s : String} (h : isXmlName s = true) : '\r' ∉ s.toList :=
  fun hmem => absurd (isNamePart_of_mem h hmem) (by decide)

theorem not_mem_printOpening {tag : String} {attributes : List Attribute}
    (htag : isXmlName tag = true) (h : AttributesNamed attributes) :
    '\r' ∉ printOpening id tag attributes := by
  have hattributes : '\r' ∉ attributes.flatMap (printAttribute id) := by
    simp only [List.mem_flatMap, not_exists, not_and]
    intro a ha
    simp [printAttribute, not_mem_name (h.names a ha), not_mem_escapeValue]
  simpa [printOpening, not_mem_name htag] using hattributes

theorem Content.unified_eq_empty {c : Content} : c.unified = .empty ↔ c = .empty := by
  cases c with
  | stop text =>
    rw [unified, empty, stop.injEq, stop.injEq, Xml.unified, ← String.toList_inj,
      ← String.toList_inj, String.toList_ofList]
    exact unifyLineEnds_eq_nil
  | child => simp [unified, empty]

/-- Line ends of a printed element, if they are known for its content. -/
theorem unifyLineEnds_element {tag : String} {attributes : List Attribute} {inner : Content}
    (htag : isXmlName tag = true) (hattributes : AttributesNamed attributes)
    (hinner : ∀ rest : List Char, (∀ c ∈ rest.head?, c = '<') →
      unifyLineEnds (inner.print id ++ rest) = inner.unified.print id ++ unifyLineEnds rest)
    (rest : List Char) :
    unifyLineEnds (printOpening id tag attributes ++
        printRest id tag (inner = .empty) (inner.print id) ++ rest) =
      printOpening id tag attributes ++
        printRest id tag (inner.unified = .empty) (inner.unified.print id) ++
          unifyLineEnds rest := by
  have hend (isEmpty : Bool) : '\r' ∉ tagEnd isEmpty := by cases isEmpty <;> decide
  have hclosing : '\r' ∉ closingTag tag := by simp [closingTag, not_mem_name htag]
  have hopen : ∀ c ∈ (closingTag tag ++ rest).head?, c = '<' := by simp [closingTag]
  rw [printRest_eq tag inner, printRest_eq tag inner.unified]
  simp only [List.append_assoc, Content.unified_eq_empty,
    unifyLineEnds_append (not_mem_printOpening htag hattributes), unifyLineEnds_append (hend _)]
  by_cases h : inner = .empty
  · simp only [if_pos h, List.nil_append]
  · simp only [if_neg h, List.append_assoc, hinner _ hopen, unifyLineEnds_append hclosing]

/-- Line ends change in character data only: neither names nor values hold a carriage return. -/
theorem Content.unifyLineEnds_print {c : Content} (h : c.Named) {rest : List Char}
    (hrest : ∀ d ∈ rest.head?, d = '<') :
    unifyLineEnds (c.print id ++ rest) = c.unified.print id ++ unifyLineEnds rest := by
  induction c generalizing rest with
  | stop text => exact unifyLineEnds_escapeText text hrest
  | child text tag attributes inner later ihInner ihLater =>
    obtain ⟨htag, hattributes, hinner, hlater⟩ := h
    have hopen : ∀ d ∈ (printOpening id tag attributes ++
        printRest id tag (inner = .empty) (inner.print id) ++ (later.print id ++ rest)).head?,
        d = '<' := by
      simp [printOpening]
    rw [print, List.append_assoc, List.append_assoc, List.append_assoc,
      ← List.append_assoc (printOpening ..), unifyLineEnds_escapeText text hopen,
      unifyLineEnds_element htag hattributes (fun _ => ihInner hinner), ihLater hlater hrest,
      unified, print]
    simp only [List.append_assoc]

/-! ## Characters of a document -/

/-- All characters of a text are in a class. -/
def allChars (p : Char → Bool) (s : String) : Bool := s.toList.all p

theorem allChars_iff {p : Char → Bool} {s : String} :
    allChars p s = true ↔ ∀ c ∈ s.toList, p c = true := List.all_eq_true

/-- All characters of character data and attribute values are in a class. -/
def Content.All (p : Char → Bool) : Content → Prop
  | .stop text => allChars p text = true
  | .child text _ attributes inner rest =>
    allChars p text = true ∧ (∀ a ∈ attributes, allChars p a.2 = true) ∧ inner.All p ∧ rest.All p

theorem isXmlChar_of_isNamePart {c : Char} (h : isNamePart c = true) : isXmlChar c = true := by
  cases hx : isXmlChar c with
  | true => rfl
  | false =>
    have hrange : c.toNat < 32 ∨ c.toNat = 0xFFFE ∨ c.toNat = 0xFFFF := by
      simp [isXmlChar] at hx
      omega
    have hcontrol : ∀ n < 32, isNamePart (Char.ofNat n) = false := by decide
    rw [← Char.ofNat_toNat c] at h
    rcases hrange with hlow | hlast | hlast
    · exact absurd ((hcontrol _ hlow).symm.trans h) Bool.false_ne_true
    · rw [hlast] at h
      exact absurd h (by decide)
    · rw [hlast] at h
      exact absurd h (by decide)

theorem all_escapeTextChar (c : Char) : (escapeTextChar c).all isXmlChar = isXmlChar c := by
  unfold escapeTextChar
  split
  · next h => subst h; rfl
  split
  · next h => subst h; rfl
  split
  · next h => subst h; rfl
  · simp

theorem all_escapeValueChar (c : Char) : (escapeValueChar c).all isXmlChar = isXmlChar c := by
  unfold escapeValueChar
  split
  · next h => subst h; rfl
  split
  · next h => subst h; rfl
  split
  · next h => subst h; rfl
  split
  · next h => subst h; rfl
  · exact all_escapeTextChar c

theorem all_escapeText (s : String) : (escapeText s).all isXmlChar = allChars isXmlChar s := by
  simp [escapeText, allChars, List.all_flatMap, all_escapeTextChar]

theorem all_escapeValue (s : String) : (escapeValue s).all isXmlChar = allChars isXmlChar s := by
  simp [escapeValue, allChars, List.all_flatMap, all_escapeValueChar]

theorem allChars_of_isXmlName {s : String} (h : isXmlName s = true) :
    allChars isXmlChar s = true :=
  List.all_eq_true.2 fun _ hc => isXmlChar_of_isNamePart (isNamePart_of_mem h hc)

theorem all_printAttribute {a : Attribute} (h : isXmlName a.1 = true) :
    (printAttribute id a).all isXmlChar = allChars isXmlChar a.2 := by
  have hname : a.1.toList.all isXmlChar = true := allChars_of_isXmlName h
  have hmarks : isXmlChar ' ' = true ∧ isXmlChar '=' = true ∧ isXmlChar '"' = true := by decide
  simp [printAttribute, hname, hmarks, all_escapeValue, -List.all_eq_true]

/-- The characters of a printed element, if they are known for its content. -/
theorem all_printElement {tag : String} {attributes : List Attribute} {inner : Content}
    (htag : isXmlName tag = true) (h : AttributesNamed attributes)
    (hinner : (inner.print id).all isXmlChar = true ↔ inner.All isXmlChar) :
    (printOpening id tag attributes ++
        printRest id tag (inner = .empty) (inner.print id)).all isXmlChar = true ↔
      (∀ a ∈ attributes, allChars isXmlChar a.2 = true) ∧ inner.All isXmlChar := by
  have hname : tag.toList.all isXmlChar = true := allChars_of_isXmlName htag
  have hattributes : (attributes.flatMap (printAttribute id)).all isXmlChar = true ↔
      ∀ a ∈ attributes, allChars isXmlChar a.2 = true := by
    rw [List.all_flatMap, List.all_eq_true]
    exact forall₂_congr fun a ha => by rw [all_printAttribute (h.names a ha)]
  have hend (isEmpty : Bool) : (tagEnd isEmpty).all isXmlChar = true := by
    cases isEmpty <;> decide
  have hopening : (printOpening id tag attributes).all isXmlChar = true ↔
      ∀ a ∈ attributes, allChars isXmlChar a.2 = true := by
    rw [← hattributes, printOpening, id_eq, List.all_append, List.all_cons, hname]
    simp only [show isXmlChar '<' = true from rfl, Bool.true_and]
  have hclosing : (closingTag tag).all isXmlChar = true := by
    rw [closingTag, List.all_cons, List.all_cons, List.all_append, hname]
    rfl
  rw [List.all_append, Bool.and_eq_true, hopening, printRest_eq, List.all_append, hend,
    Bool.true_and]
  refine and_congr_right fun _ => ?_
  by_cases hempty : inner = .empty
  · subst hempty
    exact iff_of_true rfl rfl
  · rw [if_neg hempty, List.all_append, hclosing, Bool.and_true, hinner]

theorem Content.all_isXmlChar_print {c : Content} (h : c.Named) :
    (c.print id).all isXmlChar = true ↔ c.All isXmlChar := by
  induction c with
  | stop text => rw [print, all_escapeText, All]
  | child text tag attributes inner rest ihInner ihRest =>
    obtain ⟨htag, hattributes, hinner, hrest⟩ := h
    rw [print, List.append_assoc (escapeText text), List.all_append, List.all_append,
      Bool.and_eq_true, Bool.and_eq_true, all_escapeText,
      all_printElement htag hattributes (ihInner hinner), ihRest hrest, All, and_assoc, and_assoc]

/-! ## Elements -/

/-- The names of an element are names, and no tag has two attributes of one name. -/
structure Element.Named (e : Element) : Prop where
  tag : isXmlName e.tag = true
  attributes : AttributesNamed e.attributes
  content : e.content.Named

/-- All characters of character data and attribute values are in a class. -/
structure Element.All (p : Char → Bool) (e : Element) : Prop where
  attributes : ∀ a ∈ e.attributes, allChars p a.2 = true
  content : e.content.All p

/-- An element with the line ends of its character data unified. -/
def Element.unified (e : Element) : Element := { e with content := e.content.unified }

theorem Content.Named.unified {c : Content} (h : c.Named) : c.unified.Named := by
  induction c with
  | stop text => trivial
  | child text tag attributes inner rest ihInner ihRest =>
    obtain ⟨htag, hattributes, hinner, hrest⟩ := h
    exact ⟨htag, hattributes, ihInner hinner, ihRest hrest⟩

theorem all_unifyLineEnds {p : Char → Bool} (hfeed : p '\n' = true) {cs : List Char}
    (h : cs.all p = true) : (unifyLineEnds cs).all p = true := by
  induction cs with
  | nil => rfl
  | cons c cs ih =>
    rw [List.all_cons, Bool.and_eq_true] at h
    rw [unifyLineEnds]
    split
    · split
      · exact ih h.2
      · rw [List.all_cons, hfeed, ih h.2]
        rfl
    · rw [List.all_cons, h.1, ih h.2]
      rfl

theorem allChars_unified {p : Char → Bool} (hfeed : p '\n' = true) {s : String}
    (h : allChars p s = true) : allChars p (Xml.unified s) = true := by
  rw [allChars, Xml.unified, String.toList_ofList]
  exact all_unifyLineEnds hfeed h

theorem Content.All.unified {p : Char → Bool} (hfeed : p '\n' = true) {c : Content}
    (h : c.All p) : c.unified.All p := by
  induction c with
  | stop text => exact allChars_unified hfeed h
  | child text tag attributes inner rest ihInner ihRest =>
    obtain ⟨htext, hattributes, hinner, hrest⟩ := h
    exact ⟨allChars_unified hfeed htext, hattributes, ihInner hinner, ihRest hrest⟩

/-- White space before an element gives pieces that are dropped. -/
theorem pieces?_blank {blank : List Char} (h : ∀ c ∈ blank, isXmlBlank c = true)
    (rest : List Char) :
    pieces? (blank ++ rest) = (pieces? rest).map (blank.map .literal ++ ·) := by
  induction blank with
  | nil => simp
  | cons c cs ih =>
    rw [List.forall_mem_cons] at h
    have hpiece : piece? (c :: (cs ++ rest)) = some ([.literal c], cs ++ rest) := by
      have hne (d : Char) (hd : isXmlBlank d = false) : c ≠ d := by
        rintro rfl
        simp [h.1] at hd
      rw [piece?, if_neg (hne '<' rfl), if_neg (hne '&' rfl), if_neg]
      simp [Ne.symm (hne ']' rfl)]
    rw [List.cons_append, pieces?_of_piece hpiece, ih h.2, Option.map_map]
    rfl

theorem element?_blank {blank : List Char} (h : ∀ c ∈ blank, isXmlBlank c = true)
    (ps : List Piece) : element? [] (blank.map .literal ++ ps) = element? [] ps := by
  induction blank with
  | nil => rfl
  | cons c cs ih =>
    rw [List.forall_mem_cons] at h
    rw [List.map_cons, List.cons_append, element?, if_pos h.1, ih h.2]

namespace Element

variable {e : Element}

theorem print_eq (e : Element) :
    e.print id [] = printOpening id e.tag e.attributes ++
      printRest id e.tag (e.content = .empty) (e.content.print id) := by
  simp [Element.print, printOpening]

@[simp] theorem toList_text (e : Element) : e.text.toList = e.print id [] := String.toList_ofList

theorem Named.unified (h : e.Named) : e.unified.Named := ⟨h.tag, h.attributes, h.content.unified⟩

theorem All.unified {p : Char → Bool} (hfeed : p '\n' = true) (h : e.All p) : e.unified.All p :=
  ⟨h.attributes, h.content.unified hfeed⟩

theorem unifyLineEnds_print (h : e.Named) :
    unifyLineEnds (e.print id []) = e.unified.print id [] := by
  have hprint := unifyLineEnds_element h.tag h.attributes
    (fun _ => Content.unifyLineEnds_print h.content) []
  rw [print_eq, print_eq]
  rw [List.append_nil, unifyLineEnds, List.append_nil] at hprint
  exact hprint

theorem allChars_text (h : e.Named) :
    allChars isXmlChar e.text = true ↔ e.All isXmlChar := by
  rw [allChars, toList_text, print_eq, all_printElement h.tag h.attributes
    (Content.all_isXmlChar_print h.content)]
  exact ⟨fun ⟨ha, hc⟩ => ⟨ha, hc⟩, fun ⟨ha, hc⟩ => ⟨ha, hc⟩⟩

/-- A printed element is read back, also with white space before it. -/
theorem read?_of_prolog {source : String} (h : e.Named) (blank : List Char)
    (hsource : allChars isXmlChar source = true) (hblank : ∀ c ∈ blank, isXmlBlank c = true)
    (hbody : prolog? (unifyLineEnds source.toList) = some (blank ++ e.print id [])) :
    read? source = some e := by
  have hnil : pieces? [] = some [] := by rw [pieces?]; rfl
  have hpieces := pieces?_element h.tag h.attributes
    (fun _ => Content.pieces?_print h.content) []
  rw [List.append_nil, ← print_eq, hnil, Option.map_some, List.append_nil] at hpieces
  have hroot := element?_root e.tag e.attributes e.content []
  unfold read?
  rw [allChars] at hsource
  simp only [hsource, if_pos, hbody, pieces?_blank hblank, hpieces, Option.bind_eq_bind,
    Option.bind_some, Option.map_some, element?_blank hblank, hroot]
  rfl

/-- A printed element has no declaration of a document before it. -/
theorem prolog?_print (h : e.Named) : prolog? (e.print id []) = some (e.print id []) := by
  obtain ⟨c, r, hc, hpart⟩ := exists_cons_of_isXmlName h.tag
  have hquestion : '?' ≠ c := (ne_of_isNamePart hpart).symm
  rw [print_eq, printOpening, id_eq, hc]
  simp [prolog?, hquestion]

theorem read?_text (h : e.Named) (hall : e.All isXmlChar) : read? e.text = some e.unified := by
  refine read?_of_prolog h.unified [] ((allChars_text h).2 hall)
    (List.forall_mem_nil _) ?_
  rw [toList_text, unifyLineEnds_print h, prolog?_print h.unified, List.nil_append]

theorem allChars_of_read? {source : String} (h : (read? source).isSome = true) :
    allChars isXmlChar source = true := by
  unfold allChars
  cases hall : source.toList.all isXmlChar with
  | true => rfl
  | false => simp [read?, hall] at h

theorem read?_text_isSome (h : e.Named) : (read? e.text).isSome = true ↔ e.All isXmlChar := by
  refine ⟨fun hsome => (allChars_text h).1 (allChars_of_read? hsome), fun hall => ?_⟩
  rw [read?_text h hall]
  rfl

end Element

end PhpOutline.Xml
