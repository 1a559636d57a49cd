import PhpOutline.Proofs.Provenance

/-!
# Well-formed documents

The document of a file is the text of a tree: the element of the file with the elements of its
declarations as its last children. All names in the tree but those of markers are fixed, so what can
go wrong is a character that no document may hold, or a marker term that is no name.

Results:
* `Document.fragments_eq`, `Document.named_elements`: the fragments are texts of elements with names;
* `Document.foldlM_merge_of_all`, `Document.foldlM_merge_of_not_all`: what comes of the fragments;
* `SourceFile.State.document_isOk_iff`: when there is a document;
* `SourceFile.State.Sound.exists_document`, `SourceFile.sound_of_process`: when it is well-formed;
* `SourceFile.document_of_process`: the document of a file that was read.
-/

namespace PhpOutline

open PhpOutline.Text
open PhpOutline.Xml
open PhpOutline.Xml.Element (all_leaf all_node named_leaf named_node)

/-! ## Names in the elements of declarations -/

/-- Attributes whose names are fixed. -/
theorem attributesNamed_of_names {attributes : List Attribute} (names : List String)
    (h : attributes.map Prod.fst = names) (hnames : names.all isXmlName = true)
    (hnodup : names.Nodup) : AttributesNamed attributes := by
  refine ⟨fun a ha => ?_, h ▸ hnodup⟩
  exact List.all_eq_true.1 hnames a.1 (h ▸ List.mem_map_of_mem ha)

theorem attributesNamed_nil : AttributesNamed [] :=
  attributesNamed_of_names [] rfl rfl List.nodup_nil

theorem attributesNamed_line (line : String) : AttributesNamed [("line", line)] :=
  attributesNamed_of_names ["line"] rfl (by decide) (by decide)

theorem named_plainLeaf {tag : String} (htag : isXmlName tag = true) (text : String) :
    (Element.leaf tag [] text).Named := named_leaf.2 ⟨htag, attributesNamed_nil⟩

theorem named_leaves {tag : String} (htag : isXmlName tag = true) (texts : List String) :
    ∀ e ∈ texts.map (Element.leaf tag []), e.Named :=
  List.forall_mem_map.2 fun s _ => named_plainLeaf htag s

theorem Docblock.named_toElement (b : Docblock) : b.toElement.Named := by
  rw [toElement, named_node, List.forall_mem_append, List.forall_mem_map]
  refine ⟨by decide, attributesNamed_line _, ?_, fun tag _ => ?_⟩
  · simp [named_plainLeaf (show isXmlName "description" = true by decide),
      named_plainLeaf (show isXmlName "long-description" = true by decide)]
  · exact named_leaf.2 ⟨by decide,
      attributesNamed_of_names ["name", "description"] rfl (by decide) (by decide)⟩

theorem named_docElements (doc : Option Docblock) : ∀ e ∈ docElements doc, e.Named :=
  List.forall_mem_map.2 fun b _ => b.named_toElement

theorem isXmlName_name : isXmlName "name" = true := by decide

theorem Argument.named_toElement (a : Argument) : a.toElement.Named := by
  rw [toElement, named_node]
  refine ⟨by decide, attributesNamed_line _, ?_⟩
  simp [named_plainLeaf isXmlName_name, named_plainLeaf (show isXmlName "default" = true by decide),
    named_plainLeaf (show isXmlName "type" = true by decide)]

theorem FunctionDecl.named_signature (f : FunctionDecl) : ∀ e ∈ f.signature, e.Named := by
  rw [signature, List.forall_mem_cons, List.forall_mem_append, List.forall_mem_append]
  exact ⟨named_plainLeaf isXmlName_name _,
    ⟨named_leaves (by decide) _, named_docElements _⟩,
    List.forall_mem_map.2 fun a _ => a.named_toElement⟩

theorem FunctionDecl.named_toElement (f : FunctionDecl) : f.toElement.Named := by
  rw [toElement, named_node]
  exact ⟨by decide, attributesNamed_of_names ["namespace", "line"] rfl (by decide) (by decide),
    f.named_signature⟩

theorem MethodDecl.named_toElement (m : MethodDecl) : m.toElement.Named := by
  rw [toElement, named_node]
  exact ⟨by decide, attributesNamed_of_names ["final", "abstract", "static", "visibility", "line"] rfl
    (by decide) (by decide), m.named_signature⟩

theorem PropertyDecl.named_toElement (d : PropertyDecl) : d.toElement.Named := by
  rw [toElement, named_node, List.forall_mem_append, List.forall_mem_append]
  refine ⟨by decide, attributesNamed_of_names ["static", "visibility", "line"] rfl (by decide)
    (by decide), ⟨?_, named_leaves (by decide) _⟩, named_docElements _⟩
  simp [named_plainLeaf isXmlName_name, named_plainLeaf (show isXmlName "default" = true by decide)]

theorem ConstantDecl.named_toElement (d : ConstantDecl) : d.toElement.Named := by
  rw [toElement, named_node, List.forall_mem_append]
  refine ⟨by decide, attributesNamed_of_names ["namespace", "line"] rfl (by decide) (by decide), ?_,
    named_docElements _⟩
  simp [named_plainLeaf isXmlName_name, named_plainLeaf (show isXmlName "value" = true by decide)]

theorem IncludeDecl.named_toElement (d : IncludeDecl) : d.toElement.Named := by
  rw [toElement, named_node]
  exact ⟨by decide, attributesNamed_of_names ["type", "line"] rfl (by decide) (by decide),
    List.forall_mem_cons.2 ⟨named_plainLeaf isXmlName_name _, named_docElements _⟩⟩

theorem InterfaceDecl.named_toElement (d : InterfaceDecl) : d.toElement.Named := by
  rw [toElement, named_node]
  simp only [List.forall_mem_cons, List.forall_mem_append, List.cons_append]
  exact ⟨by decide, attributesNamed_of_names ["namespace", "line"] rfl (by decide) (by decide),
    named_plainLeaf isXmlName_name _,
    ⟨⟨named_leaves (by decide) _, named_docElements _⟩,
      List.forall_mem_map.2 fun c _ => c.named_toElement⟩,
    List.forall_mem_map.2 fun m _ => m.named_toElement⟩

theorem ClassDecl.named_toElement (d : ClassDecl) : d.toElement.Named := by
  rw [toElement, named_node]
  simp only [List.forall_mem_append]
  refine ⟨by decide, attributesNamed_of_names ["final", "abstract", "namespace", "line"] rfl
    (by decide) (by decide), ⟨⟨⟨⟨?_, named_leaves (by decide) _⟩, named_docElements _⟩,
      List.forall_mem_map.2 fun c _ => c.named_toElement⟩,
      List.forall_mem_map.2 fun m _ => m.named_toElement⟩,
    List.forall_mem_map.2 fun m _ => m.named_toElement⟩
  simp [named_plainLeaf isXmlName_name, named_plainLeaf (show isXmlName "extends" = true by decide)]

/-! ## Fragments -/

namespace Xml.Element

theorem getLast?_print (e : Element) : (e.print id []).getLast? = some '>' := by
  rw [print_eq, printRest_eq]
  by_cases h : e.content = .empty
  · simp [h, tagEnd]
  · have hclosing : (closingTag e.tag).getLast? = some '>' := by
      rw [closingTag, ← List.cons_append, ← List.cons_append, List.getLast?_concat]
    simp [h, hclosing]

/-- The text of an element has no blanks around it. -/
theorem trimmed_text (e : Element) : trimmed e.text = e.text := by
  rw [trimmed, toList_text, trim_eq_self, text]
  · intro c hc
    obtain rfl : '<' = c := by simpa [print_eq, printOpening] using hc
    rfl
  · intro c hc
    rw [getLast?_print] at hc
    obtain rfl : '>' = c := by simpa using hc
    rfl

end Xml.Element

namespace Document

/-- The elements of the declarations of a file, in the order of a document. -/
def elements (s : Symbols) : List Element :=
  s.includes.map IncludeDecl.toElement ++ s.constants.values.map ConstantDecl.toElement ++
    s.functions.values.map FunctionDecl.toElement ++
    s.interfaces.values.map InterfaceDecl.toElement ++ s.classes.values.map ClassDecl.toElement

theorem fragments_eq (s : Symbols) : fragments s = (elements s).map Element.text := by
  simp [fragments, elements, Function.comp_def]

theorem named_elements (s : Symbols) : ∀ e ∈ elements s, e.Named := by
  simp only [elements, List.forall_mem_append]
  exact ⟨⟨⟨⟨List.forall_mem_map.2 fun d _ => d.named_toElement,
    List.forall_mem_map.2 fun d _ => d.named_toElement⟩,
    List.forall_mem_map.2 fun d _ => d.named_toElement⟩,
    List.forall_mem_map.2 fun d _ => d.named_toElement⟩,
    List.forall_mem_map.2 fun d _ => d.named_toElement⟩

theorem allChars_fragments_iff (s : Symbols) :
    (∀ fragment ∈ fragments s, allChars isXmlChar fragment = true) ↔
      ∀ e ∈ elements s, e.All isXmlChar := by
  rw [fragments_eq, List.forall_mem_map]
  exact forall₂_congr fun e he => Element.allChars_text (named_elements s e he)

theorem merge_text {e : Element} (h : e.Named) (hall : e.All isXmlChar) (root : Element) :
    merge root e.text = .ok (root.push e.unified) := by
  rw [merge, Element.trimmed_text, Element.read?_text h hall]

theorem merge_text_of_not_all {e : Element} (h : e.Named) (hall : ¬ e.All isXmlChar)
    (root : Element) : merge root e.text = .error .malformedFragment := by
  have hnone : Element.read? e.text = none := by
    rw [← Option.not_isSome_iff_eq_none, Element.read?_text_isSome h]
    exact hall
  rw [merge, Element.trimmed_text, hnone]

/-- The element of a file with further children as they are read back. -/
def pushUnified (root : Element) (es : List Element) : Element :=
  es.foldl (fun r e => r.push e.unified) root

theorem foldlM_merge_of_all {es : List Element} (hnamed : ∀ e ∈ es, e.Named)
    (hall : ∀ e ∈ es, e.All isXmlChar) (root : Element) :
    (es.map Element.text).foldlM merge root = .ok (pushUnified root es) := by
  induction es generalizing root with
  | nil => rfl
  | cons e es ih =>
    rw [List.forall_mem_cons] at hnamed hall
    rw [List.map_cons, List.foldlM_cons, merge_text hnamed.1 hall.1]
    exact ih hnamed.2 hall.2 _

theorem foldlM_merge_of_not_all {es : List Element} (hnamed : ∀ e ∈ es, e.Named)
    (hall : ¬ ∀ e ∈ es, e.All isXmlChar) (root : Element) :
    (es.map Element.text).foldlM merge root = .error .malformedFragment := by
  induction es generalizing root with
  | nil => exact absurd (List.forall_mem_nil _) hall
  | cons e es ih =>
    rw [List.forall_mem_cons] at hnamed
    rw [List.map_cons, List.foldlM_cons]
    -- the first fragment that cannot be read ends the fold
    by_cases he : e.All isXmlChar
    · rw [merge_text hnamed.1 he]
      exact ih hnamed.2 (fun hes => hall (List.forall_mem_cons.2 ⟨he, hes⟩)) _
    · rw [merge_text_of_not_all hnamed.1 he]
      rfl

theorem named_pushUnified {root : Element} {es : List Element} (hroot : root.Named)
    (h : ∀ e ∈ es, e.Named) : (pushUnified root es).Named := by
  induction es generalizing root with
  | nil => exact hroot
  | cons e es ih =>
    rw [List.forall_mem_cons] at h
    exact ih (hroot.push h.1.unified) h.2

theorem all_pushUnified {root : Element} {es : List Element} (hroot : root.All isXmlChar)
    (h : ∀ e ∈ es, e.All isXmlChar) : (pushUnified root es).All isXmlChar := by
  induction es generalizing root with
  | nil => exact hroot
  | cons e es ih =>
    rw [List.forall_mem_cons] at h
    exact ih (hroot.push (h.1.unified rfl)) h.2

theorem tag_pushUnified (root : Element) (es : List Element) :
    (pushUnified root es).tag = root.tag := by
  induction es generalizing root with
  | nil => rfl
  | cons e es ih => exact ih (root.push e.unified)

theorem mem_names_pushUnified {root : Element} {es : List Element} {name : String} :
    name ∈ (pushUnified root es).names ↔
      name ∈ root.names ∨ ∃ e ∈ es, name ∈ e.unified.names := by
  induction es generalizing root with
  | nil => simp [pushUnified]
  | cons e es ih =>
    rw [pushUnified, List.foldl_cons]
    refine ih.trans ?_
    simp [Element.mem_names_push, or_assoc]

/-! ## The element of a file -/

/-- The element of a file before the elements of its declarations are added. -/
def ownElement (f : SourceFile.State) : Element :=
  .node "file" [("path", relativePath f.path), ("hash", f.digest.getD "")] (fileElements f.outline)

theorem rootElement_eq (f : SourceFile.State) :
    rootElement f = ((elements f.outline.symbols).map Element.text).foldlM merge (ownElement f) := by
  rw [← fragments_eq]
  rfl

theorem rootElement_of_all {f : SourceFile.State}
    (h : ∀ e ∈ elements f.outline.symbols, e.All isXmlChar) :
    rootElement f = .ok (pushUnified (ownElement f) (elements f.outline.symbols)) := by
  rw [rootElement_eq, foldlM_merge_of_all (named_elements _) h]

theorem rootElement_of_not_all {f : SourceFile.State}
    (h : ¬ ∀ e ∈ elements f.outline.symbols, e.All isXmlChar) :
    rootElement f = .error .malformedFragment := by
  rw [rootElement_eq, foldlM_merge_of_not_all (named_elements _) h]

theorem named_markerElement {m : Marker} (h : isXmlName (lowered m.term) = true) :
    (markerElement m).Named := named_leaf.2 ⟨h, attributesNamed_line _⟩

theorem named_aliasElement (entry : String × String) : (aliasElement entry).Named :=
  named_leaf.2 ⟨by decide, attributesNamed_of_names ["name"] rfl (by decide) (by decide)⟩

theorem mem_fileElements {o : Outline} {e : Element} :
    e ∈ fileElements o ↔ e ∈ docElements o.docblock ∨
      (o.markers ≠ [] ∧ e = .node "markers" [] (o.markers.map markerElement)) ∨
      ∃ entry ∈ o.symbols.aliases, aliasElement entry = e := by
  rw [fileElements, List.mem_append, List.mem_append, List.mem_map, or_assoc]
  cases o.markers with
  | nil => simp
  | cons m ms => simp

/-- Apart from the terms of its markers, an outline gives names only. -/
theorem named_fileElements {o : Outline}
    (h : ∀ m ∈ o.markers, isXmlName (lowered m.term) = true) :
    ∀ e ∈ fileElements o, e.Named := by
  intro e he
  rcases mem_fileElements.1 he with he | ⟨-, rfl⟩ | ⟨entry, -, rfl⟩
  · exact named_docElements _ e he
  · exact named_node.2 ⟨by decide, attributesNamed_nil,
      List.forall_mem_map.2 fun m hm => named_markerElement (h m hm)⟩
  · exact named_aliasElement entry

theorem attributesNamed_own (path hash : String) :
    AttributesNamed [("path", path), ("hash", hash)] :=
  attributesNamed_of_names ["path", "hash"] rfl (by decide) (by decide)

theorem named_ownElement {f : SourceFile.State}
    (h : ∀ m ∈ f.outline.markers, isXmlName (lowered m.term) = true) : (ownElement f).Named :=
  named_node.2 ⟨by decide, attributesNamed_own _ _, named_fileElements h⟩

/-- The names of the element of a file can all be split if the terms of its markers can. -/
theorem splitName?_ownElement_iff (f : SourceFile.State) :
    (∀ name ∈ (ownElement f).names, (splitName? name).isSome = true) ↔
      ∀ m ∈ f.outline.markers, (splitName? (lowered m.term)).isSome = true := by
  have hterm (m : Marker) : lowered m.term ∈ (markerElement m).names :=
    Element.mem_names_leaf.2 List.mem_cons_self
  constructor
  · intro h m hm
    have hmarkers : f.outline.markers ≠ [] := List.ne_nil_of_mem hm
    refine h _ (Element.mem_names_node.2 (.inr ⟨_, mem_fileElements.2 (.inr (.inl ⟨hmarkers, rfl⟩)),
      Element.mem_names_node.2 (.inr ⟨_, List.mem_map_of_mem hm, hterm m⟩)⟩))
  · intro h name hname
    rcases Element.mem_names_node.1 hname with hown | ⟨e, he, hname⟩
    · -- the tag and the attributes of the file itself
      have hfixed : ∀ name ∈ ["file", "path", "hash"], isXmlName name = true := by decide
      exact splitName?_isSome_of_isXmlName (hfixed name hown)
    rcases mem_fileElements.1 he with he | ⟨-, rfl⟩ | ⟨entry, -, rfl⟩
    · exact splitName?_isSome_of_isXmlName ((named_docElements _ e he).isXmlName_of_mem hname)
    · rcases Element.mem_names_node.1 hname with hown | ⟨e, he, hname⟩
      · have hfixed : ∀ name ∈ ["markers"], isXmlName name = true := by decide
        exact splitName?_isSome_of_isXmlName (hfixed name hown)
      · obtain ⟨m, hm, rfl⟩ := List.mem_map.1 he
        rcases List.mem_cons.1 (Element.mem_names_leaf.1 hname) with rfl | hline
        · exact h m hm
        · have hfixed : ∀ name ∈ ["line"], isXmlName name = true := by decide
          exact splitName?_isSome_of_isXmlName (hfixed name hline)
    · exact splitName?_isSome_of_isXmlName ((named_aliasElement entry).isXmlName_of_mem hname)

/-! ## Characters in the element of a file -/

theorem all_markerElement {m : Marker} (h : allChars isXmlChar m.content = true) :
    (markerElement m).All isXmlChar := by
  refine all_leaf.2 ⟨List.forall_mem_singleton.2 (ample_isXmlChar.repr_int _), ?_⟩
  exact allChars_ofList.2 fun c hc => allChars_iff.1 h c (trim_subset _ hc)

theorem all_aliasElement {entry : String × String}
    (h : allChars isXmlChar entry.1 = true ∧ allChars isXmlChar entry.2 = true) :
    (aliasElement entry).All isXmlChar :=
  all_leaf.2 ⟨List.forall_mem_singleton.2 h.1, h.2⟩

theorem all_ownElement {f : SourceFile.State} (hpath : allChars isXmlChar f.path = true)
    (hdigest : allChars isXmlChar (f.digest.getD "") = true)
    (hdoc : ∀ b ∈ f.outline.docblock, b.toElement.All isXmlChar)
    (hmarkers : ∀ m ∈ f.outline.markers, allChars isXmlChar m.content = true)
    (hsymbols : f.outline.symbols.All isXmlChar) : (ownElement f).All isXmlChar := by
  have hrelative : allChars isXmlChar (relativePath f.path) = true :=
    allChars_ofList.2 fun c hc =>
      allChars_iff.1 hpath c ((List.dropWhile_sublist _).subset hc)
  refine all_node.2 ⟨by simp [hrelative, hdigest], fun e he => ?_⟩
  rcases mem_fileElements.1 he with he | ⟨-, rfl⟩ | ⟨entry, hentry, rfl⟩
  · exact all_docElements hdoc e he
  · exact all_node.2 ⟨List.forall_mem_nil _,
      List.forall_mem_map.2 fun m hm => all_markerElement (hmarkers m hm)⟩
  · exact all_aliasElement (hsymbols.aliases entry hentry)

theorem all_elements {p : Char → Bool} {s : Symbols} (h : s.All p) :
    ∀ e ∈ elements s, e.All p := by
  simp only [elements, List.forall_mem_append, List.forall_mem_map, Table.values]
  exact ⟨⟨⟨⟨h.includes, h.constants⟩, h.functions⟩, h.interfaces⟩, h.classes⟩

/-! ## Layout -/

/-- An element laid out for readers if `pretty`. -/
def laidOut (pretty : Bool) (root : Element) : Element := if pretty then root.indent else root

theorem tag_laidOut (pretty : Bool) (root : Element) : (laidOut pretty root).tag = root.tag := by
  cases pretty <;> rfl

theorem names_laidOut (pretty : Bool) (root : Element) :
    (laidOut pretty root).names = root.names := by
  cases pretty with
  | false => rfl
  | true => exact root.names_indent

theorem named_laidOut {root : Element} (h : root.Named) (pretty : Bool) :
    (laidOut pretty root).Named := by
  cases pretty with
  | false => exact h
  | true => exact h.indent

theorem all_laidOut {root : Element} (h : root.All isXmlChar) (pretty : Bool) :
    (laidOut pretty root).All isXmlChar := by
  cases pretty with
  | false => exact h
  | true => exact h.indent rfl rfl

theorem declaration?_fixed (rest : List Char) :
    declaration? (" version=\"1.0\" encoding=\"utf-8\"?>".toList ++ rest) = some rest := by
  have hversion : declared? "version" (" version=\"1.0\" encoding=\"utf-8\"?>".toList ++ rest) =
      some ("1.0", " encoding=\"utf-8\"?>".toList ++ rest) := rfl
  have hencoding : declared? "encoding" (" encoding=\"utf-8\"?>".toList ++ rest) =
      some ("utf-8", "?>".toList ++ rest) := rfl
  have hstandalone : declared? "standalone" ("?>".toList ++ rest) = none := rfl
  have hletter : Option.any Char.isAlpha "utf-8".toList.head? = true := by decide
  have hend : ("?>".toList ++ rest).dropWhile isXmlBlank = '?' :: '>' :: rest := rfl
  simp only [declaration?, hversion, hencoding, hstandalone, Option.bind_eq_bind, Option.bind_some,
    hletter, if_pos, hend]

theorem prolog?_declaration (rest : List Char) :
    prolog? ((declaration ++ "\n").toList ++ rest) = some (['\n'] ++ rest) :=
  declaration?_fixed ('\n' :: rest)

/-- The text of an element after the declaration of a document is read back. -/
theorem read?_declaration {e : Element} (h : e.Named) (hall : e.All isXmlChar) :
    Element.read? (declaration ++ "\n" ++ e.text) = some e.unified := by
  have hsource : allChars isXmlChar (declaration ++ "\n" ++ e.text) = true := by
    have htext : e.text.toList.all isXmlChar = true := (Element.allChars_text h).2 hall
    have hfirst : (declaration ++ "\n").toList.all isXmlChar = true := by decide
    rw [allChars, String.toList_append, List.all_append, htext, hfirst]
    rfl
  -- the declaration holds no carriage return, so line ends are unified in the element only
  have hreturn : '\r' ∉ (declaration ++ "\n").toList := by decide
  have hbody : prolog? (unifyLineEnds (declaration ++ "\n" ++ e.text).toList) =
      some (['\n'] ++ e.unified.print id []) := by
    rw [String.toList_append, unifyLineEnds_append hreturn, Element.toList_text,
      Element.unifyLineEnds_print h, prolog?_declaration]
  refine Element.read?_of_prolog h.unified ['\n'] hsource ?_ hbody
  exact List.forall_mem_singleton.2 rfl

end Document

/-! ## Documents -/

namespace SourceFile

open Document

namespace State

variable {f : State}

/-- What a well-formed document asks of a file: its texts hold characters of a document only, and
    the terms of its markers are names in lower case. -/
structure Sound (f : State) : Prop where
  own : (ownElement f).All isXmlChar
  fragments : ∀ fragment ∈ fragments f.outline.symbols, allChars isXmlChar fragment = true
  terms : ∀ m ∈ f.outline.markers, isXmlName (lowered m.term) = true

theorem document_of_root {root : Element} (h : rootElement f = .ok root) (pretty : Bool) :
    f.document pretty =
      match (laidOut pretty root).render with
      | none => .error .malformedName
      | some text => .ok (declaration ++ "\n" ++ text) := by
  rw [document, h]
  rfl

/-- A file has a document exactly if its declarations hold characters of a document only and every
    term of a marker that starts with a brace holds a closing one. -/
theorem document_isOk_iff (f : State) (pretty : Bool) :
    (∃ text, f.document pretty = .ok text) ↔
      (∀ fragment ∈ fragments f.outline.symbols, allChars isXmlChar fragment = true) ∧
        ∀ m ∈ f.outline.markers, (splitName? (lowered m.term)).isSome = true := by
  have hnamed := named_elements f.outline.symbols
  rw [allChars_fragments_iff]
  by_cases hall : ∀ e ∈ elements f.outline.symbols, e.All isXmlChar
  · -- the names of the declarations are fixed, so only those of the file itself count
    have hrender : (laidOut pretty (pushUnified (ownElement f)
        (elements f.outline.symbols))).render.isSome = true ↔
          ∀ m ∈ f.outline.markers, (splitName? (lowered m.term)).isSome = true := by
      rw [Element.render_isSome_iff, names_laidOut, ← splitName?_ownElement_iff]
      simp only [mem_names_pushUnified, or_imp, forall_and, and_iff_left_iff_imp]
      rintro - name ⟨d, hd, hname⟩
      exact splitName?_isSome_of_isXmlName ((hnamed d hd).unified.isXmlName_of_mem hname)
    rw [and_iff_right hall, ← hrender, document_of_root (rootElement_of_all hall)]
    cases (laidOut pretty (pushUnified (ownElement f) (elements f.outline.symbols))).render with
    | none => exact iff_of_false (fun ⟨_, h⟩ => by cases h) Bool.false_ne_true
    | some text => exact iff_of_true ⟨_, rfl⟩ rfl
  · rw [document, rootElement_of_not_all hall]
    exact iff_of_false (fun ⟨_, h⟩ => by cases h) fun h => hall h.1

/-- A control character in a constant leaves a file without a document. -/
example :
    let f : SourceFile := { path := "a.php", contents := "<?php const A='\x01';" }
    f.process.error? = none ∧ f.process.file.document false = .error .malformedFragment := by
  decide +kernel

/-- The document of a sound file is well-formed, and its outermost element is the one of the
    file. -/
theorem Sound.exists_document (h : Sound f) (pretty : Bool) :
    ∃ text e, f.document pretty = .ok text ∧ Element.read? text = some e ∧ e.tag = "file" := by
  have hnamed := named_elements f.outline.symbols
  have hall := (allChars_fragments_iff _).1 h.fragments
  have hnamedRoot := named_laidOut (named_pushUnified (named_ownElement h.terms) hnamed) pretty
  have hallRoot := all_laidOut (all_pushUnified h.own hall) pretty
  refine ⟨_, _, ?_, read?_declaration hnamedRoot hallRoot, ?_⟩
  · rw [document_of_root (rootElement_of_all hall), Element.render_of_named hnamedRoot]
  · exact (tag_laidOut pretty _).trans (tag_pushUnified _ _)

end State

variable {f : SourceFile}

/-- A file that was read is sound if it held characters of a document only and its terms are
    names. -/
theorem sound_of_process (hfresh : f.isProcessed = false) (h : f.process.error? = none)
    (hpath : allChars isXmlChar f.path = true)
    (hdigest : allChars isXmlChar (f.digest.getD "") = true)
    (hcontents : allChars isXmlChar f.contents = true)
    (hterms : ∀ term ∈ f.terms, isXmlName (lowered term) = true) :
    f.process.file.Sound := by
  obtain ⟨outline, hsource, hfile⟩ := exists_ofSource_of_process hfresh h
  have hall := Outline.all_of_ofSource ample_isXmlChar hcontents hsource
  obtain ⟨-, -, -, hmarkers, -⟩ := Outline.exists_tokens_of_ofSource hsource
  rw [hfile]
  exact {
    own := all_ownElement hpath hdigest hall.docblock hall.markers hall.symbols
    fragments := (allChars_fragments_iff _).2 (all_elements hall.symbols)
    terms := fun m hm => hterms m.term (Marker.of_mem_scan (hmarkers ▸ hm)).1 }

/-- A file that was read has a document unless a declaration holds a character that no document may
    hold or a marker has a term with an opening brace and no closing one. The document is
    well-formed if the file is sound, and it is sound if its path, its digest and its contents hold
    characters of a document only and its terms are names. -/
theorem document_of_process (f : SourceFile) (hfresh : f.isProcessed = false)
    (h : f.process.error? = none) :
    (∀ pretty, (∃ text, f.process.file.document pretty = .ok text) ↔
      (∀ fragment ∈ fragments f.process.file.outline.symbols,
        allChars isXmlChar fragment = true) ∧
      ∀ m ∈ f.process.file.outline.markers, (splitName? (lowered m.term)).isSome = true) ∧
    (f.process.file.Sound → ∀ pretty, ∃ text e, f.process.file.document pretty = .ok text ∧
      Element.read? text = some e ∧ e.tag = "file") ∧
    (allChars isXmlChar f.path = true → allChars isXmlChar (f.digest.getD "") = true →
      allChars isXmlChar f.contents = true →
      (∀ term ∈ f.terms, isXmlName (lowered term) = true) → f.process.file.Sound) :=
  ⟨State.document_isOk_iff _, State.Sound.exists_document, sound_of_process hfresh h⟩

/-- A file with a tag, a quote and a carriage return in its texts, and a term of its own. -/
theorem document_of_process_term :
    let f : SourceFile :=
      { path := "./a&b.php"
        contents := "<?php // Fix-me: a < b\nconst D='<\"\r\n';"
        digest := some "00"
        terms := ["TODO", "Fix-me"] }
    f.isProcessed = false ∧ f.process.error? = none ∧
      f.process.file.outline.markers = [⟨"Fix-me", "a < b", 1⟩] ∧
      ∀ pretty, ∃ text e, f.process.file.document pretty = .ok text ∧
        Element.read? text = some e ∧ e.tag = "file" := by
  intro f
  have hrun : f.process.error? = none ∧
      f.process.file.outline.markers = [⟨"Fix-me", "a < b", 1⟩] := by
    decide +kernel
  obtain ⟨-, hwell, hsound⟩ := document_of_process f rfl hrun.1
  have hterms : f.terms.all (fun term => isXmlName (lowered term)) = true := by decide +kernel
  refine ⟨rfl, hrun.1, hrun.2, hwell (hsound (by decide) (by decide) (by decide) ?_)⟩
  exact fun term hterm => List.all_eq_true.1 hterms term hterm

end SourceFile

end PhpOutline
