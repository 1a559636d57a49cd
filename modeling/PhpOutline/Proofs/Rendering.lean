import PhpOutline.Proofs.RoundTrip
import PhpOutline.Xml.Layout

/-!
# Elements that are built, laid out and rendered

How the conditions under which an element is read back pass through the ways of making elements.

Results:
* `Element.named_node`, `Element.all_node` and their like: elements made of elements;
* `Element.Named.indent`, `Element.All.indent`: a layout keeps both conditions;
* `Element.render_isSome_iff`: an element has a text exactly if each of its names can be split;
* `Element.render_of_named`: if its names are names, that text is the plain one.
-/

namespace PhpOutline.Xml

/-! ## Elements made of elements -/

theorem Element.named_iff {e : Element} :
    e.Named ↔ isXmlName e.tag = true ∧ AttributesNamed e.attributes ∧ e.content.Named :=
  ⟨fun h => ⟨h.tag, h.attributes, h.content⟩, fun h => ⟨h.1, h.2.1, h.2.2⟩⟩

theorem Element.all_iff {p : Char → Bool} {e : Element} :
    e.All p ↔ (∀ a ∈ e.attributes, allChars p a.2 = true) ∧ e.content.All p :=
  ⟨fun h => ⟨h.attributes, h.content⟩, fun h => ⟨h.1, h.2⟩⟩

theorem Content.named_iff {c : Content} : c.Named ↔ ∀ e ∈ c.elements, e.Named := by
  induction c with
  | stop text => exact iff_of_true trivial (List.forall_mem_nil _)
  | child text tag attributes inner rest _ ih =>
    simp only [Named, elements, List.forall_mem_cons, ih, Element.named_iff, and_assoc]

theorem allChars_empty (p : Char → Bool) : allChars p "" = true := rfl

theorem Content.all_push {p : Char → Bool} {c : Content} {e : Element} :
    (c.push e).All p ↔ c.All p ∧ e.All p := by
  induction c with
  | stop text => simp [push, All, Element.all_iff, empty, allChars_empty]
  | child text tag attributes inner rest _ ih => simp only [push, All, ih, and_assoc]

theorem Content.all_ofElements {p : Char → Bool} {es : List Element} :
    (ofElements es).All p ↔ ∀ e ∈ es, e.All p := by
  induction es with
  | nil => exact iff_of_true (allChars_empty p) (List.forall_mem_nil _)
  | cons e es ih =>
    simp only [ofElements, All, List.forall_mem_cons, ih, Element.all_iff, allChars_empty,
      true_and, and_assoc]

namespace Element

variable {p : Char → Bool} {e child : Element} {tag text : String} {attributes : List Attribute}
  {es : List Element}

theorem named_leaf :
    (leaf tag attributes text).Named ↔ isXmlName tag = true ∧ AttributesNamed attributes := by
  simp [named_iff, leaf, Content.Named]

theorem named_node :
    (node tag attributes es).Named ↔
      isXmlName tag = true ∧ AttributesNamed attributes ∧ ∀ e ∈ es, e.Named := by
  rw [named_iff, node, Content.named_iff, Content.elements_ofElements]

theorem Named.push (h : e.Named) (hchild : child.Named) : (e.push child).Named := by
  refine ⟨h.tag, h.attributes, Content.named_iff.2 ?_⟩
  rw [Element.push, Content.elements_push, List.forall_mem_append]
  exact ⟨Content.named_iff.1 h.content, List.forall_mem_singleton.2 hchild⟩

theorem all_leaf :
    (leaf tag attributes text).All p ↔
      (∀ a ∈ attributes, allChars p a.2 = true) ∧ allChars p text = true := by
  rw [all_iff, leaf, Content.All]

theorem all_node :
    (node tag attributes es).All p ↔
      (∀ a ∈ attributes, allChars p a.2 = true) ∧ ∀ e ∈ es, e.All p := by
  rw [all_iff, node, Content.all_ofElements]

theorem All.push (h : e.All p) (hchild : child.All p) : (e.push child).All p :=
  ⟨h.attributes, Content.all_push.2 ⟨h.content, hchild⟩⟩

end Element

/-! ## Layout -/

theorem allChars_reindent {p : Char → Bool} (hfeed : p '\n' = true) (hspace : p ' ' = true)
    (level : Nat) {s : String} (h : allChars p s = true) :
    allChars p (reindent level s) = true := by
  unfold reindent
  split
  · simp [allChars, indentation, List.all_replicate, hfeed, hspace]
  · exact h

namespace Content

theorem Named.indentChildren {c : Content} (h : c.Named) (level : Nat) :
    (c.indentChildren level).Named := by
  induction c generalizing level with
  | stop text => trivial
  | child text tag attributes inner rest ihInner ihRest =>
    obtain ⟨htag, hattributes, hinner, hrest⟩ := h
    refine ⟨htag, hattributes, ?_, ihRest hrest level⟩
    split
    · exact ihInner hinner (level + 1)
    · exact hinner

theorem All.indentChildren {p : Char → Bool} (hfeed : p '\n' = true) (hspace : p ' ' = true)
    {c : Content} (h : c.All p) (level : Nat) : (c.indentChildren level).All p := by
  induction c generalizing level with
  | stop text => exact allChars_reindent hfeed hspace level h
  | child text tag attributes inner rest ihInner ihRest =>
    obtain ⟨htext, hattributes, hinner, hrest⟩ := h
    refine ⟨allChars_reindent hfeed hspace (level + 1) htext, hattributes, ?_,
      ihRest hrest level⟩
    split
    · exact ihInner hinner (level + 1)
    · exact hinner

end Content

namespace Element

variable {e : Element}

theorem Named.indent (h : e.Named) : e.indent.Named := by
  refine ⟨h.tag, h.attributes, ?_⟩
  unfold Element.indent Content.indent
  split
  · exact h.content.indentChildren 0
  · exact h.content

theorem All.indent {p : Char → Bool} (hfeed : p '\n' = true) (hspace : p ' ' = true)
    (h : e.All p) : e.indent.All p := by
  refine ⟨h.attributes, ?_⟩
  unfold Element.indent Content.indent
  split
  · exact h.content.indentChildren hfeed hspace 0
  · exact h.content

end Element

/-! ## Names of an element -/

/-- The names of a content, in document order. -/
def Content.names : Content → List String
  | .stop _ => []
  | .child _ tag attributes inner rest =>
    (tag :: attributes.map Prod.fst) ++ inner.names ++ rest.names

/-- The names of an element, in document order. -/
def Element.names (e : Element) : List String :=
  (e.tag :: e.attributes.map Prod.fst) ++ e.content.names

theorem Content.mem_names {c : Content} {name : String} :
    name ∈ c.names ↔ ∃ e ∈ c.elements, name ∈ e.names := by
  induction c with
  | stop text => simp [names, elements]
  | child text tag attributes inner rest _ ih =>
    simp only [names, elements, List.mem_append, ih, List.mem_cons, or_and_right, exists_or,
      exists_eq_left, Element.names]

theorem Content.Named.isXmlName_of_mem {c : Content} (h : c.Named) {name : String}
    (hmem : name ∈ c.names) : isXmlName name = true := by
  induction c with
  | stop text => simp [names] at hmem
  | child text tag attributes inner rest ihInner ihRest =>
    obtain ⟨htag, hattributes, hinner, hrest⟩ := h
    rw [names, List.mem_append, List.mem_append, List.mem_cons] at hmem
    rcases hmem with ((rfl | hname) | hmem) | hmem
    · exact htag
    · obtain ⟨a, ha, rfl⟩ := List.mem_map.1 hname
      exact hattributes.names a ha
    · exact ihInner hinner hmem
    · exact ihRest hrest hmem

theorem Element.Named.isXmlName_of_mem {e : Element} (h : e.Named) {name : String}
    (hmem : name ∈ e.names) : isXmlName name = true := by
  rw [names, List.mem_append, List.mem_cons] at hmem
  rcases hmem with (rfl | hname) | hmem
  · exact h.tag
  · obtain ⟨a, ha, rfl⟩ := List.mem_map.1 hname
    exact h.attributes.names a ha
  · exact h.content.isXmlName_of_mem hmem

theorem Content.names_indentChildren (c : Content) (level : Nat) :
    (c.indentChildren level).names = c.names := by
  induction c generalizing level with
  | stop text => rfl
  | child text tag attributes inner rest ihInner ihRest =>
    rw [indentChildren, names, names, ihRest]
    split
    · rw [ihInner]
    · rfl

theorem Element.names_indent (e : Element) : e.indent.names = e.names := by
  unfold names indent Content.indent
  split
  · rw [Content.names_indentChildren]
  · rfl

theorem Element.mem_names_push {e child : Element} {name : String} :
    name ∈ (e.push child).names ↔ name ∈ e.names ∨ name ∈ child.names := by
  have hcontent : name ∈ (e.content.push child).names ↔
      name ∈ e.content.names ∨ name ∈ child.names := by
    simp [Content.mem_names, or_and_right, exists_or]
  simp only [names, push, List.mem_append, or_assoc] at hcontent ⊢
  rw [hcontent]

theorem Element.mem_names_leaf {tag text name : String} {attributes : List Attribute} :
    name ∈ (leaf tag attributes text).names ↔ name ∈ tag :: attributes.map Prod.fst := by
  simp [names, leaf, Content.names]

theorem Element.mem_names_node {tag name : String} {attributes : List Attribute}
    {es : List Element} :
    name ∈ (node tag attributes es).names ↔
      name ∈ tag :: attributes.map Prod.fst ∨ ∃ e ∈ es, name ∈ e.names := by
  rw [names, List.mem_append, node, Content.mem_names, Content.elements_ofElements]

/-! ## Rendering -/

theorem splitName?_of_isXmlName {name : String} (h : isXmlName name = true) :
    splitName? name = some none := by
  obtain ⟨c, r, hc, hpart⟩ := exists_cons_of_isXmlName h
  unfold splitName?
  split
  · -- no name starts with a brace
    next r' heq =>
    exact absurd (List.cons.inj (hc.symm.trans heq)).1 (ne_of_isNamePart hpart)
  · rfl

theorem splitName?_isSome_of_isXmlName {name : String} (h : isXmlName name = true) :
    (splitName? name).isSome = true := by
  rw [splitName?_of_isXmlName h]
  rfl

theorem meet_isSome_iff (known : ShortNames) (name : String) :
    (known.meet name).isSome = true ↔ (splitName? name).isSome = true := by
  unfold ShortNames.meet
  split
  · next h => simp [h]
  · next h => simp [h]
  · next h =>
    split
    · simp [h]
    · simp [h]

/-- Meeting names fails at the first one that cannot be split, whatever is known before. -/
theorem foldlM_meet_isSome_iff (known : ShortNames) (names : List String) :
    (names.foldlM ShortNames.meet known).isSome = true ↔
      ∀ name ∈ names, (splitName? name).isSome = true := by
  induction names generalizing known with
  | nil => simp
  | cons name names ih =>
    rw [List.foldlM_cons, List.forall_mem_cons, ← meet_isSome_iff known]
    cases known.meet name with
    | none => simp
    | some next => simpa using ih next

theorem Content.shortNames_isSome_iff (known : ShortNames) (c : Content) :
    (c.shortNames known).isSome = true ↔ ∀ name ∈ c.names, (splitName? name).isSome = true := by
  induction c generalizing known with
  | stop text => simp [shortNames, names]
  | child text tag attributes inner rest ihInner ihRest =>
    rw [shortNames, names, List.forall_mem_append, List.forall_mem_append,
      ← foldlM_meet_isSome_iff known]
    -- what is known grows on the way, but whether a name can be met does not depend on it
    cases (tag :: attributes.map Prod.fst).foldlM ShortNames.meet known with
    | none => simp
    | some next =>
      rw [← ihInner next]
      cases hinner : inner.shortNames next with
      | none => simp [hinner]
      | some last => simpa [hinner] using ihRest last

theorem Element.render_isSome_iff (e : Element) :
    e.render.isSome = true ↔ ∀ name ∈ e.names, (splitName? name).isSome = true := by
  rw [render, names, List.forall_mem_append, ← foldlM_meet_isSome_iff []]
  cases (e.tag :: e.attributes.map Prod.fst).foldlM ShortNames.meet [] with
  | none => simp
  | some known =>
    rw [← Content.shortNames_isSome_iff known]
    cases hcontent : e.content.shortNames known with
    | none => simp [hcontent]
    | some last => simp [hcontent]

/-! ### Plain names -/

theorem foldlM_meet_of_plain {names : List String} (h : ∀ name ∈ names, isXmlName name = true)
    (known : ShortNames) : names.foldlM ShortNames.meet known = some known := by
  induction names with
  | nil => rfl
  | cons name names ih =>
    rw [List.forall_mem_cons] at h
    rw [List.foldlM_cons, ShortNames.meet, splitName?_of_isXmlName h.1]
    exact ih h.2

theorem Content.Named.shortNames {c : Content} (h : c.Named) (known : ShortNames) :
    c.shortNames known = some known := by
  induction c with
  | stop text => rfl
  | child text tag attributes inner rest ihInner ihRest =>
    obtain ⟨htag, hattributes, hinner, hrest⟩ := h
    have hnames : ∀ name ∈ tag :: attributes.map Prod.fst, isXmlName name = true :=
      List.forall_mem_cons.2 ⟨htag, List.forall_mem_map.2 hattributes.names⟩
    rw [Content.shortNames, foldlM_meet_of_plain hnames]
    simp [ihInner hinner, ihRest hrest]

theorem write_of_isXmlName (known : ShortNames) {name : String} (h : isXmlName name = true) :
    known.write name = name := by
  rw [ShortNames.write, splitName?_of_isXmlName h]

theorem flatMap_printAttribute {write : String → String} {attributes : List Attribute}
    (h : ∀ a ∈ attributes, write a.1 = a.1) :
    attributes.flatMap (printAttribute write) = attributes.flatMap (printAttribute id) := by
  have hmap : attributes.map (printAttribute write) = attributes.map (printAttribute id) :=
    List.map_congr_left fun a ha => by rw [printAttribute, h a ha]; rfl
  rw [List.flatMap_def, List.flatMap_def, hmap]

theorem Content.Named.print {c : Content} (h : c.Named) (known : ShortNames) :
    c.print known.write = c.print id := by
  induction c with
  | stop text => rfl
  | child text tag attributes inner rest ihInner ihRest =>
    obtain ⟨htag, hattributes, hinner, hrest⟩ := h
    have hwrite : ∀ a ∈ attributes, known.write a.1 = a.1 := fun a ha =>
      write_of_isXmlName known (hattributes.names a ha)
    simp only [Content.print, printOpening, printRest, write_of_isXmlName known htag,
      flatMap_printAttribute hwrite, ihInner hinner, ihRest hrest, id_eq]

theorem Element.render_of_named {e : Element} (h : e.Named) : e.render = some e.text := by
  have hnames : ∀ name ∈ e.tag :: e.attributes.map Prod.fst, isXmlName name = true :=
    List.forall_mem_cons.2 ⟨h.tag, List.forall_mem_map.2 h.attributes.names⟩
  have hwrite : ∀ a ∈ e.attributes, ShortNames.write [] a.1 = a.1 := fun a ha =>
    write_of_isXmlName [] (h.attributes.names a ha)
  have hdeclarations : ShortNames.declarations [] = [] := by
    simp [ShortNames.declarations]
  have hprint : e.print (ShortNames.write []) (ShortNames.declarations []) = e.print id [] := by
    simp only [Element.print, printRest, write_of_isXmlName [] h.tag, hdeclarations,
      flatMap_printAttribute hwrite, h.content.print, id_eq]
  rw [render, foldlM_meet_of_plain hnames]
  simp [h.content.shortNames, hprint, text]

end PhpOutline.Xml
