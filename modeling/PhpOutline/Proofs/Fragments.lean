import PhpOutline.Proofs.WellFormed

/-!
# Fragments that come back unchanged

A declaration puts its strings into an element, some as character data and some as values of
attributes. The element comes back from its text with every string as it was if all characters may
occur in a document and character data holds no carriage return, which a reader takes for the end of
a line. So adding the fragment of such a declaration to an element adds one child, and the text of
that child is the fragment.

Results:
* `Xml.Element.unified_of_readable`: an element whose strings are readable is read back as it is;
* `Xml.Element.readable_node` and the like: the strings of elements made of elements;
* `ClassDecl.readable_toElement` and the like: an element has the strings of its declaration;
* `Declaration.merge_fragment`: adding the fragment of a declaration.
-/

namespace PhpOutline

open PhpOutline.Xml

/-! ## Strings -/

/-- Strings that go into an element: those that become character data, and those that become values
    of attributes. -/
structure Strings where
  texts : List String := []
  values : List String := []
  deriving DecidableEq, Repr

/-- A character of a document that a reader gives back from character data. -/
def isTextChar (c : Char) : Bool := isXmlChar c && c != '\r'

theorem ample_isTextChar : Ample isTextChar where
  feed := rfl
  plain c hc := by
    have hreturn : c ≠ '\r' := by
      rintro rfl
      exact absurd hc (by decide)
    simp [isTextChar, ample_isXmlChar.plain c hc, hreturn]

theorem allChars_isXmlChar_of_isTextChar {s : String} (h : allChars isTextChar s = true) :
    allChars isXmlChar s = true := by
  rw [allChars_iff] at h ⊢
  exact fun c hc => (Bool.and_eq_true_iff.1 (h c hc)).1

namespace Strings

instance : Append Strings where
  append a b := ⟨a.texts ++ b.texts, a.values ++ b.values⟩

/-- The strings of several parts. -/
def flatten (parts : List Strings) : Strings := ⟨parts.flatMap texts, parts.flatMap values⟩

/-- A reader gives the strings back as they were written. Values may hold carriage returns, because
    there they are written as references. -/
structure Readable (s : Strings) : Prop where
  texts : ∀ t ∈ s.texts, allChars isTextChar t = true
  values : ∀ v ∈ s.values, allChars isXmlChar v = true

theorem readable_iff {s : Strings} :
    s.Readable ↔ (∀ t ∈ s.texts, allChars isTextChar t = true) ∧
      ∀ v ∈ s.values, allChars isXmlChar v = true :=
  ⟨fun h => ⟨h.texts, h.values⟩, fun h => ⟨h.1, h.2⟩⟩

@[simp] theorem readable_mk {texts values : List String} :
    Readable ⟨texts, values⟩ ↔ (∀ t ∈ texts, allChars isTextChar t = true) ∧
      ∀ v ∈ values, allChars isXmlChar v = true :=
  readable_iff

instance (s : Strings) : Decidable s.Readable := decidable_of_iff' _ readable_iff

@[simp] theorem texts_append (a b : Strings) : (a ++ b).texts = a.texts ++ b.texts := rfl

@[simp] theorem values_append (a b : Strings) : (a ++ b).values = a.values ++ b.values := rfl

@[simp] theorem readable_append {a b : Strings} : (a ++ b).Readable ↔ a.Readable ∧ b.Readable := by
  simp only [readable_iff, texts_append, values_append, List.forall_mem_append]
  exact and_and_and_comm

@[simp] theorem readable_flatten {parts : List Strings} :
    (flatten parts).Readable ↔ ∀ s ∈ parts, s.Readable := by
  simp only [readable_iff, flatten, List.forall_mem_flatMap, ← forall₂_and]

end Strings

/-! ## Strings of elements -/

namespace Xml

/-- The strings of a content, in document order. -/
def Content.strings : Content → Strings
  | .stop text => ⟨[text], []⟩
  | .child text _ attributes inner rest =>
    ⟨[text], attributes.map Prod.snd⟩ ++ inner.strings ++ rest.strings

/-- The strings of an element, in document order. -/
def Element.strings (e : Element) : Strings := ⟨[], e.attributes.map Prod.snd⟩ ++ e.content.strings

theorem unified_of_allChars {s : String} (h : allChars isTextChar s = true) : unified s = s := by
  have hreturn : '\r' ∉ s.toList := fun hmem => absurd (allChars_iff.1 h _ hmem) (by decide)
  have hsame := unifyLineEnds_append hreturn []
  rw [List.append_nil] at hsame
  rw [unified, hsame, unifyLineEnds, List.append_nil, String.ofList_toList]

theorem Content.unified_of_readable {c : Content} (h : c.strings.Readable) : c.unified = c := by
  induction c with
  | stop text => rw [unified, unified_of_allChars (h.texts text List.mem_cons_self)]
  | child text tag attributes inner rest ihInner ihRest =>
    simp only [strings, Strings.readable_append] at h
    obtain ⟨⟨hown, hinner⟩, hrest⟩ := h
    rw [unified, unified_of_allChars (hown.texts text List.mem_cons_self), ihInner hinner,
      ihRest hrest]

theorem Content.all_of_readable {c : Content} (h : c.strings.Readable) : c.All isXmlChar := by
  induction c with
  | stop text => exact allChars_isXmlChar_of_isTextChar (h.texts text List.mem_cons_self)
  | child text tag attributes inner rest ihInner ihRest =>
    simp only [strings, Strings.readable_append] at h
    obtain ⟨⟨hown, hinner⟩, hrest⟩ := h
    exact ⟨allChars_isXmlChar_of_isTextChar (hown.texts text List.mem_cons_self),
      List.forall_mem_map.1 hown.values, ihInner hinner, ihRest hrest⟩

theorem Content.readable_of_all {c : Content} (h : c.All isTextChar) : c.strings.Readable := by
  induction c with
  | stop text => exact ⟨List.forall_mem_singleton.2 h, List.forall_mem_nil _⟩
  | child text tag attributes inner rest ihInner ihRest =>
    obtain ⟨htext, hattributes, hinner, hrest⟩ := h
    simp only [strings, Strings.readable_append]
    refine ⟨⟨⟨List.forall_mem_singleton.2 htext, List.forall_mem_map.2 fun a ha => ?_⟩,
      ihInner hinner⟩, ihRest hrest⟩
    exact allChars_isXmlChar_of_isTextChar (hattributes a ha)

theorem Content.readable_ofElements {es : List Element} :
    (ofElements es).strings.Readable ↔ ∀ e ∈ es, e.strings.Readable := by
  induction es with
  | nil => simp [ofElements, empty, strings, allChars_empty]
  | cons e es ih =>
    simp [ofElements, strings, ih, Element.strings, allChars_empty]

namespace Element

variable {e : Element} {tag text : String} {attributes : List Attribute} {es : List Element}

theorem unified_of_readable (h : e.strings.Readable) : e.unified = e := by
  rw [unified, Content.unified_of_readable (Strings.readable_append.1 h).2]

theorem all_of_readable (h : e.strings.Readable) : e.All isXmlChar := by
  obtain ⟨hattributes, hcontent⟩ := Strings.readable_append.1 h
  exact ⟨List.forall_mem_map.1 hattributes.values, Content.all_of_readable hcontent⟩

theorem readable_of_all (h : e.All isTextChar) : e.strings.Readable := by
  refine Strings.readable_append.2 ⟨⟨List.forall_mem_nil _, List.forall_mem_map.2 fun a ha => ?_⟩,
    Content.readable_of_all h.content⟩
  exact allChars_isXmlChar_of_isTextChar (h.attributes a ha)

@[simp] theorem readable_leaf :
    (leaf tag attributes text).strings.Readable ↔
      (∀ a ∈ attributes, allChars isXmlChar a.2 = true) ∧ allChars isTextChar text = true := by
  rw [strings, Strings.readable_append, Strings.readable_mk, List.forall_mem_map]
  simp [leaf, Content.strings]

@[simp] theorem readable_node :
    (node tag attributes es).strings.Readable ↔
      (∀ a ∈ attributes, allChars isXmlChar a.2 = true) ∧ ∀ e ∈ es, e.strings.Readable := by
  rw [strings, Strings.readable_append, Strings.readable_mk, List.forall_mem_map, node,
    Content.readable_ofElements, and_iff_right (List.forall_mem_nil _)]

end Element

end Xml

/-! ## Strings of declarations -/

/-- The strings of a docblock. -/
def Docblock.strings (b : Docblock) : Strings :=
  ⟨[b.short, b.long], b.tags.flatMap fun tag => [tag.name, tag.description]⟩

/-- The strings of a docblock, if there is one. -/
def docStrings (doc : Option Docblock) : Strings := .flatten (doc.toList.map Docblock.strings)

/-- The strings of an argument. -/
def Argument.strings (a : Argument) : Strings := ⟨a.name :: (a.default.toList ++ a.type.toList), []⟩

/-- The strings of a function that are no values of its own element. -/
def FunctionDecl.signatureStrings (f : FunctionDecl) : Strings :=
  ⟨f.name :: f.returnType.toList, []⟩ ++ docStrings f.docblock ++
    .flatten (f.arguments.map Argument.strings)

/-- The strings of a function. -/
def FunctionDecl.strings (f : FunctionDecl) : Strings := ⟨[], [f.scope]⟩ ++ f.signatureStrings

/-- The strings of a method; its namespace is not written. -/
def MethodDecl.strings (m : MethodDecl) : Strings :=
  ⟨[], [m.visibility.word]⟩ ++ m.signatureStrings

/-- The strings of a property. -/
def PropertyDecl.strings (d : PropertyDecl) : Strings :=
  ⟨d.name :: (d.default.toList ++ d.type.toList), [d.visibility.word]⟩ ++ docStrings d.docblock

/-- The strings of a constant. -/
def ConstantDecl.strings (d : ConstantDecl) : Strings :=
  ⟨[d.name, d.value], [d.scope]⟩ ++ docStrings d.docblock

/-- The strings of an included file; its namespace is not written. -/
def IncludeDecl.strings (d : IncludeDecl) : Strings :=
  ⟨[d.name], [d.type]⟩ ++ docStrings d.docblock

/-- The strings of an interface. -/
def InterfaceDecl.strings (d : InterfaceDecl) : Strings :=
  ⟨d.name :: d.parents, [d.scope]⟩ ++ docStrings d.docblock ++
    .flatten (d.constants.map ConstantDecl.strings) ++ .flatten (d.methods.map MethodDecl.strings)

/-- The strings of a class; it has no list of interfaces that it extends. -/
def ClassDecl.strings (d : ClassDecl) : Strings :=
  ⟨d.name :: (d.parent.toList ++ d.interfaces), [d.scope]⟩ ++ docStrings d.docblock ++
    .flatten (d.constants.map ConstantDecl.strings) ++
    .flatten (d.methods.map MethodDecl.strings) ++
    .flatten (d.properties.map PropertyDecl.strings)

/-! ## The element of a declaration has its strings -/

@[simp] theorem allChars_isXmlChar_repr_int (n : Int) : allChars isXmlChar n.repr = true :=
  ample_isXmlChar.repr_int n

@[simp] theorem allChars_isXmlChar_flagText (flag : Bool) :
    allChars isXmlChar (flagText flag) = true :=
  ample_isXmlChar.flagText flag

@[simp] theorem readable_leaves {tag : String} {texts : List String} :
    (∀ e ∈ texts.map (Element.leaf tag []), e.strings.Readable) ↔
      ∀ t ∈ texts, allChars isTextChar t = true := by
  rw [List.forall_mem_map]
  simp

/-- A missing text is written as the empty one. -/
@[simp] theorem allChars_getD_iff {p : Char → Bool} {value : Option String} :
    allChars p (value.getD "") = true ↔ ∀ t ∈ value.toList, allChars p t = true := by
  cases value with
  | none => simp [allChars_empty]
  | some text => simp

/-- The empty text is left out like a missing one. -/
@[simp] theorem forall_mem_filter_iff {p : Char → Bool} {value : Option String} :
    (∀ t ∈ (value.filter (· != "")).toList, allChars p t = true) ↔
      ∀ t ∈ value.toList, allChars p t = true := by
  cases value with
  | none => simp
  | some text =>
    by_cases h : text = ""
    · simp [h, Option.filter, allChars_empty]
    · simp [h, Option.filter]

theorem Docblock.readable_toElement (b : Docblock) :
    b.toElement.strings.Readable ↔ b.strings.Readable := by
  have htag (tag : DocTag) :
      (Element.leaf "tag" [("name", tag.name), ("description", tag.description)]
        "").strings.Readable ↔ ∀ v ∈ [tag.name, tag.description], allChars isXmlChar v = true := by
    simp [allChars_empty]
  simp only [toElement, strings, Element.readable_node, List.forall_mem_append, List.forall_mem_map,
    Strings.readable_mk, List.forall_mem_flatMap, htag]
  simp

/-- Parts of a declaration that each have an element of their own. -/
theorem readable_map {α : Type} {toElement : α → Element} {strings : α → Strings}
    (h : ∀ a, (toElement a).strings.Readable ↔ (strings a).Readable) (parts : List α) :
    (∀ e ∈ parts.map toElement, e.strings.Readable) ↔
      (Strings.flatten (parts.map strings)).Readable := by
  rw [Strings.readable_flatten, List.forall_mem_map, List.forall_mem_map]
  exact forall₂_congr fun a _ => h a

theorem readable_docElements (doc : Option Docblock) :
    (∀ e ∈ docElements doc, e.strings.Readable) ↔ (docStrings doc).Readable :=
  readable_map Docblock.readable_toElement doc.toList

theorem Argument.readable_toElement (a : Argument) :
    a.toElement.strings.Readable ↔ a.strings.Readable := by
  simp only [toElement, strings, Element.readable_node, Element.readable_leaf, List.forall_mem_cons,
    Strings.readable_mk, List.forall_mem_append, allChars_getD_iff]
  simp

theorem FunctionDecl.readable_signature (f : FunctionDecl) :
    (∀ e ∈ f.signature, e.strings.Readable) ↔ f.signatureStrings.Readable := by
  simp only [signature, signatureStrings, List.forall_mem_cons, List.forall_mem_append,
    readable_docElements, readable_leaves, forall_mem_filter_iff, Element.readable_leaf,
    readable_map Argument.readable_toElement, Strings.readable_append, Strings.readable_mk]
  simp [and_assoc]

theorem FunctionDecl.readable_toElement (f : FunctionDecl) :
    f.toElement.strings.Readable ↔ f.strings.Readable := by
  rw [toElement, Element.readable_node, f.readable_signature, strings]
  simp

theorem MethodDecl.readable_toElement (m : MethodDecl) :
    m.toElement.strings.Readable ↔ m.strings.Readable := by
  rw [toElement, Element.readable_node, m.readable_signature, strings]
  simp

theorem PropertyDecl.readable_toElement (d : PropertyDecl) :
    d.toElement.strings.Readable ↔ d.strings.Readable := by
  simp only [toElement, strings, Element.readable_node, Element.readable_leaf, List.forall_mem_cons,
    Strings.readable_mk, List.forall_mem_append, allChars_getD_iff, readable_docElements,
    readable_leaves, forall_mem_filter_iff, Strings.readable_append]
  simp [and_assoc, and_left_comm]

theorem ConstantDecl.readable_toElement (d : ConstantDecl) :
    d.toElement.strings.Readable ↔ d.strings.Readable := by
  simp only [toElement, strings, Element.readable_node, Element.readable_leaf, List.forall_mem_cons,
    Strings.readable_mk, List.forall_mem_append, readable_docElements, Strings.readable_append]
  simp [and_assoc, and_left_comm]

theorem IncludeDecl.readable_toElement (d : IncludeDecl) :
    d.toElement.strings.Readable ↔ d.strings.Readable := by
  simp only [toElement, strings, Element.readable_node, Element.readable_leaf, List.forall_mem_cons,
    Strings.readable_mk, readable_docElements, Strings.readable_append]
  simp [and_assoc, and_left_comm]

theorem InterfaceDecl.readable_toElement (d : InterfaceDecl) :
    d.toElement.strings.Readable ↔ d.strings.Readable := by
  simp only [toElement, strings, Element.readable_node, Element.readable_leaf, List.forall_mem_cons,
    Strings.readable_mk, List.forall_mem_append, List.cons_append, readable_docElements,
    readable_leaves, readable_map ConstantDecl.readable_toElement,
    readable_map MethodDecl.readable_toElement, Strings.readable_append]
  simp [and_assoc, and_left_comm]

theorem ClassDecl.readable_toElement (d : ClassDecl) :
    d.toElement.strings.Readable ↔ d.strings.Readable := by
  simp only [toElement, strings, Element.readable_node, Element.readable_leaf, List.forall_mem_cons,
    Strings.readable_mk, List.forall_mem_append, allChars_getD_iff, readable_docElements,
    readable_leaves, readable_map ConstantDecl.readable_toElement,
    readable_map MethodDecl.readable_toElement, readable_map PropertyDecl.readable_toElement,
    Strings.readable_append]
  simp [and_assoc, and_left_comm]

/-! ## Adding a fragment -/

/-- Anything that describes itself as a fragment. -/
inductive Declaration where
  | function (d : FunctionDecl)
  | method (d : MethodDecl)
  | property (d : PropertyDecl)
  | constant (d : ConstantDecl)
  | inclusion (d : IncludeDecl)
  | interface (d : InterfaceDecl)
  | classDef (d : ClassDecl)
  deriving DecidableEq, Repr

namespace Declaration

/-- The element that describes a declaration. -/
def toElement : Declaration → Element
  | .function d => d.toElement
  | .method d => d.toElement
  | .property d => d.toElement
  | .constant d => d.toElement
  | .inclusion d => d.toElement
  | .interface d => d.toElement
  | .classDef d => d.toElement

/-- The text of the element that describes a declaration. -/
def fragment (d : Declaration) : String := d.toElement.text

/-- The strings of a declaration. -/
def strings : Declaration → Strings
  | .function d => d.strings
  | .method d => d.strings
  | .property d => d.strings
  | .constant d => d.strings
  | .inclusion d => d.strings
  | .interface d => d.strings
  | .classDef d => d.strings

theorem named_toElement (d : Declaration) : d.toElement.Named := by
  cases d with
  | function d => exact d.named_toElement
  | method d => exact d.named_toElement
  | property d => exact d.named_toElement
  | constant d => exact d.named_toElement
  | inclusion d => exact d.named_toElement
  | interface d => exact d.named_toElement
  | classDef d => exact d.named_toElement

theorem readable_toElement (d : Declaration) :
    d.toElement.strings.Readable ↔ d.strings.Readable := by
  cases d with
  | function d => exact d.readable_toElement
  | method d => exact d.readable_toElement
  | property d => exact d.readable_toElement
  | constant d => exact d.readable_toElement
  | inclusion d => exact d.readable_toElement
  | interface d => exact d.readable_toElement
  | classDef d => exact d.readable_toElement

theorem render_toElement (d : Declaration) : d.toElement.render = some d.fragment :=
  Element.render_of_named d.named_toElement

/-- Adding the fragment of a declaration whose strings are readable succeeds. It keeps what the
    element had and adds one child, whose own text is the fragment. -/
theorem merge_fragment (d : Declaration) (h : d.strings.Readable) (root : Element) :
    d.toElement.render = some d.fragment ∧
      ∃ root' node, Document.merge root d.fragment = .ok root' ∧ root' = root.push node ∧
        root'.tag = root.tag ∧ root'.attributes = root.attributes ∧
        root'.children = root.children ++ [node] ∧ node.render = some d.fragment := by
  have hreadable := d.readable_toElement.2 h
  have hmerge := Document.merge_text d.named_toElement (Element.all_of_readable hreadable) root
  rw [Element.unified_of_readable hreadable] at hmerge
  exact ⟨d.render_toElement, _, d.toElement, hmerge, rfl, rfl, rfl, Element.children_push _ _,
    d.render_toElement⟩

/-- A class with escapes in its strings, blanks only in a value, and line ends in attributes. -/
theorem merge_fragment_class :
    let doc : Docblock := { short := "&amp; ]]>", tags := [⟨"see", "a\r\n\t\"b\""⟩], line := 2 }
    let constant : ConstantDecl := { name := "A", value := " \n\t", docblock := some doc }
    let d : ClassDecl := { name := "<C>", scope := "N&M", line := 3, constants := [constant] }
    let root : Element := .node "file" [] [.leaf "name" [] "x"]
    d.strings.Readable ∧
      ∃ root' node, Document.merge root (classDef d).fragment = .ok root' ∧
        root'.children = [.leaf "name" [] "x", node] ∧
        node.render = some (classDef d).fragment := by
  intro doc constant d root
  have hreadable : (classDef d).strings.Readable := by decide
  obtain ⟨-, root', node, hmerge, -, -, -, hchildren, hrender⟩ :=
    merge_fragment (classDef d) hreadable root
  exact ⟨hreadable, root', node, hmerge, hchildren, hrender⟩

end Declaration

end PhpOutline
