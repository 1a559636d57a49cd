import PhpOutline.Proofs.WellFormed

/-!
# Layout changes nothing but layout

A document that is laid out for readers differs from the plain one only in blanks between the
children of elements: names, attributes, the order of children and the text of every element without
children are the same. This holds of the trees that are written. It holds of the trees that are read
back too if the terms of markers are names; a term that holds markup of its own can move blanks into
an element without children.

Results:
* `Xml.Element.relaid_indent`: laying out an element;
* `Xml.Element.Relaid.unified`: reading both elements back;
* `SourceFile.State.rootElement_eq_ok`: the element of a file that has one;
* `SourceFile.document_relaid`: the two documents of a file.
-/

namespace PhpOutline

open PhpOutline.Text (isBlank lowered)
open PhpOutline.Xml

namespace Xml

/-! ## Trees that differ in layout -/

/-- Two runs of character data are the same or both hold blanks only. -/
def LikeText (s t : String) : Prop :=
  s = t ∨ allChars isBlank s = true ∧ allChars isBlank t = true

/-- Contents of two elements with children that differ only in blank runs of character data. A child
    without children has the same text on both sides. -/
inductive Content.Relaid : Content → Content → Prop
  | stop {s t : String} (htext : LikeText s t) : Relaid (.stop s) (.stop t)
  | leaf {s t tag text : String} {attributes : List Attribute} {rest rest' : Content}
      (htext : LikeText s t) (hrest : Relaid rest rest') :
      Relaid (.child s tag attributes (.stop text) rest)
        (.child t tag attributes (.stop text) rest')
  | node {s t tag : String} {attributes : List Attribute} {inner inner' rest rest' : Content}
      (htext : LikeText s t) (hchildren : inner.hasChildren = true) (hinner : Relaid inner inner')
      (hrest : Relaid rest rest') :
      Relaid (.child s tag attributes inner rest) (.child t tag attributes inner' rest')

/-- Two elements differ only in blank runs of character data in elements with children. -/
structure Element.Relaid (e d : Element) : Prop where
  tag : e.tag = d.tag
  attributes : e.attributes = d.attributes
  leaf : e.content.hasChildren = false → e.content = d.content
  node : e.content.hasChildren = true → e.content.Relaid d.content

/-! ## Laying out -/

theorem likeText_reindent (level : Nat) (s : String) : LikeText s (reindent level s) := by
  by_cases h : allChars isBlank s = true
  · exact .inr ⟨h, allChars_reindent rfl rfl level h⟩
  · exact .inl (if_neg h).symm

theorem Content.relaid_indentChildren (c : Content) (level : Nat) :
    c.Relaid (c.indentChildren level) := by
  induction c generalizing level with
  | stop text => exact .stop (likeText_reindent level text)
  | child text tag attributes inner rest ihInner ihRest =>
    -- only a child with children of its own is laid out in turn
    cases inner with
    | stop leafText => exact .leaf (likeText_reindent _ text) (ihRest level)
    | child => exact .node (likeText_reindent _ text) rfl (ihInner (level + 1)) (ihRest level)

theorem Element.relaid_indent (e : Element) : e.Relaid e.indent where
  tag := rfl
  attributes := rfl
  leaf h := by simp [indent, Content.indent, h]
  node h := by
    rw [indent, Content.indent, if_pos h]
    exact e.content.relaid_indentChildren 0

/-! ## Reading back -/

theorem LikeText.unified {s t : String} (h : LikeText s t) :
    LikeText (Xml.unified s) (Xml.unified t) := by
  rcases h with rfl | ⟨hs, ht⟩
  · exact .inl rfl
  · exact .inr ⟨allChars_unified rfl hs, allChars_unified rfl ht⟩

theorem Content.hasChildren_unified (c : Content) : c.unified.hasChildren = c.hasChildren := by
  cases c <;> rfl

theorem Content.Relaid.unified {c d : Content} (h : c.Relaid d) : c.unified.Relaid d.unified := by
  induction h with
  | stop htext => exact .stop htext.unified
  | leaf htext _ ihRest => exact .leaf htext.unified ihRest
  | node htext hchildren _ _ ihInner ihRest =>
    exact .node htext.unified ((hasChildren_unified _).trans hchildren) ihInner ihRest

theorem Element.Relaid.unified {e d : Element} (h : e.Relaid d) : e.unified.Relaid d.unified where
  tag := h.tag
  attributes := h.attributes
  leaf hleaf := by
    rw [Element.unified, Content.hasChildren_unified] at hleaf
    rw [Element.unified, Element.unified, h.leaf hleaf]
  node hnode := by
    rw [Element.unified, Content.hasChildren_unified] at hnode
    exact (h.node hnode).unified

/-- What is read from a document is the element that was written. -/
theorem Element.eq_unified_of_read? {root e : Element} (h : root.Named)
    (hread : Element.read? (Document.declaration ++ "\n" ++ root.text) = some e) :
    e = root.unified := by
  have hsource := allChars_of_read? (Option.isSome_of_eq_some hread)
  have htext : allChars isXmlChar root.text = true := by
    rw [allChars_iff] at hsource ⊢
    intro c hc
    refine hsource c ?_
    rw [String.toList_append]
    exact List.mem_append_right _ hc
  rw [Document.read?_declaration h ((allChars_text h).1 htext)] at hread
  exact (Option.some.inj hread).symm

end Xml

/-! ## The two documents of a file -/

namespace SourceFile

open Document

namespace State

variable {f : State}

theorem exists_root_of_document {pretty : Bool} {text : String} (h : f.document pretty = .ok text) :
    ∃ root body, rootElement f = .ok root ∧ (laidOut pretty root).render = some body ∧
      text = declaration ++ "\n" ++ body := by
  cases hroot : rootElement f with
  | error e =>
    rw [document, hroot] at h
    cases h
  | ok root =>
    rw [document_of_root hroot] at h
    cases hbody : (laidOut pretty root).render with
    | none =>
      rw [hbody] at h
      cases h
    | some body =>
      rw [hbody] at h
      cases h
      exact ⟨root, body, rfl, hbody, rfl⟩

theorem rootElement_eq_ok {root : Element} (h : rootElement f = .ok root) :
    root = pushUnified (ownElement f) (elements f.outline.symbols) := by
  by_cases hall : ∀ e ∈ elements f.outline.symbols, e.All isXmlChar
  · rw [rootElement_of_all hall] at h
    exact (Except.ok.inj h).symm
  · rw [rootElement_of_not_all hall] at h
    cases h

end State

open State

/-- If a file has both documents, they are the texts of two elements that differ in layout only. So
    are the elements that are read from them, if the terms of the markers are names. -/
theorem document_relaid (f : SourceFile) {flat pretty : String}
    (hflat : f.document false = .ok flat) (hpretty : f.document true = .ok pretty) :
    (∃ (e d : Element) (body body' : String), rootElement f.toState = .ok e ∧ e.Relaid d ∧
      e.render = some body ∧ flat = declaration ++ "\n" ++ body ∧
      d.render = some body' ∧ pretty = declaration ++ "\n" ++ body') ∧
    ((∀ m ∈ f.outline.markers, isXmlName (lowered m.term) = true) →
      ∀ e d, Element.read? flat = some e → Element.read? pretty = some d → e.Relaid d) := by
  obtain ⟨root, body, hroot, hbody, rfl⟩ := exists_root_of_document hflat
  obtain ⟨root', body', hroot', hbody', rfl⟩ := exists_root_of_document hpretty
  obtain rfl : root = root' := Except.ok.inj (hroot.symm.trans hroot')
  refine ⟨⟨root, root.indent, body, body', hroot, root.relaid_indent, hbody, rfl, hbody', rfl⟩, ?_⟩
  intro hterms e d hread hread'
  have hnamed : root.Named := by
    rw [rootElement_eq_ok hroot]
    exact named_pushUnified (named_ownElement hterms) (named_elements _)
  rw [laidOut, if_neg Bool.false_ne_true, Element.render_of_named hnamed,
    Option.some.injEq] at hbody
  rw [laidOut, if_pos rfl, Element.render_of_named hnamed.indent, Option.some.injEq] at hbody'
  rw [← hbody] at hread
  rw [← hbody'] at hread'
  rw [Element.eq_unified_of_read? hnamed hread, Element.eq_unified_of_read? hnamed.indent hread']
  exact root.relaid_indent.unified

/-- A file with a marker and a constant that holds blanks and line ends only. -/
theorem document_relaid_of_marker :
    let f : SourceFile := { path := "a.php", contents := "<?php // TODO: x\nconst A= '\r\n ';" }
    let g := f.process.file
    f.process.error? = none ∧
      ∃ flat pretty e d, g.document false = .ok flat ∧ g.document true = .ok pretty ∧
        Element.read? flat = some e ∧ Element.read? pretty = some d ∧ e.Relaid d := by
  intro f g
  have herror : f.process.error? = none := by decide +kernel
  have hterms : f.terms.all (fun term => isXmlName (lowered term)) = true := by decide +kernel
  have hsound : g.Sound := sound_of_process rfl herror (by decide) (by decide) (by decide)
    fun term hterm => List.all_eq_true.1 hterms term hterm
  obtain ⟨flat, e, hflat, hread, -⟩ := hsound.exists_document false
  obtain ⟨pretty, d, hpretty, hread', -⟩ := hsound.exists_document true
  exact ⟨herror, flat, pretty, e, d, hflat, hpretty, hread, hread',
    (document_relaid g hflat hpretty).2 hsound.terms e d hread hread'⟩

/-- Two terms that open an element and a comment and close them again put blanks into an element
    without children. -/
example :
    let f : SourceFile :=
      { path := "a", contents := "<?php\n// a><!-- T\n// /a><c\n", terms := ["a><!--", "/a><c"] }
    let texts (pretty : Bool) : Option (List Content) :=
      ((f.process.file.document pretty).toOption.bind Element.read?).map fun e =>
        (e.children.flatMap Element.children).map Element.content
    texts false = some [.stop "", .stop ""] ∧ texts true = some [.stop "\n    ", .stop ""] := by
  decide +kernel

end SourceFile

end PhpOutline
