import PhpOutline.Proofs.Fragments
import PhpOutline.Proofs.Lifecycle

/-!
# What a document lists

The document of a file that was read is one element. Its children are the docblock of the file, the
markers, the aliases and then the declarations, each group in the order of the outline, and nothing
else. Reading the document gives this element back if the strings of the file are readable, and they
are if path, digest and contents hold no carriage return and no character that a document may not
hold.

Results:
* `Text.trim_trim`, `Marker.trimmed_of_mem_scan`: the texts of markers are trimmed already;
* `Document.pushUnified_of_readable`: adding declarations that are read back as they are;
* `SourceFile.State.document_of_readable`: the document as the text of one element;
* `Outline.readable_of_ofSource`: strings of a file that was read;
* `SourceFile.document_listing`: what the document of a file lists.
-/

namespace PhpOutline

open PhpOutline.Text
open PhpOutline.Xml

/-! ## Texts of markers -/

namespace Text

theorem isBlank_of_head?_trimStart {cs : List Char} {c : Char}
    (h : (trimStart cs).head? = some c) : isBlank c = false := by
  have hhead := List.head?_dropWhile_not isBlank cs
  rw [trimStart] at h
  rw [h] at hhead
  exact hhead

theorem not_isBlank_getLast?_trimEnd {cs : List Char} {c : Char}
    (h : (trimEnd cs).getLast? = some c) : isBlank c = false := by
  rw [trimEnd, List.getLast?_reverse] at h
  exact isBlank_of_head?_trimStart h

theorem trimEnd_isPrefix (cs : List Char) : trimEnd cs <+: cs := by
  rw [trimEnd, ← List.reverse_suffix, List.reverse_reverse]
  exact List.dropWhile_suffix _

/-- Trimming a text again leaves it. -/
theorem trim_trim (cs : List Char) : trim (trim cs) = trim cs := by
  refine trim_eq_self (fun c hc => ?_) fun c hc => ?_
  · obtain ⟨rest, hrest⟩ := trimEnd_isPrefix (trimStart cs)
    have hhead : (trimStart cs).head? = some c := by
      rw [← hrest, List.head?_append, ← trim, hc]
      rfl
    exact isBlank_of_head?_trimStart hhead
  · exact not_isBlank_getLast?_trimEnd hc

end Text

namespace Marker

theorem trimmed_of_mem_inLine {terms : List String} {cs : List Char} {entry : String × String}
    (h : entry ∈ inLine terms cs) : trimmed entry.2 = entry.2 := by
  fun_induction inLine terms cs with
  | case1 => cases h
  | case2 c r hnone ih => exact ih h
  | case3 c r term after hsome text hlt ih =>
    rcases List.mem_cons.1 h with rfl | h
    · rw [trimmed, String.toList_ofList, trim_trim]
    · exact ih h

theorem trimmed_of_mem_inLines {terms : List String} {first : Int} {ls : List (List Char)}
    {m : Marker} (h : m ∈ inLines terms first ls) : trimmed m.content = m.content := by
  induction ls generalizing first with
  | nil => cases h
  | cons line later ih =>
    rw [inLines, List.mem_append, List.mem_map] at h
    rcases h with ⟨entry, hentry, rfl⟩ | h
    · exact trimmed_of_mem_inLine hentry
    · exact ih h

theorem trimmed_of_mem_scan {terms : List String} {contents : String} {m : Marker}
    (h : m ∈ scan terms contents) : trimmed m.content = m.content := trimmed_of_mem_inLines h

end Marker

/-! ## Adding declarations -/

namespace Symbols

/-- The declarations of a file, in the order of a document. -/
def declarations (s : Symbols) : List Declaration :=
  s.includes.map .inclusion ++ s.constants.values.map .constant ++
    s.functions.values.map .function ++ s.interfaces.values.map .interface ++
    s.classes.values.map .classDef

theorem elements_eq (s : Symbols) :
    Document.elements s = s.declarations.map Declaration.toElement := by
  simp only [Document.elements, declarations, List.map_append, List.map_map]
  rfl

end Symbols

namespace Xml

theorem Content.push_ofElements (es : List Element) (e : Element) :
    (ofElements es).push e = ofElements (es ++ [e]) := by
  induction es with
  | nil => rfl
  | cons first es ih => rw [ofElements, push, ih, List.cons_append, ofElements]

theorem Element.push_node (tag : String) (attributes : List Attribute) (es : List Element)
    (e : Element) : (node tag attributes es).push e = node tag attributes (es ++ [e]) := by
  rw [push, node, Content.push_ofElements, node]

end Xml

namespace Document

/-- Elements that are read back as they are become the last children. -/
theorem pushUnified_of_readable {added : List Element} (h : ∀ e ∈ added, e.strings.Readable)
    (tag : String) (attributes : List Attribute) (es : List Element) :
    pushUnified (.node tag attributes es) added = .node tag attributes (es ++ added) := by
  induction added generalizing es with
  | nil => rw [List.append_nil]; rfl
  | cons e added ih =>
    rw [List.forall_mem_cons] at h
    rw [pushUnified, List.foldl_cons, ← pushUnified, Element.unified_of_readable h.1,
      Element.push_node, ih h.2, ← List.append_cons]

/-- The elements of an outline that are no declarations, if the texts of its markers are trimmed. -/
theorem fileElements_eq {o : Outline} (h : ∀ m ∈ o.markers, trimmed m.content = m.content) :
    fileElements o = o.docblock.toList.map Docblock.toElement ++
      (if o.markers = [] then [] else [.node "markers" [] (o.markers.map fun m =>
        .leaf (lowered m.term) [("line", toString m.line)] m.content)]) ++
      o.symbols.aliases.map fun entry => .leaf "namespace-alias" [("name", entry.1)] entry.2 := by
  have hmarkers : o.markers.map markerElement =
      o.markers.map fun m => .leaf (lowered m.term) [("line", toString m.line)] m.content :=
    List.map_congr_left fun m hm => by rw [markerElement, h m hm]
  simp only [fileElements, hmarkers, List.isEmpty_iff]
  rfl

end Document

/-! ## Strings of a file -/

/-- The strings of an outline. -/
def Outline.strings (o : Outline) : Strings :=
  docStrings o.docblock ++ ⟨o.markers.map Marker.content, []⟩ ++
    ⟨o.symbols.aliases.map Prod.snd, o.symbols.aliases.map Prod.fst⟩ ++
    .flatten (o.symbols.declarations.map Declaration.strings)

/-- The strings of a file that its document tells. -/
def SourceFile.State.strings (f : SourceFile.State) : Strings :=
  ⟨[], f.path :: f.digest.toList⟩ ++ f.outline.strings

namespace Document

theorem readable_elements {s : Symbols} :
    (∀ e ∈ elements s, e.strings.Readable) ↔
      (Strings.flatten (s.declarations.map Declaration.strings)).Readable := by
  rw [s.elements_eq]
  exact readable_map Declaration.readable_toElement s.declarations

theorem readable_markerElement {m : Marker} (h : allChars isTextChar m.content = true) :
    (markerElement m).strings.Readable := by
  refine Element.readable_leaf.2 ⟨List.forall_mem_singleton.2 (allChars_isXmlChar_repr_int _), ?_⟩
  exact allChars_ofList.2 fun c hc => allChars_iff.1 h c (trim_subset _ hc)

theorem readable_fileElements {o : Outline} (h : o.strings.Readable) :
    ∀ e ∈ fileElements o, e.strings.Readable := by
  simp only [Outline.strings, Strings.readable_append, Strings.readable_mk] at h
  obtain ⟨⟨⟨hdoc, hmarkers, -⟩, htargets, hnames⟩, -⟩ := h
  intro e he
  rcases mem_fileElements.1 he with he | ⟨-, rfl⟩ | ⟨entry, hentry, rfl⟩
  · exact (readable_docElements _).2 hdoc e he
  · refine Element.readable_node.2 ⟨List.forall_mem_nil _, List.forall_mem_map.2 fun m hm => ?_⟩
    exact readable_markerElement (List.forall_mem_map.1 hmarkers m hm)
  · exact Element.readable_leaf.2
      ⟨List.forall_mem_singleton.2 (List.forall_mem_map.1 hnames entry hentry),
        List.forall_mem_map.1 htargets entry hentry⟩

end Document

/-- The strings of an outline are readable if its source holds no carriage return and no character
    that a document may not hold. -/
theorem Outline.readable_of_ofSource {path contents : String} {terms : List String} {o : Outline}
    (hcontents : allChars isTextChar contents = true)
    (h : Outline.ofSource path contents terms = .ok o) : o.strings.Readable := by
  have hall := all_of_ofSource ample_isTextChar hcontents h
  simp only [strings, Strings.readable_append, Strings.readable_mk, List.forall_mem_map]
  refine ⟨⟨⟨(readable_docElements _).1 ?_, hall.markers, List.forall_mem_nil _⟩, ?_, ?_⟩, ?_⟩
  · exact fun e he => Element.readable_of_all (all_docElements hall.docblock e he)
  · exact fun entry hentry => (hall.symbols.aliases entry hentry).2
  · exact fun entry hentry =>
      allChars_isXmlChar_of_isTextChar (hall.symbols.aliases entry hentry).1
  · refine Document.readable_elements.1 fun e he => ?_
    exact Element.readable_of_all (Document.all_elements hall.symbols e he)

/-! ## Documents -/

namespace SourceFile

open Document

namespace State

variable {f : State}

/-- The element that the document of a file with readable strings tells. -/
def listing (f : State) : Element :=
  .node "file" [("path", relativePath f.path), ("hash", f.digest.getD "")]
    (fileElements f.outline ++ f.outline.symbols.declarations.map Declaration.toElement)

theorem named_listing (hterms : ∀ m ∈ f.outline.markers, isXmlName (lowered m.term) = true) :
    f.listing.Named := by
  refine Element.named_node.2 ⟨by decide, attributesNamed_own _ _, ?_⟩
  rw [List.forall_mem_append, ← Symbols.elements_eq]
  exact ⟨named_fileElements hterms, named_elements _⟩

theorem readable_listing (h : f.strings.Readable) : f.listing.strings.Readable := by
  simp only [strings, Strings.readable_append, Strings.readable_mk, List.forall_mem_cons] at h
  obtain ⟨⟨-, hpath, hdigest⟩, houtline⟩ := h
  have hrelative : allChars isXmlChar (relativePath f.path) = true :=
    allChars_ofList.2 fun c hc => allChars_iff.1 hpath c ((List.dropWhile_sublist _).subset hc)
  refine Element.readable_node.2 ⟨by simp [hrelative, allChars_getD_iff.2 hdigest], ?_⟩
  rw [List.forall_mem_append, ← Symbols.elements_eq, readable_elements]
  exact ⟨readable_fileElements houtline, (Strings.readable_append.1 houtline).2⟩

theorem rootElement_of_readable (h : f.strings.Readable) : rootElement f = .ok f.listing := by
  have hreadable := (Strings.readable_append.1 (Strings.readable_append.1 h).2).2
  rw [← readable_elements] at hreadable
  rw [rootElement_of_all fun e he => Element.all_of_readable (hreadable e he), ownElement,
    pushUnified_of_readable hreadable, Symbols.elements_eq, listing]

/-- The document of a file with readable strings is the text of its listing, and it is read back. -/
theorem document_of_readable (h : f.strings.Readable)
    (hterms : ∀ m ∈ f.outline.markers, isXmlName (lowered m.term) = true) :
    ∃ text, f.document false = .ok text ∧ Element.read? text = some f.listing := by
  have hnamed := named_listing hterms
  have hreadable := readable_listing h
  refine ⟨declaration ++ "\n" ++ f.listing.text, ?_, ?_⟩
  · rw [document_of_root (rootElement_of_readable h), laidOut, if_neg Bool.false_ne_true,
      Element.render_of_named hnamed]
  · rw [read?_declaration hnamed (Element.all_of_readable hreadable),
      Element.unified_of_readable hreadable]

end State

open State

/-- The document of a file that was read, whatever was called before and since, tells its docblock,
    its markers, its aliases and its declarations, in this order, each once and nothing else. Each
    declaration is told by its own fragment. -/
theorem document_listing (f : SourceFile) (calls : List Call) (hfresh : f.outline? = none)
    (hread : (f.run calls).isProcessed = true) :
    let g := f.run calls
    let o := g.outline
    (g.strings.Readable → (∀ m ∈ o.markers, isXmlName (lowered m.term) = true) →
      ∃ text entities, g.document false = .ok text ∧
        Element.read? text = some (.node "file"
          [("path", relativePath g.path), ("hash", g.digest.getD "")]
          (o.docblock.toList.map Docblock.toElement ++
            (if o.markers = [] then [] else [.node "markers" [] (o.markers.map fun m =>
              .leaf (lowered m.term) [("line", toString m.line)] m.content)]) ++
            (o.symbols.aliases.map fun entry =>
              .leaf "namespace-alias" [("name", entry.1)] entry.2) ++ entities)) ∧
        entities.map Element.render = o.symbols.declarations.map fun d => some d.fragment) ∧
    (allChars isTextChar f.path = true → allChars isTextChar (f.digest.getD "") = true →
      allChars isTextChar f.contents = true → g.strings.Readable) := by
  intro g o
  obtain ⟨terms, hsource⟩ := exists_terms_of_run f.idle (outline?_eq_none_iff.1 hfresh) hread
  constructor
  · intro hreadable hterms
    obtain ⟨text, hdocument, htext⟩ := document_of_readable hreadable hterms
    have hmarkers : ∀ m ∈ o.markers, trimmed m.content = m.content := by
      obtain ⟨-, -, -, hscan, -⟩ := Outline.exists_tokens_of_ofSource hsource
      rw [hscan]
      exact fun m hm => Marker.trimmed_of_mem_scan hm
    refine ⟨text, o.symbols.declarations.map Declaration.toElement, hdocument, ?_, ?_⟩
    · rw [htext, listing, fileElements_eq hmarkers]
    · rw [List.map_map]
      exact List.map_congr_left fun d _ => d.render_toElement
  · intro hpath hdigest hcontents
    obtain ⟨hsamePath, -, hsameDigest⟩ := run_source f.toState calls
    rw [strings, Strings.readable_append, Strings.readable_mk, List.forall_mem_cons, hsamePath,
      hsameDigest]
    refine ⟨⟨List.forall_mem_nil _, allChars_isXmlChar_of_isTextChar hpath,
      allChars_getD_iff.1 (allChars_isXmlChar_of_isTextChar hdigest)⟩, ?_⟩
    exact Outline.readable_of_ofSource hcontents hsource

/-- A file with something of each kind, read with a term that is taken back afterwards. -/
theorem document_listing_of_each_kind :
    let f : SourceFile :=
      { path := "./a&b.php"
        contents := "<?php /** S\n@package P */ use A\\B as C; // Fix-me: a < b\nrequire 'x';" ++
          "const D=' '; function f($a) \x7b\x7d interface I \x7b\x7d class K \x7b\x7d" }
    let g := f.run [.setMarkers ["Fix-me"], .process, .setMarkers []]
    f.outline? = none ∧ g.isProcessed = true ∧
      ∃ text doc entities, g.document false = .ok text ∧
        Element.read? text = some (.node "file" [("path", "a&b.php"), ("hash", "")]
          ([doc, .node "markers" [] [.leaf "fix-me" [("line", "2")] "a < b"],
            .leaf "namespace-alias" [("name", "C")] "A\\B"] ++ entities)) ∧
        entities.length = 5 := by
  intro f g
  have hread : g.isProcessed = true ∧ g.outline.docblock.isSome = true ∧
      g.outline.markers = [⟨"Fix-me", "a < b", 2⟩] ∧
      g.outline.symbols.aliases = [("C", "A\\B")] ∧
      g.outline.symbols.declarations.length = 5 := by
    decide +kernel
  obtain ⟨hdone, hdoc, hmarkers, haliases, hlength⟩ := hread
  obtain ⟨hlisting, hreadable⟩ := document_listing f _ rfl hdone
  have hterms : ∀ m ∈ g.outline.markers, isXmlName (lowered m.term) = true := by
    rw [hmarkers]
    decide +kernel
  obtain ⟨text, entities, hdocument, htext, hentities⟩ :=
    hlisting (hreadable (by decide) (by decide) (by decide +kernel)) hterms
  obtain ⟨b, hb⟩ := Option.isSome_iff_exists.1 hdoc
  obtain ⟨hpath, -, hdigest⟩ := run_source f.toState [.setMarkers ["Fix-me"], .process, .setMarkers []]
  have hwords : relativePath f.path = "a&b.php" ∧ lowered "Fix-me" = "fix-me" := by decide +kernel
  refine ⟨rfl, hdone, text, b.toElement, entities, hdocument, ?_, ?_⟩
  · rw [htext, hpath, hdigest, hwords.1, hb, hmarkers, haliases, if_neg (List.cons_ne_nil _ _),
      List.map_singleton, hwords.2]
    rfl
  · rw [← hlength, ← List.length_map, hentities, List.length_map]

end SourceFile

end PhpOutline
