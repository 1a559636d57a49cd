import PhpOutline.Document
import PhpOutline.Proofs.Fidelity
import PhpOutline.Proofs.Rendering

/-!
# Characters of an outline

Every character of an outline comes from the source text, unless it is a line feed or a visible
ASCII character that a description puts in. So any class of characters that holds those and the
characters of the source holds the characters of every element that describes the source.

Results:
* `Ample.repr_int`, `Ample.word`: what a description puts in;
* `subset_of_mem_lines`, `body?_subset` and the like: parts of a text;
* `Docblock.all_toElement_of_read`: the element of a docblock;
* `ClassDecl.all_toElement` and the like: the elements of declarations.
-/

namespace PhpOutline

open PhpOutline.Text PhpOutline.Reading
open PhpOutline.Xml (allChars allChars_iff allChars_empty Element)
open PhpOutline.Xml.Element (all_leaf all_node)

/-! ## Classes of characters -/

/-- A visible ASCII character or a space. -/
def isPlainChar (c : Char) : Bool := 32 ≤ c.toNat && c.toNat ≤ 126

/-- A class of characters that holds the line feed and the visible ASCII characters. -/
structure Ample (p : Char → Bool) : Prop where
  feed : p '\n' = true
  plain : ∀ c, isPlainChar c = true → p c = true

theorem ample_isXmlChar : Ample Xml.isXmlChar where
  feed := rfl
  plain c hc := Xml.isXmlChar_of_visible (by simpa [isPlainChar] using hc)

variable {p : Char → Bool}

/-- A fixed word of visible characters. -/
theorem Ample.word (hp : Ample p) {s : String} (h : allChars isPlainChar s = true) :
    allChars p s = true :=
  allChars_iff.2 fun c hc => hp.plain c (allChars_iff.1 h c hc)

theorem allChars_ofList {cs : List Char} :
    allChars p (String.ofList cs) = true ↔ ∀ c ∈ cs, p c = true := by
  rw [allChars_iff, String.toList_ofList]

theorem isPlainChar_of_isDigit {c : Char} (h : c.isDigit = true) : isPlainChar c = true := by
  simp only [Char.isDigit, Bool.and_eq_true, decide_eq_true_eq, ge_iff_le,
    UInt32.le_iff_toNat_le] at h
  have hrange : 48 ≤ c.toNat ∧ c.toNat ≤ 57 := h
  simp only [isPlainChar, Bool.and_eq_true, decide_eq_true_eq]
  omega

/-- A number is written in visible characters; simp writes it so. -/
theorem allChars_repr_int (n : Int) : allChars isPlainChar n.repr = true := by
  have hdigits (m : Nat) : ∀ c ∈ m.repr.toList, isPlainChar c = true := fun c hc => by
    rw [Nat.toList_repr] at hc
    exact isPlainChar_of_isDigit (Nat.isDigit_of_mem_toDigits (by decide) (by decide) hc)
  rw [allChars_iff]
  cases n with
  | ofNat m => exact hdigits m
  | negSucc m =>
    intro c hc
    have hsplit : c ∈ '-' :: (m + 1).repr.toList := by
      simpa [Int.repr] using hc
    rcases List.mem_cons.1 hsplit with rfl | hc
    · rfl
    · exact hdigits (m + 1) c hc

theorem Ample.repr_int (hp : Ample p) (n : Int) : allChars p n.repr = true :=
  hp.word (allChars_repr_int n)

/-! ## Parts of texts -/

theorem trimEnd_subset (cs : List Char) : trimEnd cs ⊆ cs := by
  intro c hc
  rw [trimEnd, List.mem_reverse] at hc
  exact List.mem_reverse.1 ((List.dropWhile_sublist _).subset hc)

theorem trim_subset (cs : List Char) : trim cs ⊆ cs := (isInfix_trim cs).subset

theorem subset_of_mem_lines {cs l : List Char} (h : l ∈ lines cs) : l ⊆ cs := by
  induction cs generalizing l with
  | nil => simp [lines] at h
  | cons c r ih =>
    rw [lines] at h
    split at h
    · exact List.subset_cons_of_subset c (ih h)
    split at h
    · rcases List.mem_cons.1 h with rfl | h
      · exact List.nil_subset _
      · exact List.subset_cons_of_subset c (ih h)
    split at h
    · rw [List.mem_singleton.1 h]
      exact List.cons_subset_cons c (List.nil_subset r)
    · next line later heq =>
      rcases List.mem_cons.1 h with rfl | h
      · exact List.cons_subset_cons c (ih (by simp [heq]))
      · exact List.subset_cons_of_subset c (ih (by simp [heq, h]))

theorem subset_of_mem_splitOnChar {sep : Char} {cs l : List Char} (h : l ∈ splitOnChar sep cs) :
    l ⊆ cs := by
  induction cs generalizing l with
  | nil =>
    rw [splitOnChar, List.mem_singleton] at h
    rw [h]
    exact List.nil_subset _
  | cons c r ih =>
    rw [splitOnChar] at h
    split at h
    · rcases List.mem_cons.1 h with rfl | h
      · exact List.nil_subset _
      · exact List.subset_cons_of_subset c (ih h)
    split at h
    · rw [List.mem_singleton.1 h]
      exact List.cons_subset_cons c (List.nil_subset r)
    · next line later heq =>
      rcases List.mem_cons.1 h with rfl | h
      · exact List.cons_subset_cons c (ih (by simp [heq]))
      · exact List.subset_cons_of_subset c (ih (by simp [heq, h]))

theorem forall_mem_intercalate {α : Type} {P : α → Prop} {sep : List α} {ls : List (List α)}
    (hsep : ∀ c ∈ sep, P c) (h : ∀ l ∈ ls, ∀ c ∈ l, P c) : ∀ c ∈ sep.intercalate ls, P c := by
  induction ls with
  | nil => simp
  | cons l ls ih =>
    rw [List.forall_mem_cons] at h
    cases ls with
    | nil => simpa using h.1
    | cons l' ls =>
      rw [List.intercalate_cons_cons, List.forall_mem_append, List.forall_mem_append]
      exact ⟨⟨h.1, hsep⟩, ih h.2⟩

/-! ## Docblocks -/

namespace Docblock

theorem stripGutter_subset (cs : List Char) : stripGutter cs ⊆ cs := by
  have hblank (c : Char) (r : List Char) : (if isSpaceOrTab c then r else c :: r) ⊆ c :: r := by
    split
    · exact List.subset_cons_self c r
    · exact List.Subset.refl _
  refine List.Subset.trans ?_ (List.dropWhile_sublist isSpaceOrTab).subset
  unfold stripGutter
  generalize cs.dropWhile isSpaceOrTab = r
  -- first a star may go, and then one blank
  split
  · next after =>
    cases after with
    | nil => exact List.nil_subset _
    | cons c after => exact List.subset_cons_of_subset _ (hblank c after)
  · cases r with
    | nil => exact List.nil_subset _
    | cons c r => exact hblank c r

theorem body?_subset {raw body : List Char} (h : body? raw = some body) : body ⊆ raw := by
  unfold body? at h
  simp only at h
  split at h
  · cases h
    exact List.Subset.trans (List.Subset.trans (List.take_subset _ _) (List.drop_subset _ _))
      (trim_subset raw)
  · cases h

theorem subset_of_mem_bodyLines {body l : List Char} (h : l ∈ bodyLines body) : l ⊆ body := by
  obtain ⟨line, hline, rfl⟩ := List.mem_map.1 h
  exact List.Subset.trans (List.Subset.trans (trimEnd_subset _) (stripGutter_subset line))
    (subset_of_mem_lines hline)

/-- The characters of a tag are in a class. -/
def TagAll (p : Char → Bool) (tag : DocTag) : Prop :=
  allChars p tag.name = true ∧ allChars p tag.description = true

theorem tagAll_of_tag? {line : List Char} {tag : DocTag} (h : tag? line = some tag)
    (hline : ∀ c ∈ line, p c = true) : TagAll p tag := by
  unfold tag? at h
  split at h
  · next c r =>
    simp only at h
    split at h
    · cases h
      obtain ⟨-, hc, hr⟩ : p '@' = true ∧ p c = true ∧ ∀ d ∈ r, p d = true := by
        simpa using hline
      constructor
      · rw [allChars_ofList, List.forall_mem_cons]
        exact ⟨hc, fun d hd => hr d ((List.takeWhile_sublist _).subset hd)⟩
      · rw [allChars_ofList]
        exact fun d hd => hr d ((List.dropWhile_sublist _).subset (trim_subset _ hd))
    · cases h
  · cases h

theorem TagAll.extendTag (hp : Ample p) {tag : DocTag} {line : List Char} (h : TagAll p tag)
    (hline : ∀ c ∈ line, p c = true) : TagAll p (extendTag tag line) := by
  unfold Docblock.extendTag
  split
  · exact h
  · refine ⟨h.1, allChars_ofList.2 fun c hc => ?_⟩
    rcases List.mem_append.1 (trim_subset _ hc) with hc | hc
    · exact allChars_iff.1 h.2 c hc
    rcases List.mem_cons.1 hc with rfl | hc
    · exact hp.plain ' ' rfl
    · exact hline c (trim_subset _ hc)

theorem tagAll_of_tagsFrom (hp : Ample p) {tag : DocTag} {ls : List (List Char)}
    {tags : List DocTag} (htag : TagAll p tag) (hls : ∀ l ∈ ls, ∀ c ∈ l, p c = true)
    (h : tagsFrom tag ls = .ok tags) : ∀ t ∈ tags, TagAll p t := by
  induction ls generalizing tag tags with
  | nil =>
    cases h
    exact List.forall_mem_singleton.2 htag
  | cons line later ih =>
    rw [List.forall_mem_cons] at hls
    rw [tagsFrom] at h
    split at h
    · split at h
      · cases h
      · next next hnext =>
        cases hfound : tagsFrom next later with
        | error cause =>
          rw [hfound] at h
          cases h
        | ok found =>
          rw [hfound] at h
          cases h
          exact List.forall_mem_cons.2 ⟨htag, ih (tagAll_of_tag? hnext hls.1) hls.2 hfound⟩
    · exact ih (htag.extendTag hp hls.1) hls.2 h

theorem tagAll_of_readTags (hp : Ample p) {ls : List (List Char)} {tags : List DocTag}
    (hls : ∀ l ∈ ls, ∀ c ∈ l, p c = true) (h : readTags ls = .ok tags) :
    ∀ t ∈ tags, TagAll p t := by
  unfold readTags at h
  split at h
  · cases h
    exact List.forall_mem_nil _
  · next line later =>
    rw [List.forall_mem_cons] at hls
    split at h
    · cases h
    · next tag htag => exact tagAll_of_tagsFrom hp (tagAll_of_tag? htag hls.1) hls.2 h

theorem forall_paragraphsFrom {current ls : List (List Char)}
    (hcurrent : ∀ l ∈ current, ∀ c ∈ l, p c = true) (hls : ∀ l ∈ ls, ∀ c ∈ l, p c = true) :
    ∀ para ∈ paragraphsFrom current ls, ∀ l ∈ para, ∀ c ∈ l, p c = true := by
  induction ls generalizing current with
  | nil =>
    rw [paragraphsFrom]
    split
    · exact List.forall_mem_nil _
    · exact List.forall_mem_singleton.2 hcurrent
  | cons line later ih =>
    rw [List.forall_mem_cons] at hls
    rw [paragraphsFrom]
    split
    · split
      · exact ih (List.forall_mem_nil _) hls.2
      · exact List.forall_mem_cons.2 ⟨hcurrent, ih (List.forall_mem_nil _) hls.2⟩
    · refine ih (List.forall_mem_append.2 ⟨hcurrent, List.forall_mem_singleton.2 ?_⟩) hls.2
      exact fun c hc => hls.1 c (trim_subset _ hc)

theorem forall_paragraphs (hp : Ample p) {ls : List (List Char)}
    (hls : ∀ l ∈ ls, ∀ c ∈ l, p c = true) :
    ∀ para ∈ paragraphs ls, ∀ c ∈ para, p c = true := by
  intro para hpara
  obtain ⟨lines, hlines, rfl⟩ := List.mem_map.1 hpara
  exact forall_mem_intercalate (List.forall_mem_singleton.2 hp.feed)
    (forall_paragraphsFrom (List.forall_mem_nil _) hls lines hlines)

/-- The element of a docblock, from its texts. -/
theorem all_toElement (hp : Ample p) {b : Docblock} (hshort : allChars p b.short = true)
    (hlong : allChars p b.long = true) (htags : ∀ t ∈ b.tags, TagAll p t) :
    b.toElement.All p := by
  unfold toElement
  rw [all_node, List.forall_mem_append, List.forall_mem_map]
  refine ⟨List.forall_mem_singleton.2 (hp.repr_int _), ?_, fun t ht => ?_⟩
  · simp [all_leaf, hshort, hlong]
  · simp [all_leaf, (htags t ht).1, (htags t ht).2, allChars_empty]

/-- A docblock holds characters of its comment, and spaces and line feeds that join its lines. -/
theorem all_toElement_of_read (hp : Ample p) {raw : String} {line : Int} {b : Docblock}
    (hraw : allChars p raw = true) (h : read raw line = .ok b) : b.toElement.All p := by
  unfold read at h
  split at h
  · cases h
  · next body hbody =>
    have hlines : ∀ l ∈ bodyLines body, ∀ c ∈ l, p c = true := fun l hl c hc =>
      allChars_iff.1 hraw c (body?_subset hbody (subset_of_mem_bodyLines hl hc))
    unfold ofBody at h
    simp only at h
    split at h
    · cases h
    · next block hblock =>
      cases h
      split at hblock
      · cases hblock
      · next tags htags =>
        cases hblock
        have hparas : ∀ para ∈ paragraphs ((bodyLines body).takeWhile fun l => !opensTag l),
            ∀ c ∈ para, p c = true :=
          forall_paragraphs hp fun l hl => hlines l ((List.takeWhile_sublist _).subset hl)
        refine all_toElement hp (allChars_ofList.2 ?_) (allChars_ofList.2 ?_) ?_
        · cases hhead : (paragraphs ((bodyLines body).takeWhile fun l => !opensTag l)).head? with
          | none => exact List.forall_mem_nil _
          | some para => exact hparas para (List.mem_of_head? hhead)
        · exact forall_mem_intercalate (by simp [hp.feed]) fun l hl =>
            hparas l (List.mem_of_mem_tail hl)
        · exact tagAll_of_readTags hp
            (fun l hl => hlines l ((List.dropWhile_sublist _).subset hl)) htags

end Docblock

/-! ## Elements of declarations -/

theorem allChars_getD {value : Option String} (h : ∀ v ∈ value, allChars p v = true) :
    allChars p (value.getD "") = true := by
  cases value with
  | none => rfl
  | some v => exact h v rfl

theorem all_leaves {tag : String} {texts : List String} (h : ∀ s ∈ texts, allChars p s = true) :
    ∀ e ∈ texts.map (Element.leaf tag []), e.All p :=
  List.forall_mem_map.2 fun s hs => all_leaf.2 ⟨List.forall_mem_nil _, h s hs⟩

theorem all_docElements {doc : Option Docblock} (h : ∀ b ∈ doc, b.toElement.All p) :
    ∀ e ∈ docElements doc, e.All p :=
  List.forall_mem_map.2 fun b hb => h b (Option.mem_toList.1 hb)

theorem allChars_flagText (flag : Bool) : allChars isPlainChar (flagText flag) = true := by
  cases flag <;> rfl

theorem Ample.flagText (hp : Ample p) (flag : Bool) : allChars p (flagText flag) = true :=
  hp.word (allChars_flagText flag)

/-- Members that are read have one of three visibilities. -/
theorem Ample.visibility (hp : Ample p) (modifiers : List Keyword) :
    allChars p (Reading.visibility modifiers).word = true := by
  unfold Reading.visibility
  cases hfound : modifiers.findSome? visibilityOf? with
  | none => exact hp.word rfl
  | some v =>
    obtain ⟨word, -, hword⟩ := List.exists_of_findSome?_eq_some hfound
    cases word <;> cases hword <;> exact hp.word rfl

theorem Argument.all_toElement (hp : Ample p) {a : Argument} (hname : allChars p a.name = true)
    (htype : ∀ v ∈ a.type, allChars p v = true)
    (hdefault : ∀ v ∈ a.default, allChars p v = true) : a.toElement.All p := by
  simp [toElement, all_node, all_leaf, hp.repr_int, hname, allChars_getD htype,
    allChars_getD hdefault]

theorem FunctionDecl.all_signature {f : FunctionDecl} (hname : allChars p f.name = true)
    (hreturn : ∀ v ∈ f.returnType, allChars p v = true) (hdoc : ∀ b ∈ f.docblock, b.toElement.All p)
    (harguments : ∀ a ∈ f.arguments, a.toElement.All p) : ∀ e ∈ f.signature, e.All p := by
  have htype : ∀ v ∈ (f.returnType.filter (· != "")).toList, allChars p v = true := fun v hv =>
    hreturn v (Option.eq_some_of_filter_eq_some (Option.mem_toList.1 hv))
  rw [signature, List.forall_mem_cons, List.forall_mem_append, List.forall_mem_append]
  exact ⟨all_leaf.2 ⟨List.forall_mem_nil _, hname⟩,
    ⟨all_leaves htype, all_docElements hdoc⟩, List.forall_mem_map.2 harguments⟩

theorem FunctionDecl.all_toElement (hp : Ample p) {f : FunctionDecl}
    (hscope : allChars p f.scope = true) (h : ∀ e ∈ f.signature, e.All p) : f.toElement.All p := by
  rw [toElement, all_node]
  exact ⟨by simp [hscope, hp.repr_int], h⟩

theorem MethodDecl.all_toElement (hp : Ample p) {m : MethodDecl}
    (hvisibility : allChars p m.visibility.word = true) (h : ∀ e ∈ m.signature, e.All p) :
    m.toElement.All p := by
  rw [toElement, all_node]
  exact ⟨by simp [hp.flagText, hvisibility, hp.repr_int], h⟩

theorem PropertyDecl.all_toElement (hp : Ample p) {d : PropertyDecl}
    (hname : allChars p d.name = true) (hvisibility : allChars p d.visibility.word = true)
    (htype : ∀ v ∈ d.type, allChars p v = true)
    (hdefault : ∀ v ∈ d.default, allChars p v = true)
    (hdoc : ∀ b ∈ d.docblock, b.toElement.All p) : d.toElement.All p := by
  have htypes : ∀ v ∈ (d.type.filter (· != "")).toList, allChars p v = true := fun v hv =>
    htype v (Option.eq_some_of_filter_eq_some (Option.mem_toList.1 hv))
  rw [toElement, all_node, List.forall_mem_append, List.forall_mem_append]
  refine ⟨by simp [hp.flagText, hvisibility, hp.repr_int], ⟨?_, all_leaves htypes⟩,
    all_docElements hdoc⟩
  simp [all_leaf, hname, allChars_getD hdefault]

theorem ConstantDecl.all_toElement (hp : Ample p) {d : ConstantDecl}
    (hname : allChars p d.name = true) (hscope : allChars p d.scope = true)
    (hvalue : allChars p d.value = true) (hdoc : ∀ b ∈ d.docblock, b.toElement.All p) :
    d.toElement.All p := by
  rw [toElement, all_node, List.forall_mem_append]
  refine ⟨by simp [hscope, hp.repr_int], ?_, all_docElements hdoc⟩
  simp [all_leaf, hname, hvalue]

theorem IncludeDecl.all_toElement (hp : Ample p) {d : IncludeDecl}
    (hname : allChars p d.name = true) (htype : allChars p d.type = true)
    (hdoc : ∀ b ∈ d.docblock, b.toElement.All p) : d.toElement.All p := by
  rw [toElement, all_node]
  refine ⟨by simp [htype, hp.repr_int], List.forall_mem_cons.2 ⟨?_, all_docElements hdoc⟩⟩
  exact all_leaf.2 ⟨List.forall_mem_nil _, hname⟩

theorem InterfaceDecl.all_toElement (hp : Ample p) {d : InterfaceDecl}
    (hname : allChars p d.name = true) (hscope : allChars p d.scope = true)
    (hparents : ∀ n ∈ d.parents, allChars p n = true)
    (hdoc : ∀ b ∈ d.docblock, b.toElement.All p)
    (hconstants : ∀ c ∈ d.constants, c.toElement.All p)
    (hmethods : ∀ m ∈ d.methods, m.toElement.All p) : d.toElement.All p := by
  rw [toElement, all_node]
  simp only [List.forall_mem_cons, List.forall_mem_append, List.cons_append]
  exact ⟨by simp [hscope, hp.repr_int], all_leaf.2 ⟨List.forall_mem_nil _, hname⟩,
    ⟨⟨all_leaves hparents, all_docElements hdoc⟩, List.forall_mem_map.2 hconstants⟩,
    List.forall_mem_map.2 hmethods⟩

theorem ClassDecl.all_toElement (hp : Ample p) {d : ClassDecl}
    (hname : allChars p d.name = true) (hscope : allChars p d.scope = true)
    (hparent : ∀ n ∈ d.parent, allChars p n = true)
    (hinterfaces : ∀ n ∈ d.interfaces, allChars p n = true)
    (hdoc : ∀ b ∈ d.docblock, b.toElement.All p)
    (hconstants : ∀ c ∈ d.constants, c.toElement.All p)
    (hmethods : ∀ m ∈ d.methods, m.toElement.All p)
    (hproperties : ∀ m ∈ d.properties, m.toElement.All p) : d.toElement.All p := by
  rw [toElement, all_node]
  simp only [List.forall_mem_append]
  refine ⟨by simp [hp.flagText, hscope, hp.repr_int], ⟨⟨⟨⟨?_, all_leaves hinterfaces⟩,
    all_docElements hdoc⟩, List.forall_mem_map.2 hconstants⟩, List.forall_mem_map.2 hmethods⟩,
    List.forall_mem_map.2 hproperties⟩
  simp [all_leaf, hname, allChars_getD hparent]

end PhpOutline
