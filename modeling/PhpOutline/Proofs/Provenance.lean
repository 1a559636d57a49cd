import PhpOutline.Proofs.Characters

/-!
# Where the characters of an outline come from

If a class of characters holds the line feed, the visible ASCII characters and all characters of a
source text, then it holds every character of the elements that describe the declarations,
docblocks, aliases and markers of the source.

Results:
* `readSignature_all`, `readMembers_all`: headers and bodies;
* `Symbols.Enters.all`, `Symbols.collect_all`: one statement and the whole pass;
* `Marker.of_mem_scan`: a marker has one of the terms, and its text is from the source;
* `Outline.fileDocblock_all`: the docblock of the file as a whole;
* `Outline.all_of_ofSource`: all of an outline.
-/

namespace PhpOutline

open PhpOutline.Text PhpOutline.Reading
open PhpOutline.Xml (allChars allChars_iff allChars_empty Element)

variable {p : Char → Bool}

/-! ## Texts of tokens -/

/-- The characters of some tokens are in a class. -/
def TokensAll (p : Char → Bool) (ts : List Token) : Prop := ∀ t ∈ ts, allChars p t.content = true

theorem TokensAll.mono {part ts : List Token} (h : TokensAll p ts) (hpart : part ⊆ ts) :
    TokensAll p part := fun t ht => h t (hpart ht)

theorem TokensAll.append {taken rest : List Token} (h : TokensAll p (taken ++ rest)) :
    TokensAll p rest := h.mono (List.subset_append_right _ _)

theorem TokensAll.tail {t : Token} {ts : List Token} (h : TokensAll p (t :: ts)) :
    TokensAll p ts := h.mono (List.subset_cons_self _ _)

theorem allChars_of_isInfix {s t : String} (h : s.toList <:+: t.toList)
    (ht : allChars p t = true) : allChars p s = true :=
  allChars_iff.2 fun c hc => allChars_iff.1 ht c (h.subset hc)

theorem TokensAll.joined {ts : List Token} (h : TokensAll p ts) : allChars p (joined ts) = true := by
  rw [allChars_iff]
  induction ts with
  | nil => exact List.forall_mem_nil _
  | cons t ts ih =>
    rw [toList_joined_cons, List.forall_mem_append]
    exact ⟨allChars_iff.1 (h t List.mem_cons_self), ih h.tail⟩

theorem TokensAll.sourceText {ts : List Token} (h : TokensAll p ts) :
    allChars p (sourceText ts) = true :=
  allChars_of_isInfix (isInfix_sourceText ts) h.joined

theorem TokensAll.compact {ts : List Token} (h : TokensAll p ts) :
    allChars p (compact ts) = true :=
  (h.mono List.filter_sublist.subset).joined

theorem allChars_of_nonEmpty? {s : String} (h : allChars p s = true) :
    ∀ v ∈ nonEmpty? s, allChars p v = true := by
  intro v hv
  unfold nonEmpty? at hv
  split at hv
  · cases hv
  · cases hv
    exact h

/-- The tokens of a source text have its characters. -/
theorem tokensAll_of_tailOf {source : String} {ts : List Token} (h : TailOf source ts)
    (hsource : allChars p source = true) : TokensAll p ts := fun _ ht =>
  allChars_of_isInfix ((isInfix_content ht).trans h.joined_suffix.isInfix) hsource

theorem attached_all (hp : Ample p) {comment : Option Token}
    (h : ∀ t ∈ comment, allChars p t.content = true) :
    ∀ b ∈ (attached comment).2, b.toElement.All p := by
  intro b hb
  obtain ⟨t, ht, hread⟩ := exists_of_mem_attached hb
  exact Docblock.all_toElement_of_read hp (h t ht) hread

namespace Reading

variable {scope : String} {line : Int} {doc : Option Docblock} {ts rest : List Token}

/-! ## Names -/

theorem qualifiedName_all (h : TokensAll p ts) : allChars p (qualifiedName ts).1 = true :=
  (h.mono (List.takeWhile_sublist _).subset).joined

theorem significant_all {t : Token} (h : TokensAll p ts)
    (hread : significant line ts = .ok (t, rest)) : TokensAll p (t :: rest) := by
  obtain ⟨front, rfl⟩ := exists_append_of_significant hread
  exact h.append

/-- What is collected and what is left are tokens from the list. -/
theorem collect_parts_all (h : TokensAll p ts) (stops : List String) :
    TokensAll p (Reading.collect stops ts).1 ∧ TokensAll p (Reading.collect stops ts).2 := by
  rw [← collectFrom_append stops 0 ts] at h
  exact List.forall_mem_append.1 h

theorem qualifiedName_rest_all (h : TokensAll p ts) : TokensAll p (qualifiedName ts).2 :=
  h.mono (List.dropWhile_sublist _).subset

theorem readNames_all {names : List String} {t : Token} (h : TokensAll p ts)
    (hread : readNames line ts = .ok (names, t, rest)) : ∀ n ∈ names, allChars p n = true := by
  induction hlen : ts.length using Nat.strongRecOn generalizing ts names with
  | ind n ih =>
    obtain ⟨u, first, next, after, hfirst, hnext, hend⟩ := readNames_eq_ok_iff.1 hread
    have hqualified := significant_all h hfirst
    have hname : ∀ v ∈ (nonEmpty? (qualifiedName (u :: first)).1).toList, allChars p v = true :=
      fun v hv => allChars_of_nonEmpty? (qualifiedName_all hqualified) v (Option.mem_toList.1 hv)
    have hlater := significant_all (qualifiedName_rest_all hqualified) hnext
    rcases hend with ⟨-, later, hread', rfl⟩ | ⟨-, rfl, -, -⟩
    · have hshort : after.length < n := by
        have h1 := significant_length hfirst
        have h2 := qualifiedName_length (u :: first)
        have h3 := significant_length hnext
        rw [List.length_cons] at h2
        omega
      exact List.forall_mem_append.2 ⟨hname, ih _ hshort hlater.tail hread' rfl⟩
    · exact hname

theorem readNamesAfter_all {word : Keyword} {names : List String} {t u : Token}
    (h : TokensAll p ts) (hread : readNamesAfter word line t ts = .ok (names, u, rest)) :
    ∀ n ∈ names, allChars p n = true := by
  rcases readNamesAfter_eq_ok_iff.1 hread with ⟨-, hnames⟩ | ⟨-, rfl, -, -⟩
  · exact readNames_all h hnames
  · exact List.forall_mem_nil _

theorem readParent_all {parent : Option String} {t u : Token} (h : TokensAll p ts)
    (hread : readParent line t ts = .ok (parent, u, rest)) :
    (∀ n ∈ parent, allChars p n = true) ∧ TokensAll p rest := by
  rcases readParent_eq_ok_iff.1 hread with ⟨-, v, first, hfirst, rfl, hnext⟩ | ⟨-, rfl, -, rfl⟩
  · have hqualified := significant_all h hfirst
    refine ⟨fun n hn => ?_, (significant_all (qualifiedName_rest_all hqualified) hnext).tail⟩
    rw [← Option.mem_some_iff.1 hn]
    exact qualifiedName_all hqualified
  · exact ⟨fun n hn => absurd hn (Option.not_mem_none n), h⟩

/-! ## Headers of functions -/

theorem argument?_all (hp : Ample p) {group : List Token} {a : Argument} (h : TokensAll p group)
    (ha : argument? group = some a) : a.toElement.All p := by
  unfold argument? at ha
  split at ha
  · cases ha
  · next var tail hdrop =>
    have htail : TokensAll p (var :: tail) := by
      rw [← hdrop]
      exact h.mono (List.dropWhile_sublist _).subset
    cases ha
    refine Argument.all_toElement hp (htail var List.mem_cons_self) ?_ ?_
    · -- the type is made of tokens before the variable
      refine allChars_of_nonEmpty? (TokensAll.compact (h.mono ?_))
      intro t ht
      have hkept := List.mem_reverse.1 (List.filter_sublist.subset ht)
      have hhead := List.mem_reverse.1 ((List.dropWhile_sublist _).subset hkept)
      exact (List.takeWhile_sublist _).subset (List.filter_sublist.subset hhead)
    · intro v hv
      simp only at hv
      split at hv
      · cases hv
      · next sign value hvalue =>
        rw [← Option.mem_some_iff.1 hv]
        have hafter : TokensAll p (sign :: value) := by
          rw [← hvalue]
          exact htail.tail.mono (List.dropWhile_sublist _).subset
        exact hafter.tail.sourceText

theorem readArguments_all (hp : Ample p) {arguments : List Argument} (h : TokensAll p ts)
    (hread : readArguments line ts = .ok (arguments, rest)) :
    ∀ a ∈ arguments, a.toElement.All p := by
  obtain ⟨group, groups, hsplit, rfl⟩ := readArguments_eq_ok_iff.1 hread
  obtain ⟨hfirst, hothers⟩ := splitParameters?_isInfix hsplit
  intro a ha
  obtain ⟨g, hg, harg⟩ := List.mem_filterMap.1 ha
  rcases List.mem_cons.1 hg with rfl | hg
  · exact argument?_all hp (h.mono hfirst.subset) harg
  · exact argument?_all hp (h.mono (hothers g hg).subset) harg

theorem readReturnType_all {type : Option String} {t u : Token} (h : TokensAll p ts)
    (hread : readReturnType line t ts = .ok (type, u, rest)) :
    ∀ v ∈ type, allChars p v = true := by
  rcases readReturnType_eq_ok_iff.1 hread with ⟨-, rfl, -⟩ | ⟨-, rfl, -, -⟩
  · exact allChars_of_nonEmpty? (collect_parts_all h _).1.compact
  · exact fun v hv => absurd hv (Option.not_mem_none v)

/-- The parts of a signature that an element tells. -/
structure SignatureAll (p : Char → Bool) (s : Signature) : Prop where
  name : ∀ n ∈ s.name, allChars p n = true
  arguments : ∀ a ∈ s.arguments, a.toElement.All p
  returnType : ∀ v ∈ s.returnType, allChars p v = true

theorem readSignature_all (hp : Ample p) {s : Signature} (h : TokensAll p ts)
    (hread : readSignature line ts = .ok (s, rest)) : SignatureAll p s := by
  obtain ⟨t, _, _, _, _, _, _, _, hmark, hname, harguments, huse, htype, -⟩ :=
    readSignature_eq_ok_iff.1 hread
  have ht : allChars p t.content = true := h t (mem_of_readReferenceMark hmark)
  obtain ⟨mark, rfl, -⟩ := readReferenceMark_takes hmark
  have hafterMark := h.append
  obtain ⟨nameTokens, rfl, -⟩ := readFunctionName_takes hname
  have hafterName := hafterMark.append
  refine ⟨fun n hn => ?_, readArguments_all hp hafterName harguments, ?_⟩
  · rw [readFunctionName_content hname n hn]
    exact ht
  · obtain ⟨list, rfl, -⟩ := readArguments_takes harguments
    have hafterArguments := hafterName.append
    obtain ⟨used, rfl, -⟩ := readClosureUse_takes huse
    exact readReturnType_all hafterArguments.append htype

/-! ## Bodies -/

/-- The elements of the members of a body. -/
structure BodyAll (p : Char → Bool) (b : Body) : Prop where
  constants : ∀ d ∈ b.constants, d.toElement.All p
  properties : ∀ d ∈ b.properties, d.toElement.All p
  methods : ∀ d ∈ b.methods, d.toElement.All p

theorem bodyAll_empty : BodyAll p {} :=
  ⟨List.forall_mem_nil _, List.forall_mem_nil _, List.forall_mem_nil _⟩

theorem BodyAll.append {a b : Body} (ha : BodyAll p a) (hb : BodyAll p b) :
    BodyAll p (a.append b) :=
  ⟨List.forall_mem_append.2 ⟨ha.constants, hb.constants⟩,
    List.forall_mem_append.2 ⟨ha.properties, hb.properties⟩,
    List.forall_mem_append.2 ⟨ha.methods, hb.methods⟩⟩

theorem readConstants_all (hp : Ample p) {first : ConstantDecl} {others : List ConstantDecl}
    (h : TokensAll p ts) (hscope : allChars p scope = true) (hdoc : ∀ b ∈ doc, b.toElement.All p)
    (hread : readConstants scope line doc ts = .ok (first, others, rest)) :
    ∀ d ∈ first :: others, d.toElement.All p := by
  intro d hd
  obtain ⟨name, value, hname, hvalue, rfl⟩ := exists_of_mem_readConstants hread hd
  exact ConstantDecl.all_toElement hp (h name hname) hscope (h.mono hvalue.subset).sourceText hdoc

theorem readProperties_all (hp : Ample p) {head : PropertyHead} {properties : List PropertyDecl}
    (h : TokensAll p ts) (hdoc : ∀ b ∈ head.docblock, b.toElement.All p)
    (hvisibility : allChars p head.visibility.word = true)
    (htype : ∀ v ∈ head.type, allChars p v = true)
    (hread : readProperties head ts = .ok (properties, rest)) :
    ∀ d ∈ properties, d.toElement.All p := by
  intro d hd
  obtain ⟨name, default, hname, hdefault, rfl⟩ := exists_of_mem_readProperties hread hd
  refine PropertyDecl.all_toElement hp (h name hname) hvisibility htype (fun v hv => ?_) hdoc
  obtain ⟨value, hvalue, rfl⟩ := hdefault v hv
  exact (h.mono hvalue.subset).sourceText

theorem readMethod_all (hp : Ample p) {lead : Lead} {m : MethodDecl} (h : TokensAll p ts)
    (hdoc : ∀ b ∈ doc, b.toElement.All p)
    (hread : readMethod lead scope line doc ts = .ok (m, rest)) : m.toElement.All p := by
  obtain ⟨s, name, hsignature, hname, rfl⟩ := readMethod_eq_ok_iff.1 hread
  have hs := readSignature_all hp h hsignature
  exact MethodDecl.all_toElement hp (hp.visibility lead.modifiers)
    (FunctionDecl.all_signature (hs.name name hname) hs.returnType hdoc hs.arguments)

/-- What stands before a member: its doc comment and its type. -/
structure LeadAll (p : Char → Bool) (lead : Lead) : Prop where
  comment : ∀ t ∈ lead.comment, allChars p t.content = true
  types : TokensAll p lead.types

theorem leadAll_empty : LeadAll p {} :=
  ⟨fun t ht => absurd ht (Option.not_mem_none t), List.forall_mem_nil _⟩

/-- A step in a body reads members whose characters are in the class. -/
theorem MemberStep.all (hp : Ample p) {lead lead' : Lead} {after : List Token}
    {notes : List DocblockError} {part : Body}
    (hstep : MemberStep scope line lead ts notes part lead' after) (h : TokensAll p ts)
    (hscope : allChars p scope = true) (hlead : LeadAll p lead) :
    BodyAll p part ∧ LeadAll p lead' := by
  have hdoc := attached_all hp hlead.comment
  cases hstep with
  | comment =>
    refine ⟨bodyAll_empty, fun u hu => ?_, hlead.types⟩
    rw [← Option.mem_some_iff.1 hu]
    exact h _ List.mem_cons_self
  | trivia => exact ⟨bodyAll_empty, hlead⟩
  | modifier => exact ⟨bodyAll_empty, hlead.comment, hlead.types⟩
  | type =>
    exact ⟨bodyAll_empty, hlead.comment, List.forall_mem_append.2
      ⟨hlead.types, List.forall_mem_singleton.2 (h _ List.mem_cons_self)⟩⟩
  | semicolon | traitUse => exact ⟨bodyAll_empty, leadAll_empty⟩
  | constants _ hread =>
    have hconstants := readConstants_all hp h.tail hscope hdoc hread
    exact ⟨{ bodyAll_empty with constants := hconstants }, leadAll_empty⟩
  | method _ hread =>
    have hmethod := readMethod_all hp h.tail hdoc hread
    exact ⟨{ bodyAll_empty with methods := List.forall_mem_singleton.2 hmethod }, leadAll_empty⟩
  | properties _ hread =>
    have htype := allChars_of_nonEmpty? hlead.types.compact
    have hproperties := readProperties_all hp h hdoc (hp.visibility _) htype hread
    exact ⟨{ bodyAll_empty with properties := hproperties }, leadAll_empty⟩

theorem readMembers_all (hp : Ample p) {lead : Lead} {notes : List DocblockError} {body : Body}
    (h : TokensAll p ts) (hscope : allChars p scope = true) (hlead : LeadAll p lead)
    (hread : readMembers scope line lead ts = ⟨notes, .ok (body, rest)⟩) : BodyAll p body := by
  refine readMembers_preserves (I := fun lead ts => TokensAll p ts ∧ LeadAll p lead)
    bodyAll_empty BodyAll.append ?_ ⟨h, hlead⟩ hread
  intro lead lead' ts after notes part hstep ⟨h, hlead⟩
  obtain ⟨hpart, hlead'⟩ := hstep.all hp h hscope hlead
  exact ⟨hpart, h.mono hstep.suffix.subset, hlead'⟩

/-! ## Declarations -/

theorem readClassFrom_all (hp : Ample p) {modifiers : List Keyword} {notes : List DocblockError}
    {d : ClassDecl} (h : TokensAll p ts) (hscope : allChars p scope = true)
    (hdoc : ∀ b ∈ doc, b.toElement.All p)
    (hread : readClassFrom scope line modifiers doc ts = ⟨notes, .ok (some d, rest)⟩) :
    d.toElement.All p := by
  obtain ⟨u, first, hfirst, hrest⟩ := readClassFrom_eq_ok_iff.1 hread
  have hnamed := significant_all h hfirst
  rcases hrest with ⟨-, parent, interfaces, afterHead, body, hhead, hbody, hd⟩ | ⟨-, -, hd, -⟩
  · cases hd
    obtain ⟨t, next, v, afterParent, w, hnext, hparent, hinterfaces, -⟩ :=
      readClassHead_eq_ok_iff.1 hhead
    obtain ⟨hparentName, hafterParent⟩ :=
      readParent_all (significant_all hnamed.tail hnext).tail hparent
    have hbodyTokens : TokensAll p afterHead := by
      obtain ⟨head, heq, -⟩ := readClassHead_takes hhead
      exact (heq ▸ hnamed.tail).append
    have hmembers := readMembers_all hp hbodyTokens hscope leadAll_empty hbody
    exact ClassDecl.all_toElement hp (hnamed u List.mem_cons_self) hscope hparentName
      (readNamesAfter_all hafterParent hinterfaces) hdoc hmembers.constants hmembers.methods
      hmembers.properties
  · cases hd

theorem readInterfaceFrom_all (hp : Ample p) {notes : List DocblockError} {d : InterfaceDecl}
    (h : TokensAll p ts) (hscope : allChars p scope = true) (hdoc : ∀ b ∈ doc, b.toElement.All p)
    (hread : readInterfaceFrom scope line doc ts = ⟨notes, .ok (d, rest)⟩) :
    d.toElement.All p := by
  obtain ⟨name, parents, afterHead, body, hhead, hbody, rfl⟩ := readInterfaceFrom_eq_ok_iff.1 hread
  obtain ⟨n, first, t, second, u, hfirst, -, rfl, hsecond, hparents, -⟩ :=
    readInterfaceHead_eq_ok_iff.1 hhead
  have hnamed := significant_all h hfirst
  have hbodyTokens : TokensAll p afterHead := by
    obtain ⟨head, heq, -⟩ := readInterfaceHead_takes hhead
    exact (heq ▸ h).append
  have hmembers := readMembers_all hp hbodyTokens hscope leadAll_empty hbody
  exact InterfaceDecl.all_toElement hp (hnamed n List.mem_cons_self) hscope
    (readNamesAfter_all (significant_all hnamed.tail hsecond).tail hparents) hdoc
    hmembers.constants hmembers.methods

theorem readFunctionFrom_all (hp : Ample p) {d : FunctionDecl} (h : TokensAll p ts)
    (hscope : allChars p scope = true) (hdoc : ∀ b ∈ doc, b.toElement.All p)
    (hread : readFunctionFrom scope line doc ts = .ok (some d, rest)) : d.toElement.All p := by
  obtain ⟨s, hsignature, hd⟩ := readFunctionFrom_eq_ok_iff.1 hread
  obtain ⟨name, hname, rfl⟩ := Option.map_eq_some_iff.1 hd.symm
  have hs := readSignature_all hp h hsignature
  exact FunctionDecl.all_toElement hp hscope
    (FunctionDecl.all_signature (hs.name name hname) hs.returnType hdoc hs.arguments)

theorem readInclude_all (hp : Ample p) {t : Token} (h : TokensAll p ts)
    (htype : allChars p (lowered t.content) = true) (hdoc : ∀ b ∈ doc, b.toElement.All p) :
    (IncludeDecl.mk (readIncludeTarget ts).1 (lowered t.content) scope t.line
      doc).toElement.All p := by
  have hname : allChars p (readIncludeTarget ts).1 = true :=
    allChars_of_isInfix (isInfix_includeTarget _) (collect_parts_all h [";"]).1.joined
  exact IncludeDecl.all_toElement hp hname htype hdoc

theorem leadingComment_all {passed : List Token} (h : TokensAll p passed) :
    ∀ t ∈ leadingComment passed, allChars p t.content = true := by
  intro t ht
  obtain ⟨hhead, -⟩ := Option.filter_eq_some_iff.1 ht
  exact h t ((List.dropWhile_sublist isLeading).subset (List.mem_of_head? hhead))

end Reading

/-! ## Namespaces and aliases -/

theorem Cursor.mem_of_gotoWithin {kind : Kind} {stops : List String} {limit : Nat} {c : Cursor}
    {t : Token} (h : (c.gotoWithin kind stops limit).1 = some t) : t ∈ c.toList := by
  induction limit generalizing c with
  | zero => cases h
  | succ limit ih =>
    simp only [gotoWithin] at h
    split at h
    · cases h
    · next u hu =>
      have hmem : u ∈ c.toList := by
        rw [← toList_advance]
        exact List.mem_append_right _ (List.mem_of_head? hu)
      split at h
      · cases h
        exact hmem
      · split at h
        · cases h
        · have hrec := ih h
          rwa [toList_advance] at hrec

namespace Symbols

theorem namespaceParts_all {c : Cursor} (h : TokensAll p c.toList) :
    ∀ part ∈ (namespaceParts c).1, allChars p part = true := by
  fun_induction namespaceParts c with
  | case1 c after hgoto => exact List.forall_mem_nil _
  | case2 c t after hgoto hlt parts last hrec ih =>
    have ht : t ∈ c.toList := Cursor.mem_of_gotoWithin (congrArg Prod.fst hgoto)
    have hafter : after.toList = c.toList := by
      rw [← Cursor.toList_goto c .name 5 [";", openBrace], hgoto]
    rw [hrec] at ih
    exact List.forall_mem_cons.2 ⟨h t ht, ih (hafter ▸ h)⟩

theorem readNamespace_all (hp : Ample p) {c : Cursor} (h : TokensAll p c.toList) :
    ∀ scope ∈ (readNamespace c).1, allChars p scope = true := by
  have hparts : allChars p ("\\".intercalate (namespaceParts c).1) = true := by
    rw [allChars_iff, String.toList_intercalate]
    refine forall_mem_intercalate (fun c hc => hp.plain c ?_) ?_
    · obtain rfl : c = '\\' := by simpa using hc
      rfl
    · exact List.forall_mem_map.2 fun part hpart => allChars_iff.1 (namespaceParts_all h part hpart)
  intro scope hscope
  unfold readNamespace at hscope
  split at hscope
  · split at hscope
    · cases hscope
    · cases hscope
      exact hparts
  · cases hscope
    exact hparts

/-- The clauses of a `use` statement are made of tokens from the list. -/
theorem useClauses_all {depth : Int} {ts : List Token} (h : TokensAll p ts) :
    ∀ clause ∈ (useClauses depth ts).1 :: (useClauses depth ts).2.1, TokensAll p clause := by
  induction ts generalizing depth with
  | nil => exact List.forall_mem_singleton.2 (List.forall_mem_nil _)
  | cons t rest ih =>
    rw [useClauses]
    split
    · exact List.forall_mem_singleton.2 (List.forall_mem_nil _)
    split
    · exact List.forall_mem_cons.2 ⟨List.forall_mem_nil _, ih h.tail⟩
    · obtain ⟨hfirst, hothers⟩ := List.forall_mem_cons.1 (ih h.tail)
      exact List.forall_mem_cons.2
        ⟨List.forall_mem_cons.2 ⟨h t List.mem_cons_self, hfirst⟩, hothers⟩

theorem aliasOf_all {clause : List Token} (h : TokensAll p clause) :
    allChars p (aliasOf clause).1 = true ∧ allChars p (aliasOf clause).2 = true := by
  have hpart : ∀ part ∈ splitOnChar ' ' (trim (joined clause).toList), ∀ c ∈ part, p c = true :=
    fun part hpart c hc =>
      allChars_iff.1 h.joined c (trim_subset _ (subset_of_mem_splitOnChar hpart hc))
  unfold aliasOf
  simp only
  split
  · next first second later heq =>
    rw [heq] at hpart
    rw [allChars_ofList, allChars_ofList]
    refine ⟨hpart _ (List.mem_cons_of_mem _ (List.getLast_mem _)), hpart first List.mem_cons_self⟩
  · -- a single part: the alias is its last segment
    have hname : ∀ c ∈ (splitOnChar ' ' (trim (joined clause).toList)).head?.getD [],
        p c = true := by
      cases hhead : (splitOnChar ' ' (trim (joined clause).toList)).head? with
      | none => exact List.forall_mem_nil _
      | some part => exact hpart part (List.mem_of_head? hhead)
    rw [allChars_ofList, allChars_ofList]
    refine ⟨fun c hc => ?_, hname⟩
    cases hlast : (splitOnChar '\\'
        ((splitOnChar ' ' (trim (joined clause).toList)).head?.getD [])).getLast? with
    | none =>
      rw [hlast] at hc
      cases hc
    | some segment =>
      rw [hlast] at hc
      exact hname c (subset_of_mem_splitOnChar (List.mem_of_getLast? hlast) hc)

/-! ## The pass over a file -/

/-- The elements that tell the symbols of a file, and its aliases. -/
structure All (p : Char → Bool) (s : Symbols) : Prop where
  scope : allChars p s.scope = true
  aliases : ∀ e ∈ s.aliases, allChars p e.1 = true ∧ allChars p e.2 = true
  interfaces : ∀ e ∈ s.interfaces, e.2.toElement.All p
  classes : ∀ e ∈ s.classes, e.2.toElement.All p
  functions : ∀ e ∈ s.functions, e.2.toElement.All p
  constants : ∀ e ∈ s.constants, e.2.toElement.All p
  includes : ∀ i ∈ s.includes, i.toElement.All p

variable {source : String} {s s' : Symbols} {c : Cursor} {t : Token} {rest : List Token}

/-- A statement enters elements whose characters are in the class. -/
theorem Enters.all (hp : Ample p) (henters : Enters s c t rest s') (hs : s.All p)
    (h : TailOf source c.toList) (hsource : allChars p source = true)
    (hrest : c.rest = t :: rest) : s'.All p := by
  have hall := tokensAll_of_tailOf h hsource
  have htail : TailOf source (t :: rest) := by
    rw [Cursor.toList, hrest] at h
    exact h.append
  have hpassed : TokensAll p c.passed :=
    hall.mono fun u hu => List.mem_append_left _ (List.mem_reverse.2 hu)
  have htokens : TokensAll p rest := tokensAll_of_tailOf htail.tail hsource
  have hdoc := attached_all hp (leadingComment_all hpassed)
  cases henters with
  | scope =>
    refine { hs with scope := ?_ }
    cases hname : (readNamespace c).1 with
    | none => exact hs.scope
    | some scope => exact readNamespace_all hp hall scope hname
  | use =>
    refine { hs with aliases := Table.forall_foldl_put hs.aliases ?_ }
    exact List.forall_mem_map.2 fun clause hclause =>
      aliasOf_all (useClauses_all htokens clause hclause)
  | unnamed => exact hs
  | interface _ hread =>
    have hd := readInterfaceFrom_all hp htokens hs.scope hdoc hread
    exact { hs with interfaces := Table.forall_put hs.interfaces hd }
  | classDef _ hread =>
    have hd := readClassFrom_all hp htokens hs.scope hdoc hread
    exact { hs with classes := Table.forall_put hs.classes hd }
  | function _ hread =>
    have hd := readFunctionFrom_all hp htokens hs.scope hdoc hread
    exact { hs with functions := Table.forall_put hs.functions hd }
  | constant hread =>
    have hd := readConstants_all hp htokens hs.scope hdoc hread _ List.mem_cons_self
    exact { hs with constants := Table.forall_put hs.constants hd }
  | @inclusion k hk ht =>
    -- the keyword is reported in lower case, which need not be how the source spells it
    have htype : allChars p (lowered t.content) = true := by
      rw [(htail [] t rest rfl).1.keyword k ht]
      simp only [includeWords, List.mem_cons, List.not_mem_nil, or_false] at hk
      rcases hk with rfl | rfl | rfl | rfl <;> exact hp.word rfl
    refine { hs with includes := List.forall_mem_append.2 ⟨hs.includes, ?_⟩ }
    exact List.forall_mem_singleton.2 (readInclude_all hp htokens htype hdoc)

theorem collect_all (hp : Ample p) (hs : s.All p) (h : TailOf source c.toList)
    (hsource : allChars p source = true) (hcollect : (s.collect c).2 = .ok s') : s'.All p :=
  collect_preserves
    (fun hs htokens hrest henters => henters.all hp hs (htokens ▸ h) hsource hrest) hs rfl hcollect

theorem all_empty (hp : Ample p) : All p {} :=
  ⟨hp.word rfl, List.forall_mem_nil _, List.forall_mem_nil _, List.forall_mem_nil _,
    List.forall_mem_nil _, List.forall_mem_nil _, List.forall_mem_nil _⟩

end Symbols

/-! ## Markers -/

namespace Marker

theorem term?_mem {terms : List String} {cs : List Char} {term : String}
    (h : term? terms cs = some term) : term ∈ terms := List.mem_of_find?_eq_some h

/-- The term of an occurrence is one of the terms, and the text after it is from the line. -/
theorem of_termAfter? {terms : List String} {cs after : List Char} {n : Nat} {term : String}
    (h : termAfter? terms cs n = some (term, after)) : term ∈ terms ∧ after ⊆ cs := by
  induction n with
  | zero =>
    obtain ⟨found, hterm, heq⟩ := Option.map_eq_some_iff.1 h
    cases heq
    exact ⟨term?_mem hterm, List.drop_subset _ _⟩
  | succ n ih =>
    rw [termAfter?] at h
    split at h
    · next found hterm =>
      cases h
      exact ⟨term?_mem hterm, List.Subset.trans (List.drop_subset _ _) (List.drop_subset _ _)⟩
    · exact ih h

theorem of_occurrence? {terms : List String} {cs after : List Char} {term : String}
    (h : occurrence? terms cs = some (term, after)) : term ∈ terms ∧ after ⊆ cs := by
  unfold occurrence? at h
  split at h
  · next r =>
    obtain ⟨hterm, hafter⟩ := of_termAfter? h
    exact ⟨hterm, List.subset_cons_of_subset _ (List.subset_cons_of_subset _ hafter)⟩
  · cases h

theorem textStart_subset (cs : List Char) : textStart cs ⊆ cs := by
  unfold textStart
  split
  · exact List.subset_cons_of_subset _ (List.dropWhile_sublist _).subset
  · exact (List.dropWhile_sublist _).subset

theorem beforeNext_subset (terms : List String) (cs : List Char) : beforeNext terms cs ⊆ cs := by
  induction cs with
  | nil => exact List.nil_subset _
  | cons c r ih =>
    rw [beforeNext]
    split
    · exact List.nil_subset _
    · exact List.cons_subset_cons c ih

theorem of_mem_inLine {terms : List String} {cs : List Char} {entry : String × String}
    (h : entry ∈ inLine terms cs) : entry.1 ∈ terms ∧ entry.2.toList ⊆ cs := by
  fun_induction inLine terms cs with
  | case1 => cases h
  | case2 c r hnone ih =>
    obtain ⟨hterm, htext⟩ := ih h
    exact ⟨hterm, List.subset_cons_of_subset c htext⟩
  | case3 c r term after hsome text hlt ih =>
    obtain ⟨hterm, hafter⟩ := of_occurrence? hsome
    have hstart := List.Subset.trans (textStart_subset after) hafter
    rcases List.mem_cons.1 h with rfl | h
    · refine ⟨hterm, ?_⟩
      rw [String.toList_ofList]
      exact List.Subset.trans (List.Subset.trans (trim_subset _) (beforeNext_subset terms _)) hstart
    · obtain ⟨hterm', htext⟩ := ih h
      exact ⟨hterm', List.Subset.trans htext (List.Subset.trans (List.drop_subset _ _) hstart)⟩

theorem of_mem_inLines {terms : List String} {first : Int} {ls : List (List Char)} {m : Marker}
    (h : m ∈ inLines terms first ls) : m.term ∈ terms ∧ ∃ l ∈ ls, m.content.toList ⊆ l := by
  induction ls generalizing first with
  | nil => cases h
  | cons line later ih =>
    rw [inLines, List.mem_append, List.mem_map] at h
    rcases h with ⟨entry, hentry, rfl⟩ | h
    · obtain ⟨hterm, htext⟩ := of_mem_inLine hentry
      exact ⟨hterm, line, List.mem_cons_self, htext⟩
    · obtain ⟨hterm, l, hl, htext⟩ := ih h
      exact ⟨hterm, l, List.mem_cons_of_mem _ hl, htext⟩

/-- A marker has one of the terms, and its text is from the source. -/
theorem of_mem_scan {terms : List String} {contents : String} {m : Marker}
    (h : m ∈ scan terms contents) :
    m.term ∈ terms ∧ m.content.toList ⊆ contents.toList := by
  obtain ⟨hterm, l, hl, htext⟩ := of_mem_inLines h
  exact ⟨hterm, List.Subset.trans htext (subset_of_mem_splitOnChar hl)⟩

end Marker

/-! ## The docblock of a file -/

theorem Outline.fileDocblock_all (hp : Ample p) {ts : List Token} (h : TokensAll p ts) :
    ∀ b ∈ (fileDocblock ts).2, b.toElement.All p := by
  intro b hb
  obtain ⟨t, ht, -, hread⟩ := exists_of_mem_fileDocblock hb
  exact Docblock.all_toElement_of_read hp (h t ht) hread

/-- The elements that tell an outline, and the texts of its markers. -/
structure Outline.All (p : Char → Bool) (o : Outline) : Prop where
  symbols : o.symbols.All p
  docblock : ∀ b ∈ o.docblock, b.toElement.All p
  markers : ∀ m ∈ o.markers, allChars p m.content = true

/-- An outline holds characters of its source. -/
theorem Outline.all_of_ofSource (hp : Ample p) {path contents : String} {terms : List String}
    {o : Outline} (hcontents : allChars p contents = true)
    (h : Outline.ofSource path contents terms = .ok o) : o.All p := by
  obtain ⟨ts, hlex, hcollect, hmarkers, hdocblock⟩ := exists_tokens_of_ofSource h
  have htail := tailOf_lex hlex
  refine ⟨?_, ?_, ?_⟩
  · exact Symbols.collect_all (c := .ofList ts) hp (Symbols.all_empty hp) htail hcontents hcollect
  · rw [hdocblock]
    exact fileDocblock_all hp (tokensAll_of_tailOf htail hcontents)
  · rw [hmarkers]
    intro m hm
    obtain ⟨-, htext⟩ := Marker.of_mem_scan hm
    exact allChars_iff.2 fun c hc => allChars_iff.1 hcontents c (htext hc)

end PhpOutline
