import PhpOutline.Proofs.Inversion

/-!
# What stands before a class

The modifiers and the doc comment of a class are looked up behind the cursor, which stays on the
keyword. Both are found across white space, comments and class modifiers, in any order and number.
Neither search goes past a doc comment: the nearest one is the one that is attached, and a modifier
that stands before it is not found.

Results:
* `Cursor.behind_iff`: tokens before a cursor, by index and as parts of a list.
* `mem_leadingModifiers_iff`, `leadingComment_eq_some_iff`: what the two searches find.
* `Cursor.hasBefore_iff_of_undocumented`: where doc comments would make no difference.
* `readClass_lookBehind`: flags and docblock of every class that is read.
-/

namespace PhpOutline

/-! ## Before a cursor -/

/-- The token at index `j` stands before the cursor, and all tokens between it and the cursor are of
    the given sort. -/
def Cursor.Behind (c : Cursor) (between : Token → Prop) (j : Nat) (u : Token) : Prop :=
  j < c.position ∧ c.toList[j]? = some u ∧
    ∀ k v, j < k → k < c.position → c.toList[k]? = some v → between v

/-- A keyword stands before the cursor, and all tokens between are of the given sort. -/
def Cursor.HasBefore (c : Cursor) (between : Token → Prop) (word : Keyword) : Prop :=
  ∃ j u, u.kind = some (.keyword word) ∧ c.Behind between j u

/-- White space, a comment that is no doc comment, or a class modifier. -/
def Token.IsLead (t : Token) : Prop :=
  t.kind = some .whitespace ∨ t.kind = some .comment ∨ t.kind = some (.keyword .abstractKw) ∨
    t.kind = some (.keyword .finalKw) ∨ t.kind = some (.keyword .readonlyKw)

/-- As `IsLead`, or a doc comment. -/
def Token.IsLeadOrDoc (t : Token) : Prop := t.IsLead ∨ t.kind = some .docComment

variable {c : Cursor} {between : Token → Prop} {j : Nat} {t u : Token} {word : Keyword}
  {passed : List Token}

theorem Cursor.getElem?_toList (hj : j < c.position) :
    c.toList[j]? = c.passed[c.position - 1 - j]? := by
  have hlen : j < c.passed.reverse.length := by simpa [Cursor.position] using hj
  rw [Cursor.toList, List.getElem?_append_left hlen, List.getElem?_reverse (by simpa using hlen)]
  rfl

/-- The tokens that have been passed, nearest first, are those between, the token and the `j` tokens
    before it. -/
theorem Cursor.behind_iff :
    c.Behind between j u ↔
      ∃ near far, c.passed = near ++ u :: far ∧ far.length = j ∧ ∀ v ∈ near, between v := by
  constructor
  · rintro ⟨hj, hget, hbetween⟩
    rw [Cursor.getElem?_toList hj] at hget
    obtain ⟨hlt, hu⟩ := List.getElem?_eq_some_iff.1 hget
    have hposition : c.position = c.passed.length := rfl
    refine ⟨c.passed.take (c.position - 1 - j), c.passed.drop (c.position - 1 - j + 1), ?_, ?_, ?_⟩
    · rw [← hu, List.getElem_cons_drop, List.take_append_drop]
    · rw [List.length_drop]
      omega
    · intro v hv
      obtain ⟨n, hn, rfl⟩ := List.mem_take_iff_getElem.1 hv
      refine hbetween (c.position - 1 - n) _ (by omega) (by omega) ?_
      rw [Cursor.getElem?_toList (by omega),
        show c.position - 1 - (c.position - 1 - n) = n by omega,
        List.getElem?_eq_getElem (by omega)]
  · rintro ⟨near, far, hpassed, rfl, hnear⟩
    have hposition : c.position = near.length + (far.length + 1) := by
      rw [Cursor.position, hpassed, List.length_append, List.length_cons]
    refine ⟨by omega, ?_, fun k v hjk hk hv => hnear v ?_⟩
    · rw [Cursor.getElem?_toList (by omega), hpassed,
        show c.position - 1 - far.length = near.length by omega,
        List.getElem?_append_right (Nat.le_refl _), Nat.sub_self]
      rfl
    · rw [Cursor.getElem?_toList hk, hpassed, List.getElem?_append_left (by omega)] at hv
      exact List.mem_of_getElem? hv

theorem Cursor.hasBefore_iff :
    c.HasBefore between word ↔
      ∃ near u far, c.passed = near ++ u :: far ∧ u.kind = some (.keyword word) ∧
        ∀ v ∈ near, between v := by
  constructor
  · rintro ⟨j, u, hu, hbehind⟩
    obtain ⟨near, far, hpassed, -, hnear⟩ := Cursor.behind_iff.1 hbehind
    exact ⟨near, u, far, hpassed, hu, hnear⟩
  · rintro ⟨near, u, far, hpassed, hu, hnear⟩
    exact ⟨far.length, u, hu, Cursor.behind_iff.2 ⟨near, far, hpassed, rfl, hnear⟩⟩

/-- Among leading tokens and doc comments, either there is no doc comment, or there is a nearest
    one. -/
theorem forall_isLead_or_exists_doc {near : List Token} (h : ∀ v ∈ near, v.IsLeadOrDoc) :
    (∀ v ∈ near, v.IsLead) ∨
      ∃ nearer v farther, near = nearer ++ v :: farther ∧ v.kind = some .docComment ∧
        ∀ w ∈ nearer, w.IsLead := by
  induction near with
  | nil => exact .inl (List.forall_mem_nil _)
  | cons t near ih =>
    rcases h t List.mem_cons_self with hlead | hdoc
    · rcases ih fun v hv => h v (List.mem_cons_of_mem t hv) with
        hall | ⟨nearer, v, farther, rfl, hv, hw⟩
      · exact .inl (List.forall_mem_cons.2 ⟨hlead, hall⟩)
      · exact .inr ⟨t :: nearer, v, farther, rfl, hv, List.forall_mem_cons.2 ⟨hlead, hw⟩⟩
    · exact .inr ⟨[], t, near, rfl, hdoc, List.forall_mem_nil _⟩

/-- If no doc comment is attached, then none stands between a modifier and the cursor. -/
theorem Cursor.hasBefore_iff_of_undocumented
    (h : ∀ k v, c.Behind Token.IsLead k v → v.kind ≠ some .docComment) :
    c.HasBefore Token.IsLead word ↔ c.HasBefore Token.IsLeadOrDoc word := by
  rw [Cursor.hasBefore_iff, Cursor.hasBefore_iff]
  constructor
  · rintro ⟨near, u, far, hpassed, hu, hnear⟩
    exact ⟨near, u, far, hpassed, hu, fun v hv => .inl (hnear v hv)⟩
  · rintro ⟨near, u, far, hpassed, hu, hnear⟩
    rcases forall_isLead_or_exists_doc hnear with hall | ⟨nearer, v, farther, rfl, hv, hw⟩
    · exact ⟨near, u, far, hpassed, hu, hall⟩
    · have hsplit : c.passed = nearer ++ v :: (farther ++ u :: far) := by simp [hpassed]
      exact absurd hv (h _ v (Cursor.behind_iff.2 ⟨nearer, _, hsplit, rfl, hw⟩))

namespace Reading

/-! ## The two searches -/

theorem classModifier?_eq_some_iff :
    classModifier? t = some word ↔
      t.kind = some (.keyword word) ∧ word.isClassModifier = true := by
  unfold classModifier?
  split
  · next w hkind =>
    rw [hkind]
    simp only [Option.ite_none_right_eq_some, Option.some.injEq, Kind.keyword.injEq]
    constructor
    · rintro ⟨hw, rfl⟩
      exact ⟨rfl, hw⟩
    · rintro ⟨rfl, hw⟩
      exact ⟨hw, rfl⟩
  · next hkind =>
    refine iff_of_false (fun h => nomatch h) ?_
    rintro ⟨h, -⟩
    exact hkind word h

theorem isLeading_iff : isLeading t = true ↔ t.IsLead := by
  have hmodifier : (classModifier? t).isSome = true ↔ t.kind = some (.keyword .abstractKw) ∨
      t.kind = some (.keyword .finalKw) ∨ t.kind = some (.keyword .readonlyKw) := by
    rw [Option.isSome_iff_exists]
    simp only [classModifier?_eq_some_iff]
    constructor
    · rintro ⟨w, hkind, hw⟩
      rw [hkind]
      revert hw
      cases w <;> decide
    · rintro (h | h | h) <;> exact ⟨_, h, rfl⟩
  simp only [isLeading, Bool.or_eq_true, hmodifier, Token.isKind, beq_iff_eq, Token.IsLead,
    or_assoc]

theorem mem_leadingModifiers_iff (hword : word.isClassModifier = true) :
    word ∈ leadingModifiers passed ↔
      ∃ near u far, passed = near ++ u :: far ∧ u.kind = some (.keyword word) ∧
        ∀ v ∈ near, v.IsLead := by
  unfold leadingModifiers
  rw [List.mem_filterMap]
  constructor
  · rintro ⟨u, hu, hmodifier⟩
    obtain ⟨near, later, hsplit⟩ := List.append_of_mem hu
    refine ⟨near, u, later ++ passed.dropWhile isLeading, ?_,
      (classModifier?_eq_some_iff.1 hmodifier).1, fun v hv => ?_⟩
    · rw [← List.cons_append, ← List.append_assoc, ← hsplit, List.takeWhile_append_dropWhile]
    · have hmem : v ∈ passed.takeWhile isLeading := by
        rw [hsplit]
        exact List.mem_append_left _ hv
      exact isLeading_iff.1 (List.all_eq_true.1 List.all_takeWhile v hmem)
  · rintro ⟨near, u, far, rfl, hu, hnear⟩
    have hmodifier : classModifier? u = some word := classModifier?_eq_some_iff.2 ⟨hu, hword⟩
    refine ⟨u, ?_, hmodifier⟩
    rw [List.takeWhile_append_of_pos fun v hv => isLeading_iff.2 (hnear v hv),
      List.takeWhile_cons_of_pos (by simp [isLeading, hmodifier])]
    exact List.mem_append_right _ List.mem_cons_self

theorem leadingComment_eq_some_iff :
    leadingComment passed = some u ↔
      ∃ near far, passed = near ++ u :: far ∧ u.kind = some .docComment ∧
        ∀ v ∈ near, v.IsLead := by
  unfold leadingComment
  rw [Option.filter_eq_some_iff]
  constructor
  · rintro ⟨hhead, hdoc⟩
    obtain ⟨far, hfar⟩ := List.head?_eq_some_iff.1 hhead
    refine ⟨passed.takeWhile isLeading, far, ?_, by simpa [Token.isKind] using hdoc, fun v hv => ?_⟩
    · rw [← hfar, List.takeWhile_append_dropWhile]
    · exact isLeading_iff.1 (List.all_eq_true.1 List.all_takeWhile v hv)
  · rintro ⟨near, far, rfl, hdoc, hnear⟩
    have hstop : isLeading u = false := by
      rw [Bool.eq_false_iff, Ne, isLeading_iff]
      simp [Token.IsLead, hdoc]
    rw [List.dropWhile_append_of_pos fun v hv => isLeading_iff.2 (hnear v hv),
      List.dropWhile_cons_of_neg (by simp [hstop])]
    exact ⟨rfl, by simp [Token.isKind, hdoc]⟩

/-- The docblock of a declaration is the doc comment that is attached to it, if it can be read. -/
theorem attached_leadingComment_iff {b : Docblock} :
    (attached (leadingComment c.passed)).2 = some b ↔
      ∃ j u, u.kind = some .docComment ∧ c.Behind Token.IsLead j u ∧
        Docblock.read u.content u.line = .ok b := by
  have hattached : (attached (leadingComment c.passed)).2 = some b ↔
      ∃ u, leadingComment c.passed = some u ∧ Docblock.read u.content u.line = .ok b := by
    cases leadingComment c.passed with
    | none => simp [attached]
    | some u => cases hread : Docblock.read u.content u.line <;> simp [attached, hread]
  rw [hattached]
  constructor
  · rintro ⟨u, hcomment, hread⟩
    obtain ⟨near, far, hpassed, hdoc, hnear⟩ := leadingComment_eq_some_iff.1 hcomment
    exact ⟨far.length, u, hdoc, Cursor.behind_iff.2 ⟨near, far, hpassed, rfl, hnear⟩, hread⟩
  · rintro ⟨j, u, hdoc, hbehind, hread⟩
    obtain ⟨near, far, hpassed, -, hnear⟩ := Cursor.behind_iff.1 hbehind
    exact ⟨u, leadingComment_eq_some_iff.2 ⟨near, far, hpassed, hdoc, hnear⟩, hread⟩

theorem contains_leadingModifiers_iff (hword : word.isClassModifier = true) :
    (leadingModifiers c.passed).contains word = true ↔ c.HasBefore Token.IsLead word := by
  rw [List.contains_iff_mem, mem_leadingModifiers_iff hword, Cursor.hasBefore_iff]

/-! ## Classes -/

theorem rest_of_expect {words : List Keyword} {rest : List Token}
    (h : expect words c = .ok (t, rest)) :
    c.rest = t :: rest ∧ words.any t.isKeyword = true := by
  unfold expect at h
  split at h
  · cases h
  · next u later hrest =>
    split at h
    · next hword =>
      cases h
      exact ⟨hrest, hword⟩
    · cases h

/-- A class is read only with the cursor on its keyword. -/
theorem exists_keyword_of_readClass {scope : String} {result : Option ClassDecl × List Token}
    (h : (readClass scope c).result = .ok result) :
    ∃ keyword later, c.rest = keyword :: later ∧
      [Keyword.classKw].any keyword.isKeyword = true := by
  unfold readClass at h
  split at h
  · cases h
  · next keyword later hexpect => exact ⟨keyword, later, rest_of_expect hexpect⟩

/-- The flags and the docblock of a class come from behind the cursor; all else, and the place after
    the class, comes from the keyword on. -/
theorem exists_readClassFrom {scope : String} {d : ClassDecl} {rest : List Token}
    (h : (readClass scope c).result = .ok (some d, rest)) :
    d.isAbstract = (leadingModifiers c.passed).contains .abstractKw ∧
      d.isFinal = (leadingModifiers c.passed).contains .finalKw ∧
      d.docblock = (attached (leadingComment c.passed)).2 ∧
      ∀ passed, (readClass scope ⟨passed, c.rest⟩).result =
        .ok (some { d with
          isAbstract := (leadingModifiers passed).contains .abstractKw
          isFinal := (leadingModifiers passed).contains .finalKw
          docblock := (attached (leadingComment passed)).2 }, rest) := by
  obtain ⟨keyword, later, hrest, hkeyword⟩ := exists_keyword_of_readClass h
  rw [readClass_eq hrest hkeyword, Noted.result_after] at h
  obtain ⟨t, first, hfirst, ⟨hname, parent, interfaces, afterHead, body, hhead, hbody, hd⟩ |
    ⟨-, -, hd, -⟩⟩ := readClassFrom_eq_ok_iff.1 (Noted.eq_mk h)
  · cases hd
    refine ⟨rfl, rfl, rfl, fun passed => ?_⟩
    have hcursor : (⟨passed, c.rest⟩ : Cursor).rest = keyword :: later := hrest
    rw [readClass_eq hcursor hkeyword, Noted.result_after,
      readClassFrom_eq_ok_iff.2 ⟨t, first, hfirst, .inl ⟨hname, parent, interfaces, afterHead, body,
        hhead, hbody, rfl⟩⟩]
  · cases hd

/-- A class that is read is abstract or final exactly if the word stands before its keyword with
    nothing but white space, comments that are no doc comments and class modifiers between. So doc
    comments between would make no difference if none is attached. Its docblock is the doc comment
    that stands so, if it can be read. The look behind leaves the cursor where it is: whatever
    stands before the keyword, the same class is read up to the same place, flags and docblock
    apart. -/
theorem readClass_lookBehind {scope : String} {d : ClassDecl} {rest : List Token}
    (h : (readClass scope c).result = .ok (some d, rest)) :
    (d.isAbstract = true ↔ c.HasBefore Token.IsLead .abstractKw) ∧
    (d.isFinal = true ↔ c.HasBefore Token.IsLead .finalKw) ∧
    ((∀ k v, c.Behind Token.IsLead k v → v.kind ≠ some .docComment) →
      (d.isAbstract = true ↔ c.HasBefore Token.IsLeadOrDoc .abstractKw) ∧
      (d.isFinal = true ↔ c.HasBefore Token.IsLeadOrDoc .finalKw)) ∧
    (∀ b, d.docblock = some b ↔
      ∃ j u, u.kind = some .docComment ∧ c.Behind Token.IsLead j u ∧
        Docblock.read u.content u.line = .ok b) ∧
    ∀ passed, ∃ other, (readClass scope ⟨passed, c.rest⟩).result = .ok (some other, rest) ∧
      d = { other with
        isAbstract := d.isAbstract
        isFinal := d.isFinal
        docblock := d.docblock } := by
  obtain ⟨habstract, hfinal, hdocblock, hother⟩ := exists_readClassFrom h
  have habstract' : d.isAbstract = true ↔ c.HasBefore Token.IsLead .abstractKw := by
    rw [habstract, contains_leadingModifiers_iff rfl]
  have hfinal' : d.isFinal = true ↔ c.HasBefore Token.IsLead .finalKw := by
    rw [hfinal, contains_leadingModifiers_iff rfl]
  refine ⟨habstract', hfinal', fun hnone => ?_, fun b => ?_, fun passed => ⟨_, hother passed, rfl⟩⟩
  · rw [habstract', hfinal']
    exact ⟨Cursor.hasBefore_iff_of_undocumented hnone, Cursor.hasBefore_iff_of_undocumented hnone⟩
  · rw [hdocblock, attached_leadingComment_iff]

/-- A class in `final /** D. */ abstract class A`: the doc comment is attached across the nearer
    modifier, and the modifier before the doc comment is not found. -/
theorem readClass_lookBehind_doc_between :
    let blank : Token := ⟨some .whitespace, " ", 1⟩
    let finalWord : Token := ⟨some (.keyword .finalKw), "final", 1⟩
    let abstractWord : Token := ⟨some (.keyword .abstractKw), "abstract", 1⟩
    let doc : Token := ⟨some .docComment, "/** D. */", 1⟩
    let c : Cursor :=
      ⟨[blank, abstractWord, blank, doc, blank, finalWord, ⟨some .openTag, "<?php ", 1⟩],
       [⟨some (.keyword .classKw), "class", 1⟩, blank, ⟨some .name, "A", 1⟩, blank,
        ⟨none, openBrace, 1⟩, ⟨none, closeBrace, 1⟩]⟩
    ∃ d, (readClass "default" c).result = .ok (some d, []) ∧
      (d.isAbstract = true ∧ c.HasBefore Token.IsLead .abstractKw) ∧
      (d.isFinal = false ∧ ¬ c.HasBefore Token.IsLead .finalKw ∧
        c.HasBefore Token.IsLeadOrDoc .finalKw) ∧
      d.docblock = some ⟨"D.", "", [], 1⟩ := by
  intro blank finalWord abstractWord doc c
  let d : ClassDecl :=
    { name := "A", line := 1, isAbstract := true, docblock := some ⟨"D.", "", [], 1⟩ }
  have hread : (readClass "default" c).result = .ok (some d, []) := by decide +kernel
  obtain ⟨habstract, hfinal, -, -, -⟩ := readClass_lookBehind hread
  refine ⟨d, hread, ⟨rfl, habstract.1 rfl⟩, ⟨rfl, fun h => Bool.noConfusion (hfinal.2 h), ?_⟩, rfl⟩
  rw [Cursor.hasBefore_iff]
  refine ⟨[blank, abstractWord, blank, doc, blank], finalWord, _, rfl, rfl, ?_⟩
  simp [Token.IsLeadOrDoc, Token.IsLead, blank, abstractWord, doc]

end Reading

end PhpOutline
