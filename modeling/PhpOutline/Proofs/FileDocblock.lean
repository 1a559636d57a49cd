import PhpOutline.Proofs.Fidelity

/-!
# The docblock of a file

Which doc comment documents a file as a whole. It is looked for at the indices from one to ten of
the tokens, before any class and namespace keyword; the first doc comment there is the only
candidate. It counts if it can be read, has a tag `package` and does not belong to a class that
comes next. A file without such a docblock gets a diagnostic, and one more before it if the
candidate cannot be read.

Results:
* `isCandidate_iff`: the bounded search finds the candidate and nothing else.
* `precedesClass_iff`: the look past the candidate.
* `fileDocblock_cases`, `fileDocblock_eq_some_iff`: what comes of the candidate.
* `openingDiagnostics_of_failed`, `openingDiagnostics_of_none`: the diagnostics.
* `process_fileDocblock`: docblock and diagnostics of every file that can be read.
-/

namespace PhpOutline.Outline

/-! ## The candidate -/

/-- A token at which the search for a doc comment goes on. -/
def Passes (t : Token) : Prop :=
  t.kind ≠ some .docComment ∧ t.kind ≠ some (.keyword .classKw) ∧
    t.kind ≠ some (.keyword .namespaceKw)

/-- The token at index `i` is the first doc comment at the indices from one to ten, and no class or
    namespace keyword stands at an index from one on before it. -/
structure IsCandidate (ts : List Token) (i : Nat) (t : Token) : Prop where
  one_le : 1 ≤ i
  le_ten : i ≤ 10
  getElem : ts[i]? = some t
  docComment : t.kind = some .docComment
  before : ∀ j u, 1 ≤ j → j < i → ts[j]? = some u → Passes u

/-- The first token after index `i` that is not white space is a class keyword. -/
def BelongsToClass (ts : List Token) (i : Nat) : Prop :=
  ∃ j u, i < j ∧ ts[j]? = some u ∧ u.kind = some (.keyword .classKw) ∧
    ∀ k v, i < k → k < j → ts[k]? = some v → v.kind = some .whitespace

variable {ts rest : List Token} {i : Nat} {t : Token} {d : Docblock} {e : DocblockError}

theorem firstComment?_cons_of_passes {limit : Nat} (ht : Passes t) :
    firstComment? (limit + 1) (t :: ts) = firstComment? limit ts := by
  obtain ⟨hdoc, hclass, hscope⟩ := ht
  simp [firstComment?, Token.isKind, Token.isKeyword, hdoc, hclass, hscope]

theorem firstComment?_cons_of_docComment {limit : Nat} (ht : t.kind = some .docComment) :
    firstComment? (limit + 1) (t :: ts) = some (t, ts) := by
  simp [firstComment?, Token.isKind, ht]

/-- A search that does not end with its first token has passed it. -/
theorem firstComment?_cons {limit : Nat} {u : Token}
    (h : firstComment? limit (u :: ts) = some (t, rest)) :
    ∃ n, limit = n + 1 ∧ ((u.kind = some .docComment ∧ t = u ∧ rest = ts) ∨
      (Passes u ∧ firstComment? n ts = some (t, rest))) := by
  cases limit with
  | zero => cases h
  | succ n =>
    refine ⟨n, rfl, ?_⟩
    by_cases hdoc : u.kind = some .docComment
    · rw [firstComment?_cons_of_docComment hdoc] at h
      cases h
      exact .inl ⟨hdoc, rfl, rfl⟩
    · by_cases hclass : u.kind = some (.keyword .classKw)
      · simp [firstComment?, Token.isKind, Token.isKeyword, hclass] at h
      · by_cases hscope : u.kind = some (.keyword .namespaceKw)
        · simp [firstComment?, Token.isKind, Token.isKeyword, hscope] at h
        · have hpasses : Passes u := ⟨hdoc, hclass, hscope⟩
          rw [firstComment?_cons_of_passes hpasses] at h
          exact .inr ⟨hpasses, h⟩

/-- The bounded search gives the first doc comment of the window, unless it is stopped before it. -/
theorem firstComment?_eq_some_iff {limit : Nat} :
    firstComment? limit ts = some (t, rest) ↔
      ∃ i < limit, ts[i]? = some t ∧ t.kind = some .docComment ∧
        (∀ j u, j < i → ts[j]? = some u → Passes u) ∧ rest = ts.drop (i + 1) := by
  induction ts generalizing limit with
  | nil => cases limit <;> simp [firstComment?]
  | cons u ts ih =>
    constructor
    · intro h
      obtain ⟨n, rfl, ⟨hdoc, rfl, rfl⟩ | ⟨hpasses, hlater⟩⟩ := firstComment?_cons h
      · exact ⟨0, Nat.succ_pos n, rfl, hdoc, fun j v hj => absurd hj (Nat.not_lt_zero j), rfl⟩
      · obtain ⟨i, hi, hget, hdoc, hbefore, rfl⟩ := ih.1 hlater
        refine ⟨i + 1, Nat.succ_lt_succ hi, hget, hdoc, fun j v hj hv => ?_, rfl⟩
        cases j with
        | zero =>
          cases hv
          exact hpasses
        | succ j => exact hbefore j v (Nat.lt_of_succ_lt_succ hj) hv
    · rintro ⟨i, hi, hget, hdoc, hbefore, rfl⟩
      obtain ⟨n, rfl⟩ := Nat.exists_eq_add_one_of_ne_zero (Nat.ne_zero_of_lt hi)
      cases i with
      | zero =>
        cases hget
        exact firstComment?_cons_of_docComment hdoc
      | succ i =>
        rw [firstComment?_cons_of_passes (hbefore 0 u (Nat.succ_pos i) rfl)]
        exact ih.2 ⟨i, Nat.lt_of_succ_lt_succ hi, hget, hdoc,
          fun j v hj hv => hbefore (j + 1) v (Nat.succ_lt_succ hj) hv, rfl⟩

/-- The search in a file, which leaves out the first token, finds the candidate and nothing else. -/
theorem isCandidate_iff :
    firstComment? docblockWindow ts.tail = some (t, rest) ↔
      ∃ i, IsCandidate ts i t ∧ rest = ts.drop (i + 1) := by
  rw [firstComment?_eq_some_iff]
  simp only [List.getElem?_tail, List.drop_tail]
  constructor
  · rintro ⟨i, hi, hget, hdoc, hbefore, rfl⟩
    refine ⟨i + 1, ⟨Nat.succ_pos i, hi, hget, hdoc, fun j u hone hj hu => ?_⟩, rfl⟩
    obtain ⟨k, rfl⟩ := Nat.exists_eq_add_of_le' hone
    exact hbefore k u (Nat.lt_of_succ_lt_succ hj) hu
  · rintro ⟨i, ⟨hone, hten, hget, hdoc, hbefore⟩, rfl⟩
    obtain ⟨k, rfl⟩ := Nat.exists_eq_add_of_le' hone
    exact ⟨k, hten, hget, hdoc,
      fun j u hj hu => hbefore (j + 1) u (Nat.succ_pos j) (Nat.succ_lt_succ hj) hu, rfl⟩

theorem IsCandidate.firstComment?_eq (h : IsCandidate ts i t) :
    firstComment? docblockWindow ts.tail = some (t, ts.drop (i + 1)) :=
  isCandidate_iff.2 ⟨i, h, rfl⟩

/-! ## The token after the candidate -/

theorem precedesClass_eq_true_iff :
    precedesClass ts = true ↔
      ∃ (j : Nat) (u : Token), ts[j]? = some u ∧ u.kind = some (.keyword .classKw) ∧
        ∀ (k : Nat) (v : Token), k < j → ts[k]? = some v → v.kind = some .whitespace := by
  induction ts with
  | nil => simp [precedesClass]
  | cons t ts ih =>
    by_cases hblank : t.kind = some .whitespace
    · have hskip : precedesClass (t :: ts) = precedesClass ts := by
        simp [precedesClass, Token.isKind, hblank]
      rw [hskip, ih]
      constructor
      · rintro ⟨j, u, hget, hclass, hbefore⟩
        refine ⟨j + 1, u, hget, hclass, fun k v hk hv => ?_⟩
        cases k with
        | zero =>
          cases hv
          exact hblank
        | succ k => exact hbefore k v (Nat.lt_of_succ_lt_succ hk) hv
      · rintro ⟨j, u, hget, hclass, hbefore⟩
        cases j with
        | zero =>
          cases hget
          cases hblank.symm.trans hclass
        | succ j =>
          exact ⟨j, u, hget, hclass, fun k v hk hv => hbefore (k + 1) v (Nat.succ_lt_succ hk) hv⟩
    · have hhead : precedesClass (t :: ts) = true ↔ t.kind = some (.keyword .classKw) := by
        simp [precedesClass, Token.isKind, Token.isKeyword, hblank]
      rw [hhead]
      constructor
      · intro hclass
        exact ⟨0, t, rfl, hclass, fun k v hk => absurd hk (Nat.not_lt_zero k)⟩
      · rintro ⟨j, u, hget, hclass, hbefore⟩
        cases j with
        | zero =>
          cases hget
          exact hclass
        | succ j => exact absurd (hbefore 0 t (Nat.succ_pos j) rfl) hblank

/-- The look past index `i` tells whether the token there belongs to a class. -/
theorem precedesClass_iff : precedesClass (ts.drop (i + 1)) = true ↔ BelongsToClass ts i := by
  rw [precedesClass_eq_true_iff]
  simp only [List.getElem?_drop]
  constructor
  · rintro ⟨j, u, hget, hclass, hbefore⟩
    refine ⟨i + 1 + j, u, by omega, hget, hclass, fun k v hik hkj hv => ?_⟩
    obtain ⟨n, rfl⟩ := Nat.exists_eq_add_of_le hik
    exact hbefore n v (by omega) hv
  · rintro ⟨j, u, hij, hget, hclass, hbefore⟩
    obtain ⟨n, rfl⟩ := Nat.exists_eq_add_of_le hij
    exact ⟨n, u, hget, hclass, fun k v hk hv => hbefore (i + 1 + k) v (by omega) (by omega) hv⟩

/-! ## What comes of the candidate -/

theorem fileDocblock_of_none (h : ∀ i t, ¬ IsCandidate ts i t) :
    fileDocblock ts = (none, none) := by
  unfold fileDocblock
  split
  · rfl
  · next t rest hfound =>
    obtain ⟨i, hi, -⟩ := isCandidate_iff.1 hfound
    exact absurd hi (h i t)

theorem fileDocblock_of_error (h : IsCandidate ts i t)
    (hread : Docblock.read t.content t.line = .error e) : fileDocblock ts = (some e, none) := by
  simp only [fileDocblock, h.firstComment?_eq, hread]

theorem fileDocblock_of_ok (h : IsCandidate ts i t)
    (hread : Docblock.read t.content t.line = .ok d) :
    fileDocblock ts =
      (none, if !precedesClass (ts.drop (i + 1)) && d.hasTag "package" then some d else none) := by
  simp only [fileDocblock, h.firstComment?_eq, hread]

/-- Either there is no candidate, or it cannot be read, or it is a docblock. -/
theorem fileDocblock_cases (ts : List Token) :
    fileDocblock ts = (none, none) ∨
    (∃ i t e, IsCandidate ts i t ∧ Docblock.read t.content t.line = .error e ∧
      fileDocblock ts = (some e, none)) ∨
    ∃ i t d, IsCandidate ts i t ∧ Docblock.read t.content t.line = .ok d ∧
      fileDocblock ts =
        (none, if !precedesClass (ts.drop (i + 1)) && d.hasTag "package" then some d else none) := by
  by_cases hnone : ∀ i t, ¬ IsCandidate ts i t
  · exact .inl (fileDocblock_of_none hnone)
  · push Not at hnone
    obtain ⟨i, t, hcandidate⟩ := hnone
    cases hread : Docblock.read t.content t.line with
    | error e =>
      exact .inr (.inl ⟨i, t, e, hcandidate, hread, fileDocblock_of_error hcandidate hread⟩)
    | ok d => exact .inr (.inr ⟨i, t, d, hcandidate, hread, fileDocblock_of_ok hcandidate hread⟩)

/-- A file has a docblock if its candidate can be read, has a tag `package` and does not belong to a
    class. -/
theorem fileDocblock_eq_some_iff :
    (fileDocblock ts).2 = some d ↔
      ∃ i t, IsCandidate ts i t ∧ Docblock.read t.content t.line = .ok d ∧
        (∃ tag ∈ d.tags, tag.name = "package") ∧ ¬ BelongsToClass ts i := by
  have hchosen : ∀ i, (!precedesClass (ts.drop (i + 1)) && d.hasTag "package") = true ↔
      (∃ tag ∈ d.tags, tag.name = "package") ∧ ¬ BelongsToClass ts i := by
    intro i
    rw [← precedesClass_iff, Bool.and_eq_true, and_comm]
    simp [Docblock.hasTag]
  constructor
  · intro h
    rcases fileDocblock_cases ts with hnone | ⟨i, t, e, -, -, herror⟩ |
      ⟨i, t, block, hcandidate, hread, hblock⟩
    · rw [hnone] at h
      cases h
    · rw [herror] at h
      cases h
    · rw [hblock] at h
      simp only [Option.ite_none_right_eq_some, Option.some.injEq] at h
      obtain ⟨hcond, rfl⟩ := h
      exact ⟨i, t, hcandidate, hread, (hchosen i).1 hcond⟩
  · rintro ⟨i, t, hcandidate, hread, hcond⟩
    rw [fileDocblock_of_ok hcandidate hread]
    exact if_pos ((hchosen i).2 hcond)

/-- An error is noted exactly if the candidate cannot be read. -/
theorem fileDocblock_error_iff :
    (fileDocblock ts).1 = some e ↔
      ∃ i t, IsCandidate ts i t ∧ Docblock.read t.content t.line = .error e := by
  constructor
  · intro h
    rcases fileDocblock_cases ts with hnone | ⟨i, t, e', hcandidate, hread, herror⟩ |
      ⟨i, t, block, -, -, hblock⟩
    · rw [hnone] at h
      cases h
    · rw [herror] at h
      cases h
      exact ⟨i, t, hcandidate, hread⟩
    · rw [hblock] at h
      cases h
  · rintro ⟨i, t, hcandidate, hread⟩
    rw [fileDocblock_of_error hcandidate hread]

/-! ## Diagnostics -/

/-- What is told about a diagnostic: its kind, its text and its line. -/
def told (d : Diagnostic) : String × String × Option Int := (d.kind, d.message, d.line?)

/-- What is told about a file without a docblock. -/
def toldMissing (path : String) : String × String × Option Int :=
  ("missing-file-docblock", s!"No page-level DocBlock was found for {path}", none)

theorem line_of_read_error {raw : String} {line : Int}
    (h : Docblock.read raw line = .error e) : e.line = line := by
  unfold Docblock.read at h
  split at h
  · cases h
    rfl
  · split at h
    · cases h
      rfl
    · cases h

theorem openingDiagnostics_of_failed (path : String) (h : IsCandidate ts i t)
    (hread : Docblock.read t.content t.line = .error e) :
    (openingDiagnostics path ts).map told =
      [("docblock-parse-failed", e.message, some t.line), toldMissing path] := by
  rw [openingDiagnostics, fileDocblock_of_error h hread, ← line_of_read_error hread]
  rfl

theorem openingDiagnostics_of_none (path : String) (hnone : (fileDocblock ts).2 = none)
    (h : ∀ i t e, IsCandidate ts i t → Docblock.read t.content t.line ≠ .error e) :
    (openingDiagnostics path ts).map told = [toldMissing path] := by
  have hquiet : (fileDocblock ts).1 = none := by
    refine Option.eq_none_iff_forall_ne_some.2 fun e he => ?_
    obtain ⟨i, t, hcandidate, hread⟩ := fileDocblock_error_iff.1 he
    exact h i t e hcandidate hread
  rw [openingDiagnostics, hquiet, hnone]
  rfl

/-- There are no diagnostics exactly if there is a docblock. -/
theorem openingDiagnostics_eq_nil_iff (path : String) :
    openingDiagnostics path ts = [] ↔ (fileDocblock ts).2 ≠ none := by
  unfold openingDiagnostics
  cases hblock : (fileDocblock ts).2 with
  | none => simp
  | some d =>
    obtain ⟨i, t, hcandidate, hread, -⟩ := fileDocblock_eq_some_iff.1 hblock
    simp [fileDocblock_of_ok hcandidate hread]

/-- An outline has the docblock and the diagnostics of the tokens of its source. -/
theorem exists_diagnostics_of_ofSource {path contents : String} {terms : List String}
    {outline : Outline} (h : ofSource path contents terms = .ok outline) :
    ∃ ts, lex contents = .ok ts ∧ outline.docblock = (fileDocblock ts).2 ∧
      outline.diagnostics = openingDiagnostics path ts := by
  unfold ofSource at h
  cases hlex : lex contents with
  | error e =>
    rw [hlex] at h
    cases h
  | ok ts =>
    rw [hlex] at h
    simp only at h
    split at h
    · cases h
    · cases h
      exact ⟨ts, rfl, rfl, rfl⟩

end Outline

open Outline

/-- A file that can be read has the docblock of its candidate, if that has a tag `package` and does
    not belong to a class. Otherwise one diagnostic tells that there is no docblock, and one more
    before it tells on which line the candidate cannot be read, if that is the reason. -/
theorem SourceFile.process_fileDocblock (f : SourceFile) (hfresh : f.isProcessed = false)
    (h : f.process.error? = none) :
    ∃ ts, lex f.contents = .ok ts ∧
      (∀ d, f.process.file.outline.docblock = some d ↔
        ∃ i t, IsCandidate ts i t ∧ Docblock.read t.content t.line = .ok d ∧
          (∃ tag ∈ d.tags, tag.name = "package") ∧ ¬ BelongsToClass ts i) ∧
      (f.process.file.outline.diagnostics = [] ↔ f.process.file.outline.docblock ≠ none) ∧
      (∀ i t e, IsCandidate ts i t → Docblock.read t.content t.line = .error e →
        f.process.file.outline.diagnostics.map told =
          [("docblock-parse-failed", e.message, some t.line), toldMissing f.path]) ∧
      (f.process.file.outline.docblock = none →
        (∀ i t e, IsCandidate ts i t → Docblock.read t.content t.line ≠ .error e) →
        f.process.file.outline.diagnostics.map told = [toldMissing f.path]) := by
  obtain ⟨outline, hsource, hfile⟩ := SourceFile.exists_ofSource_of_process hfresh h
  obtain ⟨ts, hlex, hdocblock, hdiagnostics⟩ := exists_diagnostics_of_ofSource hsource
  have houtline : f.process.file.outline = outline := by rw [hfile]
  rw [houtline, hdocblock, hdiagnostics]
  exact ⟨ts, hlex, fun d => fileDocblock_eq_some_iff, openingDiagnostics_eq_nil_iff f.path,
    fun i t e => openingDiagnostics_of_failed f.path, openingDiagnostics_of_none f.path⟩

/-- A docblock before a function documents the file, also as the tenth token after the first one. A
    docblock with a tag that is none is told twice. -/
theorem SourceFile.process_fileDocblock_two_files :
    let good : SourceFile :=
      { path := "a.php"
        contents := "<?php $a;$b;$c;$d;\n/** F.\n * @package p\n */ function g() \x7b\x7d" }
    let bad : SourceFile := { path := "a.php", contents := "<?php\n/** @ p */ class A \x7b\x7d" }
    (good.isProcessed = false ∧ good.process.error? = none ∧
      good.process.file.outline.docblock = some ⟨"F.", "", [⟨"package", "p"⟩], 2⟩ ∧
      good.process.file.outline.diagnostics = []) ∧
    (bad.isProcessed = false ∧ bad.process.error? = none ∧
      bad.process.file.outline.diagnostics.map told =
        [("docblock-parse-failed", "Line 2: Malformed tag '@ p'", some 2),
         toldMissing "a.php"]) := by
  intro good bad
  have hgood : good.process.error? = none ∧
      good.process.file.outline.docblock = some ⟨"F.", "", [⟨"package", "p"⟩], 2⟩ := by
    decide +kernel
  have hbad : bad.process.error? = none := by decide +kernel
  have hlex : lex bad.contents = .ok
      [⟨some .openTag, "<?php\n", 1⟩, ⟨some .docComment, "/** @ p */", 2⟩,
       ⟨some .whitespace, " ", 2⟩, ⟨some (.keyword .classKw), "class", 2⟩,
       ⟨some .whitespace, " ", 2⟩, ⟨some .name, "A", 2⟩, ⟨some .whitespace, " ", 2⟩,
       ⟨none, openBrace, 2⟩, ⟨none, closeBrace, 2⟩] := by decide +kernel
  obtain ⟨_, -, -, hnil, -⟩ := SourceFile.process_fileDocblock good rfl hgood.1
  obtain ⟨ts, hts, -, -, hfailed, -⟩ := SourceFile.process_fileDocblock bad rfl hbad
  cases hlex.symm.trans hts
  have hread : Docblock.read "/** @ p */" 2 = .error ⟨.malformedTag "@ p", 2⟩ := by decide +kernel
  have hmessage : DocblockError.message ⟨.malformedTag "@ p", 2⟩ =
      "Line 2: Malformed tag '@ p'" := by decide +kernel
  refine ⟨⟨rfl, hgood.1, hgood.2, hnil.2 (by simp [hgood.2])⟩, rfl, hbad, ?_⟩
  -- no index lies between the first token and the candidate
  rw [hfailed 1 _ _ ⟨Nat.le_refl 1, by decide, rfl, rfl, fun j u hone hj => absurd hone (by omega)⟩
    hread, hmessage]

end PhpOutline
