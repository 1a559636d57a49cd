import Mathlib.Tactic.Common
import PhpOutline.Proofs.Scan
import PhpOutline.SourceFile.Symbols

/-!
# Namespace and `use` statements

How the statements that set the namespace and the aliases are written in tokens, and that the pass
reads them back: the name of a namespace part by part, and for each clause of a `use` statement the
name it stands for and the alias it sets.

Results:
* `readNamespace_of_renders`: a namespace statement sets its name, and the statement is passed.
* `splitOnChar_append_cons`, `trim_append`: the text functions behind a clause.
* `aliasOf_of_renders`: the alias of a clause and what it stands for.
* `readUse_of_separated`: the clauses of a `use` statement are read one by one.
* `readUse_of_renders`: a `use` statement gives its aliases in order, and the statement is passed.
-/

namespace PhpOutline

open PhpOutline.Text

/-- A token of white space. -/
def Token.IsBlank (t : Token) : Prop :=
  t.kind = some .whitespace ∧ ∀ c ∈ t.content.toList, Text.isBlank c = true

instance : DecidablePred Token.IsBlank := fun t =>
  have := List.decidableBAll (fun c => Text.isBlank c = true) t.content.toList
  inferInstanceAs (Decidable (_ ∧ _))

namespace Symbols

/-! ## Namespaces -/

/-- Tokens that write the parts of a name with separators between them. -/
inductive RendersPath : List String → List Token → Prop
  | last {t : Token} : t.isKind .name = true → RendersPath [t.content] [t]
  | cons {t sep : Token} {parts : List String} {ts : List Token} : t.isKind .name = true →
      sep.kind = some .separator → sep.content = "\\" → RendersPath parts ts →
      RendersPath (t.content :: parts) (t :: sep :: ts)

/-- A token that the search for the parts of a namespace passes over. -/
def IsPassed (t : Token) : Prop :=
  t.isKind .name = false ∧ [";", openBrace].contains t.content = false

theorem isPassed_of_isBlank {t : Token} (h : t.IsBlank) : IsPassed t := by
  obtain ⟨hkind, hblank⟩ := h
  have hne : ∀ sign : Char, Text.isBlank sign = false → t.content ≠ String.ofList [sign] := by
    intro sign hsign hcontent
    have := hblank sign (by simp [hcontent])
    rw [hsign] at this
    cases this
  refine ⟨by simp [Token.isKind, hkind], ?_⟩
  simp only [List.contains_eq_mem, decide_eq_false_iff_not, List.mem_cons, List.not_mem_nil,
    or_false, not_or]
  exact ⟨hne ';' (by decide), hne '{' (by decide)⟩

theorem isPassed_of_separator {t : Token} (hkind : t.kind = some .separator)
    (hcontent : t.content = "\\") : IsPassed t :=
  ⟨by simp [Token.isKind, hkind], by rw [hcontent]; decide⟩

/-- The search moves on over one token. -/
theorem gotoWithin_of_isPassed {passed rest : List Token} {x y : Token} (n : Nat)
    (hy : IsPassed y) :
    (⟨passed, x :: y :: rest⟩ : Cursor).gotoWithin .name [";", openBrace] (n + 1) =
      (⟨x :: passed, y :: rest⟩ : Cursor).gotoWithin .name [";", openBrace] n := by
  rw [Cursor.gotoWithin]
  simp only [Cursor.advance, Cursor.current, List.head?_cons]
  rw [if_neg (by simp [hy.1]), if_neg (by simpa using hy.2)]

theorem gotoWithin_of_name {passed rest : List Token} {x t : Token} (n : Nat)
    (ht : t.isKind .name = true) :
    (⟨passed, x :: t :: rest⟩ : Cursor).gotoWithin .name [";", openBrace] (n + 1) =
      (some t, ⟨x :: passed, t :: rest⟩) := by
  rw [Cursor.gotoWithin]
  simp only [Cursor.advance, Cursor.current, List.head?_cons]
  rw [if_pos ht]

theorem gotoWithin_of_semicolon {passed rest : List Token} {x stop : Token} (n : Nat)
    (hstop : stop.isPunct ";" = true) :
    (⟨passed, x :: stop :: rest⟩ : Cursor).gotoWithin .name [";", openBrace] (n + 1) =
      (none, ⟨x :: passed, stop :: rest⟩) := by
  obtain ⟨hkind, hcontent⟩ : stop.kind.isNone = true ∧ stop.content = ";" := by
    simpa [Token.isPunct] using hstop
  rw [Cursor.gotoWithin]
  simp only [Cursor.advance, Cursor.current, List.head?_cons]
  rw [Option.isNone_iff_eq_none] at hkind
  rw [if_neg (by simp [Token.isKind, hkind]), if_pos (by rw [hcontent]; decide)]

theorem namespaceParts_of_some {c after : Cursor} {t : Token}
    (h : c.gotoWithin .name [";", openBrace] 5 = (some t, after)) :
    namespaceParts c = (t.content :: (namespaceParts after).1, (namespaceParts after).2) := by
  rw [namespaceParts]
  split
  · rename_i h'
    rw [Cursor.goto, show Int.toNat 5 = 5 from rfl, h] at h'
    cases h'
  · rename_i h'
    rw [Cursor.goto, show Int.toNat 5 = 5 from rfl, h] at h'
    cases h'
    rfl

theorem namespaceParts_of_none {c after : Cursor}
    (h : c.gotoWithin .name [";", openBrace] 5 = (none, after)) :
    namespaceParts c = ([], after) := by
  rw [namespaceParts]
  split
  · rename_i h'
    rw [Cursor.goto, show Int.toNat 5 = 5 from rfl, h] at h'
    cases h'
    rfl
  · rename_i h'
    rw [Cursor.goto, show Int.toNat 5 = 5 from rfl, h] at h'
    cases h'

/-- After the last part, at most one blank token stands before the semicolon. -/
theorem namespaceParts_of_end {passed gap rest : List Token} {x stop : Token}
    (hgap : gap.length ≤ 1) (hblank : ∀ t ∈ gap, t.IsBlank) (hstop : stop.isPunct ";" = true) :
    namespaceParts ⟨passed, x :: (gap ++ stop :: rest)⟩ =
      ([], ⟨gap.reverse ++ x :: passed, stop :: rest⟩) := by
  cases gap with
  | nil => exact namespaceParts_of_none (gotoWithin_of_semicolon 4 hstop)
  | cons blank gap =>
    obtain rfl : gap = [] := by simpa using hgap
    have hpassed := isPassed_of_isBlank (hblank blank List.mem_cons_self)
    exact namespaceParts_of_none
      ((gotoWithin_of_isPassed 4 hpassed).trans (gotoWithin_of_semicolon 3 hstop))

/-- The parts of a name are found one after the other, each two tokens further on. -/
theorem namespaceParts_of_renders {parts : List String} {path passed gap rest : List Token}
    {x y stop : Token} (h : RendersPath parts path) (hy : IsPassed y) (hgap : gap.length ≤ 1)
    (hblank : ∀ t ∈ gap, t.IsBlank) (hstop : stop.isPunct ";" = true) :
    namespaceParts ⟨passed, x :: y :: (path ++ (gap ++ stop :: rest))⟩ =
      (parts, ⟨gap.reverse ++ (path.reverse ++ y :: x :: passed), stop :: rest⟩) := by
  induction h generalizing passed x y with
  | last ht =>
    rw [List.singleton_append, namespaceParts_of_some
      ((gotoWithin_of_isPassed 4 hy).trans (gotoWithin_of_name 3 ht)),
      namespaceParts_of_end hgap hblank hstop]
    rfl
  | cons ht hkind hcontent hpath ih =>
    rw [List.cons_append, List.cons_append, namespaceParts_of_some
      ((gotoWithin_of_isPassed 4 hy).trans (gotoWithin_of_name 3 ht)),
      ih (isPassed_of_separator hkind hcontent)]
    simp

/-- A namespace statement sets its name, and the statement is passed. -/
theorem readNamespace_of_renders {parts : List String} {path passed gap rest : List Token}
    {keyword blank stop : Token} (h : RendersPath parts path) (hspace : blank.IsBlank)
    (hgap : gap.length ≤ 1) (hblank : ∀ t ∈ gap, t.IsBlank) (hstop : stop.isPunct ";" = true) :
    readNamespace ⟨passed, keyword :: blank :: (path ++ (gap ++ stop :: rest))⟩ =
      (some ("\\".intercalate parts),
        ⟨stop :: (gap.reverse ++ (path.reverse ++ blank :: keyword :: passed)), rest⟩) := by
  have hsep : ¬ blank.isKind .separator = true := by simp [Token.isKind, hspace.1]
  have hpeek : (⟨passed, keyword :: blank :: (path ++ (gap ++ stop :: rest))⟩ : Cursor).peek 1 =
      some blank := rfl
  rw [readNamespace, hpeek]
  simp only
  rw [if_neg hsep, namespaceParts_of_renders h (isPassed_of_isBlank hspace) hgap hblank hstop]
  rfl

end Symbols

/-! ## Splitting and trimming -/

namespace Text

theorem splitOnChar_ne_nil (sep : Char) (cs : List Char) : splitOnChar sep cs ≠ [] := by
  cases cs with
  | nil => simp [splitOnChar]
  | cons c r =>
    rw [splitOnChar]
    split
    · simp
    · split <;> simp

/-- A separator ends the last piece before it. -/
theorem splitOnChar_append_cons (sep : Char) (a b : List Char) :
    splitOnChar sep (a ++ sep :: b) = splitOnChar sep a ++ splitOnChar sep b := by
  induction a with
  | nil => simp [splitOnChar]
  | cons c r ih =>
    rw [List.cons_append, splitOnChar, splitOnChar, ih]
    by_cases hc : c = sep
    · rw [if_pos hc, if_pos hc, List.cons_append]
    · rw [if_neg hc, if_neg hc]
      cases hr : splitOnChar sep r with
      | nil => exact absurd hr (splitOnChar_ne_nil sep r)
      | cons piece pieces => rfl

theorem splitOnChar_of_not_mem {sep : Char} {cs : List Char} (h : sep ∉ cs) :
    splitOnChar sep cs = [cs] := by
  induction cs with
  | nil => rfl
  | cons c r ih =>
    have hc : c ≠ sep := fun hc => h (hc ▸ List.mem_cons_self)
    rw [splitOnChar, if_neg hc, ih fun hr => h (List.mem_cons_of_mem c hr)]

/-- Blanks around a text that neither starts nor ends with a blank are trimmed. -/
theorem trim_append {front core back : List Char} (hfront : ∀ c ∈ front, isBlank c = true)
    (hback : ∀ c ∈ back, isBlank c = true)
    (hhead : ∀ c, core.head? = some c → isBlank c = false)
    (hlast : ∀ c, core.getLast? = some c → isBlank c = false) (hne : core ≠ []) :
    trim (front ++ (core ++ back)) = core := by
  obtain ⟨c, r, rfl⟩ := List.exists_cons_of_ne_nil hne
  have hstart : trimStart (front ++ (c :: r ++ back)) = c :: r ++ back := by
    rw [trimStart, List.dropWhile_append_of_pos hfront]
    exact trimStart_cons_of_not_blank (hhead c rfl)
  have hend : trimEnd (c :: r) = c :: r := by
    have := trim_eq_self hhead hlast
    rwa [trim, trimStart_cons_of_not_blank (hhead c rfl)] at this
  rw [trim, hstart, trimEnd, List.reverse_append,
    List.dropWhile_append_of_pos (by simpa using hback)]
  exact hend

end Text

/-! ## Clauses of a `use` statement -/

/-- A clause of a `use` statement: a qualified name, which may start with a separator, and an alias
    if one is given. -/
structure UseClause where
  isRooted : Bool
  segments : List String
  alias? : Option String
  deriving DecidableEq, Repr

/-- An identifier: a text that is not empty, without blanks and separators. -/
def IsIdentifier (s : String) : Prop :=
  s ≠ "" ∧ ∀ c ∈ s.toList, Text.isBlank c = false ∧ c ≠ '\\'

instance : DecidablePred IsIdentifier := fun s =>
  have := List.decidableBAll (fun c => Text.isBlank c = false ∧ c ≠ '\\') s.toList
  inferInstanceAs (Decidable (_ ∧ _))

theorem IsIdentifier.space_not_mem {s : String} (h : IsIdentifier s) : ' ' ∉ s.toList := by
  intro hmem
  have hblank : Text.isBlank ' ' = true := by decide
  rw [(h.2 ' ' hmem).1] at hblank
  cases hblank

namespace UseClause

/-- The texts that make up the name of a clause. -/
def nameTexts (u : UseClause) : List String :=
  (if u.isRooted then ["\\"] else []) ++ u.segments.intersperse "\\"

/-- The name that a clause stands for. -/
def target (u : UseClause) : String := String.join u.nameTexts

/-- The alias that a clause sets: the one it gives, or else the last segment of its name. -/
def aliasName (u : UseClause) : String := u.alias?.getD (u.segments.getLast?.getD "")

/-- A clause has a name, and all names in it are identifiers. -/
structure WellFormed (u : UseClause) : Prop where
  segments_ne : u.segments ≠ []
  segments_ok : ∀ s ∈ u.segments, IsIdentifier s
  alias_ok : ∀ s, u.alias? = some s → IsIdentifier s

/-- Tokens that write the name of a clause. -/
def RendersName (u : UseClause) (ts : List Token) : Prop :=
  (∀ t ∈ ts, t.kind.isSome = true) ∧ ts.map Token.content = u.nameTexts

/-- A token of spaces. -/
def IsSpaces (t : Token) : Prop :=
  t.kind = some .whitespace ∧ t.content ≠ "" ∧ ∀ c ∈ t.content.toList, c = ' '

instance : DecidablePred IsSpaces := fun t =>
  have := List.decidableBAll (fun c => c = ' ') t.content.toList
  inferInstanceAs (Decidable (_ ∧ _ ∧ _))

theorem IsSpaces.exists_cons {t : Token} (h : IsSpaces t) : ∃ r, t.content.toList = ' ' :: r := by
  cases hcontent : t.content.toList with
  | nil => exact absurd (String.toList_inj.1 hcontent) h.2.1
  | cons c r => exact ⟨r, by rw [h.2.2 c (by simp [hcontent])]⟩

theorem IsSpaces.exists_concat {t : Token} (h : IsSpaces t) :
    ∃ r, t.content.toList = r ++ [' '] := by
  rcases List.eq_nil_or_concat t.content.toList with hnil | ⟨r, c, hcontent⟩
  · exact absurd (String.toList_inj.1 hnil) h.2.1
  · exact ⟨r, by rw [hcontent, h.2.2 c (by simp [hcontent]), List.concat_eq_append]⟩

/-- Tokens that write a clause, with blank tokens around it. -/
inductive Renders (u : UseClause) : List Token → Prop
  | plain {front name back : List Token} : (∀ t ∈ front, t.IsBlank) → (∀ t ∈ back, t.IsBlank) →
      u.RendersName name → u.alias? = none → Renders u (front ++ (name ++ back))
  | aliased {front name back : List Token} {space word space' name' : Token} :
      (∀ t ∈ front, t.IsBlank) → (∀ t ∈ back, t.IsBlank) → u.RendersName name →
      IsSpaces space → word.isKeyword .asKw = true → IsSpaces space' → name'.kind.isSome = true →
      u.alias? = some name'.content →
      Renders u (front ++ (name ++ space :: word :: space' :: name' :: back))

variable {u : UseClause}

theorem joined_of_rendersName {ts : List Token} (h : u.RendersName ts) :
    Reading.joined ts = u.target := by
  rw [Reading.joined, h.2, target]

theorem mem_nameTexts {s : String} (hs : s ∈ u.nameTexts) : s = "\\" ∨ s ∈ u.segments := by
  have hinner : ∀ segments : List String, s ∈ segments.intersperse "\\" →
      s = "\\" ∨ s ∈ segments := by
    intro segments
    induction segments with
    | nil => exact fun h => .inr h
    | cons a rest ih =>
      cases rest with
      | nil => exact fun h => .inr h
      | cons b rest =>
        intro h
        rcases List.mem_cons.1 h with rfl | h
        · exact .inr List.mem_cons_self
        rcases List.mem_cons.1 h with rfl | h
        · exact .inl rfl
        · exact (ih h).imp_right (List.mem_cons_of_mem a)
  rcases List.mem_append.1 hs with hroot | hs
  · split at hroot
    · exact .inl (by simpa using hroot)
    · cases hroot
  · exact hinner u.segments hs

theorem not_isBlank_of_mem_target (hu : u.WellFormed) :
    ∀ c ∈ u.target.toList, Text.isBlank c = false := by
  intro c hc
  obtain ⟨s, hs, hcs⟩ : ∃ s ∈ u.nameTexts, c ∈ s.toList := by
    simpa [target, String.toList_join] using hc
  rcases mem_nameTexts hs with rfl | hs
  · rw [show c = '\\' by simpa using hcs]
    decide
  · exact ((hu.segments_ok s hs).2 c hcs).1

theorem space_not_mem_target (hu : u.WellFormed) : ' ' ∉ u.target.toList := by
  intro hmem
  have hblank : Text.isBlank ' ' = true := by decide
  rw [u.not_isBlank_of_mem_target hu ' ' hmem] at hblank
  cases hblank

/-- The segments of a name are the pieces between its separators. -/
theorem splitOnChar_target (hu : u.WellFormed) :
    splitOnChar '\\' u.target.toList =
      (if u.isRooted then [[]] else []) ++ u.segments.map String.toList := by
  have hinner : ∀ segments : List String, segments ≠ [] → (∀ s ∈ segments, IsIdentifier s) →
      splitOnChar '\\' (String.join (segments.intersperse "\\")).toList =
        segments.map String.toList := by
    intro segments hne hok
    have hnot : ∀ s ∈ segments, '\\' ∉ s.toList := fun s hs hmem => ((hok s hs).2 _ hmem).2 rfl
    induction segments with
    | nil => exact absurd rfl hne
    | cons a rest ih =>
      cases rest with
      | nil =>
        rw [List.intersperse_singleton]
        simpa using splitOnChar_of_not_mem (hnot a List.mem_cons_self)
      | cons b rest =>
        have hrest := ih (List.cons_ne_nil b rest) (fun s hs => hok s (List.mem_cons_of_mem a hs))
          (fun s hs => hnot s (List.mem_cons_of_mem a hs))
        have hjoin : (String.join ((a :: b :: rest).intersperse "\\")).toList =
            a.toList ++ '\\' :: (String.join ((b :: rest).intersperse "\\")).toList := by
          simp [List.intersperse, String.toList_join]
        rw [hjoin, splitOnChar_append_cons, hrest,
          splitOnChar_of_not_mem (hnot a List.mem_cons_self)]
        rfl
  have hsegments := hinner u.segments hu.segments_ne hu.segments_ok
  unfold target nameTexts
  split
  · have hjoin : (String.join (["\\"] ++ u.segments.intersperse "\\")).toList =
        '\\' :: (String.join (u.segments.intersperse "\\")).toList := by
      simp [String.toList_join]
    rw [hjoin, splitOnChar, if_pos rfl, hsegments]
    rfl
  · exact hsegments

theorem target_ne (hu : u.WellFormed) : u.target.toList ≠ [] := by
  intro hempty
  have hsplit := u.splitOnChar_target hu
  rw [hempty, splitOnChar] at hsplit
  obtain ⟨s, rest, hsegments⟩ := List.exists_cons_of_ne_nil hu.segments_ne
  have hs := (hu.segments_ok s (by rw [hsegments]; exact List.mem_cons_self)).1
  rw [hsegments, List.map_cons] at hsplit
  split at hsplit
  · simp at hsplit
  · obtain ⟨hnil, -⟩ := List.cons.inj hsplit
    exact hs (String.toList_inj.1 hnil.symm)

/-- A text that starts with the name of a clause does not start with a blank. -/
theorem not_isBlank_head_target (hu : u.WellFormed) (more : List Char) :
    ∀ c, (u.target.toList ++ more).head? = some c → Text.isBlank c = false := by
  intro c hc
  obtain ⟨first, rest, htarget⟩ := List.exists_cons_of_ne_nil (u.target_ne hu)
  rw [htarget] at hc
  cases hc
  exact u.not_isBlank_of_mem_target hu _ (by rw [htarget]; exact List.mem_cons_self)

theorem getLast?_splitOnChar_target (hu : u.WellFormed) :
    (splitOnChar '\\' u.target.toList).getLast? = u.segments.getLast?.map String.toList := by
  obtain ⟨front, last, hsegments⟩ := List.eq_nil_or_concat u.segments |>.resolve_left hu.segments_ne
  rw [u.splitOnChar_target hu, hsegments]
  simp

end UseClause

namespace Symbols

theorem blanks_of_isBlank {ts : List Token} (h : ∀ t ∈ ts, t.IsBlank) :
    ∀ c ∈ (Reading.joined ts).toList, Text.isBlank c = true := by
  intro c hc
  obtain ⟨t, ht, hct⟩ : ∃ t ∈ ts, c ∈ t.content.toList := by
    simpa [Reading.joined, String.toList_join] using hc
  exact (h t ht).2 c hct

/-- A single name stands for itself and sets its last segment. -/
theorem aliasOf_of_name {clause : List Token} {name : List Char}
    (h : trim (Reading.joined clause).toList = name) (hname : ' ' ∉ name) :
    aliasOf clause =
      (String.ofList ((splitOnChar '\\' name).getLast?.getD []), String.ofList name) := by
  unfold aliasOf
  rw [h, splitOnChar_of_not_mem hname]
  rfl

/-- Of a text in several parts the first one is the name and the last one the alias. -/
theorem aliasOf_of_parts {clause : List Token} {first middle last : List Char}
    (h : trim (Reading.joined clause).toList = first ++ ' ' :: (middle ++ ' ' :: last))
    (hfirst : ' ' ∉ first) (hlast : ' ' ∉ last) :
    aliasOf clause = (String.ofList last, String.ofList first) := by
  unfold aliasOf
  rw [h, splitOnChar_append_cons, splitOnChar_append_cons, splitOnChar_of_not_mem hfirst,
    splitOnChar_of_not_mem hlast]
  cases hmiddle : splitOnChar ' ' middle with
  | nil => exact absurd hmiddle (splitOnChar_ne_nil ' ' middle)
  | cons second later => simp [List.getLast_cons]

/-- The alias of a clause and the name it stands for. -/
theorem aliasOf_of_renders {u : UseClause} {ts : List Token} (hu : u.WellFormed)
    (h : u.Renders ts) : aliasOf ts = (u.aliasName, u.target) := by
  have hspace := u.space_not_mem_target hu
  have hhead := u.not_isBlank_head_target hu
  cases h with
  | @plain front name back hfront hback hname halias =>
    have htext : (Reading.joined (front ++ (name ++ back))).toList =
        (Reading.joined front).toList ++ (u.target.toList ++ (Reading.joined back).toList) := by
      rw [toList_joined_append, toList_joined_append, u.joined_of_rendersName hname]
    have htrim : trim (Reading.joined (front ++ (name ++ back))).toList = u.target.toList := by
      rw [htext]
      refine trim_append (blanks_of_isBlank hfront) (blanks_of_isBlank hback) ?_ ?_ (u.target_ne hu)
      · simpa using hhead []
      · exact fun c hc => u.not_isBlank_of_mem_target hu c (List.mem_of_getLast? hc)
    rw [aliasOf_of_name htrim hspace, u.getLast?_splitOnChar_target hu, UseClause.aliasName, halias]
    cases u.segments.getLast? <;> simp
  | @aliased front name back space word space' name' hfront hback hname hs hword hs' hkind halias =>
    have halias' := hu.alias_ok _ halias
    have hneAlias : name'.content.toList ≠ [] := fun hnil => halias'.1 (String.toList_inj.1 hnil)
    obtain ⟨r, hr⟩ := hs.exists_cons
    obtain ⟨r', hr'⟩ := hs'.exists_concat
    -- The text between the name and the alias, with its first and last space.
    let middle := r ++ word.content.toList ++ r'
    have htext :
        (Reading.joined (front ++ (name ++ space :: word :: space' :: name' :: back))).toList =
          (Reading.joined front).toList ++
            ((u.target.toList ++ ' ' :: (middle ++ ' ' :: name'.content.toList)) ++
              (Reading.joined back).toList) := by
      simp [middle, toList_joined_append, u.joined_of_rendersName hname, hr, hr']
    have hlast : ∀ c, (u.target.toList ++ ' ' :: (middle ++ ' ' :: name'.content.toList)).getLast? =
        some c → Text.isBlank c = false := by
      intro c hc
      have hsplit : u.target.toList ++ ' ' :: (middle ++ ' ' :: name'.content.toList) =
          (u.target.toList ++ ' ' :: (middle ++ [' '])) ++ name'.content.toList := by simp
      rw [hsplit, List.getLast?_append, List.getLast?_eq_some_getLast hneAlias] at hc
      cases hc
      exact (halias'.2 _ (List.getLast_mem hneAlias)).1
    have htrim := trim_append (blanks_of_isBlank hfront) (blanks_of_isBlank hback)
      (hhead (' ' :: (middle ++ ' ' :: name'.content.toList))) hlast (by simp)
    rw [← htext] at htrim
    rw [aliasOf_of_parts htrim hspace halias'.space_not_mem, UseClause.aliasName, halias]
    simp

/-! ## Whole `use` statements -/

/-- Tokens that write the clauses of a `use` statement with commas between them, and the semicolon
    at its end. -/
inductive RendersUse : List UseClause → List Token → Prop
  | last {u : UseClause} {ts : List Token} {stop : Token} : u.WellFormed → u.Renders ts →
      stop.isPunct ";" = true → RendersUse [u] (ts ++ [stop])
  | cons {u : UseClause} {us : List UseClause} {ts rest : List Token} {comma : Token} :
      u.WellFormed → u.Renders ts → comma.isPunct "," = true → RendersUse us rest →
      RendersUse (u :: us) (ts ++ comma :: rest)

theorem isSome_kind_of_renders {u : UseClause} {ts : List Token} (h : u.Renders ts) :
    ∀ t ∈ ts, t.kind.isSome = true := by
  have hblank : ∀ t : Token, t.IsBlank → t.kind.isSome = true := fun t ht => by simp [ht.1]
  cases h with
  | plain hfront hback hname =>
    intro t ht
    rcases List.mem_append.1 ht with ht | ht
    · exact hblank t (hfront t ht)
    rcases List.mem_append.1 ht with ht | ht
    · exact hname.1 t ht
    · exact hblank t (hback t ht)
  | aliased hfront hback hname hs hword hs' hkind =>
    rw [Token.isKeyword, beq_iff_eq] at hword
    intro t ht
    rcases List.mem_append.1 ht with ht | ht
    · exact hblank t (hfront t ht)
    rcases List.mem_append.1 ht with ht | ht
    · exact hname.1 t ht
    simp only [List.mem_cons] at ht
    rcases ht with rfl | rfl | rfl | rfl | ht
    · simp [hs.1]
    · simp [hword]
    · simp [hs'.1]
    · exact hkind
    · exact hblank t (hback t ht)

/-- Tokens that are no punctuation belong to the clause before the next comma or semicolon. -/
theorem useClauses_append {clause : List Token} (h : ∀ t ∈ clause, t.kind.isSome = true)
    (depth : Int) (rest : List Token) :
    useClauses depth (clause ++ rest) =
      (clause ++ (useClauses depth rest).1, (useClauses depth rest).2) := by
  induction clause with
  | nil => rfl
  | cons t clause ih =>
    have hpunct : ∀ sign, t.isPunct sign = false := fun sign => by
      have := h t List.mem_cons_self
      simp [Token.isPunct, Option.isNone_eq_false_iff.2 this]
    rw [List.cons_append, useClauses]
    simp only [hpunct, Bool.false_eq_true, false_and, if_false]
    rw [ih fun u hu => h u (List.mem_cons_of_mem t hu)]
    rfl

/-- Tokens that write some clauses with commas between them, and a semicolon at the end. -/
inductive Separated : List (List Token) → List Token → Prop
  | last {clause : List Token} {stop : Token} : (∀ t ∈ clause, t.kind.isSome = true) →
      stop.isPunct ";" = true → Separated [clause] (clause ++ [stop])
  | cons {clause rest : List Token} {clauses : List (List Token)} {comma : Token} :
      (∀ t ∈ clause, t.kind.isSome = true) → comma.isPunct "," = true → Separated clauses rest →
      Separated (clause :: clauses) (clause ++ comma :: rest)

/-- The clauses of a `use` statement are read one by one, and the statement is passed. -/
theorem readUse_of_separated {clauses : List (List Token)} {ts : List Token}
    (h : Separated clauses ts) (more : List Token) :
    readUse (ts ++ more) = (clauses.map aliasOf, more) := by
  unfold readUse
  induction h with
  | @last clause stop hclause hstop =>
    have htail : useClauses 0 (stop :: more) = ([], [], more) := by rw [useClauses, if_pos hstop]
    rw [List.append_assoc, List.singleton_append, useClauses_append hclause, htail]
    simp
  | @cons clause rest clauses comma hclause hcomma hrest ih =>
    have hsemi : ¬ comma.isPunct ";" = true := by
      simp only [Token.isPunct, Bool.and_eq_true, beq_iff_eq] at hcomma ⊢
      rw [hcomma.2]
      simp
    have htail : useClauses 0 (comma :: (rest ++ more)) =
        ([], (useClauses 0 (rest ++ more)).1 :: (useClauses 0 (rest ++ more)).2.1,
          (useClauses 0 (rest ++ more)).2.2) := by
      rw [useClauses, if_neg hsemi, if_pos ⟨hcomma, rfl⟩]
    simp only [Prod.mk.injEq] at ih
    rw [List.append_assoc, List.cons_append, useClauses_append hclause, htail]
    simp only [List.append_nil, List.map_cons]
    rw [← List.map_cons, ih.1, ih.2]

theorem exists_separated_of_renders {us : List UseClause} {ts : List Token}
    (h : RendersUse us ts) :
    ∃ clauses, Separated clauses ts ∧
      clauses.map aliasOf = us.map fun u => (u.aliasName, u.target) := by
  induction h with
  | @last u ts stop hu hts hstop =>
    refine ⟨[ts], .last (isSome_kind_of_renders hts) hstop, ?_⟩
    rw [List.map_singleton, aliasOf_of_renders hu hts, List.map_singleton]
  | @cons u us ts rest comma hu hts hcomma hrest ih =>
    obtain ⟨clauses, hclauses, hmap⟩ := ih
    refine ⟨ts :: clauses, .cons (isSome_kind_of_renders hts) hcomma hclauses, ?_⟩
    rw [List.map_cons, aliasOf_of_renders hu hts, hmap, List.map_cons]

/-- A `use` statement gives the aliases of its clauses in order, and it is passed. -/
theorem readUse_of_renders {us : List UseClause} {ts : List Token} (h : RendersUse us ts)
    (more : List Token) :
    readUse (ts ++ more) = (us.map fun u => (u.aliasName, u.target), more) := by
  obtain ⟨clauses, hclauses, hmap⟩ := exists_separated_of_renders h
  rw [readUse_of_separated hclauses, hmap]

end Symbols

end PhpOutline
