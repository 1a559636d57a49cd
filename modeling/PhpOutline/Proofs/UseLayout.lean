import PhpOutline.Proofs.Scoping
import PhpOutline.Proofs.Written

/-!
# The layout of `use` statements

A clause of a `use` statement is read from its text: blanks are cut off at both ends, and at the
spaces in it the first part gives the name and the last part the alias. So the name ends at a space,
the alias starts at one, and what stands between the two is passed over. White space of any kind may
stand around a clause, and white space and comments of any kind around its `as`, as long as a space
comes right after the name and right before the alias: all such layouts set the same aliases.

Results:
* `trim_around`: trimming a text that starts and ends with words that are not blank.
* `ClauseLayout.aliasOf_tokens`: what a clause sets depends on its words alone.
* `handle_use_relaid`: two layouts of the same clauses leave the same table of aliases.
* `handle_use_laid_out`: layouts that set other aliases.
-/

namespace PhpOutline

open PhpOutline.Text PhpOutline.Reading PhpOutline.Written

/-! ## Trimming -/

namespace Text

/-- A text that is not made of blanks alone. -/
def IsVisible (cs : List Char) : Prop := ∃ c ∈ cs, isBlank c = false

instance : DecidablePred IsVisible := fun cs => List.decidableBEx (fun c => isBlank c = false) cs

theorem IsVisible.trimStart {cs : List Char} (h : IsVisible cs) : IsVisible (trimStart cs) := by
  obtain ⟨c, hc, hblank⟩ := h
  refine ⟨c, ?_, hblank⟩
  rw [← List.takeWhile_append_dropWhile (p := isBlank) (l := cs), List.mem_append] at hc
  refine hc.resolve_left fun hfront => ?_
  rw [List.all_eq_true.1 List.all_takeWhile c hfront] at hblank
  cases hblank

/-- Trimming at the front ends within a text that is not blank. -/
theorem trimStart_append {front cs : List Char} (hfront : ∀ c ∈ front, isBlank c = true)
    (hcs : IsVisible cs) (rest : List Char) :
    trimStart (front ++ (cs ++ rest)) = trimStart cs ++ rest := by
  obtain ⟨c, hc, -⟩ := hcs.trimStart
  have hne : cs.dropWhile isBlank ≠ [] := List.ne_nil_of_mem hc
  rw [trimStart, List.dropWhile_append_of_pos hfront, List.dropWhile_append,
    if_neg (by simpa using hne)]
  rfl

/-- Trimming at the back ends within a text that is not blank. -/
theorem trimEnd_append {cs back : List Char} (hback : ∀ c ∈ back, isBlank c = true)
    (hcs : IsVisible cs) (rest : List Char) :
    trimEnd (rest ++ (cs ++ back)) = rest ++ trimEnd cs := by
  have hreverse : IsVisible cs.reverse := by
    obtain ⟨c, hc, hblank⟩ := hcs
    exact ⟨c, List.mem_reverse.2 hc, hblank⟩
  have hblank : ∀ c ∈ back.reverse, isBlank c = true := fun c hc => hback c (List.mem_reverse.1 hc)
  have hstart := trimStart_append hblank hreverse rest.reverse
  rw [trimStart, trimStart] at hstart
  rw [trimEnd, List.reverse_append, List.reverse_append, List.append_assoc, hstart,
    List.reverse_append, List.reverse_reverse]
  rfl

/-- A text between two words loses what is blank before the first and after the second. -/
theorem trim_around {front first last back : List Char} (hfront : ∀ c ∈ front, isBlank c = true)
    (hback : ∀ c ∈ back, isBlank c = true) (hfirst : IsVisible first) (hlast : IsVisible last)
    (middle : List Char) :
    trim (front ++ (first ++ (middle ++ (last ++ back)))) =
      trimStart first ++ (middle ++ trimEnd last) := by
  rw [trim, trimStart_append hfront hfirst, ← List.append_assoc, trimEnd_append hback hlast,
    List.append_assoc]

theorem not_mem_trimStart {c : Char} {cs : List Char} (h : c ∉ cs) : c ∉ trimStart cs :=
  fun hc => h ((List.dropWhile_sublist isBlank).mem hc)

theorem not_mem_trimEnd {c : Char} {cs : List Char} (h : c ∉ cs) : c ∉ trimEnd cs := by
  intro hc
  rw [trimEnd, List.mem_reverse] at hc
  exact h (List.mem_reverse.1 ((List.dropWhile_sublist isBlank).mem hc))

end Text

namespace Symbols

/-! ## Layouts -/

/-- A name in a clause: tokens of a qualified name, in whose text no space stands. A character
    beyond ASCII may be a blank, but not all of them are. -/
structure ClauseName where
  tokens : List Token
  typed : ∀ t ∈ tokens, t.kind.isSome = true ∧ t.isTrivia = false
  spaceless : ' ' ∉ (joined tokens).toList
  visible : IsVisible (joined tokens).toList

/-- The text of a name. -/
def ClauseName.text (n : ClauseName) : List Char := (joined n.tokens).toList

/-- The part of a clause that gives an alias: `as` and the new name, with white space and comments
    before each. A space comes first, and a space stands right before the new name. -/
structure Renaming where
  before : Gap
  word : Token
  after : Gap
  name : ClauseName
  isAs : word.isKeyword .asKw = true
  space_first : (joined before.tokens).toList.head? = some ' '
  space_last : (joined after.tokens).toList.getLast? = some ' '

/-- The tokens of a renaming. -/
def Renaming.tokens (r : Renaming) : List Token :=
  r.before.tokens ++ (r.word :: (r.after.tokens ++ r.name.tokens))

/-- A clause of a `use` statement with white space around it. -/
structure ClauseLayout where
  front : List Token
  name : ClauseName
  renaming? : Option Renaming
  back : List Token
  front_blank : ∀ t ∈ front, t.IsBlank
  back_blank : ∀ t ∈ back, t.IsBlank

namespace ClauseLayout

/-- The tokens of a clause. -/
def tokens (l : ClauseLayout) : List Token :=
  l.front ++ (l.name.tokens ++ ((l.renaming?.map Renaming.tokens).getD [] ++ l.back))

/-- The words of a clause: its name, and its alias if it gives one. -/
def words (l : ClauseLayout) : List Char × Option (List Char) :=
  (l.name.text, l.renaming?.map fun r => r.name.text)

end ClauseLayout

/-- The alias that a clause with some words sets, and the name it stands for. The alias is the one
    it gives or else the last segment of its name; blanks at the ends of the clause are cut off. -/
def entryOf : List Char × Option (List Char) → String × String
  | (name, some new) => (String.ofList (trimEnd new), String.ofList (trimStart name))
  | (name, none) =>
    (String.ofList ((splitOnChar '\\' (trim name)).getLast?.getD []), String.ofList (trim name))

/-! ## Reading a layout -/

theorem Renaming.toList_joined_tokens (r : Renaming) :
    ∃ middle, (joined r.tokens).toList = ' ' :: (middle ++ ' ' :: r.name.text) := by
  obtain ⟨a, ha⟩ := List.head?_eq_some_iff.1 r.space_first
  obtain ⟨b, hb⟩ := List.getLast?_eq_some_iff.1 r.space_last
  refine ⟨a ++ (r.word.content.toList ++ b), ?_⟩
  rw [tokens, toList_joined_append, toList_joined_cons, toList_joined_append, ha, hb,
    ClauseName.text]
  simp

namespace ClauseLayout

/-- What a clause sets depends on its words alone. -/
theorem aliasOf_tokens (l : ClauseLayout) : aliasOf l.tokens = entryOf l.words := by
  have hfront := blanks_of_isBlank l.front_blank
  have hback := blanks_of_isBlank l.back_blank
  have hname : ' ' ∉ l.name.text := l.name.spaceless
  have hvisible : IsVisible l.name.text := l.name.visible
  have htext : (joined l.tokens).toList = (joined l.front).toList ++ (l.name.text ++
      ((joined ((l.renaming?.map Renaming.tokens).getD [])).toList ++ (joined l.back).toList)) := by
    rw [tokens, toList_joined_append, toList_joined_append, toList_joined_append, ClauseName.text]
  rw [words]
  cases hrenaming : l.renaming? with
  | none =>
    rw [hrenaming] at htext
    have htrim : trim (joined l.tokens).toList = trim l.name.text := by
      rw [htext, trim, trimStart_append hfront hvisible]
      exact trimEnd_append hback hvisible.trimStart []
    exact aliasOf_of_name htrim (not_mem_trimEnd (not_mem_trimStart hname))
  | some r =>
    obtain ⟨middle, hmiddle⟩ := r.toList_joined_tokens
    rw [hrenaming, Option.map_some, Option.getD_some, hmiddle] at htext
    -- the two spaces that divide the text: after the name, and before the alias
    have htrim : trim (joined l.tokens).toList =
        trimStart l.name.text ++ ' ' :: (middle ++ ' ' :: trimEnd r.name.text) := by
      have hlast : IsVisible r.name.text := r.name.visible
      have haround := trim_around hfront hback hvisible hlast (' ' :: (middle ++ [' ']))
      rw [htext]
      simpa using haround
    exact aliasOf_of_parts htrim (not_mem_trimStart hname) (not_mem_trimEnd r.name.spaceless)

end ClauseLayout

/-! ## Whole statements -/

theorem ClauseLayout.isSome_kind (l : ClauseLayout) : ∀ t ∈ l.tokens, t.kind.isSome = true := by
  have hblank {t : Token} (ht : t.IsBlank) : t.kind.isSome = true := by rw [ht.1]; rfl
  intro t ht
  rcases List.mem_append.1 ht with ht | ht
  · exact hblank (l.front_blank t ht)
  rcases List.mem_append.1 ht with ht | ht
  · exact (l.name.typed t ht).1
  rcases List.mem_append.1 ht with ht | ht
  · cases hrenaming : l.renaming? with
    | none =>
      rw [hrenaming] at ht
      cases ht
    | some r =>
      rw [hrenaming] at ht
      rcases List.mem_append.1 ht with ht | ht
      · exact r.before.kind_isSome t ht
      rcases List.mem_cons.1 ht with rfl | ht
      · rw [beq_iff_eq.1 r.isAs]
        rfl
      rcases List.mem_append.1 ht with ht | ht
      · exact r.after.kind_isSome t ht
      · exact (r.name.typed t ht).1
  · exact hblank (l.back_blank t ht)

/-- The tokens of clauses with commas between them and a semicolon at the end. With each clause
    comes the line of the sign after it. -/
def listTokens : List (ClauseLayout × Int) → List Token
  | [] => []
  | [(l, line)] => l.tokens ++ [.punct ";" line]
  | (l, line) :: next :: later => l.tokens ++ .punct "," line :: listTokens (next :: later)

/-- A `use` statement after its keyword: at least one clause. -/
structure UseLayout where
  clauses : List (ClauseLayout × Int)
  clauses_ne : clauses ≠ []

namespace UseLayout

/-- The tokens of a statement after its keyword. -/
def tokens (u : UseLayout) : List Token := listTokens u.clauses

/-- The words of the clauses of a statement. -/
def words (u : UseLayout) : List (List Char × Option (List Char)) :=
  u.clauses.map fun clause => clause.1.words

theorem separated_tokens (u : UseLayout) :
    Separated (u.clauses.map fun clause => clause.1.tokens) u.tokens := by
  obtain ⟨clauses, hne⟩ := u
  induction clauses with
  | nil => exact absurd rfl hne
  | cons clause later ih =>
    cases later with
    | nil => exact .last clause.1.isSome_kind rfl
    | cons next later => exact .cons clause.1.isSome_kind rfl (ih (List.cons_ne_nil next later))

theorem readUse_tokens (u : UseLayout) (more : List Token) :
    readUse (u.tokens ++ more) = (u.words.map entryOf, more) := by
  have hclauses : (u.clauses.map fun clause => clause.1.tokens).map aliasOf =
      u.words.map entryOf := by
    rw [words, List.map_map, List.map_map]
    refine List.map_congr_left fun clause _ => ?_
    rw [Function.comp_apply, Function.comp_apply, clause.1.aliasOf_tokens]
  rw [readUse_of_separated u.separated_tokens, hclauses]

end UseLayout

/-- Two layouts of the same clauses leave the same table of aliases, and each is passed. -/
theorem handle_use_relaid {u v : UseLayout} (h : u.words = v.words) (s : Symbols) {c d : Cursor}
    {word other : Token} {more later : List Token} (hc : c.rest = word :: (u.tokens ++ more))
    (hd : d.rest = other :: (v.tokens ++ later)) :
    let table := (u.words.map entryOf).foldl (fun table e => Table.put e.1 e.2 table) s.aliases
    (s.handle c .use).result = .ok ({ s with aliases := table }, c.moveTo more) ∧
      (s.handle d .use).result = .ok ({ s with aliases := table }, d.moveTo later) := by
  have hfirst : readUse c.rest.tail = (u.words.map entryOf, more) := by
    rw [hc, List.tail_cons, u.readUse_tokens]
  have hsecond : readUse d.rest.tail = (u.words.map entryOf, later) := by
    rw [hd, List.tail_cons, v.readUse_tokens, h]
  constructor
  · rw [handle, hfirst]
  · rw [handle, hsecond]

/-- A statement on one line, and the same one on several lines with comments. -/
theorem handle_use_relaid_lines :
    let word : Token := ⟨some (.keyword .useKw), "use", 1⟩
    let one : List Token :=
      [⟨some .whitespace, " ", 1⟩, ⟨some .name, "A", 1⟩, ⟨some .separator, "\\", 1⟩,
       ⟨some .name, "B", 1⟩, ⟨some .whitespace, " ", 1⟩, ⟨some (.keyword .asKw), "as", 1⟩,
       ⟨some .whitespace, " ", 1⟩, ⟨some .name, "C", 1⟩, ⟨none, ",", 1⟩,
       ⟨some .whitespace, " ", 1⟩, ⟨some .name, "D", 1⟩, ⟨none, ";", 1⟩]
    let several : List Token :=
      [⟨some .whitespace, "\n\t", 1⟩, ⟨some .name, "A", 2⟩, ⟨some .separator, "\\", 2⟩,
       ⟨some .name, "B", 2⟩, ⟨some .whitespace, " ", 2⟩, ⟨some .docComment, "/** x */", 2⟩,
       ⟨some (.keyword .asKw), "AS", 2⟩, ⟨some .comment, "// y\n", 2⟩,
       ⟨some .whitespace, "\t ", 3⟩, ⟨some .name, "C", 3⟩, ⟨some .whitespace, "\n", 3⟩,
       ⟨none, ",", 4⟩, ⟨some .name, "D", 4⟩, ⟨some .whitespace, "  ", 4⟩, ⟨none, ";", 4⟩]
    let aliases : Table String := [("C", "A\\B"), ("D", "D")]
    ∃ u v : UseLayout, u.tokens = one ∧ v.tokens = several ∧ u.words = v.words ∧
      (({} : Symbols).handle ⟨[], word :: one⟩ .use).result =
        .ok ({ aliases := aliases }, ⟨one.reverse ++ [word], []⟩) ∧
      (({} : Symbols).handle ⟨[], word :: several⟩ .use).result =
        .ok ({ aliases := aliases }, ⟨several.reverse ++ [word], []⟩) := by
  intro word one several aliases
  let u : UseLayout :=
    ⟨[(⟨[⟨some .whitespace, " ", 1⟩],
        ⟨[⟨some .name, "A", 1⟩, ⟨some .separator, "\\", 1⟩, ⟨some .name, "B", 1⟩],
          by decide, by decide, by decide +kernel⟩,
        some ⟨⟨[⟨some .whitespace, " ", 1⟩], by decide⟩, ⟨some (.keyword .asKw), "as", 1⟩,
          ⟨[⟨some .whitespace, " ", 1⟩], by decide⟩,
          ⟨[⟨some .name, "C", 1⟩], by decide, by decide, by decide +kernel⟩, rfl, rfl, rfl⟩,
        [], by decide, by decide⟩, 1),
      (⟨[⟨some .whitespace, " ", 1⟩],
        ⟨[⟨some .name, "D", 1⟩], by decide, by decide, by decide +kernel⟩, none, [],
        by decide, by decide⟩, 1)], by simp⟩
  let v : UseLayout :=
    ⟨[(⟨[⟨some .whitespace, "\n\t", 1⟩],
        ⟨[⟨some .name, "A", 2⟩, ⟨some .separator, "\\", 2⟩, ⟨some .name, "B", 2⟩],
          by decide, by decide, by decide +kernel⟩,
        some ⟨⟨[⟨some .whitespace, " ", 2⟩, ⟨some .docComment, "/** x */", 2⟩], by decide⟩,
          ⟨some (.keyword .asKw), "AS", 2⟩,
          ⟨[⟨some .comment, "// y\n", 2⟩, ⟨some .whitespace, "\t ", 3⟩], by decide⟩,
          ⟨[⟨some .name, "C", 3⟩], by decide, by decide, by decide +kernel⟩, rfl, rfl, rfl⟩,
        [⟨some .whitespace, "\n", 3⟩], by decide, by decide⟩, 4),
      (⟨[], ⟨[⟨some .name, "D", 4⟩], by decide, by decide, by decide +kernel⟩, none,
        [⟨some .whitespace, "  ", 4⟩], by decide, by decide⟩, 4)], by simp⟩
  have hwords : u.words = v.words := by decide
  have hrelaid := @handle_use_relaid u v hwords {} ⟨[], word :: one⟩ ⟨[], word :: several⟩
    word word [] [] rfl rfl
  exact ⟨u, v, rfl, rfl, hwords, hrelaid⟩

/-- Layouts of the same words that set other aliases: a tab after the name, a line feed before the
    alias, and comments at the ends of a clause. A name of a no-break space alone is cut off, and so
    a comment after it comes first. -/
theorem handle_use_laid_out :
    let space : Token := ⟨some .whitespace, " ", 1⟩
    let comment : Token := ⟨some .comment, "/* x */", 1⟩
    let a : Token := ⟨some .name, "A", 1⟩
    let word : Token := ⟨some (.keyword .asKw), "as", 1⟩
    let b : Token := ⟨some .name, "B", 1⟩
    let blank : Token := ⟨some .name, "\u00a0", 1⟩
    let aliases (clause : List Token) : Option (Table String) :=
      (({} : Symbols).handle ⟨[], ⟨some (.keyword .useKw), "use", 1⟩ :: (clause ++ [.punct ";" 1])⟩
        .use).result.toOption.map fun after => after.1.aliases
    aliases [space, a, space, word, space, b, space] = some [("B", "A")] ∧
      aliases [space, a, ⟨some .whitespace, "\t", 1⟩, word, space, b, space] =
        some [("B", "A\tas")] ∧
      aliases [space, a, space, word, ⟨some .whitespace, "\n", 1⟩, b, space] =
        some [("as\nB", "A")] ∧
      aliases [space, comment, a, space, word, space, b, space] = some [("B", "/*")] ∧
      aliases [space, a, space, word, space, b, space, comment] = some [("*/", "A")] ∧
      aliases [space, blank, space, word, space, b] = some [("B", "as")] ∧
      aliases [space, blank, space, comment, space, word, space, b] = some [("B", "/*")] := by
  decide +kernel

end Symbols

end PhpOutline
