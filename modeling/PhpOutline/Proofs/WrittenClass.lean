import PhpOutline.Proofs.WrittenBody

/-!
# Written classes and interfaces

How a class or an interface is written in tokens: its name, the names that it extends and
implements, and its body. Whatever follows a written class or interface, reading gives back its
parts and stops at its closing brace.

Results:
* `NameList.readNames`: qualified names with commas between them.
* `ClassText.readClassHead`: the parent and the interfaces of a class.
* `readClass_readInterface_written`: written classes and interfaces at a cursor.
-/

namespace PhpOutline.Written

open Reading

/-! ## Names -/

/-- The kinds of the parts of a qualified name. -/
def namePartKinds : List Kind := [.name, .separator, .keyword .namespaceKw]

theorem isNamePart_eq (t : Token) : isNamePart t = namePartKinds.any t.isKind := by
  rw [isNamePart, Bool.or_assoc]
  simp only [namePartKinds, List.any_cons, List.any_nil, Bool.or_false]
  rfl

theorem isNamePart_of_isTrivia {t : Token} (h : t.isTrivia = true) : isNamePart t = false := by
  rw [isNamePart, Token.isKind_of_isTrivia h rfl, Token.isKind_of_isTrivia h rfl]
  exact Token.isKind_of_isTrivia h (rfl : Kind.isTrivia (.keyword .namespaceKw) = false)

/-- A qualified name. There are no gaps in it. -/
structure QualifiedName where
  tokens : List Token
  parts : ∀ t ∈ tokens, namePartKinds.any t.isKind = true
  text_ne : joined tokens ≠ ""

namespace QualifiedName

/-- The text of a qualified name. -/
def text (q : QualifiedName) : String := joined q.tokens

theorem isNamePart_of_mem (q : QualifiedName) : ∀ t ∈ q.tokens, isNamePart t = true := by
  intro t ht
  rw [isNamePart_eq]
  exact q.parts t ht

/-- A qualified name ends at a gap or at a token that is no part of it. -/
theorem qualifiedName_append (q : QualifiedName) (after : Gap) {t : Token}
    (hname : isNamePart t = false) (rest : List Token) :
    qualifiedName (q.tokens ++ (after.tokens ++ t :: rest)) =
      (q.text, after.tokens ++ t :: rest) := by
  obtain ⟨u, us, hrow, hu⟩ :
      ∃ u us, after.tokens ++ t :: rest = u :: us ∧ isNamePart u = false := by
    cases hafter : after.tokens with
    | nil => exact ⟨t, rest, rfl, hname⟩
    | cons v vs => exact ⟨v, _, rfl, isNamePart_of_isTrivia (after.trivia v (by simp [hafter]))⟩
  rw [hrow, qualifiedName, List.takeWhile_append_of_pos q.isNamePart_of_mem,
    List.dropWhile_append_of_pos q.isNamePart_of_mem, List.takeWhile_cons_of_neg (by simp [hu]),
    List.dropWhile_cons_of_neg (by simp [hu]), List.append_nil, text]

/-- A qualified name is read back from its first token, and a token that is no part of it comes
    next. -/
theorem exists_first (q : QualifiedName) (gap after : Gap) {t : Token} (ht : t.isTrivia = false)
    (hname : isNamePart t = false) (line : Int) (rest : List Token) :
    ∃ u first,
      significant line (gap.tokens ++ (q.tokens ++ (after.tokens ++ t :: rest))) = .ok (u, first) ∧
      (qualifiedName (u :: first)).1 = q.text ∧
      significant line (qualifiedName (u :: first)).2 = .ok (t, rest) := by
  have hqualified := q.qualifiedName_append after hname rest
  cases htokens : q.tokens with
  | nil => exact absurd (by rw [htokens]; rfl) q.text_ne
  | cons u us =>
    have hu : u.isTrivia = false := by
      by_contra htrivia
      have hpart := q.isNamePart_of_mem u (by simp [htokens])
      rw [isNamePart_of_isTrivia (by simpa using htrivia)] at hpart
      cases hpart
    rw [htokens, List.cons_append] at hqualified
    refine ⟨u, us ++ (after.tokens ++ t :: rest), gap.significant hu line _, ?_, ?_⟩
    · rw [hqualified]
    · rw [hqualified]
      exact after.significant ht line rest

end QualifiedName

/-- Qualified names with commas between them, each between two gaps. -/
inductive NameList where
  | one (gap : Gap) (name : QualifiedName) (after : Gap)
  | more (gap : Gap) (name : QualifiedName) (after : Gap) (comma : Int) (others : NameList)

namespace NameList

/-- The tokens of some names. -/
def tokens : NameList → List Token
  | .one gap name after => gap.tokens ++ (name.tokens ++ after.tokens)
  | .more gap name after comma others =>
    gap.tokens ++ (name.tokens ++ (after.tokens ++ .punct "," comma :: others.tokens))

/-- The texts of some names. -/
def texts : NameList → List String
  | .one _ name _ => [name.text]
  | .more _ name _ _ others => name.text :: others.texts

/-- Names are read back up to the brace after them. -/
theorem readNames (names : NameList) (line opener : Int) (rest : List Token) :
    readNames line (names.tokens ++ .punct openBrace opener :: rest) =
      .ok (names.texts, .punct openBrace opener, rest) := by
  have htext : ∀ q : QualifiedName, nonEmpty? q.text = some q.text := fun q => if_neg q.text_ne
  induction names with
  | one gap name after =>
    obtain ⟨u, first, hfirst, hname, hnext⟩ :=
      name.exists_first gap after (t := .punct openBrace opener) rfl rfl line rest
    refine readNames_eq_ok_iff.2 ⟨u, first, _, _, ?_, hnext, .inr ⟨rfl, ?_, rfl, rfl⟩⟩
    · simpa only [tokens, List.append_assoc] using hfirst
    · rw [hname, htext]
      rfl
  | more gap name after comma others ih =>
    obtain ⟨u, first, hfirst, hname, hnext⟩ := name.exists_first gap after (t := .punct "," comma)
      rfl rfl line (others.tokens ++ .punct openBrace opener :: rest)
    refine readNames_eq_ok_iff.2 ⟨u, first, _, _, ?_, hnext, .inl ⟨rfl, others.texts, ih, ?_⟩⟩
    · simpa only [tokens, List.append_assoc, List.cons_append] using hfirst
    · rw [hname, htext]
      rfl

end NameList

/-! ## Classes and interfaces -/

/-- The parent of a class after its keyword, with a gap after it. -/
structure ParentClause where
  keyword : Word
  gap : Gap
  name : QualifiedName
  after : Gap

/-- The tokens of a parent. -/
def ParentClause.tokens (p : ParentClause) : List Token :=
  p.keyword.token (.keyword .extendsKw) :: (p.gap.tokens ++ (p.name.tokens ++ p.after.tokens))

/-- Names after their keyword. -/
structure NamesClause where
  keyword : Word
  names : NameList

/-- The tokens of names after a word, if there are any. -/
def namesTokens (word : Keyword) : Option NamesClause → List Token
  | none => []
  | some clause => clause.keyword.token (.keyword word) :: clause.names.tokens

/-- The texts of names, if there are any. -/
def namesTexts : Option NamesClause → List String
  | none => []
  | some clause => clause.names.texts

/-- Names after a word are read back up to the brace after them. -/
theorem exists_namesAfter (word : Keyword) (clause? : Option NamesClause) (line opener : Int)
    (rest : List Token) :
    ∃ t first, namesTokens word clause? ++ .punct openBrace opener :: rest = t :: first ∧
      (t = .punct openBrace opener ∨ ∃ keyword : Word, t = keyword.token (.keyword word)) ∧
      readNamesAfter word line t first =
        .ok (namesTexts clause?, .punct openBrace opener, rest) := by
  cases clause? with
  | none =>
    exact ⟨_, _, rfl, .inl rfl, readNamesAfter_eq_ok_iff.2 (.inr ⟨rfl, rfl, rfl, rfl⟩)⟩
  | some clause =>
    refine ⟨_, _, rfl, .inr ⟨clause.keyword, rfl⟩, readNamesAfter_eq_ok_iff.2 (.inl ⟨?_, ?_⟩)⟩
    · simp [Word.token, Token.isKeyword]
    · exact clause.names.readNames line opener rest

/-- A class from its keyword to its closing brace. -/
structure ClassText where
  keyword : Word
  gap : Gap
  name : Word
  after : Gap
  parent? : Option ParentClause
  interfaces? : Option NamesClause
  body : BodyText

namespace ClassText

/-- The tokens of the parent. -/
def parentTokens (c : ClassText) : List Token :=
  match c.parent? with
  | none => []
  | some parent => parent.tokens

/-- The tokens between the name and the body. -/
def head (c : ClassText) : List Token :=
  c.after.tokens ++ (c.parentTokens ++ namesTokens .implementsKw c.interfaces?)

/-- The tokens after the keyword. -/
def afterKeyword (c : ClassText) : List Token :=
  c.gap.tokens ++ c.name.token .name :: (c.head ++ c.body.tokens)

/-- The tokens of a class. -/
def tokens (c : ClassText) : List Token := c.keyword.token (.keyword .classKw) :: c.afterKeyword

/-- The class that is declared, with the modifiers and the docblock before its keyword. -/
def decl (c : ClassText) (scope : String) (modifiers : List Keyword) (doc : Option Docblock) :
    ClassDecl where
  name := c.name.text
  scope := scope
  line := c.keyword.line
  docblock := doc
  parent := c.parent?.map (·.name.text)
  interfaces := namesTexts c.interfaces?
  isAbstract := modifiers.contains .abstractKw
  isFinal := modifiers.contains .finalKw
  constants := (c.body.body scope).constants
  properties := (c.body.body scope).properties
  methods := (c.body.body scope).methods

/-- The parent and the interfaces are read back with the brace after them. -/
theorem readClassHead (c : ClassText) (line : Int) (name : String) (rest : List Token) :
    readClassHead line name (c.head ++ .punct openBrace c.body.opener :: rest) =
      .ok (c.parent?.map (·.name.text), namesTexts c.interfaces?, rest) := by
  obtain ⟨u, afterParent, htokens, hu, hnames⟩ :=
    exists_namesAfter .implementsKw c.interfaces? line c.body.opener rest
  have hnext : u.isTrivia = false ∧ isNamePart u = false ∧ u.isKeyword .extendsKw = false := by
    obtain rfl | ⟨keyword, rfl⟩ := hu <;> exact ⟨rfl, rfl, rfl⟩
  obtain ⟨htrivia, hpart, hextends⟩ := hnext
  rw [head, List.append_assoc, List.append_assoc, htokens, parentTokens]
  cases c.parent? with
  | none =>
    exact readClassHead_eq_ok_iff.2 ⟨u, afterParent, u, afterParent, .punct openBrace c.body.opener,
      c.after.significant htrivia line afterParent,
      readParent_eq_ok_iff.2 (.inr ⟨hextends, rfl, rfl, rfl⟩), hnames, rfl⟩
  | some parent =>
    obtain ⟨v, first, hfirst, hname, hafter⟩ :=
      parent.name.exists_first parent.gap parent.after htrivia hpart line afterParent
    have hparent := readParent_eq_ok_iff.2
      (.inl ⟨(rfl : (parent.keyword.token (.keyword .extendsKw)).isKeyword .extendsKw = true), v,
        first, hfirst, rfl, hafter⟩)
    rw [hname] at hparent
    refine readClassHead_eq_ok_iff.2 ⟨parent.keyword.token (.keyword .extendsKw), _, u, afterParent,
      .punct openBrace c.body.opener, ?_, hparent, hnames, rfl⟩
    show significant line (c.after.tokens ++ (parent.tokens ++ u :: afterParent)) = _
    simp only [ParentClause.tokens, List.cons_append, List.append_assoc]
    exact c.after.significant rfl line _

/-- A class is read back after its keyword. -/
theorem readClassFrom (c : ClassText) (scope : String) (modifiers : List Keyword)
    (doc : Option Docblock) (rest : List Token) :
    (readClassFrom scope c.keyword.line modifiers doc (c.afterKeyword ++ rest)).result =
      .ok (some (c.decl scope modifiers doc), rest) := by
  have htokens : c.afterKeyword ++ rest = c.gap.tokens ++ c.name.token .name ::
      (c.head ++ .punct openBrace c.body.opener :: (c.body.inner ++ rest)) := by
    simp only [afterKeyword, BodyText.tokens, List.append_assoc, List.cons_append]
  have hname := c.gap.significant (t := c.name.token .name) rfl c.keyword.line
    (c.head ++ .punct openBrace c.body.opener :: (c.body.inner ++ rest))
  have hhead := c.readClassHead c.keyword.line c.name.text (c.body.inner ++ rest)
  have hmembers := Noted.eq_mk (c.body.readMembers scope c.keyword.line rest)
  rw [htokens]
  exact congrArg Noted.result (readClassFrom_eq_ok_iff.2 ⟨c.name.token .name, _, hname,
    .inl ⟨rfl, _, _, _, _, hhead, hmembers, rfl⟩⟩)

end ClassText

/-- An interface from its keyword to its closing brace. -/
structure InterfaceText where
  keyword : Word
  gap : Gap
  name : Word
  after : Gap
  parents? : Option NamesClause
  body : BodyText

namespace InterfaceText

/-- The tokens after the keyword. -/
def afterKeyword (i : InterfaceText) : List Token :=
  i.gap.tokens ++ i.name.token .name ::
    (i.after.tokens ++ (namesTokens .extendsKw i.parents? ++ i.body.tokens))

/-- The tokens of an interface. -/
def tokens (i : InterfaceText) : List Token :=
  i.keyword.token (.keyword .interfaceKw) :: i.afterKeyword

/-- The interface that is declared, with the docblock before its keyword. Its properties are left
    out. -/
def decl (i : InterfaceText) (scope : String) (doc : Option Docblock) : InterfaceDecl where
  name := i.name.text
  scope := scope
  line := i.keyword.line
  docblock := doc
  parents := namesTexts i.parents?
  constants := (i.body.body scope).constants
  methods := (i.body.body scope).methods

/-- An interface is read back after its keyword. -/
theorem readInterfaceFrom (i : InterfaceText) (scope : String) (doc : Option Docblock)
    (rest : List Token) :
    (readInterfaceFrom scope i.keyword.line doc (i.afterKeyword ++ rest)).result =
      .ok (i.decl scope doc, rest) := by
  obtain ⟨t, first, hfirst, ht, hnames⟩ := exists_namesAfter .extendsKw i.parents? i.keyword.line
    i.body.opener (i.body.inner ++ rest)
  have htrivia : t.isTrivia = false := by
    obtain rfl | ⟨keyword, rfl⟩ := ht <;> rfl
  have htokens : i.afterKeyword ++ rest =
      i.gap.tokens ++ i.name.token .name :: (i.after.tokens ++ t :: first) := by
    simp only [afterKeyword, BodyText.tokens, List.append_assoc, List.cons_append, hfirst]
  have hhead : readInterfaceHead i.keyword.line (i.afterKeyword ++ rest) =
      .ok (i.name.text, namesTexts i.parents?, i.body.inner ++ rest) := by
    rw [htokens]
    exact readInterfaceHead_eq_ok_iff.2 ⟨i.name.token .name, _, t, first,
      .punct openBrace i.body.opener, i.gap.significant rfl i.keyword.line _, rfl, rfl,
      i.after.significant htrivia i.keyword.line first, hnames, rfl⟩
  have hmembers := Noted.eq_mk (i.body.readMembers scope i.keyword.line rest)
  exact congrArg Noted.result (readInterfaceFrom_eq_ok_iff.2 ⟨_, _, _, _, hhead, hmembers, rfl⟩)

end InterfaceText

/-- Written classes and interfaces are read back from their keywords, and reading ends right after
    their closing braces. -/
theorem readClass_readInterface_written (scope : String) (before rest : List Token) :
    (∀ c : ClassText,
      (readAt (readClass scope) (before ++ (c.tokens ++ rest)) before.length).result =
        .ok (some (c.decl scope (leadingModifiers before.reverse)
          (attached (leadingComment before.reverse)).2), before.length + c.tokens.length)) ∧
    ∀ i : InterfaceText,
      (readAt (readInterface scope) (before ++ (i.tokens ++ rest)) before.length).result =
        .ok (i.decl scope (attached (leadingComment before.reverse)).2,
          before.length + i.tokens.length) := by
  constructor
  · intro c
    have hread : (readClass scope ⟨before.reverse, c.tokens ++ rest⟩).result =
        .ok (some (c.decl scope (leadingModifiers before.reverse)
          (attached (leadingComment before.reverse)).2), rest) := by
      rw [readClass_eq rfl rfl]
      exact c.readClassFrom scope _ _ rest
    rw [readAt_of_read (Noted.eq_mk hread)]
  · intro i
    have hread : (readInterface scope ⟨before.reverse, i.tokens ++ rest⟩).result =
        .ok (i.decl scope (attached (leadingComment before.reverse)).2, rest) := by
      rw [readInterface_eq rfl rfl]
      exact i.readInterfaceFrom scope _ rest
    rw [readAt_of_read (Noted.eq_mk hread)]

/-- A class with a member of each kind, and an interface. The doc comment and the modifiers belong
    to the properties only. -/
theorem readClass_readInterface_written_members :
    let word (kind : Kind) (text : String) : Token := ⟨some kind, text, 1⟩
    let sign (text : String) : Token := .punct text 1
    let space := word .whitespace " "
    let tokens := [word (.keyword .classKw) "class", space, word .name "A",
      word (.keyword .extendsKw) "extends", word .separator "\\", word .name "B",
      word (.keyword .implementsKw) "implements", space, word .name "C", sign ",", word .name "D",
      sign openBrace,
      word .docComment "/** P */", word (.keyword .privateKw) "private",
      word (.keyword .staticKw) "static", sign "?", word .name "int", word .variable "$a", sign "=",
      sign "[", word .integer "1", sign ",", sign "]", sign ",", space, word .variable "$b",
      sign ";", word (.keyword .constKw) "const", space, word .name "X", sign "=",
      word .integer "1", sign ",", word .name "Y", sign "=", word .integer "2", sign ";",
      word (.keyword .useKw) "use", word .name "T", sign openBrace, sign ";", sign closeBrace,
      sign ";",
      word (.keyword .functionKw) "function", word .name "f", sign "(", sign ")", sign ";", space,
      sign closeBrace]
    let others := [word (.keyword .interfaceKw) "interface", word .name "I",
      word (.keyword .extendsKw) "extends", word .name "J", sign openBrace, sign closeBrace]
    let property : PropertyDecl :=
      { name := "$a", line := 1, docblock := some { short := "P", line := 1 }, visibility := .priv
        isStatic := true, type := some "?int", default := some "[1,]" }
    let constant : ConstantDecl := { name := "X", scope := "N", line := 1, value := "1" }
    (∃ c : ClassText, c.tokens = tokens) ∧ (∃ i : InterfaceText, i.tokens = others) ∧
    ∀ rest,
      (readAt (readClass "N") (tokens ++ rest) 0).result =
        .ok (some {
          name := "A", scope := "N", line := 1, parent := some "\\B", interfaces := ["C", "D"]
          constants := [constant, { constant with name := "Y", value := "2" }]
          properties := [property, { property with name := "$b", default := none }]
          methods := [{ name := "f", scope := "N", line := 1, isAbstract := true }] }, 50) ∧
      (readAt (readInterface "N") (others ++ rest) 0).result =
        .ok ({ name := "I", scope := "N", line := 1, parents := ["J"] }, 6) := by
  intro word sign space tokens others property constant
  let empty : Gap := ⟨[], by decide⟩
  let blank : Gap := ⟨[space], by decide⟩
  let x : Constant := ⟨⟨[space], by decide, by decide, by decide⟩, .name, ⟨"X", 1⟩, empty, 1,
    ⟨[word .integer "1"], by decide, by decide, by decide⟩, by decide⟩
  let y : Constant := ⟨.empty, .name, ⟨"Y", 1⟩, empty, 1,
    ⟨[word .integer "2"], by decide, by decide, by decide⟩, by decide⟩
  let f : FunctionName := ⟨empty, .name, ⟨"f", 1⟩, rfl⟩
  let method : Header := {
    keyword := ⟨"function", 1⟩
    reference? := none
    name? := some f
    gap := empty
    opener := 1
    parameters := .none empty
    closer := 1
    use? := none
    result := .absent empty
    block := .semicolon 1
    use_ok := fun _ => rfl }
  let members : List Member := [
    ⟨[word .docComment "/** P */", word (.keyword .privateKw) "private",
        word (.keyword .staticKw) "static", sign "?", word .name "int"],
      .properties (.more ⟨"$a", 1⟩ (.present empty 1
        ⟨[sign "[", word .integer "1", sign ",", sign "]"], by decide, by decide, by decide⟩) 1
        blank (.last ⟨"$b", 1⟩ (.absent empty) 1)), by decide⟩,
    ⟨[], .constants ⟨"const", 1⟩ (.more x 1 (.last y 1)), by decide⟩,
    ⟨[], .traitUse ⟨"use", 1⟩ ⟨[word .name "T"], by decide, by decide, by decide⟩
      (.braces 1 ⟨[sign ";"], by decide, by decide, by decide⟩ 1), by decide⟩,
    ⟨[], .semicolon 1, by decide⟩,
    ⟨[], .method method f rfl, by decide⟩]
  let c : ClassText := {
    keyword := ⟨"class", 1⟩
    gap := blank
    name := ⟨"A", 1⟩
    after := empty
    parent? := some ⟨⟨"extends", 1⟩, empty,
      ⟨[word .separator "\\", word .name "B"], by decide, by decide⟩, empty⟩
    interfaces? := some ⟨⟨"implements", 1⟩,
      .more blank ⟨[word .name "C"], by decide, by decide⟩ empty 1
        (.one empty ⟨[word .name "D"], by decide, by decide⟩ empty)⟩
    body := ⟨1, members, blank, 1⟩ }
  let i : InterfaceText := {
    keyword := ⟨"interface", 1⟩
    gap := empty
    name := ⟨"I", 1⟩
    after := empty
    parents? := some ⟨⟨"extends", 1⟩, .one empty ⟨[word .name "J"], by decide, by decide⟩ empty⟩
    body := ⟨1, [], empty, 1⟩ }
  refine ⟨⟨c, rfl⟩, ⟨i, rfl⟩, fun rest => ?_⟩
  obtain ⟨hclass, hinterface⟩ := readClass_readInterface_written "N" [] rest
  refine ⟨(hclass c).trans ?_, (hinterface i).trans rfl⟩
  decide +kernel

end PhpOutline.Written
