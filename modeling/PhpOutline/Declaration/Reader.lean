import PhpOutline.Cursor
import PhpOutline.Declaration.Member
import PhpOutline.Text.Case

/-!
# Declarations at a cursor

Each reader starts with the cursor on the keyword of a declaration, reads the whole declaration and
gives the tokens after it. A reader gives nothing if the keyword starts a closure or a class without
a name; the tokens of it are passed all the same. What stands before the keyword, modifiers and a
doc comment, is looked up behind the cursor.

Results:
* `readClass_length`, `readInterface_length`, `readFunction_length`, `readConstant_length`,
  `readInclude_length`: a declaration that is read takes at least one token.
-/

namespace PhpOutline

namespace Keyword

/-- A word that may stand before `class`. -/
def isClassModifier : Keyword → Bool
  | .abstractKw | .finalKw | .readonlyKw => true
  | _ => false

end Keyword

namespace Reading

/-! ## Behind the cursor -/

/-- The class modifier that a token is. -/
def classModifier? (t : Token) : Option Keyword :=
  match t.kind with
  | some (.keyword word) => if word.isClassModifier then some word else none
  | _ => none

/-- A token that may stand between a doc comment and the keyword it belongs to (`_look_behind`):
    white space, a comment or a class modifier. -/
def isLeading (t : Token) : Bool :=
  t.isKind .whitespace || t.isKind .comment || (classModifier? t).isSome

/-- The class modifiers before the keyword, nearest first, in tokens that are given nearest first
    (`_leading_modifiers`). -/
def leadingModifiers (passed : List Token) : List Keyword :=
  (passed.takeWhile isLeading).filterMap classModifier?

/-- The doc comment before the keyword, in tokens that are given nearest first
    (`_leading_docblock`). -/
def leadingComment (passed : List Token) : Option Token :=
  (passed.dropWhile isLeading).head?.filter (·.isKind .docComment)

/-- The keyword under the cursor and the tokens after it (`_expect_current`). -/
def expect (words : List Keyword) (c : Cursor) : Except Failure (Token × List Token) :=
  match c.rest with
  | [] => fail (.misplaced none) 0 []
  | t :: rest =>
    if words.any t.isKeyword then .ok (t, rest)
    else fail (.misplaced (some t.content)) t.line (t :: rest)

/-! ## Classes and interfaces -/

/-- Passes over a class without a name, from the token after its keyword
    (`_skip_anonymous_class`). -/
def skipAnonymousClass (line : Int) (ts : List Token) : Except Failure (List Token) :=
  match ts with
  | [] => skipBalanced line []
  | t :: rest =>
    if t.isPunct openBrace then skipBalanced line (t :: rest)
    else if t.isPunct "(" then
      match h : skipBalanced line (t :: rest) with
      | .error e => .error e
      | .ok after =>
        have : after.length < (t :: rest).length := skipBalanced_length h
        skipAnonymousClass line after
    else skipAnonymousClass line rest
termination_by ts.length
decreasing_by all_goals (simp only [List.length_cons] at *; omega)

/-- The parent of a class, if one is named, the next token and the tokens after it; `t` is the first
    token. -/
def readParent (line : Int) (t : Token) (rest : List Token) :
    Except Failure (Option String × Token × List Token) :=
  if t.isKeyword .extendsKw then
    match significant line rest with
    | .error e => .error e
    | .ok (first, after) =>
      let (name, after) := qualifiedName (first :: after)
      match significant line after with
      | .error e => .error e
      | .ok (next, rest) => .ok (some name, next, rest)
  else .ok (none, t, rest)

/-- The names after a word, if it is there, the next token and the tokens after it; `t` is the first
    token. -/
def readNamesAfter (word : Keyword) (line : Int) (t : Token) (rest : List Token) :
    Except Failure (List String × Token × List Token) :=
  if t.isKeyword word then readNames line rest else .ok ([], t, rest)

/-- The parent and the interfaces of a class, and the tokens after the brace that opens its
    body. -/
def readClassHead (line : Int) (name : String) (ts : List Token) :
    Except Failure (Option String × List String × List Token) :=
  match significant line ts with
  | .error e => .error e
  | .ok (t, ts) =>
    match readParent line t ts with
    | .error e => .error e
    | .ok (parent, t, ts) =>
      match readNamesAfter .implementsKw line t ts with
      | .error e => .error e
      | .ok (interfaces, t, rest) =>
        if t.isPunct openBrace then .ok (parent, interfaces, rest)
        else fail (.noClassBody name t.content) t.line (t :: rest)

/-- A class after its keyword, which stands on `line`. -/
def readClassFrom (scope : String) (line : Int) (modifiers : List Keyword) (doc : Option Docblock)
    (ts : List Token) : Noted (Option ClassDecl × List Token) :=
  match significant line ts with
  | .error e => .plain (.error e)
  | .ok (t, rest) =>
    if t.isKind .name then
      match readClassHead line t.content rest with
      | .error e => .plain (.error e)
      | .ok (parent, interfaces, rest) =>
        (readMembers scope line {} rest).map fun (body, rest) =>
          (some {
            name := t.content
            scope := scope
            line := line
            docblock := doc
            parent := parent
            interfaces := interfaces
            isAbstract := modifiers.contains .abstractKw
            isFinal := modifiers.contains .finalKw
            constants := body.constants
            properties := body.properties
            methods := body.methods
          }, rest)
    else .plain ((skipAnonymousClass line (t :: rest)).map fun rest => (none, rest))

/-- The class at a cursor (`parse_class`). -/
def readClass (scope : String) (c : Cursor) : Noted (Option ClassDecl × List Token) :=
  match expect [.classKw] c with
  | .error e => .plain (.error e)
  | .ok (keyword, rest) =>
    let (notes, doc) := attached (leadingComment c.passed)
    (readClassFrom scope keyword.line (leadingModifiers c.passed) doc rest).after notes

/-- The name and the parents of an interface, and the tokens after the brace that opens its
    body. -/
def readInterfaceHead (line : Int) (ts : List Token) :
    Except Failure (String × List String × List Token) :=
  match significant line ts with
  | .error e => .error e
  | .ok (name, ts) =>
    if name.isKind .name then
      match significant line ts with
      | .error e => .error e
      | .ok (t, ts) =>
        match readNamesAfter .extendsKw line t ts with
        | .error e => .error e
        | .ok (parents, t, rest) =>
          if t.isPunct openBrace then .ok (name.content, parents, rest)
          else fail (.noInterfaceBody name.content t.content) t.line (t :: rest)
    else fail (.noInterfaceName name.content) name.line (name :: ts)

/-- An interface after its keyword, which stands on `line`. -/
def readInterfaceFrom (scope : String) (line : Int) (doc : Option Docblock) (ts : List Token) :
    Noted (InterfaceDecl × List Token) :=
  match readInterfaceHead line ts with
  | .error e => .plain (.error e)
  | .ok (name, parents, rest) =>
    (readMembers scope line {} rest).map fun (body, rest) =>
      ({
        name := name
        scope := scope
        line := line
        docblock := doc
        parents := parents
        constants := body.constants
        methods := body.methods
      }, rest)

/-- The interface at a cursor (`parse_interface`). -/
def readInterface (scope : String) (c : Cursor) : Noted (InterfaceDecl × List Token) :=
  match expect [.interfaceKw] c with
  | .error e => .plain (.error e)
  | .ok (keyword, rest) =>
    let (notes, doc) := attached (leadingComment c.passed)
    (readInterfaceFrom scope keyword.line doc rest).after notes

/-! ## Functions, constants and included files -/

/-- A function after its keyword, which stands on `line`. -/
def readFunctionFrom (scope : String) (line : Int) (doc : Option Docblock) (ts : List Token) :
    Except Failure (Option FunctionDecl × List Token) :=
  match readSignature line ts with
  | .error e => .error e
  | .ok (s, rest) =>
    .ok (s.name.map fun name =>
      ⟨name, scope, line, doc, s.arguments, s.returnType, s.byReference⟩, rest)

/-- The function at a cursor (`parse_function`). -/
def readFunction (scope : String) (c : Cursor) : Noted (Option FunctionDecl × List Token) :=
  match expect [.functionKw] c with
  | .error e => .plain (.error e)
  | .ok (keyword, rest) =>
    let (notes, doc) := attached (leadingComment c.passed)
    ⟨notes, readFunctionFrom scope keyword.line doc rest⟩

/-- The first constant of a declaration after its keyword, which stands on `line`. -/
def readConstantFrom (scope : String) (line : Int) (doc : Option Docblock) (ts : List Token) :
    Except Failure (ConstantDecl × List Token) :=
  match readConstants scope line doc ts with
  | .error e => .error e
  | .ok (first, _, rest) => .ok (first, rest)

/-- The first constant of the declaration at a cursor (`parse_constant`). -/
def readConstant (scope : String) (c : Cursor) : Noted (ConstantDecl × List Token) :=
  match expect [.constKw] c with
  | .error e => .plain (.error e)
  | .ok (keyword, rest) =>
    let (notes, doc) := attached (leadingComment c.passed)
    ⟨notes, readConstantFrom scope keyword.line doc rest⟩

/-- A quoted text without its quotes. -/
def unquoted? (s : String) : Option String :=
  match s.toList with
  | q :: r =>
    if (q = '\'' ∨ q = '"') ∧ r.getLast? = some q then some (String.ofList r.dropLast)
    else none
  | [] => none

/-- The file that an expression includes (`_include_target`): the text of a single literal, which
    may stand in parentheses, or else the expression itself. -/
def includeTarget (ts : List Token) : String :=
  let inner := match ts.filter (!·.isTrivia) with
    | [opener, t, closer] =>
      if opener.isPunct "(" && closer.isPunct ")" then [t] else [opener, t, closer]
    | significant => significant
  match inner with
  | [t] =>
    if t.isKind .literal then (unquoted? t.content).getD (sourceText ts) else sourceText ts
  | _ => sourceText ts

/-- The words that include a file. -/
def includeWords : List Keyword := [.requireKw, .requireOnceKw, .includeKw, .includeOnceKw]

/-- The expression after a word that includes a file, up to its semicolon, and the tokens after
    it. -/
def readIncludeTarget (ts : List Token) : String × List Token :=
  let (expression, after) := collect [";"] ts
  (includeTarget expression,
    match after with
    | t :: rest => if t.isPunct ";" then rest else t :: rest
    | [] => [])

/-- The included file at a cursor (`parse_include`). -/
def readInclude (scope : String) (c : Cursor) : Noted (IncludeDecl × List Token) :=
  match expect includeWords c with
  | .error e => .plain (.error e)
  | .ok (keyword, rest) =>
    let (notes, doc) := attached (leadingComment c.passed)
    let (name, after) := readIncludeTarget rest
    ⟨notes, .ok (⟨name, Text.lowered keyword.content, scope, keyword.line, doc⟩, after)⟩

/-! ## Progress -/

theorem expect_length {words : List Keyword} {c : Cursor} {t : Token} {rest : List Token}
    (h : expect words c = .ok (t, rest)) : c.rest.length = rest.length + 1 := by
  unfold expect at h
  split at h
  · simp [fail] at h
  · rename_i u r hrest
    split at h
    · obtain ⟨_, rfl⟩ := by simpa using h
      simp [hrest]
    · simp [fail] at h

theorem skipAnonymousClass_length {line : Int} {ts rest : List Token}
    (h : skipAnonymousClass line ts = .ok rest) : rest.length < ts.length := by
  fun_induction skipAnonymousClass line ts with
  | case1 => exact skipBalanced_length h
  | case2 => exact skipBalanced_length h
  | case3 => simp at h
  | case4 =>
    rename_i hlt ih
    exact Nat.lt_trans (ih h) hlt
  | case5 =>
    rename_i ih
    exact Nat.lt_succ_of_lt (ih h)

theorem readParent_length {line : Int} {t u : Token} {ts rest : List Token}
    {parent : Option String} (h : readParent line t ts = .ok (parent, u, rest)) :
    rest.length ≤ ts.length := by
  unfold readParent at h
  split at h
  · split at h
    · simp at h
    · rename_i first after hfirst
      have h1 := significant_length hfirst
      have h2 := qualifiedName_length (first :: after)
      simp only at h
      split at h
      · simp at h
      · rename_i v r hnext
        have h3 := significant_length hnext
        obtain ⟨_, _, rfl⟩ := by simpa using h
        simp at h2; omega
  · obtain ⟨_, _, rfl⟩ := by simpa using h
    exact Nat.le_refl _

theorem readNamesAfter_length {word : Keyword} {line : Int} {t u : Token} {ts rest : List Token}
    {names : List String} (h : readNamesAfter word line t ts = .ok (names, u, rest)) :
    rest.length ≤ ts.length := by
  unfold readNamesAfter at h
  split at h
  · exact Nat.le_of_lt (readNames_length h)
  · obtain ⟨_, _, rfl⟩ := by simpa using h
    exact Nat.le_refl _

theorem readClassHead_length {line : Int} {name : String} {ts rest : List Token}
    {parent : Option String} {interfaces : List String}
    (h : readClassHead line name ts = .ok (parent, interfaces, rest)) :
    rest.length < ts.length := by
  unfold readClassHead at h
  split at h
  · simp at h
  · rename_i t r1 h1
    split at h
    · simp at h
    · rename_i p u r2 h2
      split at h
      · simp at h
      · rename_i names v r3 h3
        split at h
        · have l1 := significant_length h1
          have l2 := readParent_length h2
          have l3 := readNamesAfter_length h3
          obtain ⟨_, _, rfl⟩ := by simpa using h
          omega
        · simp [fail] at h

theorem readClassFrom_length {scope : String} {line : Int} {modifiers : List Keyword}
    {doc : Option Docblock} {ts rest : List Token} {decl : Option ClassDecl}
    (h : (readClassFrom scope line modifiers doc ts).result = .ok (decl, rest)) :
    rest.length ≤ ts.length := by
  unfold readClassFrom at h
  split at h
  · simp at h
  · rename_i t r hname
    have h1 := significant_length hname
    split at h
    · split at h
      · simp at h
      · rename_i parent interfaces r2 hhead
        have h2 := readClassHead_length hhead
        rw [Noted.result_map] at h
        cases hbody : (readMembers scope line {} r2).result with
        | error e => simp [hbody, Except.map] at h
        | ok p =>
          obtain ⟨body, r3⟩ := p
          have h3 := readMembers_length hbody
          obtain ⟨_, rfl⟩ := by simpa [hbody, Except.map] using h
          omega
    · rw [Noted.result_plain] at h
      cases hskip : skipAnonymousClass line (t :: r) with
      | error e => simp [hskip, Except.map] at h
      | ok r2 =>
        have h2 := skipAnonymousClass_length hskip
        obtain ⟨_, rfl⟩ := by simpa [hskip, Except.map] using h
        simp at h2; omega

/-- A class that is read takes at least one token. -/
theorem readClass_length {scope : String} {c : Cursor} {rest : List Token}
    {decl : Option ClassDecl} (h : (readClass scope c).result = .ok (decl, rest)) :
    rest.length < c.rest.length := by
  unfold readClass at h
  split at h
  · simp at h
  · rename_i keyword r hexp
    have h1 := expect_length hexp
    have h2 := readClassFrom_length (by simpa using h)
    omega

theorem readInterfaceHead_length {line : Int} {name : String} {ts rest : List Token}
    {parents : List String} (h : readInterfaceHead line ts = .ok (name, parents, rest)) :
    rest.length < ts.length := by
  unfold readInterfaceHead at h
  split at h
  · simp at h
  · rename_i t r1 h1
    split at h
    · split at h
      · simp at h
      · rename_i u r2 h2
        split at h
        · simp at h
        · rename_i names v r3 h3
          split at h
          · have l1 := significant_length h1
            have l2 := significant_length h2
            have l3 := readNamesAfter_length h3
            obtain ⟨_, _, rfl⟩ := by simpa using h
            omega
          · simp [fail] at h
    · simp [fail] at h

/-- An interface that is read takes at least one token. -/
theorem readInterface_length {scope : String} {c : Cursor} {rest : List Token}
    {decl : InterfaceDecl} (h : (readInterface scope c).result = .ok (decl, rest)) :
    rest.length < c.rest.length := by
  unfold readInterface at h
  split at h
  · simp at h
  · rename_i keyword r hexp
    have h1 := expect_length hexp
    simp only [Noted.result_after] at h
    unfold readInterfaceFrom at h
    split at h
    · simp at h
    · rename_i name parents r2 hhead
      have h2 := readInterfaceHead_length hhead
      rw [Noted.result_map] at h
      cases hbody : (readMembers scope keyword.line {} r2).result with
      | error e => simp [hbody, Except.map] at h
      | ok p =>
        obtain ⟨body, r3⟩ := p
        have h3 := readMembers_length hbody
        obtain ⟨_, rfl⟩ := by simpa [hbody, Except.map] using h
        omega

/-- A function that is read takes at least one token. -/
theorem readFunction_length {scope : String} {c : Cursor} {rest : List Token}
    {decl : Option FunctionDecl} (h : (readFunction scope c).result = .ok (decl, rest)) :
    rest.length < c.rest.length := by
  unfold readFunction at h
  split at h
  · simp at h
  · rename_i keyword r hexp
    have h1 := expect_length hexp
    simp only at h
    unfold readFunctionFrom at h
    split at h
    · simp at h
    · rename_i s r2 hsig
      have h2 := readSignature_length hsig
      obtain ⟨_, rfl⟩ := by simpa using h
      omega

/-- A constant that is read takes at least one token. -/
theorem readConstant_length {scope : String} {c : Cursor} {rest : List Token}
    {decl : ConstantDecl} (h : (readConstant scope c).result = .ok (decl, rest)) :
    rest.length < c.rest.length := by
  unfold readConstant at h
  split at h
  · simp at h
  · rename_i keyword r hexp
    have h1 := expect_length hexp
    simp only at h
    unfold readConstantFrom at h
    split at h
    · simp at h
    · rename_i first others r2 hconst
      have h2 := readConstants_length hconst
      obtain ⟨_, rfl⟩ := by simpa using h
      omega

theorem readIncludeTarget_length (ts : List Token) :
    (readIncludeTarget ts).2.length ≤ ts.length := by
  have h := collect_length [";"] ts
  unfold readIncludeTarget
  simp only
  split
  · rename_i t r heq
    rw [heq] at h
    split
    · simp at h; omega
    · exact h
  · simp

/-- An included file that is read takes at least one token. -/
theorem readInclude_length {scope : String} {c : Cursor} {rest : List Token}
    {decl : IncludeDecl} (h : (readInclude scope c).result = .ok (decl, rest)) :
    rest.length < c.rest.length := by
  unfold readInclude at h
  split at h
  · simp at h
  · rename_i keyword r hexp
    have h1 := expect_length hexp
    have h2 := readIncludeTarget_length r
    obtain ⟨_, rfl⟩ := by simpa using h
    omega

end Reading

end PhpOutline
