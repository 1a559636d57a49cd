import PhpOutline.Declaration.Reader
import PhpOutline.Proofs.Depth

/-!
# What a reader has read

For each reader of declarations, the steps that it has gone through when it succeeds. Each statement
is an equivalence, so that it opens a reader's success and also puts one together from its steps;
later proofs need not unfold the readers.

Results:
* `significant_eq_ok_iff`, `readNames_eq_ok_iff`: trivia and names.
* `readSignature_eq_ok_iff`: the header of a function, step by step.
* `readConstants_eq_ok_iff`, `readProperties_eq_ok_iff`: lists in a body.
* `readMembers_eq_ok_iff`: a body, step by step.
* `readClassFrom_eq_ok_iff`, `readInterfaceFrom_eq_ok_iff`, `readFunctionFrom_eq_ok_iff`: whole
  declarations.
* `readClass_eq` and the like: a declaration at a cursor on its keyword.
-/

namespace PhpOutline

/-- The members of two stretches of a body, one after the other. -/
def Body.append (a b : Body) : Body where
  constants := a.constants ++ b.constants
  properties := a.properties ++ b.properties
  methods := a.methods ++ b.methods

theorem Noted.after_empty (n : Noted (Body × List Token)) :
    (n.map fun (body, rest) => (Body.append {} body, rest)).after [] = n := by
  obtain ⟨notes, result⟩ := n
  cases result <;> rfl

theorem Noted.map_eq_ok_iff {α β : Type} {n : Noted α} {f : α → β} {notes : List DocblockError}
    {b : β} : n.map f = ⟨notes, .ok b⟩ ↔ ∃ a, n = ⟨notes, .ok a⟩ ∧ f a = b := by
  obtain ⟨notes', e | a⟩ := n
  · simp [Noted.map, Except.map]
  · simp [Noted.map, Except.map]

theorem Noted.eq_mk {α : Type} {n : Noted α} {r : Except Failure α} (h : n.result = r) :
    n = ⟨n.notes, r⟩ := by
  subst h
  rfl

theorem Noted.after_eq_ok_iff {α : Type} {n : Noted α} {before notes : List DocblockError} {a : α} :
    n.after before = ⟨notes, .ok a⟩ ↔ ∃ later, notes = before ++ later ∧ n = ⟨later, .ok a⟩ := by
  obtain ⟨later, result⟩ := n
  simp [Noted.after, eq_comm]

namespace Reading

/-! ## Trivia and names -/

theorem dropWhile_eq_cons_iff {p : Token → Bool} {ts after : List Token} {t : Token} :
    ts.dropWhile p = t :: after ↔
      p t = false ∧ ∃ front, (∀ u ∈ front, p u = true) ∧ ts = front ++ t :: after := by
  constructor
  · intro h
    induction ts with
    | nil => cases h
    | cons u r ih =>
      rw [List.dropWhile_cons] at h
      split at h
      · rename_i hu
        obtain ⟨ht, front, hfront, rfl⟩ := ih h
        refine ⟨ht, u :: front, ?_, rfl⟩
        intro v hv
        rcases List.mem_cons.1 hv with rfl | hv
        · exact hu
        · exact hfront v hv
      · rename_i hu
        obtain ⟨rfl, rfl⟩ := List.cons.inj h
        exact ⟨by simpa using hu, [], by simp, rfl⟩
  · rintro ⟨ht, front, hfront, rfl⟩
    rw [List.dropWhile_append_of_pos hfront, List.dropWhile_cons_of_neg (by simp [ht])]

/-- The next significant token comes right after some trivia. -/
theorem significant_eq_ok_iff {line : Int} {ts rest : List Token} {t : Token} :
    significant line ts = .ok (t, rest) ↔
      t.isTrivia = false ∧ ∃ front, (∀ u ∈ front, u.isTrivia = true) ∧ ts = front ++ t :: rest := by
  rw [← dropWhile_eq_cons_iff]
  unfold significant
  split
  · rename_i h
    simp [fail, h]
  · rename_i u r h
    simp [h]

theorem significant_cons {line : Int} {t : Token} (h : t.isTrivia = false) (rest : List Token) :
    significant line (t :: rest) = .ok (t, rest) :=
  significant_eq_ok_iff.2 ⟨h, [], by simp, rfl⟩

/-- Names are read up to a token after a name that is no comma. -/
theorem readNames_eq_ok_iff {line : Int} {ts rest : List Token} {names : List String} {t : Token} :
    readNames line ts = .ok (names, t, rest) ↔
      ∃ u first next after, significant line ts = .ok (u, first) ∧
        significant line (qualifiedName (u :: first)).2 = .ok (next, after) ∧
        ((next.isPunct "," = true ∧ ∃ later, readNames line after = .ok (later, t, rest) ∧
            names = (nonEmpty? (qualifiedName (u :: first)).1).toList ++ later) ∨
          (next.isPunct "," = false ∧ names = (nonEmpty? (qualifiedName (u :: first)).1).toList ∧
            t = next ∧ rest = after)) := by
  rw [readNames]
  split
  · grind
  · rename_i u first hfirst
    simp only
    split
    · grind
    · rename_i next after hnext
      by_cases hcomma : next.isPunct "," = true
      · rw [if_pos hcomma]
        split <;> grind
      · rw [if_neg hcomma]
        grind

/-! ## Headers of functions -/

theorem readArguments_eq_ok_iff {line : Int} {ts rest : List Token} {arguments : List Argument} :
    readArguments line ts = .ok (arguments, rest) ↔
      ∃ group groups, splitParameters? 0 ts = some (group, groups, rest) ∧
        arguments = (group :: groups).filterMap argument? := by
  rw [readArguments]
  split
  · grind [fail]
  · grind

theorem readReferenceMark_eq_ok_iff {line : Int} {ts rest : List Token} {mark : Bool} {t : Token} :
    readReferenceMark line ts = .ok (mark, t, rest) ↔
      ∃ u first, significant line ts = .ok (u, first) ∧ mark = u.isPunct "&" ∧
        ((mark = true ∧ significant line first = .ok (t, rest)) ∨
          (mark = false ∧ t = u ∧ rest = first)) := by
  rw [readReferenceMark]
  split
  · grind
  · rename_i u first hfirst
    by_cases hmark : u.isPunct "&" = true
    · rw [if_pos hmark]
      split <;> grind
    · rw [if_neg hmark]
      grind

theorem readFunctionName_eq_ok_iff {line : Int} {t : Token} {ts rest : List Token}
    {name : Option String} :
    readFunctionName line t ts = .ok (name, rest) ↔
      (t.isPunct "(" = true ∧ name = none ∧ rest = ts) ∨
        (t.isPunct "(" = false ∧ t.kind.isNone = false ∧ name = some t.content ∧
          ∃ next, significant line ts = .ok (next, rest) ∧ next.isPunct "(" = true) := by
  rw [readFunctionName]
  by_cases hopen : t.isPunct "(" = true
  · rw [if_pos hopen]
    grind
  rw [if_neg hopen]
  by_cases hkind : t.kind.isNone = true
  · rw [if_pos hkind]
    grind [fail]
  rw [if_neg hkind]
  split
  · grind
  · rename_i next after hnext
    by_cases hparen : next.isPunct "(" = true
    · rw [if_pos hparen]
      grind
    · rw [if_neg hparen]
      grind [fail]

theorem readClosureUse_eq_ok_iff {line : Int} {isClosure : Bool} {ts rest : List Token}
    {t : Token} :
    readClosureUse line isClosure ts = .ok (t, rest) ↔
      ∃ u first, significant line ts = .ok (u, first) ∧
        ((isClosure = true ∧ u.isKeyword .useKw = true ∧
            ∃ opener after used, significant line first = .ok (opener, after) ∧
              skipBalanced line (opener :: after) = .ok used ∧
              significant line used = .ok (t, rest)) ∨
          (¬ (isClosure = true ∧ u.isKeyword .useKw = true) ∧ t = u ∧ rest = first)) := by
  rw [readClosureUse]
  split
  · grind
  · rename_i u first hfirst
    by_cases huse : isClosure = true ∧ u.isKeyword .useKw = true
    · rw [if_pos huse]
      split
      · grind
      · split <;> grind
    · rw [if_neg huse]
      grind

theorem readReturnType_eq_ok_iff {line : Int} {t u : Token} {ts rest : List Token}
    {type : Option String} :
    readReturnType line t ts = .ok (type, u, rest) ↔
      (t.isPunct ":" = true ∧ type = nonEmpty? (compact (Reading.collect [openBrace, ";"] ts).1) ∧
          significant line (Reading.collect [openBrace, ";"] ts).2 = .ok (u, rest)) ∨
        (t.isPunct ":" = false ∧ type = none ∧ u = t ∧ rest = ts) := by
  rw [readReturnType]
  by_cases hcolon : t.isPunct ":" = true
  · rw [if_pos hcolon]
    simp only
    split <;> grind
  · rw [if_neg hcolon]
    grind

theorem readFunctionBody_eq_ok_iff {line : Int} {t : Token} {ts rest : List Token}
    {hasBody : Bool} :
    readFunctionBody line t ts = .ok (hasBody, rest) ↔
      hasBody = t.isPunct openBrace ∧
        ((hasBody = true ∧ skipBalanced line (t :: ts) = .ok rest) ∨
          (hasBody = false ∧ t.isPunct ";" = true ∧ rest = ts)) := by
  rw [readFunctionBody]
  by_cases hopen : t.isPunct openBrace = true
  · rw [if_pos hopen]
    split <;> grind
  rw [if_neg hopen]
  by_cases hend : t.isPunct ";" = true
  · rw [if_pos hend]
    grind
  · rw [if_neg hend]
    grind [fail]

/-- A header is read part by part, from the mark before the name to the body. -/
theorem readSignature_eq_ok_iff {line : Int} {ts rest : List Token} {s : Signature} :
    readSignature line ts = .ok (s, rest) ↔
      ∃ t afterMark afterName afterArguments u afterUse v afterType,
        readReferenceMark line ts = .ok (s.byReference, t, afterMark) ∧
        readFunctionName line t afterMark = .ok (s.name, afterName) ∧
        readArguments line afterName = .ok (s.arguments, afterArguments) ∧
        readClosureUse line s.name.isNone afterArguments = .ok (u, afterUse) ∧
        readReturnType line u afterUse = .ok (s.returnType, v, afterType) ∧
        readFunctionBody line v afterType = .ok (s.hasBody, rest) := by
  obtain ⟨name, arguments, returnType, byReference, hasBody⟩ := s
  rw [readSignature]
  split
  · grind
  · split
    · grind
    · split
      · grind
      · split
        · grind
        · split
          · grind
          · split <;> grind

/-! ## Members -/

/-- A list of constants has a named value, up to a comma and further constants, a semicolon, another
    token that ends it, or the last token. -/
theorem readConstants_eq_ok_iff {scope : String} {line : Int} {doc : Option Docblock}
    {ts rest : List Token} {first : ConstantDecl} {others : List ConstantDecl} :
    readConstants scope line doc ts = .ok (first, others, rest) ↔
      ∃ head name sign afterSign value afterValue,
        Reading.collect ["=", ";"] ts = (head, sign :: afterSign) ∧
        (head.filter (!·.isTrivia)).getLast? = some name ∧ sign.isPunct "=" = true ∧
        Reading.collect [",", ";"] afterSign = (value, afterValue) ∧
        first = ⟨name.content, scope, name.line, doc, sourceText value⟩ ∧
        ((afterValue = [] ∧ others = [] ∧ rest = []) ∨
          ∃ stop after, afterValue = stop :: after ∧
            ((stop.isPunct "," = true ∧ ∃ second later,
                readConstants scope line doc after = .ok (second, later, rest) ∧
                others = second :: later) ∨
              (stop.isPunct "," = false ∧ others = [] ∧
                rest = if stop.isPunct ";" then after else stop :: after))) := by
  rw [readConstants]
  split
  rename_i head afterHead hhead
  split
  · rename_i name sign afterSign hhead' hname
    by_cases hsign : sign.isPunct "=" = true
    · rw [if_pos hsign]
      split
      rename_i value afterValue hvalue
      simp only
      split
      · grind
      · rename_i stop after hvalue'
        by_cases hcomma : stop.isPunct "," = true
        · rw [if_pos hcomma]
          split <;> grind
        · rw [if_neg hcomma]
          split <;> grind
    · rw [if_neg hsign]
      grind [fail]
  · rename_i hnone
    constructor
    · intro h
      cases h
    · rintro ⟨head', name, sign, afterSign, value, afterValue, hhead', hname, -⟩
      rw [hhead] at hhead'
      cases hhead'
      exact (hnone name sign afterSign hhead hname rfl HEq.rfl).elim

theorem readDefault_eq_ok_iff {line : Int} {ts rest : List Token} {value : Option String} :
    readDefault line ts = .ok (value, rest) ↔
      ∃ t first, significant line ts = .ok (t, first) ∧
        ((t.isPunct "=" = true ∧ value = some (sourceText (Reading.collect [",", ";"] first).1) ∧
            rest = (Reading.collect [",", ";"] first).2) ∨
          (t.isPunct "=" = false ∧ value = none ∧ rest = t :: first)) := by
  rw [readDefault]
  split
  · grind
  · rename_i t first hfirst
    by_cases hsign : t.isPunct "=" = true
    · rw [if_pos hsign]
      grind
    · rw [if_neg hsign]
      grind

/-- A list of properties has a variable with an optional default, up to a semicolon or a comma and
    further properties. -/
theorem readProperties_eq_ok_iff {head : PropertyHead} {ts rest : List Token}
    {properties : List PropertyDecl} :
    readProperties head ts = .ok (properties, rest) ↔
      ∃ t afterName default afterDefault stop after,
        significant 0 ts = .ok (t, afterName) ∧ t.isKind .variable = true ∧
        readDefault t.line afterName = .ok (default, afterDefault) ∧
        significant t.line afterDefault = .ok (stop, after) ∧
        ∃ property later, properties = property :: later ∧
          property = ⟨t.content, t.line, head.docblock, head.visibility, head.isStatic, head.type,
            default⟩ ∧
          ((stop.isPunct ";" = true ∧ later = [] ∧ rest = after) ∨
            (stop.isPunct ";" = false ∧ stop.isPunct "," = true ∧
              readProperties head after = .ok (later, rest))) := by
  rw [readProperties]
  split
  · grind
  · rename_i t afterName hname
    by_cases hvar : t.isKind .variable = true
    · rw [if_pos hvar]
      split
      · grind
      · rename_i default afterDefault hdefault
        split
        · grind
        · rename_i stop after hstop
          by_cases hend : stop.isPunct ";" = true
          · simp only [if_pos hend]
            grind
          by_cases hcomma : stop.isPunct "," = true
          · simp only [if_neg hend, if_pos hcomma]
            split <;> grind
          · simp only [if_neg hend, if_neg hcomma]
            grind [fail]
    · rw [if_neg hvar]
      grind [fail]

theorem skipTraitUse_eq_ok_iff {line : Int} {ts rest : List Token} :
    skipTraitUse line ts = .ok rest ↔
      ∃ names t after, Reading.collect [";", openBrace] ts = (names, t :: after) ∧
        ((t.isPunct openBrace = true ∧ skipBalanced line (t :: after) = .ok rest) ∨
          (t.isPunct openBrace = false ∧ t.isPunct ";" = true ∧ rest = after)) := by
  rw [skipTraitUse]
  split
  · grind [fail]
  · rename_i t after hcollect
    by_cases hopen : t.isPunct openBrace = true
    · rw [if_pos hopen]
      grind
    rw [if_neg hopen]
    by_cases hend : t.isPunct ";" = true
    · rw [if_pos hend]
      grind
    · rw [if_neg hend]
      grind [fail]

theorem readMethod_eq_ok_iff {lead : Lead} {scope : String} {line : Int} {doc : Option Docblock}
    {ts rest : List Token} {m : MethodDecl} :
    readMethod lead scope line doc ts = .ok (m, rest) ↔
      ∃ s name, readSignature line ts = .ok (s, rest) ∧ s.name = some name ∧
        m = lead.method scope line doc name s := by
  rw [readMethod]
  split
  · grind
  · split
    · grind [fail]
    · grind

/-! ## Bodies -/

/-- One step in a body, from the lead and the tokens before it: the notes it makes, the members it
    reads, and the lead and the tokens after it. -/
inductive MemberStep (scope : String) (line : Int) :
    Lead → List Token → List DocblockError → Body → Lead → List Token → Prop
  | comment {lead t rest} : stepOf t = .comment →
      MemberStep scope line lead (t :: rest) [] {} { lead with comment := some t } rest
  | trivia {lead t rest} : stepOf t = .trivia →
      MemberStep scope line lead (t :: rest) [] {} lead rest
  | modifier {lead t rest word} : stepOf t = .modifier word →
      MemberStep scope line lead (t :: rest) [] {}
        { lead with modifiers := lead.modifiers ++ [word] } rest
  | type {lead t rest} : stepOf t = .type →
      MemberStep scope line lead (t :: rest) [] {} { lead with types := lead.types ++ [t] } rest
  | semicolon {lead t rest} : stepOf t = .semicolon →
      MemberStep scope line lead (t :: rest) [] {} {} rest
  | constants {lead t rest first others after} : stepOf t = .constants →
      readConstants scope t.line (attached lead.comment).2 rest = .ok (first, others, after) →
      MemberStep scope line lead (t :: rest) (attached lead.comment).1
        { constants := first :: others } {} after
  | method {lead t rest m after} : stepOf t = .method →
      readMethod lead scope t.line (attached lead.comment).2 rest = .ok (m, after) →
      MemberStep scope line lead (t :: rest) (attached lead.comment).1 { methods := [m] } {} after
  | properties {lead t rest ps after} : stepOf t = .properties →
      readProperties (lead.propertyHead (attached lead.comment).2) (t :: rest) = .ok (ps, after) →
      MemberStep scope line lead (t :: rest) (attached lead.comment).1 { properties := ps } {} after
  | traitUse {lead t rest after} : stepOf t = .traitUse →
      skipTraitUse line rest = .ok after →
      MemberStep scope line lead (t :: rest) [] {} {} after

theorem readMembers_of_close {scope : String} {line : Int} {lead : Lead} {t : Token}
    {rest : List Token} (h : stepOf t = .close) :
    readMembers scope line lead (t :: rest) = ⟨[], .ok ({}, rest)⟩ := by
  rw [readMembers]
  simp only [h]
  rfl

/-- A step puts its notes and its members in front of those of the rest of the body. -/
theorem readMembers_of_step {scope : String} {line : Int} {lead lead' : Lead}
    {ts after : List Token} {notes : List DocblockError} {part : Body}
    (h : MemberStep scope line lead ts notes part lead' after) :
    readMembers scope line lead ts =
      ((readMembers scope line lead' after).map fun (body, rest) =>
        (part.append body, rest)).after notes := by
  cases h with
  | comment hstep | trivia hstep | modifier hstep | type hstep | semicolon hstep =>
    rw [readMembers, Noted.after_empty]
    simp only [hstep]
  | constants hstep hread | method hstep hread | properties hstep hread =>
    rw [readMembers]
    simp only [hstep]
    split
    · rename_i hread'
      rw [hread] at hread'
      cases hread'
    · rename_i hread'
      rw [hread] at hread'
      cases hread'
      rfl
  | traitUse hstep hskip =>
    rw [readMembers, Noted.after_empty]
    simp only [hstep]
    split
    · rename_i hskip'
      rw [hskip] at hskip'
      cases hskip'
    · rename_i hskip'
      rw [hskip] at hskip'
      cases hskip'
      rfl

/-- A body that is read starts with its closing brace or with a step. -/
theorem exists_step_of_readMembers {scope : String} {line : Int} {lead : Lead}
    {ts rest : List Token} {body : Body}
    (h : (readMembers scope line lead ts).result = .ok (body, rest)) :
    (∃ t, ts = t :: rest ∧ stepOf t = .close) ∨
      ∃ notes part lead' after, MemberStep scope line lead ts notes part lead' after := by
  cases ts with
  | nil => rw [readMembers] at h; cases h
  | cons t r =>
    rw [readMembers] at h
    cases hstep : stepOf t with
    | close =>
      simp only [hstep] at h
      cases h
      exact .inl ⟨t, rfl, hstep⟩
    | comment => exact .inr ⟨_, _, _, _, .comment hstep⟩
    | trivia => exact .inr ⟨_, _, _, _, .trivia hstep⟩
    | modifier word => exact .inr ⟨_, _, _, _, .modifier hstep⟩
    | type => exact .inr ⟨_, _, _, _, .type hstep⟩
    | semicolon => exact .inr ⟨_, _, _, _, .semicolon hstep⟩
    | constants =>
      simp only [hstep] at h
      split at h
      · cases h
      · exact .inr ⟨_, _, _, _, .constants hstep ‹_›⟩
    | method =>
      simp only [hstep] at h
      split at h
      · cases h
      · exact .inr ⟨_, _, _, _, .method hstep ‹_›⟩
    | properties =>
      simp only [hstep] at h
      split at h
      · cases h
      · exact .inr ⟨_, _, _, _, .properties hstep ‹_›⟩
    | traitUse =>
      simp only [hstep] at h
      split at h
      · cases h
      · exact .inr ⟨_, _, _, _, .traitUse hstep ‹_›⟩

/-- A body is read step by step up to its closing brace. -/
theorem readMembers_eq_ok_iff {scope : String} {line : Int} {lead : Lead} {ts rest : List Token}
    {notes : List DocblockError} {body : Body} :
    readMembers scope line lead ts = ⟨notes, .ok (body, rest)⟩ ↔
      (∃ t, ts = t :: rest ∧ stepOf t = .close ∧ notes = [] ∧ body = {}) ∨
        ∃ before part lead' after later members,
          MemberStep scope line lead ts before part lead' after ∧
          readMembers scope line lead' after = ⟨later, .ok (members, rest)⟩ ∧
          notes = before ++ later ∧ body = part.append members := by
  constructor
  · intro h
    rcases exists_step_of_readMembers (by rw [h]) with
      ⟨t, rfl, hclose⟩ | ⟨before, part, lead', after, hstep⟩
    · rw [readMembers_of_close hclose] at h
      cases h
      exact .inl ⟨t, rfl, hclose, rfl, rfl⟩
    · rw [readMembers_of_step hstep] at h
      refine .inr ⟨before, part, lead', after, ?_⟩
      rcases hread : readMembers scope line lead' after with ⟨later, e | ⟨members, rest'⟩⟩
      · rw [hread] at h
        cases h
      · rw [hread] at h
        cases h
        exact ⟨later, members, hstep, rfl, rfl, rfl⟩
  · rintro (⟨t, rfl, hclose, rfl, rfl⟩ | ⟨before, part, lead', after, later, members, hstep, hread,
      rfl, rfl⟩)
    · exact readMembers_of_close hclose
    · rw [readMembers_of_step hstep, hread]
      rfl

/-! ## Declarations -/

theorem readParent_eq_ok_iff {line : Int} {t u : Token} {ts rest : List Token}
    {parent : Option String} :
    readParent line t ts = .ok (parent, u, rest) ↔
      (t.isKeyword .extendsKw = true ∧ ∃ v first, significant line ts = .ok (v, first) ∧
          parent = some (qualifiedName (v :: first)).1 ∧
          significant line (qualifiedName (v :: first)).2 = .ok (u, rest)) ∨
        (t.isKeyword .extendsKw = false ∧ parent = none ∧ u = t ∧ rest = ts) := by
  rw [readParent]
  by_cases hextends : t.isKeyword .extendsKw = true
  · rw [if_pos hextends]
    split
    · grind
    · simp only
      split <;> grind
  · rw [if_neg hextends]
    grind

theorem readNamesAfter_eq_ok_iff {word : Keyword} {line : Int} {t u : Token} {ts rest : List Token}
    {names : List String} :
    readNamesAfter word line t ts = .ok (names, u, rest) ↔
      (t.isKeyword word = true ∧ readNames line ts = .ok (names, u, rest)) ∨
        (t.isKeyword word = false ∧ names = [] ∧ u = t ∧ rest = ts) := by
  rw [readNamesAfter]
  by_cases hword : t.isKeyword word = true
  · rw [if_pos hword]
    grind
  · rw [if_neg hword]
    grind

theorem readClassHead_eq_ok_iff {line : Int} {name : String} {ts rest : List Token}
    {parent : Option String} {interfaces : List String} :
    readClassHead line name ts = .ok (parent, interfaces, rest) ↔
      ∃ t first u afterParent v, significant line ts = .ok (t, first) ∧
        readParent line t first = .ok (parent, u, afterParent) ∧
        readNamesAfter .implementsKw line u afterParent = .ok (interfaces, v, rest) ∧
        v.isPunct openBrace = true := by
  rw [readClassHead]
  split
  · grind
  · split
    · grind
    · split
      · grind
      · rename_i interfaces v rest hnames
        by_cases hopen : v.isPunct openBrace = true
        · rw [if_pos hopen]
          grind
        · rw [if_neg hopen]
          grind [fail]

theorem readInterfaceHead_eq_ok_iff {line : Int} {name : String} {ts rest : List Token}
    {parents : List String} :
    readInterfaceHead line ts = .ok (name, parents, rest) ↔
      ∃ n first t second u, significant line ts = .ok (n, first) ∧ n.isKind .name = true ∧
        name = n.content ∧ significant line first = .ok (t, second) ∧
        readNamesAfter .extendsKw line t second = .ok (parents, u, rest) ∧
        u.isPunct openBrace = true := by
  rw [readInterfaceHead]
  split
  · grind
  · rename_i n first hfirst
    by_cases hname : n.isKind .name = true
    · rw [if_pos hname]
      split
      · grind
      · split
        · grind
        · rename_i parents u rest hnames
          by_cases hopen : u.isPunct openBrace = true
          · rw [if_pos hopen]
            grind
          · rw [if_neg hopen]
            grind [fail]
    · rw [if_neg hname]
      grind [fail]

/-- A class has a name, a head and a body; without a name it is passed over. -/
theorem readClassFrom_eq_ok_iff {scope : String} {line : Int} {modifiers : List Keyword}
    {doc : Option Docblock} {ts rest : List Token} {notes : List DocblockError}
    {decl : Option ClassDecl} :
    readClassFrom scope line modifiers doc ts = ⟨notes, .ok (decl, rest)⟩ ↔
      ∃ t first, significant line ts = .ok (t, first) ∧
        ((t.isKind .name = true ∧ ∃ parent interfaces afterHead body,
            readClassHead line t.content first = .ok (parent, interfaces, afterHead) ∧
            readMembers scope line {} afterHead = ⟨notes, .ok (body, rest)⟩ ∧
            decl = some {
              name := t.content, scope, line, docblock := doc, parent, interfaces
              isAbstract := modifiers.contains .abstractKw
              isFinal := modifiers.contains .finalKw
              constants := body.constants
              properties := body.properties
              methods := body.methods }) ∨
          (t.isKind .name = false ∧ notes = [] ∧ decl = none ∧
            skipAnonymousClass line (t :: first) = .ok rest)) := by
  rw [readClassFrom]
  split
  · rename_i e hfirst
    grind [Noted.plain]
  · rename_i t first hfirst
    by_cases hname : t.isKind .name = true
    · rw [if_pos hname]
      split
      · grind [Noted.plain]
      · rename_i parent interfaces afterHead hhead
        rw [Noted.map_eq_ok_iff]
        grind
    · rw [if_neg hname]
      cases hskip : skipAnonymousClass line (t :: first) with
      | error e => grind [Noted.plain, Except.map]
      | ok after => grind [Noted.plain, Except.map]

/-- An interface has a head and a body, whose properties are left out. -/
theorem readInterfaceFrom_eq_ok_iff {scope : String} {line : Int} {doc : Option Docblock}
    {ts rest : List Token} {notes : List DocblockError} {decl : InterfaceDecl} :
    readInterfaceFrom scope line doc ts = ⟨notes, .ok (decl, rest)⟩ ↔
      ∃ name parents afterHead body,
        readInterfaceHead line ts = .ok (name, parents, afterHead) ∧
        readMembers scope line {} afterHead = ⟨notes, .ok (body, rest)⟩ ∧
        decl = {
          name, scope, line, docblock := doc, parents
          constants := body.constants
          methods := body.methods } := by
  rw [readInterfaceFrom]
  split
  · grind [Noted.plain]
  · rename_i name parents afterHead hhead
    rw [Noted.map_eq_ok_iff]
    grind

/-- A function has a signature; without a name it is passed over. -/
theorem readFunctionFrom_eq_ok_iff {scope : String} {line : Int} {doc : Option Docblock}
    {ts rest : List Token} {decl : Option FunctionDecl} :
    readFunctionFrom scope line doc ts = .ok (decl, rest) ↔
      ∃ s, readSignature line ts = .ok (s, rest) ∧
        decl = s.name.map fun name =>
          ⟨name, scope, line, doc, s.arguments, s.returnType, s.byReference⟩ := by
  rw [readFunctionFrom]
  split <;> grind

theorem readConstantFrom_eq_ok_iff {scope : String} {line : Int} {doc : Option Docblock}
    {ts rest : List Token} {decl : ConstantDecl} :
    readConstantFrom scope line doc ts = .ok (decl, rest) ↔
      ∃ others, readConstants scope line doc ts = .ok (decl, others, rest) := by
  rw [readConstantFrom]
  split <;> grind

/-! ## At a cursor -/

section AtCursor

variable {scope : String} {c : Cursor} {t : Token} {rest : List Token}

theorem expect_eq_ok {words : List Keyword} (hrest : c.rest = t :: rest)
    (ht : words.any t.isKeyword = true) : expect words c = .ok (t, rest) := by
  unfold expect
  rw [hrest]
  exact if_pos ht

theorem readClass_eq (hrest : c.rest = t :: rest) (ht : [Keyword.classKw].any t.isKeyword = true) :
    readClass scope c =
      (readClassFrom scope t.line (leadingModifiers c.passed)
        (attached (leadingComment c.passed)).2 rest).after
          (attached (leadingComment c.passed)).1 := by
  rw [readClass, expect_eq_ok hrest ht]

theorem readInterface_eq (hrest : c.rest = t :: rest)
    (ht : [Keyword.interfaceKw].any t.isKeyword = true) :
    readInterface scope c =
      (readInterfaceFrom scope t.line (attached (leadingComment c.passed)).2 rest).after
        (attached (leadingComment c.passed)).1 := by
  rw [readInterface, expect_eq_ok hrest ht]

theorem readFunction_eq (hrest : c.rest = t :: rest)
    (ht : [Keyword.functionKw].any t.isKeyword = true) :
    readFunction scope c =
      ⟨(attached (leadingComment c.passed)).1,
        readFunctionFrom scope t.line (attached (leadingComment c.passed)).2 rest⟩ := by
  rw [readFunction, expect_eq_ok hrest ht]

theorem readConstant_eq (hrest : c.rest = t :: rest)
    (ht : [Keyword.constKw].any t.isKeyword = true) :
    readConstant scope c =
      ⟨(attached (leadingComment c.passed)).1,
        readConstantFrom scope t.line (attached (leadingComment c.passed)).2 rest⟩ := by
  rw [readConstant, expect_eq_ok hrest ht]

theorem readInclude_eq (hrest : c.rest = t :: rest) (ht : includeWords.any t.isKeyword = true) :
    readInclude scope c =
      ⟨(attached (leadingComment c.passed)).1,
        .ok (⟨(readIncludeTarget rest).1, Text.lowered t.content, scope, t.line,
          (attached (leadingComment c.passed)).2⟩, (readIncludeTarget rest).2)⟩ := by
  rw [readInclude, expect_eq_ok hrest ht]

end AtCursor

end Reading

end PhpOutline
