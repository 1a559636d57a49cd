import PhpOutline.Proofs.WrittenHeader

/-!
# Written members

How the body of a class or an interface is written in tokens: lists of constants or properties,
methods, trait uses and semicolons, in braces. Doc comments, modifiers and the tokens of a type may
stand before a member, and belong to that member only. Whatever follows a written body, reading
gives back its members in the order of the source and stops at its closing brace.

Results:
* `ConstantList.readConstants`, `PropertyList.readProperties`: lists in a body.
* `readMembers_front`: what stands before a member.
* `Member.readMembers`, `BodyText.readMembers`: one member, and a whole body.
-/

namespace PhpOutline.Written

open Reading

/-! ## Constants -/

/-- A constant: the tokens of a type, a name and a value after its sign. The name is any typed token
    that is neither trivia nor a closing tag. -/
structure Constant where
  type : Part ["=", ";"] false
  kind : Kind
  name : Word
  gap : Gap
  sign : Int
  value : Part [",", ";"] false
  kind_ok : kind.isTrivia = false ∧ kind ≠ .closeTag

namespace Constant

/-- The tokens of a constant. -/
def tokens (c : Constant) : List Token :=
  c.type.tokens ++ c.name.token c.kind :: (c.gap.tokens ++ .punct "=" c.sign :: c.value.tokens)

/-- The constant that is declared. -/
def decl (c : Constant) (scope : String) (doc : Option Docblock) : ConstantDecl where
  name := c.name.text
  scope := scope
  line := c.name.line
  docblock := doc
  value := sourceText c.value.tokens

/-- The tokens before the sign. -/
def head (c : Constant) : Part ["=", ";"] false :=
  c.type.append <| (Part.ofTyped (c.name.token c.kind) rfl fun _ => by
    simp [Token.isKind, Word.token, c.kind_ok.2]).append (.ofGap c.gap)

theorem getLast?_head (c : Constant) :
    (c.head.tokens.filter (!·.isTrivia)).getLast? = some (c.name.token c.kind) := by
  have hname : (c.name.token c.kind).isTrivia = false := c.kind_ok.1
  have hbare : bare c.head.tokens = bare c.type.tokens ++ [c.name.token c.kind] := by
    show bare (c.type.tokens ++ c.name.token c.kind :: c.gap.tokens) = _
    rw [bare_append, bare_cons hname, ← List.append_nil c.gap.tokens, c.gap.bare_append, bare_nil]
  show (bare c.head.tokens).getLast? = _
  rw [hbare, List.getLast?_concat]

/-- A constant before a stop is collected up to its sign, and its value up to the stop. -/
theorem collect_tokens (c : Constant) {t : Token} (ht : [",", ";"].any t.isPunct = true)
    (rest : List Token) :
    collect ["=", ";"] (c.tokens ++ t :: rest) =
        (c.head.tokens, .punct "=" c.sign :: (c.value.tokens ++ t :: rest)) ∧
      collect [",", ";"] (c.value.tokens ++ t :: rest) = (c.value.tokens, t :: rest) := by
  have htokens : c.tokens ++ t :: rest =
      c.head.tokens ++ .punct "=" c.sign :: (c.value.tokens ++ t :: rest) := by
    simp [tokens, head, Part.append, Part.ofTyped, Part.ofPlain, Part.ofGap]
  rw [htokens]
  exact ⟨c.head.collect_append rfl _, c.value.collect_append ht rest⟩

end Constant

/-- Constants with commas between them, up to a semicolon. -/
inductive ConstantList where
  | last (c : Constant) (semicolon : Int)
  | more (c : Constant) (comma : Int) (others : ConstantList)

namespace ConstantList

/-- The tokens of some constants. -/
def tokens : ConstantList → List Token
  | .last c semicolon => c.tokens ++ [.punct ";" semicolon]
  | .more c comma others => c.tokens ++ .punct "," comma :: others.tokens

/-- The constants that are declared. -/
def decls (scope : String) (doc : Option Docblock) : ConstantList → List ConstantDecl
  | .last c _ => [c.decl scope doc]
  | .more c _ others => c.decl scope doc :: others.decls scope doc

/-- Constants are read back up to their semicolon. -/
theorem readConstants (list : ConstantList) (scope : String) (line : Int) (doc : Option Docblock)
    (rest : List Token) :
    ∃ first others, readConstants scope line doc (list.tokens ++ rest) = .ok (first, others, rest) ∧
      first :: others = list.decls scope doc := by
  induction list with
  | last c semicolon =>
    obtain ⟨hhead, hvalue⟩ := c.collect_tokens (t := .punct ";" semicolon) rfl rest
    refine ⟨c.decl scope doc, [], ?_, rfl⟩
    rw [tokens, List.append_assoc]
    exact readConstants_eq_ok_iff.2 ⟨_, _, _, _, _, _, hhead, c.getLast?_head, rfl, hvalue, rfl,
      .inr ⟨_, _, rfl, .inr ⟨rfl, rfl, rfl⟩⟩⟩
  | more c comma others ih =>
    obtain ⟨second, later, hlater, hdecls⟩ := ih
    obtain ⟨hhead, hvalue⟩ :=
      c.collect_tokens (t := .punct "," comma) rfl (others.tokens ++ rest)
    refine ⟨c.decl scope doc, second :: later, ?_, by rw [hdecls]; rfl⟩
    rw [tokens, List.append_assoc]
    exact readConstants_eq_ok_iff.2 ⟨_, _, _, _, _, _, hhead, c.getLast?_head, rfl, hvalue, rfl,
      .inr ⟨_, _, rfl, .inl ⟨rfl, second, later, hlater, rfl⟩⟩⟩

end ConstantList

/-! ## Properties -/

/-- Properties with commas between them, up to a semicolon. -/
inductive PropertyList where
  | last (var : Word) (default : Default [",", ";"] false) (semicolon : Int)
  | more (var : Word) (default : Default [",", ";"] false) (comma : Int) (gap : Gap)
      (others : PropertyList)

namespace PropertyList

/-- The tokens of some properties. -/
def tokens : PropertyList → List Token
  | .last var default semicolon =>
    var.token .variable :: (default.tokens ++ [.punct ";" semicolon])
  | .more var default comma gap others =>
    var.token .variable :: (default.tokens ++ .punct "," comma :: (gap.tokens ++ others.tokens))

/-- The property of a variable and a default, with what it has in common with others. -/
def decl (head : PropertyHead) (var : Word) (default : Default [",", ";"] false) :
    PropertyDecl where
  name := var.text
  line := var.line
  docblock := head.docblock
  visibility := head.visibility
  isStatic := head.isStatic
  type := head.type
  default := default.text?

/-- The properties that are declared. -/
def decls (head : PropertyHead) : PropertyList → List PropertyDecl
  | .last var default _ => [decl head var default]
  | .more var default _ _ others => decl head var default :: others.decls head

/-- A default is read back up to a comma or a semicolon. -/
theorem readDefault (default : Default [",", ";"] false) {t : Token}
    (hstop : [",", ";"].any t.isPunct = true) (hsign : t.isPunct "=" = false)
    (htrivia : t.isTrivia = false) (line : Int) (rest : List Token) :
    readDefault line (default.tokens ++ t :: rest) = .ok (default.text?, t :: rest) := by
  cases default with
  | absent gap =>
    exact readDefault_eq_ok_iff.2 ⟨t, rest, gap.significant htrivia line rest,
      .inr ⟨hsign, rfl, rfl⟩⟩
  | present gap sign value =>
    have hvalue := value.collect_append hstop rest
    refine readDefault_eq_ok_iff.2 ⟨.punct "=" sign, value.tokens ++ t :: rest, ?_,
      .inl ⟨rfl, by rw [hvalue]; rfl, by rw [hvalue]⟩⟩
    rw [Default.tokens, List.append_assoc]
    exact gap.significant rfl line _

/-- Properties are read back up to their semicolon. -/
theorem readProperties (list : PropertyList) (head : PropertyHead) (gap : Gap) (rest : List Token) :
    readProperties head (gap.tokens ++ (list.tokens ++ rest)) = .ok (list.decls head, rest) := by
  induction list generalizing gap with
  | last var default semicolon =>
    have hdefault := readDefault default (t := .punct ";" semicolon) rfl rfl rfl var.line rest
    refine readProperties_eq_ok_iff.2 ⟨var.token .variable, _, default.text?, _,
      .punct ";" semicolon, rest, ?_, rfl, hdefault, significant_cons rfl rest,
      decl head var default, [], rfl, rfl, .inl ⟨rfl, rfl, rfl⟩⟩
    simp only [tokens, List.cons_append, List.append_assoc, List.nil_append]
    exact gap.significant rfl 0 _
  | more var default comma inner others ih =>
    have hdefault := readDefault default (t := .punct "," comma) rfl rfl rfl var.line
      (inner.tokens ++ (others.tokens ++ rest))
    refine readProperties_eq_ok_iff.2 ⟨var.token .variable, _, default.text?, _,
      .punct "," comma, _, ?_, rfl, hdefault, significant_cons rfl _,
      decl head var default, others.decls head, rfl, rfl, .inr ⟨rfl, rfl, ih inner⟩⟩
    simp only [tokens, List.cons_append, List.append_assoc]
    exact gap.significant rfl 0 _

end PropertyList

/-! ## What stands before a member -/

/-- A token that may stand before a member: no variable, no word that a member starts with, no
    semicolon and no closing brace. -/
def isFront (t : Token) : Bool :=
  !([.variable, .keyword .constKw, .keyword .functionKw, .keyword .useKw].any t.isKind) &&
    !([";", closeBrace].any t.isPunct)

/-- The last doc comment among some tokens. -/
def lastComment? (ts : List Token) : Option Token := (ts.filter (·.isKind .docComment)).getLast?

/-- The word of a modifier. -/
def modifier? (t : Token) : Option Keyword := modifierWords.find? t.isKeyword

/-- A token of a type before a member: neither trivia nor a modifier. -/
def isTypeToken (t : Token) : Bool := !t.isTrivia && !isModifier t

/-- A lead with what further tokens add to it. -/
def extend (lead : Lead) (ts : List Token) : Lead where
  comment := (lastComment? ts).or lead.comment
  modifiers := lead.modifiers ++ ts.filterMap modifier?
  types := lead.types ++ ts.filter isTypeToken

@[simp] theorem extend_nil (lead : Lead) : extend lead [] = lead := by
  simp [extend, lastComment?]

theorem extend_append (lead : Lead) (ts us : List Token) :
    extend lead (ts ++ us) = extend (extend lead ts) us := by
  simp [extend, lastComment?, Option.or_assoc]

theorem stepOf_keyword {word : Keyword} (h : word ∉ [.constKw, .functionKw, .useKw])
    (content : String) (line : Int) :
    stepOf ⟨some (.keyword word), content, line⟩ =
      if word.isMemberModifier then .modifier word else .type := by
  unfold stepOf
  split <;> grind

theorem modifier?_keyword (word : Keyword) (content : String) (line : Int) :
    modifier? ⟨some (.keyword word), content, line⟩ =
      if word.isMemberModifier then some word else none := by
  cases word <;> rfl

/-- A step that leaves a lead with what its token adds. -/
theorem memberStep_extend {scope : String} {line : Int} {lead lead' : Lead} {t : Token}
    {rest : List Token} (h : MemberStep scope line lead (t :: rest) [] {} lead' rest)
    (hcomment : lead'.comment = (lastComment? [t]).or lead.comment)
    (hmodifiers : lead'.modifiers = lead.modifiers ++ [t].filterMap modifier?)
    (htypes : lead'.types = lead.types ++ [t].filter isTypeToken) :
    MemberStep scope line lead (t :: rest) [] {} (extend lead [t]) rest := by
  have hlead : extend lead [t] = lead' := by
    rw [extend, ← hcomment, ← hmodifiers, ← htypes]
  rw [hlead]
  exact h

/-- A token before a member adds itself to the lead. -/
theorem memberStep_of_isFront {t : Token} (h : isFront t = true) (scope : String) (line : Int)
    (lead : Lead) (rest : List Token) :
    MemberStep scope line lead (t :: rest) [] {} (extend lead [t]) rest := by
  -- What a token adds computes; where it adds nothing, the row still has an empty one after it.
  have hsame : ∀ α : Type, ∀ row : List α, row = row ++ [] := fun _ row => row.append_nil.symm
  obtain ⟨kind, content, place⟩ := t
  cases kind with
  | none =>
    have hstep : stepOf ⟨none, content, place⟩ = .type := by
      simp [isFront, Token.isPunct] at h
      simp [stepOf, h]
    exact memberStep_extend (.type hstep) rfl (hsame ..) rfl
  | some kind =>
    cases kind with
    | docComment => exact memberStep_extend (.comment rfl) rfl (hsame ..) (hsame ..)
    | whitespace | comment => exact memberStep_extend (.trivia rfl) rfl (hsame ..) (hsame ..)
    | «variable» => cases h
    | keyword word =>
      have hmember : word ∉ [.constKw, .functionKw, .useKw] := by
        intro hmem
        simp only [List.mem_cons, List.not_mem_nil, or_false] at hmem
        obtain rfl | rfl | rfl := hmem <;> cases h
      have hstep := stepOf_keyword hmember content place
      have hword := modifier?_keyword word content place
      have htype : isTypeToken ⟨some (.keyword word), content, place⟩ = !word.isMemberModifier := by
        rw [isTypeToken, ← isMemberModifier_eq]
        rfl
      cases hkind : word.isMemberModifier with
      | true =>
        rw [hkind] at hstep hword htype
        exact memberStep_extend (.modifier hstep) rfl (by simp [hword]) (by simp [htype])
      | false =>
        rw [hkind] at hstep hword htype
        exact memberStep_extend (.type hstep) rfl (by simp [hword]) (by simp [htype])
    | _ => exact memberStep_extend (.type rfl) rfl (hsame ..) rfl

/-- What stands before a member becomes its lead. -/
theorem readMembers_front {front : List Token} (h : ∀ t ∈ front, isFront t = true) (scope : String)
    (line : Int) (lead : Lead) (rest : List Token) :
    readMembers scope line lead (front ++ rest) =
      readMembers scope line (extend lead front) rest := by
  induction front generalizing lead with
  | nil => rw [extend_nil, List.nil_append]
  | cons t front ih =>
    obtain ⟨ht, hfront⟩ := List.forall_mem_cons.1 h
    rw [List.cons_append, readMembers_of_step (memberStep_of_isFront ht scope line lead _),
      Noted.after_empty, ih hfront, ← extend_append]
    rfl

/-- The words for a visibility. -/
def visibilityWords : List Keyword := [.publicKw, .protectedKw, .privateKw]

/-- The visibility that comes first among some modifiers. Without one it is public. -/
def firstVisibility (words : List Keyword) : Visibility :=
  match words.filter visibilityWords.contains with
  | .protectedKw :: _ => .prot
  | .privateKw :: _ => .priv
  | _ => .pub

theorem visibility_eq (words : List Keyword) : visibility words = firstVisibility words := by
  have hisSome : ∀ word, visibilityWords.contains word = (visibilityOf? word).isSome := by
    intro word
    cases word <;> rfl
  induction words with
  | nil => rfl
  | cons word words ih =>
    cases hword : visibilityOf? word with
    | none =>
      have hskip : ¬ visibilityWords.contains word = true := by
        rw [hisSome, hword]
        exact Bool.false_ne_true
      rw [visibility, List.findSome?_cons, hword, firstVisibility, List.filter_cons_of_neg hskip]
      exact ih
    | some found => cases word <;> cases hword <;> rfl

/-! ## Members -/

/-- What a member is besides its lead. -/
inductive Item where
  | constants (keyword : Word) (list : ConstantList)
  | properties (list : PropertyList)
  | method (header : Header) (name : FunctionName) (named : header.name? = some name)
  | traitUse (keyword : Word) (names : Part [";", openBrace] false) (block : Block)
  | semicolon (line : Int)

/-- The tokens of a member after its lead. -/
def Item.tokens : Item → List Token
  | .constants keyword list => keyword.token (.keyword .constKw) :: list.tokens
  | .properties list => list.tokens
  | .method header _ _ => header.tokens
  | .traitUse keyword names block =>
    keyword.token (.keyword .useKw) :: (names.tokens ++ block.tokens)
  | .semicolon line => [.punct ";" line]

/-- A member and what stands before it. -/
structure Member where
  front : List Token
  item : Item
  front_ok : ∀ t ∈ front, isFront t = true

namespace Member

/-- The tokens of a member. -/
def tokens (m : Member) : List Token := m.front ++ m.item.tokens

/-- The last doc comment before a member, if it can be read. -/
def docblock (m : Member) : Option Docblock :=
  (lastComment? m.front).bind fun t => (Docblock.read t.content t.line).toOption

/-- The modifiers of a member. -/
def modifiers (m : Member) : List Keyword := m.front.filterMap modifier?

/-- The visibility of a member. -/
def visibility (m : Member) : Visibility := firstVisibility m.modifiers

/-- What the properties of a member have in common. -/
def propertyHead (m : Member) : PropertyHead where
  docblock := m.docblock
  visibility := m.visibility
  isStatic := m.modifiers.contains .staticKw
  type := nonEmpty? (joined (m.front.filter isTypeToken))

/-- The method with the modifiers of a member. It is abstract if it has no block. -/
def methodDecl (m : Member) (scope : String) (header : Header) (name : FunctionName) :
    MethodDecl where
  name := name.word.text
  scope := scope
  line := header.keyword.line
  docblock := m.docblock
  arguments := header.parameters.arguments
  returnType := header.result.text?
  byReference := header.reference?.isSome
  visibility := m.visibility
  isStatic := m.modifiers.contains .staticKw
  isAbstract := m.modifiers.contains .abstractKw || !header.block.hasBraces
  isFinal := m.modifiers.contains .finalKw

/-- What a member declares. -/
def body (m : Member) (scope : String) : Body :=
  match m.item with
  | .constants _ list => { constants := list.decls scope m.docblock }
  | .properties list => { properties := list.decls m.propertyHead }
  | .method header name _ => { methods := [m.methodDecl scope header name] }
  | .traitUse _ _ _ => {}
  | .semicolon _ => {}

/-- The lead of a member. -/
def lead (m : Member) : Lead := extend {} m.front

theorem attached_lead (m : Member) : (attached m.lead.comment).2 = m.docblock := by
  have hcomment : m.lead.comment = lastComment? m.front := Option.or_none
  rw [hcomment, docblock]
  cases lastComment? m.front with
  | none => rfl
  | some t =>
    rw [attached]
    cases hread : Docblock.read t.content t.line with
    | error e => simp [hread, Except.toOption]
    | ok block => simp [hread, Except.toOption]

theorem propertyHead_lead (m : Member) : m.lead.propertyHead m.docblock = m.propertyHead := by
  have htypes : compact m.lead.types = joined (m.front.filter isTypeToken) := by
    show joined ((m.front.filter isTypeToken).filter (!·.isTrivia)) = _
    rw [List.filter_eq_self.2]
    intro t ht
    exact (Bool.and_eq_true_iff.1 (List.mem_filter.1 ht).2).1
  rw [Lead.propertyHead, htypes, visibility_eq]
  rfl

/-- A member is one step after its lead. -/
theorem exists_step (m : Member) (scope : String) (line : Int) (rest : List Token) :
    ∃ notes, MemberStep scope line m.lead (m.item.tokens ++ rest) notes (m.body scope) {} rest := by
  unfold body
  cases m.item with
  | constants keyword list =>
    obtain ⟨first, others, hread, hdecls⟩ :=
      list.readConstants scope keyword.line m.docblock rest
    rw [← m.attached_lead] at hread
    refine ⟨(attached m.lead.comment).1, ?_⟩
    show MemberStep scope line m.lead _ _ { constants := list.decls scope m.docblock } {} rest
    rw [← hdecls]
    exact .constants rfl hread
  | properties list =>
    obtain ⟨t, ts, htokens, ht⟩ : ∃ t ts, list.tokens = t :: ts ∧ stepOf t = .properties := by
      cases list <;> exact ⟨_, _, rfl, rfl⟩
    have hread := list.readProperties m.propertyHead ⟨[], by simp⟩ rest
    rw [List.nil_append, htokens, ← m.propertyHead_lead, ← m.attached_lead] at hread
    refine ⟨(attached m.lead.comment).1, ?_⟩
    rw [← m.propertyHead_lead, ← m.attached_lead, Item.tokens, htokens]
    exact .properties ht hread
  | method header name named =>
    have hread : readMethod m.lead scope header.keyword.line (attached m.lead.comment).2
        (header.afterKeyword ++ rest) = .ok (m.methodDecl scope header name, rest) := by
      refine readMethod_eq_ok_iff.2 ⟨header.signature, name.word.text,
        header.readSignature header.keyword.line rest, ?_, ?_⟩
      · rw [Header.signature, named]
        rfl
      · rw [Lead.method, visibility_eq, m.attached_lead]
        rfl
    exact ⟨_, .method rfl hread⟩
  | traitUse keyword names block =>
    have hcollect : collect [";", openBrace] (names.tokens ++ block.tokens ++ rest) =
        (names.tokens, block.first :: (block.others ++ rest)) := by
      rw [List.append_assoc]
      exact names.collect_append (by cases block <;> rfl) _
    refine ⟨_, .traitUse rfl (skipTraitUse_eq_ok_iff.2 ⟨_, _, _, hcollect, ?_⟩)⟩
    rw [block.isPunct_first]
    exact block.ends line rest
  | semicolon line => exact ⟨_, .semicolon rfl⟩

/-- A member puts what it declares in front of what the rest of the body declares. -/
theorem readMembers (m : Member) (scope : String) (line : Int) (rest : List Token) :
    (readMembers scope line {} (m.tokens ++ rest)).result =
      (readMembers scope line {} rest).result.map fun out =>
        ((m.body scope).append out.1, out.2) := by
  obtain ⟨notes, hstep⟩ := m.exists_step scope line rest
  rw [tokens, List.append_assoc, readMembers_front m.front_ok]
  show (Reading.readMembers scope line m.lead (m.item.tokens ++ rest)).result = _
  rw [readMembers_of_step hstep]
  rfl

end Member

theorem isFront_of_isTrivia {t : Token} (h : t.isTrivia = true) : isFront t = true := by
  obtain ⟨kind, content, line⟩ := t
  cases kind with
  | none => cases h
  | some kind => cases kind <;> cases h <;> rfl

/-- Members in braces, with a gap after the last of them. -/
structure BodyText where
  opener : Int
  members : List Member
  gap : Gap
  closer : Int

namespace BodyText

/-- The tokens of a body after its opening brace. -/
def inner (b : BodyText) : List Token :=
  b.members.flatMap Member.tokens ++ (b.gap.tokens ++ [.punct closeBrace b.closer])

/-- The tokens of a body. -/
def tokens (b : BodyText) : List Token := .punct openBrace b.opener :: b.inner

/-- What a body declares, each kind in the order of the source. -/
def body (b : BodyText) (scope : String) : Body where
  constants := b.members.flatMap fun m => (m.body scope).constants
  properties := b.members.flatMap fun m => (m.body scope).properties
  methods := b.members.flatMap fun m => (m.body scope).methods

/-- A body is read back up to its closing brace. -/
theorem readMembers (b : BodyText) (scope : String) (line : Int) (rest : List Token) :
    (readMembers scope line {} (b.inner ++ rest)).result = .ok (b.body scope, rest) := by
  obtain ⟨opener, members, gap, closer⟩ := b
  -- The lead is empty again after each member, so that the induction needs no other lead.
  induction members with
  | nil =>
    have hgap : ∀ t ∈ gap.tokens, isFront t = true := fun t ht =>
      isFront_of_isTrivia (gap.trivia t ht)
    rw [inner, List.flatMap_nil, List.nil_append, List.append_assoc, readMembers_front hgap,
      List.singleton_append, readMembers_of_close rfl]
    rfl
  | cons m members ih =>
    have hinner : inner ⟨opener, m :: members, gap, closer⟩ =
        m.tokens ++ inner ⟨opener, members, gap, closer⟩ := by
      rw [inner, List.flatMap_cons, List.append_assoc]
      rfl
    rw [hinner, List.append_assoc, m.readMembers, ih]
    rfl

end BodyText

end PhpOutline.Written
