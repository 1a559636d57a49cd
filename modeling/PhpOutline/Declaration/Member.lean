import PhpOutline.Declaration.Signature

/-!
# Members

The body of a class or an interface: constants, properties, methods and trait uses, each with the
doc comment, the modifiers and the type before it. Doc comments that cannot be read are noted and
left out.

Results:
* `readConstants_length`, `readProperties_length`, `readMembers_length`: reading goes forward.
-/

namespace PhpOutline

/-- The members of a class or an interface, each kind in the order of the source. -/
structure Body where
  constants : List ConstantDecl := []
  properties : List PropertyDecl := []
  methods : List MethodDecl := []
  deriving DecidableEq, Repr

/-- A result with notes on the doc comments that could not be read on the way to it. The notes are
    kept when reading fails. -/
structure Noted (α : Type) where
  notes : List DocblockError
  result : Except Failure α

namespace Noted

/-- A result without notes. -/
def plain (result : Except Failure α) : Noted α := ⟨[], result⟩

/-- The same result with notes before its own. -/
def after (notes : List DocblockError) (n : Noted α) : Noted α := ⟨notes ++ n.notes, n.result⟩

/-- The result under a function. -/
def map (f : α → β) (n : Noted α) : Noted β := ⟨n.notes, n.result.map f⟩

@[simp] theorem result_plain (r : Except Failure α) : (plain r).result = r := rfl

@[simp] theorem result_after (notes : List DocblockError) (n : Noted α) :
    (n.after notes).result = n.result := rfl

@[simp] theorem result_map (f : α → β) (n : Noted α) : (n.map f).result = n.result.map f := rfl

end Noted

namespace Reading

/-! ## Constants -/

/-- Constants `[type] A = x, B = y;` after the keyword `const` on `line` (`_parse_constant_list`):
    the first one, the others and the tokens after them. The name is the last significant token
    before the equals sign. -/
def readConstants (scope : String) (line : Int) (doc : Option Docblock) (ts : List Token) :
    Except Failure (ConstantDecl × List ConstantDecl × List Token) :=
  match hhead : collect ["=", ";"] ts with
  | (head, afterHead) =>
    match (head.filter (!·.isTrivia)).getLast?, afterHead with
    | some name, sign :: afterSign =>
      if sign.isPunct "=" then
        match hvalue : collect [",", ";"] afterSign with
        | (value, afterValue) =>
          let constant : ConstantDecl := ⟨name.content, scope, name.line, doc, sourceText value⟩
          match afterValue with
          | [] => .ok (constant, [], [])
          | stop :: rest =>
            if stop.isPunct "," then
              have : rest.length < ts.length := by
                have h1 := collect_length ["=", ";"] ts
                have h2 := collect_length [",", ";"] afterSign
                rw [hhead] at h1
                rw [hvalue] at h2
                simp at h1 h2; omega
              match readConstants scope line doc rest with
              | .error e => .error e
              | .ok (first, others, rest) => .ok (constant, first :: others, rest)
            else if stop.isPunct ";" then .ok (constant, [], rest)
            else .ok (constant, [], stop :: rest)
      else fail .noConstant line afterHead
    | _, _ => fail .noConstant line afterHead
termination_by ts.length

theorem readConstants_length {scope : String} {line : Int} {doc : Option Docblock}
    {ts rest : List Token} {first : ConstantDecl} {others : List ConstantDecl}
    (h : readConstants scope line doc ts = .ok (first, others, rest)) :
    rest.length < ts.length := by
  fun_induction readConstants scope line doc ts generalizing first others rest with
  | case1 ts head name sign afterSign hhead =>
    obtain ⟨_, _, rfl⟩ := by simpa using h
    have h1 := collect_length ["=", ";"] ts
    rw [hhead] at h1
    simp at h1 ⊢; omega
  | case2 => simp at h
  | case3 =>
    rename_i hlt _ _ _ hrec _ _ ih
    obtain ⟨_, _, rfl⟩ := by simpa using h
    have := ih hrec
    omega
  | case4 ts head name sign afterSign hhead hname hsign value constant stop rest' hvalue =>
    obtain ⟨_, _, rfl⟩ := by simpa using h
    have h1 := collect_length ["=", ";"] ts
    have h2 := collect_length [",", ";"] afterSign
    rw [hhead] at h1
    rw [hvalue] at h2
    simp at h1 h2; omega
  | case5 ts head name sign afterSign hhead hname hsign value constant stop rest' hvalue =>
    obtain ⟨_, _, rfl⟩ := by simpa using h
    have h1 := collect_length ["=", ";"] ts
    have h2 := collect_length [",", ";"] afterSign
    rw [hhead] at h1
    rw [hvalue] at h2
    simp at h1 h2 ⊢; omega
  | case6 => simp [fail] at h
  | case7 => simp [fail] at h

/-! ## Properties -/

/-- What the properties of one statement have in common. -/
structure PropertyHead where
  docblock : Option Docblock
  visibility : Visibility
  isStatic : Bool
  type : Option String
  deriving DecidableEq, Repr

/-- An optional default value of a property on `line`, and the tokens after it. -/
def readDefault (line : Int) (ts : List Token) : Except Failure (Option String × List Token) :=
  match significant line ts with
  | .error e => .error e
  | .ok (t, rest) =>
    if t.isPunct "=" then
      let (value, after) := collect [",", ";"] rest
      .ok (some (sourceText value), after)
    else .ok (none, t :: rest)

theorem readDefault_length {line : Int} {ts rest : List Token} {value : Option String}
    (h : readDefault line ts = .ok (value, rest)) : rest.length ≤ ts.length := by
  unfold readDefault at h
  split at h
  · simp at h
  · rename_i t r hfirst
    have h1 := significant_length hfirst
    split at h
    · have h2 := collect_length [",", ";"] r
      obtain ⟨_, rfl⟩ := by simpa using h
      omega
    · obtain ⟨_, rfl⟩ := by simpa using h
      simp; omega

/-- Properties `$a [= x], $b [= y];` (`_parse_properties`). -/
def readProperties (head : PropertyHead) (ts : List Token) :
    Except Failure (List PropertyDecl × List Token) :=
  match hname : significant 0 ts with
  | .error e => .error e
  | .ok (t, afterName) =>
    if t.isKind .variable then
      match hdefault : readDefault t.line afterName with
      | .error e => .error e
      | .ok (default, afterDefault) =>
        match hstop : significant t.line afterDefault with
        | .error e => .error e
        | .ok (stop, rest) =>
          let property : PropertyDecl :=
            ⟨t.content, t.line, head.docblock, head.visibility, head.isStatic, head.type, default⟩
          if stop.isPunct ";" then .ok ([property], rest)
          else if stop.isPunct "," then
            have : rest.length < ts.length := by
              have h1 := significant_length hname
              have h2 := readDefault_length hdefault
              have h3 := significant_length hstop
              omega
            match readProperties head rest with
            | .error e => .error e
            | .ok (properties, rest) => .ok (property :: properties, rest)
          else fail (.noPropertyEnd t.content) stop.line (stop :: rest)
    else fail (.noPropertyName t.content) t.line (t :: afterName)
termination_by ts.length

theorem readProperties_length {head : PropertyHead} {ts rest : List Token}
    {properties : List PropertyDecl} (h : readProperties head ts = .ok (properties, rest)) :
    rest.length < ts.length := by
  fun_induction readProperties head ts generalizing properties rest with
  | case1 => simp at h
  | case2 => simp at h
  | case3 => simp at h
  | case4 ts t afterName hname hvar default afterDefault hdefault stop rest' hstop =>
    obtain ⟨_, rfl⟩ := by simpa using h
    have h1 := significant_length hname
    have h2 := readDefault_length hdefault
    have h3 := significant_length hstop
    omega
  | case5 => simp at h
  | case6 =>
    rename_i hlt _ _ hrec ih
    obtain ⟨_, rfl⟩ := by simpa using h
    have := ih hrec
    omega
  | case7 => simp [fail] at h
  | case8 => simp [fail] at h

/-! ## Trait uses -/

/-- A trait use `A, B;` or `A, B { ... }` after its keyword, in a body that starts on `line`
    (`_skip_trait_use`). -/
def skipTraitUse (line : Int) (ts : List Token) : Except Failure (List Token) :=
  match (collect [";", openBrace] ts).2 with
  | [] => fail .unterminatedTraitUse line []
  | t :: rest =>
    if t.isPunct openBrace then skipBalanced line (t :: rest)
    else if t.isPunct ";" then .ok rest
    else fail .unterminatedTraitUse line (t :: rest)

theorem skipTraitUse_length {line : Int} {ts rest : List Token}
    (h : skipTraitUse line ts = .ok rest) : rest.length < ts.length := by
  unfold skipTraitUse at h
  have h1 := collect_length [";", openBrace] ts
  split at h
  · simp [fail] at h
  · rename_i t r heq
    rw [heq] at h1
    split at h
    · have h2 := skipBalanced_length h
      omega
    · split at h
      · obtain rfl := by simpa using h
        exact h1
      · simp [fail] at h

/-! ## Bodies -/

/-- The visibility that a keyword stands for. -/
def visibilityOf? : Keyword → Option Visibility
  | .publicKw => some .pub
  | .protectedKw => some .prot
  | .privateKw => some .priv
  | _ => none

/-- The first visibility among some modifiers, or public (`_visibility`). -/
def visibility (modifiers : List Keyword) : Visibility :=
  (modifiers.findSome? visibilityOf?).getD .pub

/-- The docblock of a doc comment, with a note if it cannot be read (`_parse_attached`). -/
def attached (comment : Option Token) : List DocblockError × Option Docblock :=
  match comment with
  | none => ([], none)
  | some t =>
    match Docblock.read t.content t.line with
    | .ok block => ([], some block)
    | .error e => ([e], none)

/-- What stands before a member: the last doc comment, the modifiers and the tokens of a type. -/
structure Lead where
  comment : Option Token := none
  modifiers : List Keyword := []
  types : List Token := []
  deriving DecidableEq, Repr

namespace Lead

/-- The properties that follow have this in common. -/
def propertyHead (lead : Lead) (doc : Option Docblock) : PropertyHead where
  docblock := doc
  visibility := visibility lead.modifiers
  isStatic := lead.modifiers.contains .staticKw
  type := nonEmpty? (compact lead.types)

/-- The method with the given signature. A method without a body is abstract. -/
def method (lead : Lead) (scope : String) (line : Int) (doc : Option Docblock) (name : String)
    (s : Signature) : MethodDecl where
  name := name
  scope := scope
  line := line
  docblock := doc
  arguments := s.arguments
  returnType := s.returnType
  byReference := s.byReference
  visibility := visibility lead.modifiers
  isStatic := lead.modifiers.contains .staticKw
  isAbstract := lead.modifiers.contains .abstractKw || !s.hasBody
  isFinal := lead.modifiers.contains .finalKw

end Lead

/-- A method whose keyword stands on `line` (`_parse_method`). -/
def readMethod (lead : Lead) (scope : String) (line : Int) (doc : Option Docblock)
    (ts : List Token) : Except Failure (MethodDecl × List Token) :=
  match readSignature line ts with
  | .error e => .error e
  | .ok (s, rest) =>
    match s.name with
    | none => fail .noMethodName line rest
    | some name => .ok (lead.method scope line doc name s, rest)

theorem readMethod_length {lead : Lead} {scope : String} {line : Int} {doc : Option Docblock}
    {ts rest : List Token} {m : MethodDecl}
    (h : readMethod lead scope line doc ts = .ok (m, rest)) : rest.length < ts.length := by
  unfold readMethod at h
  split at h
  · simp at h
  · rename_i s r hsig
    split at h
    · simp [fail] at h
    · obtain ⟨_, rfl⟩ := by simpa using h
      exact readSignature_length hsig

/-- What a token does in a body. -/
inductive Step where
  | close
  | comment
  | trivia
  | modifier (word : Keyword)
  | constants
  | method
  | properties
  | traitUse
  | semicolon
  | type
  deriving DecidableEq, Repr

/-- What a token does in a body. -/
def stepOf (t : Token) : Step :=
  match t.kind with
  | none => if t.content = closeBrace then .close else if t.content = ";" then .semicolon else .type
  | some .docComment => .comment
  | some .whitespace | some .comment => .trivia
  | some .variable => .properties
  | some (.keyword .constKw) => .constants
  | some (.keyword .functionKw) => .method
  | some (.keyword .useKw) => .traitUse
  | some (.keyword word) => if word.isMemberModifier then .modifier word else .type
  | some _ => .type

/-- The members of a body up to its closing brace, and the tokens after it (`_parse_members`). The
    lead belongs to the next member; `line` is the line of the declaration. -/
def readMembers (scope : String) (line : Int) (lead : Lead) (ts : List Token) :
    Noted (Body × List Token) :=
  match ts with
  | [] => .plain (fail .unterminatedBody line [])
  | t :: rest =>
    let (notes, doc) := attached lead.comment
    match stepOf t with
    | .close => .plain (.ok ({}, rest))
    | .comment => readMembers scope line { lead with comment := some t } rest
    | .trivia => readMembers scope line lead rest
    | .modifier word =>
      readMembers scope line { lead with modifiers := lead.modifiers ++ [word] } rest
    | .type => readMembers scope line { lead with types := lead.types ++ [t] } rest
    | .semicolon => readMembers scope line {} rest
    | .constants =>
      match h : readConstants scope t.line doc rest with
      | .error e => ⟨notes, .error e⟩
      | .ok (first, others, after) =>
        have : after.length < rest.length := readConstants_length h
        ((readMembers scope line {} after).map fun (body, rest) =>
          ({ body with constants := first :: others ++ body.constants }, rest)).after notes
    | .method =>
      match h : readMethod lead scope t.line doc rest with
      | .error e => ⟨notes, .error e⟩
      | .ok (method, after) =>
        have : after.length < rest.length := readMethod_length h
        ((readMembers scope line {} after).map fun (body, rest) =>
          ({ body with methods := method :: body.methods }, rest)).after notes
    | .properties =>
      match h : readProperties (lead.propertyHead doc) (t :: rest) with
      | .error e => ⟨notes, .error e⟩
      | .ok (properties, after) =>
        have : after.length < (t :: rest).length := readProperties_length h
        ((readMembers scope line {} after).map fun (body, rest) =>
          ({ body with properties := properties ++ body.properties }, rest)).after notes
    | .traitUse =>
      match h : skipTraitUse line rest with
      | .error e => .plain (.error e)
      | .ok after =>
        have : after.length < rest.length := skipTraitUse_length h
        readMembers scope line {} after
termination_by ts.length
decreasing_by all_goals (simp only [List.length_cons] at *; omega)

theorem map_ok_snd {f : Body × List Token → Body × List Token} (hf : ∀ p, (f p).2 = p.2)
    {r : Except Failure (Body × List Token)} {body : Body} {rest : List Token}
    (h : r.map f = .ok (body, rest)) : ∃ b, r = .ok (b, rest) := by
  cases r with
  | error e => simp [Except.map] at h
  | ok p =>
    obtain ⟨b, q⟩ := p
    have h' : f (b, q) = (body, rest) := by simpa [Except.map] using h
    have := hf (b, q)
    rw [h'] at this
    exact ⟨b, by simp at this; rw [this]⟩

/-- Reading a body goes forward. -/
theorem readMembers_length {scope : String} {line : Int} {lead : Lead} {ts rest : List Token}
    {body : Body} (h : (readMembers scope line lead ts).result = .ok (body, rest)) :
    rest.length < ts.length := by
  fun_induction readMembers scope line lead ts generalizing body rest with
  | case1 => simp [fail] at h
  | case2 =>
    obtain ⟨_, rfl⟩ := by simpa using h
    simp
  | case3 | case4 | case5 | case6 | case7 =>
    rename_i ih
    exact Nat.lt_succ_of_lt (ih h)
  | case8 | case10 | case12 => simp at h
  | case9 | case11 | case13 =>
    rename_i hlt ih
    obtain ⟨b, hb⟩ := map_ok_snd (by rintro ⟨b, r⟩; rfl) h
    have := ih hb
    simp at hlt ⊢; omega
  | case14 => simp at h
  | case15 =>
    rename_i hlt ih
    have := ih h
    simp; omega

end Reading

end PhpOutline
