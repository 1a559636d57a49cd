import PhpOutline.Proofs.ReadersIgnoreRest

/-!
# Declarations and where they stand

What a declaration takes from its surroundings: the namespace in force, which it shares with its
members, the docblock before it, and the class modifiers before it. Everything else comes from its
own tokens, so the same tokens declare the same thing elsewhere, up to its place.

Results:
* `readMembers_inScope`: the members of a body in another namespace.
* `readClass_placed`, `readInterface_placed`, `readFunction_placed`: tokens that declare something
  on their own declare it everywhere, whatever follows.
* `readConstant_placed`, `readInclude_placed`: the same if a semicolon at depth zero closes them.
-/

namespace PhpOutline

/-- What surrounds a declaration: the namespace in force and what stands before the keyword. -/
structure Place where
  scope : String
  modifiers : List Keyword
  docblock : Option Docblock
  deriving DecidableEq, Repr

/-- The place after some tokens, which are given nearest first. -/
def Place.after (scope : String) (passed : List Token) : Place where
  scope := scope
  modifiers := Reading.leadingModifiers passed
  docblock := (Reading.attached (Reading.leadingComment passed)).2

/-- A constant in a namespace. -/
def ConstantDecl.inScope (scope : String) (d : ConstantDecl) : ConstantDecl := { d with scope }

/-- A method in a namespace. -/
def MethodDecl.inScope (scope : String) (d : MethodDecl) : MethodDecl := { d with scope }

/-- Members in a namespace. -/
def Body.inScope (scope : String) (b : Body) : Body :=
  { b with
    constants := b.constants.map (·.inScope scope)
    methods := b.methods.map (·.inScope scope) }

/-- A function at a place. -/
def FunctionDecl.placed (p : Place) (d : FunctionDecl) : FunctionDecl :=
  { d with scope := p.scope, docblock := p.docblock }

/-- A constant at a place. -/
def ConstantDecl.placed (p : Place) (d : ConstantDecl) : ConstantDecl :=
  { d with scope := p.scope, docblock := p.docblock }

/-- An included file at a place. -/
def IncludeDecl.placed (p : Place) (d : IncludeDecl) : IncludeDecl :=
  { d with scope := p.scope, docblock := p.docblock }

/-- An interface at a place. -/
def InterfaceDecl.placed (p : Place) (d : InterfaceDecl) : InterfaceDecl :=
  { d with
    scope := p.scope
    docblock := p.docblock
    constants := d.constants.map (·.inScope p.scope)
    methods := d.methods.map (·.inScope p.scope) }

/-- A class at a place. -/
def ClassDecl.placed (p : Place) (d : ClassDecl) : ClassDecl :=
  { d with
    toInterfaceDecl := d.toInterfaceDecl.placed p
    isAbstract := p.modifiers.contains .abstractKw
    isFinal := p.modifiers.contains .finalKw }

theorem Body.inScope_append (scope : String) (a b : Body) :
    (a.append b).inScope scope = (a.inScope scope).append (b.inScope scope) := by
  simp [inScope, append]

namespace Reading

/-! ## Namespaces and docblocks -/

theorem readConstants_placed {scope : String} {line : Int} {doc : Option Docblock}
    {ts rest : List Token} {first : ConstantDecl} {others : List ConstantDecl}
    (h : readConstants scope line doc ts = .ok (first, others, rest)) (p : Place) :
    readConstants p.scope line p.docblock ts =
      .ok (first.placed p, others.map (·.placed p), rest) := by
  induction hlen : ts.length using Nat.strongRecOn generalizing ts first others with
  | ind n ih =>
    obtain ⟨head, name, sign, afterSign, value, afterValue, hhead, hname, hsign, hvalue, rfl,
      hend⟩ := readConstants_eq_ok_iff.1 h
    refine readConstants_eq_ok_iff.2 ⟨head, name, sign, afterSign, value, afterValue, hhead, hname,
      hsign, hvalue, rfl, ?_⟩
    rcases hend with ⟨rfl, rfl, rfl⟩ | ⟨stop, after, rfl, hend⟩
    · exact .inl ⟨rfl, rfl, rfl⟩
    · refine .inr ⟨stop, after, rfl, ?_⟩
      rcases hend with ⟨hcomma, second, later, hlater, rfl⟩ | ⟨hcomma, rfl, rfl⟩
      · have hlt : after.length < n := by
          have h1 := collect_length ["=", ";"] ts
          have h2 := collect_length [",", ";"] afterSign
          rw [hhead, List.length_cons] at h1
          rw [hvalue, List.length_cons] at h2
          omega
        exact .inl ⟨hcomma, second.placed p, later.map (·.placed p), ih _ hlt hlater rfl, rfl⟩
      · exact .inr ⟨hcomma, rfl, rfl⟩

theorem readConstants_docblock {scope : String} {line : Int} {doc : Option Docblock}
    {ts rest : List Token} {first : ConstantDecl} {others : List ConstantDecl}
    (h : readConstants scope line doc ts = .ok (first, others, rest)) :
    ∀ d ∈ first :: others, d.docblock = doc := by
  -- At its own place a list of constants stays as it is.
  have hplaced := readConstants_placed h ⟨scope, [], doc⟩
  rw [h] at hplaced
  simp only [Except.ok.injEq, Prod.mk.injEq, and_true] at hplaced
  obtain ⟨hfirst, hothers⟩ := hplaced
  intro d hd
  rcases List.mem_cons.1 hd with rfl | hd
  · rw [hfirst]
    rfl
  · rw [hothers] at hd
    obtain ⟨d', -, rfl⟩ := List.mem_map.1 hd
    rfl

theorem readConstants_inScope {scope : String} {line : Int} {doc : Option Docblock}
    {ts rest : List Token} {first : ConstantDecl} {others : List ConstantDecl}
    (h : readConstants scope line doc ts = .ok (first, others, rest)) (other : String) :
    readConstants other line doc ts =
      .ok (first.inScope other, others.map (·.inScope other), rest) := by
  have hsame : ∀ d ∈ first :: others, d.placed ⟨other, [], doc⟩ = d.inScope other := by
    intro d hd
    rw [ConstantDecl.placed, ConstantDecl.inScope, ← readConstants_docblock h d hd]
  rw [readConstants_placed h ⟨other, [], doc⟩, hsame first List.mem_cons_self,
    List.map_congr_left fun d hd => hsame d (List.mem_cons_of_mem _ hd)]

theorem MemberStep.inScope {scope : String} {line : Int} {lead lead' : Lead}
    {ts after : List Token} {notes : List DocblockError} {part : Body}
    (h : MemberStep scope line lead ts notes part lead' after) (other : String) :
    MemberStep other line lead ts notes (part.inScope other) lead' after := by
  cases h with
  | comment hstep => exact .comment hstep
  | trivia hstep => exact .trivia hstep
  | modifier hstep => exact .modifier hstep
  | type hstep => exact .type hstep
  | semicolon hstep => exact .semicolon hstep
  | constants hstep hread => exact .constants hstep (readConstants_inScope hread other)
  | method hstep hread =>
    obtain ⟨s, name, hsig, hname, rfl⟩ := readMethod_eq_ok_iff.1 hread
    exact .method hstep (readMethod_eq_ok_iff.2 ⟨s, name, hsig, hname, rfl⟩)
  | properties hstep hread => exact .properties hstep hread
  | traitUse hstep hskip => exact .traitUse hstep hskip

/-- The members of a body in another namespace. -/
theorem readMembers_inScope {scope : String} {line : Int} {lead : Lead} {ts rest : List Token}
    {notes : List DocblockError} {body : Body}
    (h : readMembers scope line lead ts = ⟨notes, .ok (body, rest)⟩) (other : String) :
    readMembers other line lead ts = ⟨notes, .ok (body.inScope other, rest)⟩ := by
  induction hlen : ts.length using Nat.strongRecOn generalizing ts lead notes body with
  | ind n ih =>
    rcases readMembers_eq_ok_iff.1 h with
      ⟨t, rfl, hclose, rfl, rfl⟩ |
      ⟨before, part, lead', after, later, members, hstep, hread, rfl, rfl⟩
    · exact readMembers_of_close hclose
    · refine readMembers_eq_ok_iff.2 (.inr ⟨before, _, lead', after, later, _, hstep.inScope other,
        ih _ (hlen ▸ hstep.length) hread rfl, rfl, ?_⟩)
      rw [Body.inScope_append]

theorem readClassFrom_placed {scope : String} {line : Int} {modifiers : List Keyword}
    {doc : Option Docblock} {ts rest : List Token} {notes : List DocblockError} {d : ClassDecl}
    (h : readClassFrom scope line modifiers doc ts = ⟨notes, .ok (some d, rest)⟩) (p : Place) :
    readClassFrom p.scope line p.modifiers p.docblock ts =
      ⟨notes, .ok (some (d.placed p), rest)⟩ := by
  obtain ⟨t, first, hfirst, ⟨hname, parent, interfaces, afterHead, body, hhead, hbody, hd⟩ |
    ⟨-, -, hd, -⟩⟩ := readClassFrom_eq_ok_iff.1 h
  · cases hd
    exact readClassFrom_eq_ok_iff.2 ⟨t, first, hfirst, .inl ⟨hname, parent, interfaces, afterHead,
      _, hhead, readMembers_inScope hbody p.scope, rfl⟩⟩
  · cases hd

theorem readInterfaceFrom_placed {scope : String} {line : Int} {doc : Option Docblock}
    {ts rest : List Token} {notes : List DocblockError} {d : InterfaceDecl}
    (h : readInterfaceFrom scope line doc ts = ⟨notes, .ok (d, rest)⟩) (p : Place) :
    readInterfaceFrom p.scope line p.docblock ts = ⟨notes, .ok (d.placed p, rest)⟩ := by
  obtain ⟨name, parents, afterHead, body, hhead, hbody, rfl⟩ := readInterfaceFrom_eq_ok_iff.1 h
  exact readInterfaceFrom_eq_ok_iff.2 ⟨name, parents, afterHead, _, hhead,
    readMembers_inScope hbody p.scope, rfl⟩

theorem readFunctionFrom_placed {scope : String} {line : Int} {doc : Option Docblock}
    {ts rest : List Token} {d : FunctionDecl}
    (h : readFunctionFrom scope line doc ts = .ok (some d, rest)) (p : Place) :
    readFunctionFrom p.scope line p.docblock ts = .ok (some (d.placed p), rest) := by
  obtain ⟨s, hsig, hd⟩ := readFunctionFrom_eq_ok_iff.1 h
  obtain ⟨name, hname, rfl⟩ := Option.map_eq_some_iff.1 hd.symm
  exact readFunctionFrom_eq_ok_iff.2 ⟨s, hsig, by rw [hname]; rfl⟩

/-! ## Constants and included files that a semicolon closes -/

theorem isPunct_iff {t : Token} {sign : String} :
    t.isPunct sign = true ↔ t.kind.isNone = true ∧ t.content = sign := by
  simp [Token.isPunct]

theorem depth_of_collect {stops : List String} {ts part after : List Token} {t : Token}
    (h : Reading.collect stops ts = (part, t :: after)) (ht : t.kind.isNone = true) :
    depth part = 0 := by
  have hend := (collect_eq_iff.1 h).2.2 t after rfl
  rcases hend with hclose | ⟨hdepth, -⟩
  · rw [Option.isNone_iff_eq_none] at ht
    simp [Token.isKind, ht] at hclose
  · simpa using hdepth

theorem bracket_of_isPunct {t : Token} {sign : String} (h : t.isPunct sign = true)
    (hsign : sign = "=" ∨ sign = "," ∨ sign = ";") : t.bracket = 0 := by
  obtain ⟨-, hcontent⟩ := isPunct_iff.1 h
  have hopen : occursIn sign.toList ['(', '[', '{'] = false := by
    rcases hsign with rfl | rfl | rfl <;> decide
  have hclose : occursIn sign.toList [')', ']', '}'] = false := by
    rcases hsign with rfl | rfl | rfl <;> decide
  simp [Token.bracket, Token.isOpener, Token.isCloser, hcontent, hopen, hclose]

/-- A collected part and the sign that ends it leave the depth as it is. -/
theorem depth_after_part {stops : List String} {ts part after later : List Token} {t : Token}
    {sign : String} (h : Reading.collect stops ts = (part, t :: after))
    (ht : t.isPunct sign = true) (hsign : sign = "=" ∨ sign = "," ∨ sign = ";") :
    depth (part ++ t :: later) = depth later := by
  rw [depth_append, depth_cons, depth_of_collect h (isPunct_iff.1 ht).1,
    bracket_of_isPunct ht hsign, Int.zero_add, Int.zero_add]

/-- A part before a stop at depth zero ends at that stop or earlier. -/
theorem collect_before_stop {stops : List String} {body rest part after : List Token} {stop : Token}
    (hkind : stop.kind.isNone = true) (hstop : stops.contains stop.content = true)
    (hdepth : depth body = 0)
    (h : Reading.collect stops (body ++ stop :: rest) = (part, after)) :
    (part = body ∧ after = stop :: rest) ∨
      ∃ t later, body = part ++ t :: later ∧ after = t :: (later ++ stop :: rest) := by
  obtain ⟨hsplit, hinner, -⟩ := collect_eq_iff.1 h
  rcases List.append_eq_append_iff.1 hsplit with ⟨extra, rfl, hextra⟩ | ⟨extra, rfl, hextra⟩
  · cases extra with
    | nil => exact .inl ⟨by simp, by simpa using hextra.symm⟩
    | cons u extra =>
      -- The part would run over the stop.
      obtain ⟨rfl, -⟩ := List.cons.inj hextra
      refine absurd ?_ (hinner body stop extra rfl)
      exact .inr ⟨by rw [hdepth]; rfl, .inl ⟨hkind, hstop⟩⟩
  · cases extra with
    | nil => exact .inl ⟨by simp, by simpa using hextra⟩
    | cons t later => exact .inr ⟨t, later, rfl, hextra⟩

/-- A list of constants that a semicolon at depth zero closes is the same whatever follows. -/
theorem readConstants_closed {scope : String} {line : Int} {doc : Option Docblock}
    {body rest : List Token} {stop : Token} {first : ConstantDecl} {others : List ConstantDecl}
    (hstop : stop.isPunct ";" = true) (hdepth : depth body = 0)
    (h : readConstants scope line doc (body ++ stop :: rest) = .ok (first, others, rest))
    (more : List Token) :
    readConstants scope line doc (body ++ stop :: more) = .ok (first, others, more) := by
  obtain ⟨hkind, hcontent⟩ := isPunct_iff.1 hstop
  have hcomma : stop.isPunct "," = false := by simp [Token.isPunct, hcontent]
  induction hlen : body.length using Nat.strongRecOn generalizing body first others with
  | ind n ih =>
    obtain ⟨head, name, sign, afterSign, value, afterValue, hhead, hname, hsign, hvalue, rfl,
      hend⟩ := readConstants_eq_ok_iff.1 h
    rcases collect_before_stop hkind (by simp [hcontent]) hdepth hhead with
      ⟨-, hsame⟩ | ⟨t, later, rfl, hlater⟩
    · obtain ⟨rfl, -⟩ := List.cons.inj hsame
      simp [Token.isPunct, hcontent] at hsign
    obtain ⟨rfl, rfl⟩ := List.cons.inj hlater
    have khead : ∀ after,
        Reading.collect ["=", ";"] (head ++ sign :: after) = (head, sign :: after) :=
      (collect_takes hhead).2
    rw [depth_after_part hhead hsign (.inl rfl)] at hdepth
    rw [List.append_assoc, List.cons_append]
    rcases collect_before_stop hkind (by simp [hcontent]) hdepth hvalue with
      ⟨rfl, rfl⟩ | ⟨t, later', rfl, rfl⟩
    · -- The value ends at the semicolon.
      obtain ⟨rfl⟩ : others = [] := by
        rcases hend with ⟨hnil, -⟩ | ⟨_, _, hcons, ⟨hcomma', -⟩ | ⟨-, hothers, -⟩⟩
        · cases hnil
        · cases hcons
          rw [hcomma] at hcomma'
          cases hcomma'
        · exact hothers
      exact readConstants_eq_ok_iff.2 ⟨head, name, sign, _, value, _, khead _, hname, hsign,
        (collect_takes hvalue).2 more, rfl, .inr ⟨stop, more, rfl, .inr ⟨hcomma, rfl,
          (if_pos hstop).symm⟩⟩⟩
    · -- The value ends before the semicolon, so a comma ends it.
      rcases hend with ⟨hnil, -⟩ | ⟨_, _, hcons, ⟨hcomma', second, rest', hread, rfl⟩ |
        ⟨-, -, hrest⟩⟩
      · cases hnil
      · cases hcons
        rw [depth_after_part hvalue hcomma' (.inr (.inl rfl))] at hdepth
        have hlt : later'.length < n := by
          rw [← hlen]
          simp only [List.length_append, List.length_cons]
          omega
        have hrec := ih _ hlt hdepth hread rfl
        rw [List.append_assoc, List.cons_append]
        exact readConstants_eq_ok_iff.2 ⟨head, name, sign, _, value, _, khead _, hname, hsign,
          (collect_takes hvalue).2 _, rfl, .inr ⟨t, _, rfl, .inl ⟨hcomma', second, rest', hrec,
            rfl⟩⟩⟩
      · cases hcons
        have := congrArg List.length hrest
        split at this <;> simp only [List.length_append, List.length_cons] at this <;> omega

/-- An included file whose expression a semicolon at depth zero closes is the same whatever
    follows. -/
theorem readIncludeTarget_closed {body rest : List Token} {stop : Token}
    (hstop : stop.isPunct ";" = true) (hdepth : depth body = 0)
    (h : (readIncludeTarget (body ++ stop :: rest)).2 = rest) (more : List Token) :
    readIncludeTarget (body ++ stop :: more) =
      ((readIncludeTarget (body ++ stop :: rest)).1, more) := by
  obtain ⟨hkind, hcontent⟩ := isPunct_iff.1 hstop
  cases hcollect : Reading.collect [";"] (body ++ stop :: rest) with
  | mk part after =>
    rcases collect_before_stop hkind (by simp [hcontent]) hdepth hcollect with
      ⟨rfl, rfl⟩ | ⟨t, later, rfl, rfl⟩
    · unfold readIncludeTarget
      rw [(collect_takes hcollect).2 more, hcollect]
      simp only
      rw [if_pos hstop]
    · unfold readIncludeTarget at h
      rw [hcollect] at h
      have := congrArg List.length h
      simp only at this
      split at this <;> simp only [List.length_append, List.length_cons] at this <;> omega

/-! ## Declarations elsewhere -/

section Elsewhere

variable {alone : String} {t : Token} {body : List Token}

/-- Tokens that declare a class on their own declare it everywhere, whatever follows. -/
theorem readClass_placed {d : ClassDecl} (ht : [Keyword.classKw].any t.isKeyword = true)
    (h : (readClass alone (.ofList (t :: body))).result = .ok (some d, []))
    (scope : String) (passed more : List Token) :
    (readClass scope ⟨passed, t :: (body ++ more)⟩).result =
      .ok (some (d.placed (.after scope passed)), more) := by
  rw [readClass_eq rfl ht, Noted.result_after] at h ⊢
  obtain ⟨taken, htaken, hmore⟩ :=
    readClassFrom_takes (readClassFrom_placed (Noted.eq_mk h) (.after scope passed))
  obtain rfl : body = taken := by simpa using htaken
  exact congrArg Noted.result (hmore more)

/-- Tokens that declare an interface on their own declare it everywhere, whatever follows. -/
theorem readInterface_placed {d : InterfaceDecl} (ht : [Keyword.interfaceKw].any t.isKeyword = true)
    (h : (readInterface alone (.ofList (t :: body))).result = .ok (d, []))
    (scope : String) (passed more : List Token) :
    (readInterface scope ⟨passed, t :: (body ++ more)⟩).result =
      .ok (d.placed (.after scope passed), more) := by
  rw [readInterface_eq rfl ht, Noted.result_after] at h ⊢
  obtain ⟨taken, htaken, hmore⟩ :=
    readInterfaceFrom_takes (readInterfaceFrom_placed (Noted.eq_mk h) (.after scope passed))
  obtain rfl : body = taken := by simpa using htaken
  exact congrArg Noted.result (hmore more)

/-- Tokens that declare a function on their own declare it everywhere, whatever follows. -/
theorem readFunction_placed {d : FunctionDecl} (ht : [Keyword.functionKw].any t.isKeyword = true)
    (h : (readFunction alone (.ofList (t :: body))).result = .ok (some d, []))
    (scope : String) (passed more : List Token) :
    (readFunction scope ⟨passed, t :: (body ++ more)⟩).result =
      .ok (some (d.placed (.after scope passed)), more) := by
  rw [readFunction_eq rfl ht] at h ⊢
  obtain ⟨taken, htaken, hmore⟩ :=
    readFunctionFrom_takes (readFunctionFrom_placed h (.after scope passed))
  obtain rfl : body = taken := by simpa using htaken
  exact hmore more

variable {stop : Token}

/-- Tokens that declare a constant on their own, closed by a semicolon at depth zero, declare it
    everywhere, whatever follows. -/
theorem readConstant_placed {d : ConstantDecl} (ht : [Keyword.constKw].any t.isKeyword = true)
    (hstop : stop.isPunct ";" = true) (hdepth : depth body = 0)
    (h : (readConstant alone (.ofList (t :: (body ++ [stop])))).result = .ok (d, []))
    (scope : String) (passed more : List Token) :
    (readConstant scope ⟨passed, t :: (body ++ stop :: more)⟩).result =
      .ok (d.placed (.after scope passed), more) := by
  rw [readConstant_eq rfl ht] at h ⊢
  obtain ⟨others, hread⟩ := readConstantFrom_eq_ok_iff.1 h
  exact readConstantFrom_eq_ok_iff.2
    ⟨_, readConstants_closed hstop hdepth (readConstants_placed hread (.after scope passed)) more⟩

/-- Tokens that include a file on their own, closed by a semicolon at depth zero, include it
    everywhere, whatever follows. -/
theorem readInclude_placed {d : IncludeDecl} (ht : includeWords.any t.isKeyword = true)
    (hstop : stop.isPunct ";" = true) (hdepth : depth body = 0)
    (h : (readInclude alone (.ofList (t :: (body ++ [stop])))).result = .ok (d, []))
    (scope : String) (passed more : List Token) :
    (readInclude scope ⟨passed, t :: (body ++ stop :: more)⟩).result =
      .ok (d.placed (.after scope passed), more) := by
  rw [readInclude_eq rfl ht] at h ⊢
  simp only [Except.ok.injEq, Prod.mk.injEq] at h
  obtain ⟨rfl, hrest⟩ := h
  rw [readIncludeTarget_closed hstop hdepth hrest more]
  rfl

end Elsewhere

end Reading

end PhpOutline
