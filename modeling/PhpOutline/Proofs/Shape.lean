import PhpOutline.Proofs.Likeness
import PhpOutline.Proofs.Locality

/-!
# The shape of declarations

The shape of a declaration is all that is left of it without its texts and its docblocks: lines,
flags, visibilities, the members and arguments in their order, and which types and defaults are
there. On tokens that are alike every reader takes the same way, ends at the same position and finds
declarations of the same shape.

Results:
* `readConstants_alike`, `readProperties_alike`, `readMembers_alike`: bodies.
* `readClass_alike` and the like: declarations at a cursor.
* `shapes_of_alike`: declarations at a position.
-/

namespace PhpOutline

/-! ## Shapes -/

/-- A function without its texts. -/
def FunctionDecl.shape (f : FunctionDecl) : FunctionDecl :=
  { f with
    name := ""
    docblock := none
    arguments := f.arguments.map Argument.shape
    returnType := presence f.returnType }

/-- A method without its texts. -/
def MethodDecl.shape (m : MethodDecl) : MethodDecl :=
  { m with toFunctionDecl := m.toFunctionDecl.shape }

/-- A property without its texts. -/
def PropertyDecl.shape (p : PropertyDecl) : PropertyDecl :=
  { p with
    name := ""
    docblock := none
    type := presence p.type
    default := presence p.default }

/-- A constant without its texts. -/
def ConstantDecl.shape (c : ConstantDecl) : ConstantDecl :=
  { c with name := "", docblock := none, value := "" }

/-- An included file without its texts. -/
def IncludeDecl.shape (i : IncludeDecl) : IncludeDecl :=
  { i with name := "", type := "", docblock := none }

/-- An interface without its texts. -/
def InterfaceDecl.shape (i : InterfaceDecl) : InterfaceDecl :=
  { i with
    name := ""
    docblock := none
    parents := i.parents.map fun _ => ""
    constants := i.constants.map ConstantDecl.shape
    methods := i.methods.map MethodDecl.shape }

/-- A class without its texts. -/
def ClassDecl.shape (c : ClassDecl) : ClassDecl :=
  { c with
    toInterfaceDecl := c.toInterfaceDecl.shape
    parent := presence c.parent
    interfaces := c.interfaces.map fun _ => ""
    properties := c.properties.map PropertyDecl.shape }

/-- The members of a body without their texts. -/
def Body.shape (b : Body) : Body where
  constants := b.constants.map ConstantDecl.shape
  properties := b.properties.map PropertyDecl.shape
  methods := b.methods.map MethodDecl.shape

namespace Reading

variable {ts us : List Token}

/-! ## Bodies -/

theorem nextConstant_alike (scope : String) (line : Int) (doc doc' : Option Docblock)
    (h : Alike ts us) :
    SameOutcome (fun a b => a.1.shape = b.1.shape ∧ AlikeBy id a.2 b.2)
      (nextConstant scope line doc ts) (nextConstant scope line doc' us) := by
  obtain ⟨hhead, hafter⟩ := collect_alike ["=", ";"] h
  have hname := getLast?_alike (filter_alike (fun _ _ htu => congrArg not htu.isTrivia_eq) hhead)
  unfold nextConstant
  simp only
  generalize ((collect ["=", ";"] ts).1.filter (!·.isTrivia)).getLast? = x at hname ⊢
  generalize ((collect ["=", ";"] us).1.filter (!·.isTrivia)).getLast? = y at hname ⊢
  generalize (collect ["=", ";"] ts).2 = after at hafter ⊢
  generalize (collect ["=", ";"] us).2 = after' at hafter ⊢
  cases hname with
  | none => exact fail_alike rfl
  | @some name name' hname =>
    cases hafter with
    | nil => exact fail_alike rfl
    | @cons sign sign' afterSign afterSign' hsign hvalue =>
      simp only [hsign.isPunct_eq]
      split
      · have hshape : (⟨name.content, scope, name.line, doc, sourceText (collect [",", ";"]
            afterSign).1⟩ : ConstantDecl).shape = (⟨name'.content, scope, name'.line, doc',
            sourceText (collect [",", ";"] afterSign').1⟩ : ConstantDecl).shape := by
          simp only [ConstantDecl.shape, hname.line_eq]
        obtain ⟨_, hafter⟩ := collect_alike [",", ";"] hvalue
        generalize (collect [",", ";"] afterSign).2 = rest at hafter ⊢
        generalize (collect [",", ";"] afterSign').2 = rest' at hafter ⊢
        cases hafter with
        | nil => exact .ok ⟨hshape, rfl, .nil⟩
        | cons hstop hrest =>
          simp only [hstop.isPunct_eq]
          split
          · exact .ok ⟨hshape, rfl, hrest⟩
          · split
            · exact .ok ⟨hshape, rfl, hrest⟩
            · exact .ok ⟨hshape, rfl, .cons hstop hrest⟩
      · exact fail_alike rfl

theorem readConstants_alike (scope : String) (line : Int) (doc doc' : Option Docblock)
    (h : Alike ts us) :
    SameOutcome (fun a b => a.1.shape = b.1.shape ∧ AlikeBy (List.map ConstantDecl.shape) a.2 b.2)
      (readConstants scope line doc ts) (readConstants scope line doc' us) := by
  induction hn : ts.length using Nat.strongRecOn generalizing ts us with
  | ind n ih =>
    subst hn
    rw [readConstants_eq_next, readConstants_eq_next]
    match hnext : nextConstant scope line doc ts, nextConstant scope line doc' us,
      nextConstant_alike scope line doc doc' h with
    | _, _, .error he => exact .error he
    | .ok (c, true, rest), .ok (c', _, rest'), .ok ⟨hc, rfl, hrest⟩ =>
      refine (ih rest.length (nextConstant_length hnext) hrest rfl).map fun a b hab => ?_
      exact ⟨hc, congrArg₂ List.cons hab.1 hab.2.1, hab.2.2⟩
    | .ok (c, false, rest), .ok (c', _, rest'), .ok ⟨hc, rfl, hrest⟩ => exact .ok ⟨hc, rfl, hrest⟩

theorem readDefault_alike (line : Int) (h : Alike ts us) :
    SameOutcome (AlikeBy presence) (readDefault line ts) (readDefault line us) := by
  unfold readDefault
  match significant line ts, significant line us, significant_alike line h with
  | _, _, .error he => exact .error he
  | .ok (t, rest), .ok (u, rest'), .ok (.cons htu hrest) =>
    simp only [htu.isPunct_eq]
    split
    · exact .ok ⟨presence_some _ _, (collect_alike [",", ";"] hrest).2⟩
    · exact .ok ⟨rfl, .cons htu hrest⟩

/-- The property with the given variable and default. -/
def PropertyHead.property (head : PropertyHead) (var : Token) (default : Option String) :
    PropertyDecl :=
  ⟨var.content, var.line, head.docblock, head.visibility, head.isStatic, head.type, default⟩

theorem readProperties_eq (head : PropertyHead) (ts : List Token) :
    readProperties head ts =
      match significant 0 ts with
      | .error e => .error e
      | .ok (var, afterName) =>
        if var.isKind .variable then
          match readDefault var.line afterName with
          | .error e => .error e
          | .ok (default, afterDefault) =>
            match significant var.line afterDefault with
            | .error e => .error e
            | .ok (stop, rest) =>
              if stop.isPunct ";" then .ok ([head.property var default], rest)
              else if stop.isPunct "," then
                (readProperties head rest).map fun (properties, rest) =>
                  (head.property var default :: properties, rest)
              else fail (.noPropertyEnd var.content) stop.line (stop :: rest)
        else fail (.noPropertyName var.content) var.line (var :: afterName) := by
  fun_cases readProperties head ts <;> simp +zetaDelta [Except.map, PropertyHead.property, *]

/-- What the properties of one statement have in common, without the texts. -/
def PropertyHead.shape (head : PropertyHead) : PropertyHead :=
  { head with docblock := none, type := presence head.type }

theorem readProperties_alike {head head' : PropertyHead} (hhead : head.shape = head'.shape)
    (h : Alike ts us) :
    SameOutcome (AlikeBy (List.map PropertyDecl.shape)) (readProperties head ts)
      (readProperties head' us) := by
  induction hn : ts.length using Nat.strongRecOn generalizing ts us with
  | ind n ih =>
    subst hn
    rw [readProperties_eq, readProperties_eq]
    match hname : significant 0 ts, significant 0 us, significant_alike 0 h with
    | _, _, .error he => exact .error he
    | .ok (var, afterName), .ok (var', afterName'), .ok (.cons hvar hafter) =>
      have hline : var.line = var'.line := hvar.line_eq
      simp only [hvar.isKind_eq, hline]
      split
      · match hvalue : readDefault var'.line afterName, readDefault var'.line afterName',
          readDefault_alike var'.line hafter with
        | _, _, .error he => exact .error he
        | .ok (default, afterDefault), .ok (default', afterDefault'), .ok ⟨hdefault, hafter⟩ =>
          simp only at hdefault ⊢
          match hstop : significant var'.line afterDefault, significant var'.line afterDefault',
            significant_alike var'.line hafter with
          | _, _, .error he => exact .error he
          | .ok (stop, rest), .ok (stop', rest'), .ok (.cons hstop' hrest) =>
            have hproperty : (head.property var default).shape =
                (head'.property var' default').shape := by
              simp only [PropertyHead.shape, PropertyHead.mk.injEq, true_and] at hhead
              simp only [PropertyHead.property, PropertyDecl.shape, hline, hhead, hdefault]
            simp only [hstop'.isPunct_eq]
            split
            · exact .ok ⟨congrArg (fun p => [p]) hproperty, hrest⟩
            · split
              · have h1 := significant_length hname
                have h2 := readDefault_length hvalue
                have h3 := significant_length hstop
                refine (ih rest.length (by omega) hrest rfl).map fun a b hab => ?_
                exact ⟨congrArg₂ List.cons hproperty hab.1, hab.2⟩
              · exact fail_alike hstop'.line_eq
      · exact fail_alike rfl

theorem skipTraitUse_alike (line : Int) (h : Alike ts us) :
    SameOutcome Alike (skipTraitUse line ts) (skipTraitUse line us) := by
  unfold skipTraitUse
  match (collect [";", openBrace] ts).2, (collect [";", openBrace] us).2,
    (collect_alike [";", openBrace] h).2 with
  | _, _, .nil => exact fail_alike rfl
  | _, _, .cons htu hrest =>
    simp only [htu.isPunct_eq]
    split
    · exact skipBalanced_alike line (.cons htu hrest)
    · split
      · exact .ok hrest
      · exact fail_alike rfl

/-- Two leads that hold the same modifiers and a type of the same shape. -/
structure Lead.Alike (lead lead' : Lead) : Prop where
  modifiers_eq : lead.modifiers = lead'.modifiers
  types : Reading.Alike lead.types lead'.types

theorem readMethod_alike {lead lead' : Lead} (hlead : lead.Alike lead') (scope : String) (line : Int)
    (doc doc' : Option Docblock) (h : Alike ts us) :
    SameOutcome (AlikeBy MethodDecl.shape) (readMethod lead scope line doc ts)
      (readMethod lead' scope line doc' us) := by
  unfold readMethod
  match readSignature line ts, readSignature line us, readSignature_alike line h with
  | _, _, .error he => exact .error he
  | .ok (s, rest), .ok (s', rest'), .ok ⟨hs, hrest⟩ =>
    obtain ⟨name, arguments, returnType, byReference, hasBody⟩ := s
    obtain ⟨name', arguments', returnType', byReference', hasBody'⟩ := s'
    simp only [Signature.shape, Signature.mk.injEq] at hs
    obtain ⟨hname, harguments, htype, rfl, rfl⟩ := hs
    cases name <;> cases name'
    · exact fail_alike rfl
    · cases hname
    · cases hname
    · refine .ok ⟨?_, hrest⟩
      simp only [Lead.method, MethodDecl.shape, FunctionDecl.shape, harguments, htype,
        hlead.modifiers_eq]

theorem Body.shape_append (a b : Body) : (a.append b).shape = a.shape.append b.shape := by
  simp only [Body.append, Body.shape, List.map_append]

theorem readMembers_cons (scope : String) (line : Int) (lead : Lead) (t : Token)
    (rest : List Token) :
    (readMembers scope line lead (t :: rest)).result =
      match stepOf t with
      | .close => .ok ({}, rest)
      | .comment => (readMembers scope line { lead with comment := some t } rest).result
      | .trivia => (readMembers scope line lead rest).result
      | .modifier word =>
        (readMembers scope line { lead with modifiers := lead.modifiers ++ [word] } rest).result
      | .type => (readMembers scope line { lead with types := lead.types ++ [t] } rest).result
      | .semicolon => (readMembers scope line {} rest).result
      | .constants =>
        match readConstants scope t.line (attached lead.comment).2 rest with
        | .error e => .error e
        | .ok (first, others, after) =>
          (readMembers scope line {} after).result.map fun (body, rest) =>
            (Body.append { constants := first :: others } body, rest)
      | .method =>
        match readMethod lead scope t.line (attached lead.comment).2 rest with
        | .error e => .error e
        | .ok (method, after) =>
          (readMembers scope line {} after).result.map fun (body, rest) =>
            (Body.append { methods := [method] } body, rest)
      | .properties =>
        match readProperties (lead.propertyHead (attached lead.comment).2) (t :: rest) with
        | .error e => .error e
        | .ok (properties, after) =>
          (readMembers scope line {} after).result.map fun (body, rest) =>
            (Body.append { properties := properties } body, rest)
      | .traitUse =>
        match skipTraitUse line rest with
        | .error e => .error e
        | .ok after => (readMembers scope line {} after).result := by
  rw [readMembers]
  cases stepOf t with
  | constants | method | properties =>
    simp only
    split
    · simp only [*]
    · simp only [*]
      rfl
  | traitUse =>
    simp only
    split
    · simp only [*]
      rfl
    · simp only [*]
  | _ => rfl

theorem append_alike {part part' : Body} (hpart : part.shape = part'.shape)
    {x y : Except Failure (Body × List Token)} (h : SameOutcome (AlikeBy Body.shape) x y) :
    SameOutcome (AlikeBy Body.shape) (x.map fun (body, rest) => (part.append body, rest))
      (y.map fun (body, rest) => (part'.append body, rest)) := by
  refine h.map fun a b hab => ⟨?_, hab.2⟩
  show (part.append a.1).shape = (part'.append b.1).shape
  rw [Body.shape_append, Body.shape_append, hpart, hab.1]

theorem readMembers_alike (scope : String) (line : Int) {lead lead' : Lead}
    (hlead : lead.Alike lead') (h : Alike ts us) :
    SameOutcome (AlikeBy Body.shape) (readMembers scope line lead ts).result
      (readMembers scope line lead' us).result := by
  -- By induction on the tokens left, since a member is read as a whole; the docblocks of the two
  -- sides have nothing to do with each other.
  induction hn : ts.length using Nat.strongRecOn generalizing lead lead' ts us with
  | ind n ih =>
    subst hn
    cases h with
    | nil =>
      rw [readMembers, readMembers]
      exact fail_alike rfl
    | @cons t u rest rest' htu hrest =>
      have hlt : rest.length < (t :: rest).length := Nat.lt_succ_self _
      have hempty : Lead.Alike {} {} := ⟨rfl, .nil⟩
      rw [readMembers_cons, readMembers_cons, htu.stepOf_eq]
      cases stepOf u with
      | close => exact .ok ⟨rfl, hrest⟩
      | comment => exact ih _ hlt ⟨hlead.modifiers_eq, hlead.types⟩ hrest rfl
      | trivia => exact ih _ hlt hlead hrest rfl
      | modifier word =>
        exact ih _ hlt ⟨congrArg (· ++ [word]) hlead.modifiers_eq, hlead.types⟩ hrest rfl
      | type =>
        exact ih _ hlt ⟨hlead.modifiers_eq, List.rel_append hlead.types (.cons htu .nil)⟩ hrest rfl
      | semicolon => exact ih _ hlt hempty hrest rfl
      | constants =>
        simp only [htu.line_eq]
        rcases (readConstants_alike scope u.line (attached lead.comment).2
            (attached lead'.comment).2 hrest).eq_cases with ⟨e, e', hread, hread', he⟩ |
          ⟨⟨first, others, after⟩, ⟨first', others', after'⟩, hread, hread', hfirst, hothers, hafter⟩
        · rw [hread, hread']
          exact .error he
        · rw [hread, hread']
          refine append_alike ?_
            (ih _ (Nat.lt_trans (readConstants_length hread) hlt) hempty hafter rfl)
          exact congrArg (fun l => (⟨l, [], []⟩ : Body)) (congrArg₂ List.cons hfirst hothers)
      | method =>
        simp only [htu.line_eq]
        rcases (readMethod_alike hlead scope u.line (attached lead.comment).2
            (attached lead'.comment).2 hrest).eq_cases with ⟨e, e', hread, hread', he⟩ |
          ⟨⟨m, after⟩, ⟨m', after'⟩, hread, hread', hm, hafter⟩
        · rw [hread, hread']
          exact .error he
        · rw [hread, hread']
          refine append_alike ?_
            (ih _ (Nat.lt_trans (readMethod_length hread) hlt) hempty hafter rfl)
          exact congrArg (fun m => (⟨[], [], [m]⟩ : Body)) hm
      | properties =>
        have hhead : (lead.propertyHead (attached lead.comment).2).shape =
            (lead'.propertyHead (attached lead'.comment).2).shape := by
          simp only [Lead.propertyHead, PropertyHead.shape, hlead.modifiers_eq,
            presence_compact hlead.types]
        simp only
        rcases (readProperties_alike hhead (.cons htu hrest)).eq_cases with
          ⟨e, e', hread, hread', he⟩ | ⟨⟨ps, after⟩, ⟨ps', after'⟩, hread, hread', hps, hafter⟩
        · rw [hread, hread']
          exact .error he
        · rw [hread, hread']
          refine append_alike ?_ (ih _ (readProperties_length hread) hempty hafter rfl)
          exact congrArg (fun l => (⟨[], l, []⟩ : Body)) hps
      | traitUse =>
        simp only
        rcases (skipTraitUse_alike line hrest).eq_cases with
          ⟨e, e', hread, hread', he⟩ | ⟨after, after', hread, hread', hafter⟩
        · rw [hread, hread']
          exact .error he
        · rw [hread, hread']
          exact ih _ (Nat.lt_trans (skipTraitUse_length hread) hlt) hempty hafter rfl

/-! ## Declarations -/

theorem skipAnonymousClass_cons (line : Int) (t : Token) (rest : List Token) :
    skipAnonymousClass line (t :: rest) =
      if t.isPunct openBrace then skipBalanced line (t :: rest)
      else if t.isPunct "(" then
        match skipBalanced line (t :: rest) with
        | .error e => .error e
        | .ok after => skipAnonymousClass line after
      else skipAnonymousClass line rest := by
  rw [skipAnonymousClass]
  split
  · rfl
  · split
    · split <;> simp only [*]
    · rfl

theorem skipAnonymousClass_alike (line : Int) (h : Alike ts us) :
    SameOutcome Alike (skipAnonymousClass line ts) (skipAnonymousClass line us) := by
  induction hn : ts.length using Nat.strongRecOn generalizing ts us with
  | ind n ih =>
    subst hn
    cases h with
    | nil =>
      rw [skipAnonymousClass]
      exact skipBalanced_alike line .nil
    | @cons t u rest rest' htu hrest =>
      have hskip := skipBalanced_alike line (.cons htu hrest)
      rw [skipAnonymousClass_cons, skipAnonymousClass_cons, htu.isPunct_eq, htu.isPunct_eq]
      split
      · exact hskip
      · split
        · rcases hskip.eq_cases with
            ⟨e, e', hread, hread', he⟩ | ⟨after, after', hread, hread', hafter⟩
          · rw [hread, hread']
            exact .error he
          · rw [hread, hread']
            exact ih _ (skipBalanced_length hread) hafter rfl
        · exact ih _ (Nat.lt_succ_self _) hrest rfl

theorem readParent_alike (line : Int) {t u : Token} (htu : t.Alike u) (h : Alike ts us) :
    SameOutcome (fun a b => presence a.1 = presence b.1 ∧ AlikeNext a.2 b.2) (readParent line t ts)
      (readParent line u us) := by
  unfold readParent
  rw [htu.isKeyword_eq]
  split
  · match significant line ts, significant line us, significant_alike line h with
    | _, _, .error he => exact .error he
    | .ok (first, after), .ok (first', after'), .ok hfirst =>
      obtain ⟨_, hafter⟩ := qualifiedName_alike hfirst
      simp only
      match significant line (qualifiedName (first :: after)).2,
        significant line (qualifiedName (first' :: after')).2, significant_alike line hafter with
      | _, _, .error he => exact .error he
      | _, _, .ok hnext => exact .ok ⟨rfl, hnext⟩
  · exact .ok ⟨rfl, .cons htu h⟩

theorem readNamesAfter_alike (word : Keyword) (line : Int) {t u : Token} (htu : t.Alike u)
    (h : Alike ts us) :
    SameOutcome AlikeNames (readNamesAfter word line t ts) (readNamesAfter word line u us) := by
  unfold readNamesAfter
  rw [htu.isKeyword_eq]
  split
  · exact readNames_alike line h
  · exact .ok ⟨rfl, .cons htu h⟩

theorem readClassHead_alike (line : Int) (name name' : String) (h : Alike ts us) :
    SameOutcome (fun a b => presence a.1 = presence b.1 ∧ AlikeBy (List.map fun _ => "") a.2 b.2)
      (readClassHead line name ts) (readClassHead line name' us) := by
  unfold readClassHead
  match significant line ts, significant line us, significant_alike line h with
  | _, _, .error he => exact .error he
  | .ok (t, ts), .ok (u, us), .ok (.cons htu h) =>
  simp only
  match readParent line t ts, readParent line u us, readParent_alike line htu h with
  | _, _, .error he => exact .error he
  | .ok (parent, t, ts), .ok (parent', u, us), .ok ⟨hparent, .cons htu h⟩ =>
  simp only
  match readNamesAfter .implementsKw line t ts, readNamesAfter .implementsKw line u us,
    readNamesAfter_alike .implementsKw line htu h with
  | _, _, .error he => exact .error he
  | .ok (names, t, ts), .ok (names', u, us), .ok ⟨hnames, .cons htu h⟩ =>
  simp only [htu.isPunct_eq]
  split
  · exact .ok ⟨hparent, hnames, h⟩
  · exact fail_alike htu.line_eq

theorem readClassFrom_alike (scope : String) (line : Int) (modifiers : List Keyword)
    (doc doc' : Option Docblock) (h : Alike ts us) :
    SameOutcome (AlikeBy (Option.map ClassDecl.shape))
      (readClassFrom scope line modifiers doc ts).result
      (readClassFrom scope line modifiers doc' us).result := by
  unfold readClassFrom
  match significant line ts, significant line us, significant_alike line h with
  | _, _, .error he => exact .error he
  | .ok (t, rest), .ok (u, rest'), .ok (.cons htu hrest) =>
    simp only [htu.isKind_eq]
    split
    · match readClassHead line t.content rest, readClassHead line u.content rest',
        readClassHead_alike line t.content u.content hrest with
      | _, _, .error he => exact .error he
      | .ok (parent, names, rest), .ok (parent', names', rest'), .ok ⟨hparent, hnames, hrest⟩ =>
        simp only at hparent hnames
        refine (readMembers_alike scope line ⟨rfl, .nil⟩ hrest).map fun a b hab => ⟨?_, hab.2⟩
        obtain ⟨hconstants, hproperties, hmethods⟩ := Body.mk.inj hab.1
        simp only [Option.map_some, ClassDecl.shape, InterfaceDecl.shape, hparent, hnames,
          hconstants, hproperties, hmethods]
    · exact (skipAnonymousClass_alike line (.cons htu hrest)).map fun _ _ hafter => ⟨rfl, hafter⟩

theorem readInterfaceHead_alike (line : Int) (h : Alike ts us) :
    SameOutcome (fun a b => AlikeBy (List.map fun _ => "") a.2 b.2)
      (readInterfaceHead line ts) (readInterfaceHead line us) := by
  unfold readInterfaceHead
  match significant line ts, significant line us, significant_alike line h with
  | _, _, .error he => exact .error he
  | .ok (name, ts), .ok (name', us), .ok (.cons hname h) =>
  simp only [hname.isKind_eq]
  split
  · match significant line ts, significant line us, significant_alike line h with
    | _, _, .error he => exact .error he
    | .ok (t, ts), .ok (u, us), .ok (.cons htu h) =>
    simp only
    match readNamesAfter .extendsKw line t ts, readNamesAfter .extendsKw line u us,
      readNamesAfter_alike .extendsKw line htu h with
    | _, _, .error he => exact .error he
    | .ok (names, t, ts), .ok (names', u, us), .ok ⟨hnames, .cons htu h⟩ =>
    simp only [htu.isPunct_eq]
    split
    · exact .ok ⟨hnames, h⟩
    · exact fail_alike htu.line_eq
  · exact fail_alike hname.line_eq

theorem readInterfaceFrom_alike (scope : String) (line : Int) (doc doc' : Option Docblock)
    (h : Alike ts us) :
    SameOutcome (AlikeBy InterfaceDecl.shape) (readInterfaceFrom scope line doc ts).result
      (readInterfaceFrom scope line doc' us).result := by
  unfold readInterfaceFrom
  match readInterfaceHead line ts, readInterfaceHead line us, readInterfaceHead_alike line h with
  | _, _, .error he => exact .error he
  | .ok (name, parents, rest), .ok (name', parents', rest'), .ok ⟨hparents, hrest⟩ =>
    simp only at hparents
    refine (readMembers_alike scope line ⟨rfl, .nil⟩ hrest).map fun a b hab => ⟨?_, hab.2⟩
    obtain ⟨hconstants, _, hmethods⟩ := Body.mk.inj hab.1
    simp only [InterfaceDecl.shape, hparents, hconstants, hmethods]

theorem readFunctionFrom_alike (scope : String) (line : Int) (doc doc' : Option Docblock)
    (h : Alike ts us) :
    SameOutcome (AlikeBy (Option.map FunctionDecl.shape)) (readFunctionFrom scope line doc ts)
      (readFunctionFrom scope line doc' us) := by
  unfold readFunctionFrom
  match readSignature line ts, readSignature line us, readSignature_alike line h with
  | _, _, .error he => exact .error he
  | .ok (⟨name, arguments, type, mark, _⟩, rest), .ok (⟨name', arguments', type', mark', _⟩, rest'),
    .ok ⟨hs, hrest⟩ =>
    obtain ⟨hname, harguments, htype, hmark, _⟩ := Signature.mk.inj hs
    simp only at hname harguments htype hmark
    refine .ok ⟨?_, hrest⟩
    cases name <;> cases name'
    · rfl
    · cases hname
    · cases hname
    · simp only [Option.map_some, FunctionDecl.shape, harguments, htype, hmark]

/-! ## Declarations at a cursor -/

/-- Two cursors at the same position of tokens that are alike. -/
structure CursorsAlike (c d : Cursor) : Prop where
  passed : Alike c.passed d.passed
  rest : Alike c.rest d.rest

theorem leadingModifiers_alike (h : Alike ts us) : leadingModifiers ts = leadingModifiers us := by
  have htake := takeWhile_alike (fun _ _ htu => htu.isLeading_eq) h
  unfold leadingModifiers
  generalize ts.takeWhile isLeading = x at htake ⊢
  generalize us.takeWhile isLeading = y at htake ⊢
  induction htake with
  | nil => rfl
  | cons htu _ ih => rw [List.filterMap_cons, List.filterMap_cons, htu.classModifier?_eq, ih]

theorem expect_alike (words : List Keyword) {c d : Cursor} (h : Alike c.rest d.rest) :
    SameOutcome AlikeNext (expect words c) (expect words d) := by
  unfold expect
  match c.rest, d.rest, h with
  | _, _, .nil => exact fail_alike rfl
  | t :: rest, u :: rest', .cons htu hrest =>
    have hwords : words.any t.isKeyword = words.any u.isKeyword :=
      congrArg words.any (funext fun word => htu.isKeyword_eq word)
    simp only [hwords]
    split
    · exact .ok (.cons htu hrest)
    · exact fail_alike htu.line_eq

theorem readClass_alike (scope : String) {c d : Cursor} (h : CursorsAlike c d) :
    SameOutcome (AlikeBy (Option.map ClassDecl.shape)) (readClass scope c).result
      (readClass scope d).result := by
  unfold readClass
  match expect [.classKw] c, expect [.classKw] d, expect_alike [.classKw] h.rest with
  | _, _, .error he => exact .error he
  | .ok (t, rest), .ok (u, rest'), .ok (.cons htu hrest) =>
    have hline : t.line = u.line := htu.line_eq
    simp only [Noted.result_after, hline, leadingModifiers_alike h.passed]
    exact readClassFrom_alike scope u.line _ _ _ hrest

theorem readInterface_alike (scope : String) {c d : Cursor} (h : CursorsAlike c d) :
    SameOutcome (AlikeBy InterfaceDecl.shape) (readInterface scope c).result
      (readInterface scope d).result := by
  unfold readInterface
  match expect [.interfaceKw] c, expect [.interfaceKw] d, expect_alike [.interfaceKw] h.rest with
  | _, _, .error he => exact .error he
  | .ok (t, rest), .ok (u, rest'), .ok (.cons htu hrest) =>
    have hline : t.line = u.line := htu.line_eq
    simp only [Noted.result_after, hline]
    exact readInterfaceFrom_alike scope u.line _ _ hrest

theorem readFunction_alike (scope : String) {c d : Cursor} (h : CursorsAlike c d) :
    SameOutcome (AlikeBy (Option.map FunctionDecl.shape)) (readFunction scope c).result
      (readFunction scope d).result := by
  unfold readFunction
  match expect [.functionKw] c, expect [.functionKw] d, expect_alike [.functionKw] h.rest with
  | _, _, .error he => exact .error he
  | .ok (t, rest), .ok (u, rest'), .ok (.cons htu hrest) =>
    have hline : t.line = u.line := htu.line_eq
    simp only [hline]
    exact readFunctionFrom_alike scope u.line _ _ hrest

theorem readConstant_alike (scope : String) {c d : Cursor} (h : CursorsAlike c d) :
    SameOutcome (AlikeBy ConstantDecl.shape) (readConstant scope c).result
      (readConstant scope d).result := by
  unfold readConstant
  match expect [.constKw] c, expect [.constKw] d, expect_alike [.constKw] h.rest with
  | _, _, .error he => exact .error he
  | .ok (t, rest), .ok (u, rest'), .ok (.cons htu hrest) =>
    have hline : t.line = u.line := htu.line_eq
    simp only [hline, readConstantFrom]
    generalize (attached (leadingComment c.passed)).2 = doc
    generalize (attached (leadingComment d.passed)).2 = doc'
    match readConstants scope u.line doc rest, readConstants scope u.line doc' rest',
      readConstants_alike scope u.line doc doc' hrest with
    | _, _, .error he => exact .error he
    | _, _, .ok ⟨hfirst, _, hafter⟩ => exact .ok ⟨hfirst, hafter⟩

theorem readIncludeTarget_alike (h : Alike ts us) :
    Alike (readIncludeTarget ts).2 (readIncludeTarget us).2 := by
  unfold readIncludeTarget
  simp only
  match (collect [";"] ts).2, (collect [";"] us).2, (collect_alike [";"] h).2 with
  | _, _, .nil => exact .nil
  | _, _, .cons htu hrest =>
    simp only [htu.isPunct_eq]
    split
    · exact hrest
    · exact .cons htu hrest

theorem readInclude_alike (scope : String) {c d : Cursor} (h : CursorsAlike c d) :
    SameOutcome (AlikeBy IncludeDecl.shape) (readInclude scope c).result
      (readInclude scope d).result := by
  unfold readInclude
  match expect includeWords c, expect includeWords d, expect_alike includeWords h.rest with
  | _, _, .error he => exact .error he
  | .ok (t, rest), .ok (u, rest'), .ok (.cons htu hrest) =>
    have hline : t.line = u.line := htu.line_eq
    refine .ok ⟨?_, readIncludeTarget_alike hrest⟩
    simp only [IncludeDecl.shape, hline]

/-! ## Declarations at a position -/

theorem skip_alike (n : Nat) {c d : Cursor} (h : CursorsAlike c d) :
    CursorsAlike (c.skip n) (d.skip n) := by
  induction n generalizing c d with
  | zero => exact h
  | succ n ih =>
    refine ih ?_
    obtain ⟨passed, rest⟩ := c
    obtain ⟨passed', rest'⟩ := d
    obtain ⟨hpassed, hrest⟩ := h
    cases hrest with
    | nil => exact ⟨hpassed, .nil⟩
    | cons htu hrest => exact ⟨.cons htu hpassed, hrest⟩

/-- What a reader finds at a position of a token list without the texts, and the position it ends
    at; if it fails, the line to blame. -/
def shapeAt (shape : α → β) (read : Cursor → Noted (α × List Token)) (ts : List Token) (p : Nat) :
    Except Int (β × Nat) :=
  match (readAt read ts p).result with
  | .error e => .error e.error.line
  | .ok (a, q) => .ok (shape a, q)

theorem shapeAt_eq {shape : α → β} {read : Cursor → Noted (α × List Token)}
    (hread : ∀ {c d : Cursor}, CursorsAlike c d →
      SameOutcome (AlikeBy shape) (read c).result (read d).result)
    (h : Alike ts us) (p : Nat) : shapeAt shape read ts p = shapeAt shape read us p := by
  have hcursors : CursorsAlike (.ofPosition ts p) (.ofPosition us p) := skip_alike p ⟨.nil, h⟩
  unfold shapeAt readAt
  simp only [Noted.result_map]
  match (read (.ofPosition ts p)).result, (read (.ofPosition us p)).result, hread hcursors with
  | _, _, .error he => exact congrArg Except.error he
  | .ok (a, rest), .ok (b, rest'), .ok ⟨hab, hrest⟩ =>
    have hmoved := skip_alike ((Cursor.ofPosition ts p).rest.length - rest.length) hcursors
    have hend : ((Cursor.ofPosition ts p).moveTo rest).position =
        ((Cursor.ofPosition us p).moveTo rest').position := by
      unfold Cursor.moveTo Cursor.position
      rw [hmoved.passed.length_eq, hcursors.rest.length_eq, hrest.length_eq]
    simp only at hab
    simp only [Except.map, hab, hend]

/-- At every position of tokens that are alike the readers fail with the same line or end at the
    same position with declarations of the same shape. -/
theorem shapes_of_alike {ts us : List Token} (h : List.Forall₂ Token.Alike ts us) (scope : String)
    (p : Nat) :
    shapeAt (Option.map ClassDecl.shape) (readClass scope) ts p =
        shapeAt (Option.map ClassDecl.shape) (readClass scope) us p ∧
      shapeAt InterfaceDecl.shape (readInterface scope) ts p =
        shapeAt InterfaceDecl.shape (readInterface scope) us p ∧
      shapeAt (Option.map FunctionDecl.shape) (readFunction scope) ts p =
        shapeAt (Option.map FunctionDecl.shape) (readFunction scope) us p ∧
      shapeAt ConstantDecl.shape (readConstant scope) ts p =
        shapeAt ConstantDecl.shape (readConstant scope) us p ∧
      shapeAt IncludeDecl.shape (readInclude scope) ts p =
        shapeAt IncludeDecl.shape (readInclude scope) us p :=
  ⟨shapeAt_eq (readClass_alike scope) h p, shapeAt_eq (readInterface_alike scope) h p,
    shapeAt_eq (readFunction_alike scope) h p, shapeAt_eq (readConstant_alike scope) h p,
    shapeAt_eq (readInclude_alike scope) h p⟩

/-- A class with a constant, a property and a method: brackets and semicolons in its comments, its
    literals and even its names go unnoticed. -/
theorem shapes_of_alike_class :
    let word (w : Keyword) (s : String) : Token := ⟨some (.keyword w), s, 1⟩
    let typed (k : Kind) (s : String) : Token := ⟨some k, s, 2⟩
    let sign (s : String) : Token := ⟨none, s, 3⟩
    let tokens (comment className constant value var literal method argument : String) :
        List Token :=
      [typed .comment comment, word .finalKw "final", word .classKw "class", typed .name className,
        sign openBrace, word .constKw "const", typed .name constant, sign "=", typed .literal value,
        sign ";", word .privateKw "private", typed .variable var, sign "=", typed .literal literal,
        sign ";", word .functionKw "function", typed .name method, sign "(",
        typed .variable argument, sign ")", sign openBrace, sign closeBrace, sign closeBrace,
        sign ";"]
    let plain := tokens "/* */" "A" "B" "'b'" "$c" "'c'" "f" "$d"
    let tricky := tokens "/* \x7d */" closeBrace "=" "';'" openBrace "'\x7d'" "(" ")"
    let shape : ClassDecl :=
      { name := "", scope := "N", line := 1, isFinal := true
        constants := [{ name := "", scope := "N", line := 2 }]
        properties := [{ name := "", line := 2, visibility := .priv, default := some "" }]
        methods := [{ name := "", scope := "N", line := 1, arguments := [{ name := "", line := 2 }] }] }
    List.Forall₂ Token.Alike plain tricky ∧
      shapeAt (Option.map ClassDecl.shape) (readClass "N") tricky 2 = .ok (some shape, 23) := by
  intro word typed sign tokens plain tricky shape
  have halike : List.Forall₂ Token.Alike plain tricky := by
    repeat first
      | exact .nil
      | refine .cons (.same _) ?_
      | refine .cons (.typed _ _ (by decide) (by decide)) ?_
  refine ⟨halike, (shapes_of_alike halike "N" 2).1.symm.trans ?_⟩
  decide +kernel

end Reading

end PhpOutline
