import PhpOutline.Proofs.Spelling
import PhpOutline.Proofs.Statements

/-!
# What is reported is in the source

Everything in the outline of a file can be found in its text. A constant, a property and an argument
stand by name on their line. A class, an interface, a function, a method and an included file have
their keyword on their line and their name after it. Values and defaults are parts of the text, and
a docblock has its opening on its line.

Results:
* `TailOf.onLine`, `TailOf.headed`, `TailOf.occurs`: from tokens to the text.
* `readSignature_inSource`, `readMembers_inSource`: headers and bodies.
* `readClass_inSource` and the like: declarations at a cursor.
* `Symbols.Enters.inSource`, `Symbols.collect_inSource`: one statement and the whole pass.
* `outline_inSource`: the outline of a file.
-/

namespace PhpOutline

open PhpOutline.Text PhpOutline.Reading

/-! ## Places in a text -/

/-- A text stands on a line of a source text: that line is one more than the line feeds before
    it. -/
def OnLine (source : String) (line : Int) (text : String) : Prop :=
  ∃ before after, source.toList = before ++ (text.toList ++ after) ∧ line = 1 + newlines before

/-- A keyword stands on a line of a source text, in some ASCII case, and a name somewhere after
    it. -/
def Headed (source : String) (line : Int) (keyword name : String) : Prop :=
  ∃ before word after, source.toList = before ++ (word ++ after) ∧ line = 1 + newlines before ∧
    word.map Char.toLower = keyword.toList ∧ name.toList <:+: after

/-- A text is a part of a source text. -/
def Occurs (source text : String) : Prop := text.toList <:+: source.toList

/-! ## Declarations in a text -/

/-- A docblock has its opening on its line. -/
def Docblock.InSource (source : String) (b : Docblock) : Prop := OnLine source b.line "/**"

/-- An argument stands on its line, and its default is in the text. -/
structure Argument.InSource (source : String) (a : Argument) : Prop where
  name : OnLine source a.line a.name
  default : ∀ v ∈ a.default, Occurs source v

/-- A function or method has its keyword on its line and its name after it. -/
structure FunctionDecl.InSource (source : String) (f : FunctionDecl) : Prop where
  head : Headed source f.line "function" f.name
  docblock : ∀ b ∈ f.docblock, b.InSource source
  arguments : ∀ a ∈ f.arguments, a.InSource source

/-- A property stands on its line, and its default is in the text. -/
structure PropertyDecl.InSource (source : String) (p : PropertyDecl) : Prop where
  name : OnLine source p.line p.name
  docblock : ∀ b ∈ p.docblock, b.InSource source
  default : ∀ v ∈ p.default, Occurs source v

/-- A constant stands on its line, and its value is in the text. -/
structure ConstantDecl.InSource (source : String) (c : ConstantDecl) : Prop where
  name : OnLine source c.line c.name
  docblock : ∀ b ∈ c.docblock, b.InSource source
  value : Occurs source c.value

/-- An included file has its keyword on its line and its name after it. -/
structure IncludeDecl.InSource (source : String) (i : IncludeDecl) : Prop where
  head : Headed source i.line i.type i.name
  docblock : ∀ b ∈ i.docblock, b.InSource source
  name : Occurs source i.name

/-- An interface, or what a class has in common with one, has its keyword on its line and its name
    after it, and its members are in the text. -/
structure InterfaceDecl.InSource (source keyword : String) (i : InterfaceDecl) : Prop where
  head : Headed source i.line keyword i.name
  docblock : ∀ b ∈ i.docblock, b.InSource source
  constants : ∀ c ∈ i.constants, c.InSource source
  methods : ∀ m ∈ i.methods, m.toFunctionDecl.InSource source

/-- A class has its keyword on its line and its name after it, and its members are in the text. -/
structure ClassDecl.InSource (source : String) (c : ClassDecl) : Prop where
  toInterface : c.toInterfaceDecl.InSource source "class"
  properties : ∀ p ∈ c.properties, p.InSource source

/-- The members of a body are in the text. -/
structure Body.InSource (source : String) (b : Body) : Prop where
  constants : ∀ c ∈ b.constants, c.InSource source
  properties : ∀ p ∈ b.properties, p.InSource source
  methods : ∀ m ∈ b.methods, m.toFunctionDecl.InSource source

/-- All declarations of a file are in its text. -/
structure Symbols.InSource (source : String) (s : Symbols) : Prop where
  interfaces : ∀ e ∈ s.interfaces, e.2.InSource source "interface"
  classes : ∀ e ∈ s.classes, e.2.InSource source
  functions : ∀ e ∈ s.functions, e.2.InSource source
  constants : ∀ e ∈ s.constants, e.2.InSource source
  includes : ∀ i ∈ s.includes, i.InSource source

/-- All that an outline reports is in the text of the file. -/
structure Outline.InSource (source : String) (o : Outline) : Prop where
  symbols : o.symbols.InSource source
  docblock : ∀ b ∈ o.docblock, b.InSource source

/-! ## Tokens in a text -/

/-- The tokens are the last ones of a source text: each is spelled as its kind demands, stands on
    its line and has the tokens after it as the rest of the text. -/
def TailOf (source : String) (ts : List Token) : Prop :=
  ∀ front t back, ts = front ++ t :: back → t.Spelled ∧
    ∃ before, source.toList = before ++ (t.content.toList ++ (joined back).toList) ∧
      t.line = 1 + newlines before

theorem tailOf_lex {source : String} {ts : List Token} (h : lex source = .ok ts) :
    TailOf source ts := by
  obtain ⟨after, hscan⟩ := lexFrom_eq_ok_iff.1 h
  have hcovers := hscan.covers
  rintro front t back rfl
  refine ⟨hscan.spelled t (by simp), (joined front).toList, ?_, ?_⟩
  · rw [← hcovers.joined_eq, toList_joined_append, toList_joined_cons]
  · have hline := hcovers.line_eq front.length t (by simp)
    rwa [List.take_left] at hline

theorem isInfix_content {ts : List Token} {t : Token} (h : t ∈ ts) :
    t.content.toList <:+: (joined ts).toList := by
  obtain ⟨front, back, rfl⟩ := List.append_of_mem h
  rw [toList_joined_append, toList_joined_cons, ← List.append_assoc]
  exact List.infix_append _ _ _

theorem isInfix_trim (cs : List Char) : trim cs <:+: cs := by
  have hstart : trimStart cs <:+ cs := List.dropWhile_suffix _
  have hend : trimEnd (trimStart cs) <+: trimStart cs := by
    rw [← List.reverse_suffix, trimEnd, List.reverse_reverse]
    exact List.dropWhile_suffix _
  exact hend.isInfix.trans hstart.isInfix

theorem isInfix_sourceText (part : List Token) :
    (sourceText part).toList <:+: (joined part).toList := by
  rw [sourceText, trimmed, String.toList_ofList]
  exact isInfix_trim _

theorem isInfix_joined {part ts : List Token} (h : part <:+: ts) :
    (joined part).toList <:+: (joined ts).toList := by
  obtain ⟨front, back, rfl⟩ := h
  rw [toList_joined_append, toList_joined_append]
  exact List.infix_append _ _ _

namespace TailOf

variable {source : String} {ts rest taken : List Token} {t : Token}

theorem append (h : TailOf source (taken ++ rest)) : TailOf source rest := by
  rintro front t back rfl
  exact h (taken ++ front) t back (by rw [List.append_assoc])

theorem suffix (h : TailOf source ts) (hrest : rest <:+ ts) : TailOf source rest := by
  obtain ⟨taken, rfl⟩ := hrest
  exact h.append

theorem tail (h : TailOf source (t :: rest)) : TailOf source rest :=
  append (show TailOf source ([t] ++ rest) from h)

theorem onLine (h : TailOf source ts) (ht : t ∈ ts) : OnLine source t.line t.content := by
  obtain ⟨front, back, heq⟩ := List.append_of_mem ht
  obtain ⟨-, before, hsource, hline⟩ := h front t back heq
  exact ⟨before, (joined back).toList, hsource, hline⟩

/-- The text of the tokens ends the source text. -/
theorem joined_suffix (h : TailOf source ts) : (joined ts).toList <:+ source.toList := by
  cases ts with
  | nil => exact List.nil_suffix
  | cons t back =>
    obtain ⟨-, before, hsource, -⟩ := h [] t back rfl
    rw [toList_joined_cons, hsource]
    exact List.suffix_append _ _

theorem occurs (h : TailOf source ts) {part : List Token} (hpart : part <:+: ts) :
    Occurs source (sourceText part) :=
  ((isInfix_sourceText part).trans (isInfix_joined hpart)).trans h.joined_suffix.isInfix

theorem headed (h : TailOf source (t :: ts)) {k : Keyword} {name : String}
    (hplain : k.isPlain = true) (hk : t.isKeyword k = true)
    (hname : name.toList <:+: (joined ts).toList) : Headed source t.line k.spelling name := by
  obtain ⟨hspelled, before, hsource, hline⟩ := h [] t ts rfl
  exact ⟨before, t.content.toList, (joined ts).toList, hsource, hline,
    hspelled.map_toLower hplain hk, hname⟩

/-- A doc comment has its opening on its line. -/
theorem opening (h : TailOf source ts) (ht : t ∈ ts) (hdoc : t.isKind .docComment = true) :
    OnLine source t.line "/**" := by
  obtain ⟨front, back, heq⟩ := List.append_of_mem ht
  obtain ⟨hspelled, before, hsource, hline⟩ := h front t back heq
  obtain ⟨more, hmore⟩ := hspelled.docComment hdoc
  refine ⟨before, more ++ (joined back).toList, ?_, hline⟩
  rw [hsource, ← hmore, List.append_assoc]
  rfl

end TailOf

/-! ## Docblocks -/

theorem Docblock.line_of_read {raw : String} {line : Int} {b : Docblock}
    (h : Docblock.read raw line = .ok b) : b.line = line := by
  unfold Docblock.read at h
  split at h
  · cases h
  · unfold Docblock.ofBody at h
    simp only at h
    split at h
    · cases h
    · rename_i block hblock
      split at hblock
      · cases hblock
      · cases hblock
        cases h
        rfl

/-- A doc comment that is kept for a declaration has its opening on its line. -/
def CommentInSource (source : String) (comment : Option Token) : Prop :=
  ∀ t ∈ comment, OnLine source t.line "/**"

theorem commentInSource_none (source : String) : CommentInSource source none := by
  intro t ht
  cases ht

theorem attached_inSource {source : String} {comment : Option Token}
    (h : CommentInSource source comment) : ∀ b ∈ (attached comment).2, b.InSource source := by
  intro b hb
  obtain ⟨t, ht, hread⟩ := exists_of_mem_attached hb
  rw [Docblock.InSource, Docblock.line_of_read hread]
  exact h t ht

theorem Body.inSource_empty (source : String) : Body.InSource source {} :=
  ⟨List.forall_mem_nil _, List.forall_mem_nil _, List.forall_mem_nil _⟩

theorem Body.InSource.append {source : String} {a b : Body} (ha : a.InSource source)
    (hb : b.InSource source) : (a.append b).InSource source :=
  ⟨fun d hd => (List.mem_append.1 hd).elim (ha.constants d) (hb.constants d),
    fun d hd => (List.mem_append.1 hd).elim (ha.properties d) (hb.properties d),
    fun d hd => (List.mem_append.1 hd).elim (ha.methods d) (hb.methods d)⟩

namespace Reading

variable {source scope : String} {line : Int} {doc : Option Docblock} {ts rest : List Token}

/-! ## Headers of functions -/

theorem argument?_inSource {group : List Token} {a : Argument} (h : TailOf source ts)
    (hgroup : group <:+: ts) (ha : argument? group = some a) : a.InSource source := by
  unfold argument? at ha
  split at ha
  · cases ha
  · rename_i var tail hdrop
    obtain ⟨-, front, -, rfl⟩ := dropWhile_eq_cons_iff.1 hdrop
    cases ha
    constructor
    · exact h.onLine (hgroup.subset (by simp))
    · intro v hv
      simp only at hv
      split at hv
      · cases hv
      · rename_i sign value hvalue
        rw [← Option.mem_some_iff.1 hv]
        obtain ⟨-, before, -, rfl⟩ := dropWhile_eq_cons_iff.1 hvalue
        have hpart : value <:+: front ++ var :: (before ++ sign :: value) :=
          ⟨front ++ var :: (before ++ [sign]), [], by simp⟩
        exact h.occurs (hpart.trans hgroup)

/-- The first parameter starts the list, and the others are parts of it. -/
theorem splitParameters?_isInfix {depth : Int} {group : List Token} {groups : List (List Token)}
    (h : splitParameters? depth ts = some (group, groups, rest)) :
    group <+: ts ∧ ∀ g ∈ groups, g <:+: ts := by
  induction ts generalizing depth group groups with
  | nil => cases h
  | cons t later ih =>
    rw [splitParameters?] at h
    split at h
    · cases h
      exact ⟨⟨_, rfl⟩, List.forall_mem_nil _⟩
    · split at h
      · obtain ⟨⟨first, others, after⟩, hrec, heq⟩ := Option.map_eq_some_iff.1 h
        cases heq
        obtain ⟨hfirst, hothers⟩ := ih hrec
        refine ⟨⟨_, rfl⟩, fun g hg => ?_⟩
        have hlater : g <:+: later := by
          rcases List.mem_cons.1 hg with rfl | hg
          · exact hfirst.isInfix
          · exact hothers g hg
        exact hlater.trans (List.suffix_cons t later).isInfix
      · obtain ⟨⟨first, others, after⟩, hrec, heq⟩ := Option.map_eq_some_iff.1 h
        cases heq
        obtain ⟨hfirst, hothers⟩ := ih hrec
        refine ⟨List.prefix_cons_inj t |>.2 hfirst, fun g hg => ?_⟩
        exact (hothers g hg).trans (List.suffix_cons t later).isInfix

theorem readArguments_inSource {arguments : List Argument} (h : TailOf source ts)
    (hread : readArguments line ts = .ok (arguments, rest)) : ∀ a ∈ arguments, a.InSource source := by
  obtain ⟨group, groups, hsplit, rfl⟩ := readArguments_eq_ok_iff.1 hread
  obtain ⟨hfirst, hothers⟩ := splitParameters?_isInfix hsplit
  intro a ha
  obtain ⟨g, hg, harg⟩ := List.mem_filterMap.1 ha
  rcases List.mem_cons.1 hg with rfl | hg
  · exact argument?_inSource h hfirst.isInfix harg
  · exact argument?_inSource h (hothers g hg) harg

theorem readFunctionName_content {t : Token} {name : Option String}
    (h : readFunctionName line t ts = .ok (name, rest)) : ∀ n ∈ name, n = t.content := by
  intro n hn
  rcases readFunctionName_eq_ok_iff.1 h with ⟨-, rfl, -⟩ | ⟨-, -, rfl, -⟩
  · cases hn
  · cases hn
    rfl

/-- The name of a function is among its tokens, and its arguments are in the text. -/
theorem readSignature_inSource {s : Signature} (h : TailOf source ts)
    (hread : readSignature line ts = .ok (s, rest)) :
    (∀ n ∈ s.name, n.toList <:+: (joined ts).toList) ∧ ∀ a ∈ s.arguments, a.InSource source := by
  obtain ⟨t, afterMark, afterName, afterArguments, _, _, _, _, hmark, hname, harguments, -⟩ :=
    readSignature_eq_ok_iff.1 hread
  refine ⟨fun n hn => ?_, ?_⟩
  · rw [readFunctionName_content hname n hn]
    exact isInfix_content (mem_of_readReferenceMark hmark)
  · obtain ⟨mark, rfl, -⟩ := readReferenceMark_takes hmark
    obtain ⟨name, rfl, -⟩ := readFunctionName_takes hname
    exact readArguments_inSource h.append.append harguments

/-! ## Bodies -/

theorem readConstants_inSource {first : ConstantDecl} {others : List ConstantDecl}
    (h : TailOf source ts) (hdoc : ∀ b ∈ doc, b.InSource source)
    (hread : readConstants scope line doc ts = .ok (first, others, rest)) :
    ∀ d ∈ first :: others, d.InSource source := by
  intro d hd
  obtain ⟨name, value, hname, hvalue, rfl⟩ := exists_of_mem_readConstants hread hd
  exact ⟨h.onLine hname, hdoc, h.occurs hvalue⟩

theorem readProperties_inSource {head : PropertyHead} {properties : List PropertyDecl}
    (h : TailOf source ts) (hdoc : ∀ b ∈ head.docblock, b.InSource source)
    (hread : readProperties head ts = .ok (properties, rest)) :
    ∀ p ∈ properties, p.InSource source := by
  intro p hp
  obtain ⟨name, default, hname, hdefault, rfl⟩ := exists_of_mem_readProperties hread hp
  refine ⟨h.onLine hname, hdoc, fun v hv => ?_⟩
  obtain ⟨value, hvalue, rfl⟩ := hdefault v hv
  exact h.occurs hvalue

theorem isKeyword_of_stepOf_method {t : Token} (h : stepOf t = .method) :
    t.isKeyword .functionKw = true := by
  unfold stepOf at h
  split at h <;> grind [Token.isKeyword]

theorem isKind_of_stepOf_comment {t : Token} (h : stepOf t = .comment) :
    t.isKind .docComment = true := by
  unfold stepOf at h
  split at h <;> grind [Token.isKind]

theorem readMethod_inSource {lead : Lead} {t : Token} {m : MethodDecl}
    (h : TailOf source (t :: ts)) (ht : t.isKeyword .functionKw = true)
    (hdoc : ∀ b ∈ doc, b.InSource source)
    (hread : readMethod lead scope t.line doc ts = .ok (m, rest)) :
    m.toFunctionDecl.InSource source := by
  obtain ⟨s, name, hsignature, hname, rfl⟩ := readMethod_eq_ok_iff.1 hread
  obtain ⟨hnames, harguments⟩ := readSignature_inSource h.tail hsignature
  exact ⟨h.headed (k := .functionKw) rfl ht (hnames name hname), hdoc, harguments⟩

/-- A step in a body reads members that are in the text and keeps a doc comment that is. -/
theorem MemberStep.inSource {lead lead' : Lead} {after : List Token} {notes : List DocblockError}
    {part : Body} (hstep : MemberStep scope line lead ts notes part lead' after)
    (h : TailOf source ts) (hlead : CommentInSource source lead.comment) :
    part.InSource source ∧ CommentInSource source lead'.comment := by
  have hnone := commentInSource_none source
  have hempty := Body.inSource_empty source
  cases hstep with
  | comment hstep =>
    refine ⟨hempty, fun u hu => ?_⟩
    rw [← Option.mem_some_iff.1 hu]
    exact h.opening List.mem_cons_self (isKind_of_stepOf_comment hstep)
  | trivia | modifier | type => exact ⟨hempty, hlead⟩
  | semicolon | traitUse => exact ⟨hempty, hnone⟩
  | constants _ hread =>
    have hconstants := readConstants_inSource h.tail (attached_inSource hlead) hread
    exact ⟨{ hempty with constants := hconstants }, hnone⟩
  | method hstep hread =>
    have hmethod := readMethod_inSource h (isKeyword_of_stepOf_method hstep)
      (attached_inSource hlead) hread
    exact ⟨{ hempty with methods := fun m hm => List.mem_singleton.1 hm ▸ hmethod }, hnone⟩
  | properties _ hread =>
    have hproperties := readProperties_inSource h (attached_inSource hlead) hread
    exact ⟨{ hempty with properties := hproperties }, hnone⟩

/-- All members of a body are in the text. -/
theorem readMembers_inSource {lead : Lead} {notes : List DocblockError} {body : Body}
    (h : TailOf source ts) (hlead : CommentInSource source lead.comment)
    (hread : readMembers scope line lead ts = ⟨notes, .ok (body, rest)⟩) : body.InSource source := by
  refine readMembers_preserves
    (I := fun lead ts => TailOf source ts ∧ CommentInSource source lead.comment)
    (Body.inSource_empty source) Body.InSource.append ?_ ⟨h, hlead⟩ hread
  intro lead lead' ts after notes part hstep ⟨h, hlead⟩
  obtain ⟨hpart, hlead'⟩ := hstep.inSource h hlead
  exact ⟨hpart, h.suffix hstep.suffix, hlead'⟩

/-! ## Declarations -/

section Declarations

variable {t : Token}

theorem readClassFrom_inSource {modifiers : List Keyword} {notes : List DocblockError}
    {d : ClassDecl} (h : TailOf source (t :: ts)) (ht : t.isKeyword .classKw = true)
    (hdoc : ∀ b ∈ doc, b.InSource source)
    (hread : readClassFrom scope t.line modifiers doc ts = ⟨notes, .ok (some d, rest)⟩) :
    d.InSource source := by
  obtain ⟨u, first, hfirst, hrest⟩ := readClassFrom_eq_ok_iff.1 hread
  obtain ⟨front, rfl⟩ := exists_append_of_significant hfirst
  rcases hrest with ⟨-, parent, interfaces, afterHead, body, hhead, hbody, hd⟩ | ⟨-, -, hd, -⟩
  · cases hd
    obtain ⟨head, rfl, -⟩ := readClassHead_takes hhead
    have hmembers := readMembers_inSource h.tail.append.tail.append
      (commentInSource_none source) hbody
    have hname : u.content.toList <:+: (joined (front ++ u :: (head ++ afterHead))).toList :=
      isInfix_content (by simp)
    exact ⟨⟨h.headed (k := .classKw) rfl ht hname, hdoc, hmembers.constants, hmembers.methods⟩,
      hmembers.properties⟩
  · cases hd

theorem readInterfaceFrom_inSource {notes : List DocblockError} {d : InterfaceDecl}
    (h : TailOf source (t :: ts)) (ht : t.isKeyword .interfaceKw = true)
    (hdoc : ∀ b ∈ doc, b.InSource source)
    (hread : readInterfaceFrom scope t.line doc ts = ⟨notes, .ok (d, rest)⟩) :
    d.InSource source "interface" := by
  obtain ⟨name, parents, afterHead, body, hhead, hbody, rfl⟩ := readInterfaceFrom_eq_ok_iff.1 hread
  have hname : name.toList <:+: (joined ts).toList := by
    obtain ⟨n, first, _, _, _, hfirst, -, rfl, -⟩ := readInterfaceHead_eq_ok_iff.1 hhead
    obtain ⟨front, rfl⟩ := exists_append_of_significant hfirst
    exact isInfix_content (by simp)
  obtain ⟨head, rfl, -⟩ := readInterfaceHead_takes hhead
  have hmembers := readMembers_inSource h.tail.append (commentInSource_none source) hbody
  exact ⟨h.headed (k := .interfaceKw) rfl ht hname, hdoc, hmembers.constants, hmembers.methods⟩

theorem readFunctionFrom_inSource {d : FunctionDecl} (h : TailOf source (t :: ts))
    (ht : t.isKeyword .functionKw = true) (hdoc : ∀ b ∈ doc, b.InSource source)
    (hread : readFunctionFrom scope t.line doc ts = .ok (some d, rest)) : d.InSource source := by
  obtain ⟨s, hsignature, hd⟩ := readFunctionFrom_eq_ok_iff.1 hread
  obtain ⟨name, hname, rfl⟩ := Option.map_eq_some_iff.1 hd.symm
  obtain ⟨hnames, harguments⟩ := readSignature_inSource h.tail hsignature
  exact ⟨h.headed (k := .functionKw) rfl ht (hnames name hname), hdoc, harguments⟩

theorem isInfix_unquoted {s v : String} (h : unquoted? s = some v) : v.toList <:+: s.toList := by
  unfold unquoted? at h
  split at h
  · rename_i q r hs
    split at h
    · cases h
      have hlast := List.dropLast_prefix r
      rw [hs, String.toList_ofList]
      exact hlast.isInfix.trans (List.suffix_cons q r).isInfix
    · cases h
  · cases h

theorem isInfix_includeTarget (ts : List Token) :
    (includeTarget ts).toList <:+: (joined ts).toList := by
  have hwhole := isInfix_sourceText ts
  unfold includeTarget
  simp only
  split
  · rename_i t hinner
    split
    · cases hquoted : unquoted? t.content with
      | none => exact hwhole
      | some v =>
        have ht : t ∈ ts := by
          -- one token in parentheses, or one token alone
          have hmem : t ∈ ts.filter (!·.isTrivia) := by
            split at hinner
            · rename_i opener u closer hfilter
              split at hinner
              · cases hinner
                rw [hfilter]
                simp
              · cases hinner
            · rw [hinner]
              simp
          exact (List.mem_filter.1 hmem).1
        exact (isInfix_unquoted hquoted).trans (isInfix_content ht)
    · exact hwhole
  · exact hwhole

theorem readInclude_inSource {k : Keyword} (h : TailOf source (t :: ts)) (hk : k ∈ includeWords)
    (ht : t.isKeyword k = true) (hdoc : ∀ b ∈ doc, b.InSource source) :
    IncludeDecl.InSource source
      ⟨(readIncludeTarget ts).1, lowered t.content, scope, t.line, doc⟩ := by
  have hplain : k.isPlain = true := by
    simp only [includeWords, List.mem_cons, List.not_mem_nil, or_false] at hk
    rcases hk with rfl | rfl | rfl | rfl <;> rfl
  have hpart : (joined (Reading.collect [";"] ts).1).toList <:+: (joined ts).toList :=
    isInfix_joined ⟨[], _, collectFrom_append [";"] 0 ts⟩
  have hname : (readIncludeTarget ts).1.toList <:+: (joined ts).toList :=
    (isInfix_includeTarget _).trans hpart
  refine ⟨?_, hdoc, hname.trans h.tail.joined_suffix.isInfix⟩
  -- the type is the text of the keyword in lower case, which is how the keyword is spelled
  rw [(h [] t ts rfl).1.keyword k ht]
  exact h.headed hplain ht hname

end Declarations

theorem leadingComment_inSource {passed : List Token} (h : TailOf source (passed.reverse ++ ts)) :
    CommentInSource source (leadingComment passed) := by
  intro u hu
  obtain ⟨hhead, hdoc⟩ := Option.filter_eq_some_iff.1 hu
  have hmem : u ∈ passed := (List.dropWhile_sublist isLeading).subset (List.mem_of_head? hhead)
  exact h.opening (List.mem_append_left _ (List.mem_reverse.2 hmem)) hdoc

end Reading

/-! ## The pass over a file -/

namespace Symbols

variable {source : String} {s s' : Symbols} {c : Cursor} {t : Token} {rest : List Token}

/-- A statement enters only what is in the text. -/
theorem Enters.inSource (henters : Enters s c t rest s') (hs : s.InSource source)
    (h : TailOf source c.toList) (hrest : c.rest = t :: rest) : s'.InSource source := by
  have htail : TailOf source (t :: rest) := by
    rw [Cursor.toList, hrest] at h
    exact h.append
  have hdoc := attached_inSource (leadingComment_inSource h)
  cases henters with
  | scope | use => exact { hs with }
  | unnamed => exact hs
  | interface ht hread =>
    have hd := readInterfaceFrom_inSource htail ht hdoc hread
    exact { hs with interfaces := Table.forall_put hs.interfaces hd }
  | classDef ht hread =>
    have hd := readClassFrom_inSource htail ht hdoc hread
    exact { hs with classes := Table.forall_put hs.classes hd }
  | function ht hread =>
    have hd := readFunctionFrom_inSource htail ht hdoc hread
    exact { hs with functions := Table.forall_put hs.functions hd }
  | constant hread =>
    have hd := readConstants_inSource htail.tail hdoc hread _ List.mem_cons_self
    exact { hs with constants := Table.forall_put hs.constants hd }
  | inclusion hk ht =>
    refine { hs with includes := List.forall_mem_append.2 ⟨hs.includes, ?_⟩ }
    exact List.forall_mem_singleton.2 (readInclude_inSource htail hk ht hdoc)

/-- The pass over the tokens of a source text enters only what is in the text. -/
theorem collect_inSource (hs : s.InSource source) (h : TailOf source c.toList)
    (hcollect : (s.collect c).2 = .ok s') : s'.InSource source :=
  collect_preserves (fun hs htokens hrest henters => henters.inSource hs (htokens ▸ h) hrest)
    hs rfl hcollect

end Symbols

/-! ## Outlines -/

theorem Outline.fileDocblock_inSource {source : String} {ts : List Token} (h : TailOf source ts) :
    ∀ b ∈ (Outline.fileDocblock ts).2, b.InSource source := by
  intro b hb
  obtain ⟨t, ht, hdoc, hread⟩ := exists_of_mem_fileDocblock hb
  rw [Docblock.InSource, Docblock.line_of_read hread]
  exact h.opening ht hdoc

/-- An outline holds the symbols of the tokens, the markers and the docblock of its source. -/
theorem Outline.exists_tokens_of_ofSource {path contents : String} {terms : List String}
    {outline : Outline} (h : Outline.ofSource path contents terms = .ok outline) :
    ∃ ts, lex contents = .ok ts ∧ (Symbols.collect {} (.ofList ts)).2 = .ok outline.symbols ∧
      outline.markers = Marker.scan terms contents ∧
      outline.docblock = (Outline.fileDocblock ts).2 := by
  unfold Outline.ofSource at h
  cases hlex : lex contents with
  | error e =>
    rw [hlex] at h
    cases h
  | ok ts =>
    rw [hlex] at h
    simp only at h
    split at h
    · cases h
    · rename_i symbols hcollect
      cases h
      exact ⟨ts, rfl, hcollect, rfl, rfl⟩

/-- A file that can be read holds the outline of its source afterwards. -/
theorem SourceFile.exists_ofSource_of_process {f : SourceFile} (hfresh : f.isProcessed = false)
    (h : f.process.error? = none) :
    ∃ outline, Outline.ofSource f.path f.contents f.terms = .ok outline ∧
      f.process.file.toState = { f.toState with outline, isProcessed := true } := by
  cases hsource : Outline.ofSource f.path f.contents f.terms with
  | error e =>
    rw [(SourceFile.process_of_error hfresh hsource).1] at h
    cases h
  | ok outline => exact ⟨outline, rfl, (SourceFile.process_of_ok hfresh hsource).2⟩

/-- What a file that can be read holds afterwards: the symbols of its tokens, its markers and its
    docblock. -/
theorem SourceFile.exists_outline_of_process {f : SourceFile} (hfresh : f.isProcessed = false)
    (h : f.process.error? = none) :
    ∃ ts outline, lex f.contents = .ok ts ∧
      (Symbols.collect {} (.ofList ts)).2 = .ok outline.symbols ∧
      outline.markers = Marker.scan f.terms f.contents ∧
      outline.docblock = (Outline.fileDocblock ts).2 ∧
      f.process.file.toState = { f.toState with outline, isProcessed := true } := by
  obtain ⟨outline, hsource, hfile⟩ := SourceFile.exists_ofSource_of_process hfresh h
  obtain ⟨ts, hlex, hcollect, hmarkers, hdocblock⟩ := Outline.exists_tokens_of_ofSource hsource
  exact ⟨ts, outline, hlex, hcollect, hmarkers, hdocblock, hfile⟩

/-- If a file can be read, then all that its outline reports is in its text, on the line that is
    reported. -/
theorem outline_inSource (f : SourceFile) (hfresh : f.isProcessed = false)
    (h : f.process.error? = none) :
    ∃ outline, f.process.file.outline? = some outline ∧ outline.InSource f.contents := by
  obtain ⟨ts, outline, hlex, hcollect, -, hdocblock, hfile⟩ :=
    SourceFile.exists_outline_of_process hfresh h
  have htail := tailOf_lex hlex
  have hempty : Symbols.InSource f.contents {} :=
    ⟨List.forall_mem_nil _, List.forall_mem_nil _, List.forall_mem_nil _,
      List.forall_mem_nil _, List.forall_mem_nil _⟩
  refine ⟨outline, by rw [hfile]; rfl, ?_, ?_⟩
  · exact Symbols.collect_inSource (c := .ofList ts) hempty htail hcollect
  · rw [hdocblock]
    exact Outline.fileDocblock_inSource htail

/-- A class in capitals with a docblock and a constant on a line of its own, and an included
    file. -/
theorem outline_inSource_class :
    let f : SourceFile :=
      { path := "a.php"
        contents := "<?php /** D */\nCLASS A \x7b\nconst B = [1]; \x7d Require 'c';" }
    f.isProcessed = false ∧
      (f.process.error? = none ∧ f.process.file.outline.symbols.classes.keys = ["A"] ∧
        f.process.file.outline.symbols.includes.map IncludeDecl.type = ["require"]) ∧
      ∃ outline, f.process.file.outline? = some outline ∧ outline.InSource f.contents := by
  intro f
  have hrun : f.process.error? = none ∧ f.process.file.outline.symbols.classes.keys = ["A"] ∧
      f.process.file.outline.symbols.includes.map IncludeDecl.type = ["require"] := by
    decide +kernel
  exact ⟨rfl, hrun, outline_inSource f rfl hrun.1⟩

end PhpOutline
