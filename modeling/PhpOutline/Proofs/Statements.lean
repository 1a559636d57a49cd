import PhpOutline.Proofs.Progress
import PhpOutline.Proofs.ReadersIgnoreRest

/-!
# What members and statements add

The members of a body are read one after another, and each is made of tokens of the body. Each
statement that the pass over a file acts on changes one part of the symbols: the namespace, the
aliases, one of the tables or the list of included files. So what is to hold of all members or of
all symbols has to be shown for one step only.

Results:
* `exists_of_mem_attached`, `Outline.exists_of_mem_fileDocblock`: where docblocks come from.
* `exists_of_mem_readConstants`, `exists_of_mem_readProperties`: what members are made of.
* `readMembers_preserves`: what every step in a body gives, the body has.
* `Symbols.enters_of_handle`: what a statement can do to the symbols.
* `Symbols.collect_preserves`: what every statement keeps, the pass keeps.
-/

namespace PhpOutline

open PhpOutline.Reading

/-! ## Docblocks -/

/-- A docblock that is attached to a declaration was read from its doc comment. -/
theorem exists_of_mem_attached {comment : Option Token} {b : Docblock}
    (h : b ∈ (attached comment).2) :
    ∃ t ∈ comment, Docblock.read t.content t.line = .ok b := by
  cases comment with
  | none => cases h
  | some t =>
    unfold attached at h
    simp only at h
    split at h
    · next block hread =>
      cases h
      exact ⟨t, rfl, hread⟩
    · cases h

namespace Outline

theorem mem_of_firstComment? {limit : Nat} {ts rest : List Token} {t : Token}
    (h : firstComment? limit ts = some (t, rest)) : t ∈ ts ∧ t.isKind .docComment = true := by
  induction limit generalizing ts with
  | zero => cases h
  | succ limit ih =>
    cases ts with
    | nil => cases h
    | cons u later =>
      rw [firstComment?] at h
      split at h
      · next hu =>
        cases h
        exact ⟨List.mem_cons_self, hu⟩
      · split at h
        · cases h
        · exact ⟨List.mem_cons_of_mem _ (ih h).1, (ih h).2⟩

/-- The docblock of a file as a whole was read from one of its doc comments. -/
theorem exists_of_mem_fileDocblock {ts : List Token} {b : Docblock} (h : b ∈ (fileDocblock ts).2) :
    ∃ t ∈ ts, t.isKind .docComment = true ∧ Docblock.read t.content t.line = .ok b := by
  unfold fileDocblock at h
  split at h
  · cases h
  · next t rest hcomment =>
    obtain ⟨hmem, hdoc⟩ := mem_of_firstComment? hcomment
    split at h
    · cases h
    · next block hread =>
      simp only at h
      split at h
      · cases h
        exact ⟨t, List.mem_of_mem_tail hmem, hdoc, hread⟩
      · cases h

end Outline

/-! ## Members -/

namespace Reading

variable {scope : String} {line : Int} {doc : Option Docblock} {ts rest : List Token}

theorem exists_append_of_significant {t : Token} (h : significant line ts = .ok (t, rest)) :
    ∃ front, ts = front ++ t :: rest := by
  obtain ⟨-, front, -, heq⟩ := significant_eq_ok_iff.1 h
  exact ⟨front, heq⟩

theorem append_of_collect {stops : List String} {part after : List Token}
    (h : Reading.collect stops ts = (part, after)) : ts = part ++ after := by
  have happend := collectFrom_append stops 0 ts
  rw [show collectFrom stops 0 ts = (part, after) from h] at happend
  exact happend.symm

theorem mem_of_readReferenceMark {isReference : Bool} {t : Token}
    (h : readReferenceMark line ts = .ok (isReference, t, rest)) : t ∈ ts := by
  obtain ⟨u, first, hfirst, -, ⟨-, hsecond⟩ | ⟨-, rfl, rfl⟩⟩ := readReferenceMark_eq_ok_iff.1 h
  · obtain ⟨before, rfl⟩ := exists_append_of_significant hfirst
    obtain ⟨between, rfl⟩ := exists_append_of_significant hsecond
    simp
  · obtain ⟨before, rfl⟩ := exists_append_of_significant hfirst
    simp

/-- The name of a constant is one of the tokens, and its value is the text of some of them. -/
theorem exists_of_mem_readConstants {first d : ConstantDecl} {others : List ConstantDecl}
    (hread : readConstants scope line doc ts = .ok (first, others, rest))
    (hd : d ∈ first :: others) :
    ∃ name value, name ∈ ts ∧ value <:+: ts ∧
      d = ⟨name.content, scope, name.line, doc, sourceText value⟩ := by
  induction hlen : ts.length using Nat.strongRecOn generalizing ts first others with
  | ind n ih =>
    obtain ⟨head, name, sign, afterSign, value, afterValue, hhead, hname, -, hvalue, rfl, hend⟩ :=
      readConstants_eq_ok_iff.1 hread
    obtain rfl := append_of_collect hhead
    obtain rfl := append_of_collect hvalue
    rcases List.mem_cons.1 hd with rfl | hd
    · have hmem : name ∈ head := (List.mem_filter.1 (List.mem_of_getLast? hname)).1
      exact ⟨name, value, List.mem_append_left _ hmem, ⟨head ++ [sign], afterValue, by simp⟩, rfl⟩
    rcases hend with ⟨-, rfl, -⟩ | ⟨stop, after, rfl, ⟨-, second, later, hlater, rfl⟩ | ⟨-, rfl, -⟩⟩
    · cases hd
    · -- a further constant, after a comma
      have hafter : after <:+ head ++ sign :: (value ++ stop :: after) :=
        ⟨head ++ sign :: (value ++ [stop]), by simp⟩
      have hshort : after.length < n := by
        rw [← hlen]
        simp only [List.length_append, List.length_cons]
        omega
      obtain ⟨name', value', hname', hvalue', heq⟩ := ih _ hshort hlater hd rfl
      exact ⟨name', value', hafter.subset hname', hvalue'.trans hafter.isInfix, heq⟩
    · cases hd

theorem readDefault_isInfix {default : Option String}
    (hread : readDefault line ts = .ok (default, rest)) :
    (∀ v ∈ default, ∃ value, value <:+: ts ∧ v = sourceText value) ∧ rest <:+ ts := by
  obtain ⟨t, first, hfirst, hvalue⟩ := readDefault_eq_ok_iff.1 hread
  obtain ⟨front, rfl⟩ := exists_append_of_significant hfirst
  have hsuffix : first <:+ front ++ t :: first := ⟨front ++ [t], by simp⟩
  rcases hvalue with ⟨-, rfl, rfl⟩ | ⟨-, rfl, rfl⟩
  · have happend := collectFrom_append [",", ";"] 0 first
    constructor
    · intro v hv
      have hpart : (Reading.collect [",", ";"] first).1 <:+: first := ⟨[], _, happend⟩
      exact ⟨_, hpart.trans hsuffix.isInfix, (Option.mem_some_iff.1 hv).symm⟩
    · have hrest : (Reading.collect [",", ";"] first).2 <:+ first := ⟨_, happend⟩
      exact hrest.trans hsuffix
  · exact ⟨fun v hv => absurd hv (Option.not_mem_none v), List.suffix_append _ _⟩

/-- The name of a property is one of the tokens, and its default is the text of some of them. -/
theorem exists_of_mem_readProperties {head : PropertyHead} {properties : List PropertyDecl}
    {d : PropertyDecl} (hread : readProperties head ts = .ok (properties, rest))
    (hd : d ∈ properties) :
    ∃ name default, name ∈ ts ∧
      (∀ v ∈ default, ∃ value, value <:+: ts ∧ v = sourceText value) ∧
      d = ⟨name.content, name.line, head.docblock, head.visibility, head.isStatic, head.type,
        default⟩ := by
  induction hlen : ts.length using Nat.strongRecOn generalizing ts properties with
  | ind n ih =>
    obtain ⟨t, afterName, default, afterDefault, stop, after, hname, -, hdefault, hstop, property,
      later, rfl, rfl, hend⟩ := readProperties_eq_ok_iff.1 hread
    have hlt := significant_length hname
    have hle := readDefault_length hdefault
    have hlt' := significant_length hstop
    obtain ⟨hvalue, hrest⟩ := readDefault_isInfix hdefault
    obtain ⟨front, rfl⟩ := exists_append_of_significant hname
    obtain ⟨between, rfl⟩ := exists_append_of_significant hstop
    have hafterName : afterName <:+ front ++ t :: afterName := ⟨front ++ [t], by simp⟩
    rcases List.mem_cons.1 hd with rfl | hd
    · refine ⟨t, default, by simp, fun v hv => ?_, rfl⟩
      obtain ⟨value, hpart, heq⟩ := hvalue v hv
      exact ⟨value, hpart.trans hafterName.isInfix, heq⟩
    · rcases hend with ⟨-, rfl, -⟩ | ⟨-, -, hlater⟩
      · cases hd
      · -- a further property, after a comma
        have hafter : after <:+ front ++ t :: afterName :=
          (List.suffix_cons stop after).trans
            ((List.suffix_append between _).trans (hrest.trans hafterName))
        obtain ⟨name, default', hmem, hvalue', heq⟩ := ih after.length (by omega) hlater hd rfl
        refine ⟨name, default', hafter.subset hmem, fun v hv => ?_, heq⟩
        obtain ⟨value, hpart, hv⟩ := hvalue' v hv
        exact ⟨value, hpart.trans hafter.isInfix, hv⟩

theorem MemberStep.suffix {lead lead' : Lead} {after : List Token} {notes : List DocblockError}
    {part : Body} (h : MemberStep scope line lead ts notes part lead' after) : after <:+ ts := by
  cases after with
  | nil => exact List.nil_suffix
  | cons u after =>
    obtain ⟨taken, rfl, -⟩ := h.takes
    exact List.suffix_append _ _

/-- What every step in a body gives, all members of the body have, if `I` is what the steps need and
    keep. -/
theorem readMembers_preserves {P : Body → Prop} {I : Lead → List Token → Prop} (hempty : P {})
    (happend : ∀ {a b : Body}, P a → P b → P (a.append b))
    (hstep : ∀ {lead lead' : Lead} {ts after : List Token} {notes : List DocblockError} {part : Body},
      MemberStep scope line lead ts notes part lead' after → I lead ts → P part ∧ I lead' after)
    {lead : Lead} {notes : List DocblockError} {body : Body} (h : I lead ts)
    (hread : readMembers scope line lead ts = ⟨notes, .ok (body, rest)⟩) : P body := by
  induction hlen : ts.length using Nat.strongRecOn generalizing ts lead notes body with
  | ind n ih =>
    rcases readMembers_eq_ok_iff.1 hread with
      ⟨t, rfl, -, -, rfl⟩ |
      ⟨before, part, lead', after, later, members, hmember, hlater, -, rfl⟩
    · exact hempty
    · obtain ⟨hpart, hnext⟩ := hstep hmember h
      exact happend hpart (ih _ (hlen ▸ hmember.length) hnext hlater rfl)

end Reading

/-! ## Tables -/

theorem Table.mem_put {α : Type} {name : String} {value : α} {table : Table α} {e : String × α}
    (h : e ∈ table.put name value) : e = (name, value) ∨ e ∈ table := by
  induction table with
  | nil => exact .inl (List.mem_singleton.1 h)
  | cons entry later ih =>
    obtain ⟨key, old⟩ := entry
    rw [put] at h
    split at h
    · next hkey =>
      rcases List.mem_cons.1 h with rfl | h
      · exact .inl (by rw [hkey])
      · exact .inr (List.mem_cons_of_mem _ h)
    · rcases List.mem_cons.1 h with rfl | h
      · exact .inr List.mem_cons_self
      · exact (ih h).imp_right (List.mem_cons_of_mem _)

theorem Table.forall_put {α : Type} {P : String × α → Prop} {table : Table α} {name : String}
    {value : α} (h : ∀ e ∈ table, P e) (hvalue : P (name, value)) :
    ∀ e ∈ table.put name value, P e := by
  intro e he
  rcases mem_put he with rfl | he
  · exact hvalue
  · exact h e he

theorem Table.forall_foldl_put {α : Type} {P : String × α → Prop} {entries : List (String × α)}
    {table : Table α} (h : ∀ e ∈ table, P e) (hentries : ∀ e ∈ entries, P e) :
    ∀ e ∈ entries.foldl (fun table e => Table.put e.1 e.2 table) table, P e := by
  induction entries generalizing table with
  | nil => exact h
  | cons entry later ih =>
    rw [List.forall_mem_cons] at hentries
    exact ih (Table.forall_put h hentries.1) hentries.2

namespace Symbols

variable {s s' : Symbols} {c after : Cursor} {t : Token} {rest : List Token}

/-! ## Statements -/

/-- What a statement does to the symbols, if `c` is at its keyword `t` and `rest` comes after it. -/
inductive Enters (s : Symbols) (c : Cursor) (t : Token) (rest : List Token) : Symbols → Prop
  | scope : Enters s c t rest { s with scope := (readNamespace c).1.getD s.scope }
  | use : Enters s c t rest
      { s with aliases := (readUse rest).1.foldl (fun table e => Table.put e.1 e.2 table) s.aliases }
  | interface {d notes left} : t.isKeyword .interfaceKw = true →
      readInterfaceFrom s.scope t.line (attached (leadingComment c.passed)).2 rest =
        ⟨notes, .ok (d, left)⟩ →
      Enters s c t rest { s with interfaces := s.interfaces.put d.name d }
  | classDef {d notes left} : t.isKeyword .classKw = true →
      readClassFrom s.scope t.line (leadingModifiers c.passed)
        (attached (leadingComment c.passed)).2 rest = ⟨notes, .ok (some d, left)⟩ →
      Enters s c t rest { s with classes := s.classes.put d.name d }
  | function {d left} : t.isKeyword .functionKw = true →
      readFunctionFrom s.scope t.line (attached (leadingComment c.passed)).2 rest =
        .ok (some d, left) →
      Enters s c t rest { s with functions := s.functions.put d.name d }
  | unnamed : Enters s c t rest s
  | constant {d others left} :
      readConstants s.scope t.line (attached (leadingComment c.passed)).2 rest =
        .ok (d, others, left) →
      Enters s c t rest { s with constants := s.constants.put d.name d }
  | inclusion {k} : k ∈ includeWords → t.isKeyword k = true →
      Enters s c t rest { s with includes := s.includes ++
        [⟨(readIncludeTarget rest).1, Text.lowered t.content, s.scope, t.line,
          (attached (leadingComment c.passed)).2⟩] }

theorem exists_read_of_handled {α : Type} {enter : α → List Event × Symbols}
    {n : Noted (α × List Token)} (h : (handled c enter n).result = .ok (s', after)) :
    ∃ a rest, n.result = .ok (a, rest) ∧ s' = (enter a).2 := by
  unfold handled at h
  simp only at h
  split at h
  · cases h
  · next a rest hresult =>
    cases h
    exact ⟨a, rest, hresult, rfl⟩

/-- A statement that is carried out does one of these things to the symbols. -/
theorem enters_of_handle {st : Statement} (hrest : c.rest = t :: rest)
    (hst : statement? t = some st) (h : (s.handle c st).result = .ok (s', after)) :
    Enters s c t rest s' := by
  have ht := statement?_eq_some_iff.1 hst
  cases st with
  | scope =>
    obtain rfl : { s with scope := (readNamespace c).1.getD s.scope } = s' :=
      (Prod.mk.inj (Except.ok.inj h)).1
    exact .scope
  | use =>
    cases h
    rw [hrest]
    exact .use
  | interface =>
    obtain ⟨d, left, hread, rfl⟩ := exists_read_of_handled h
    rw [readInterface_eq hrest ht, Noted.result_after] at hread
    exact .interface (by simpa [Statement.words] using ht) (Noted.eq_mk hread)
  | classDef =>
    obtain ⟨d, left, hread, rfl⟩ := exists_read_of_handled h
    rw [readClass_eq hrest ht, Noted.result_after] at hread
    cases d with
    | none => exact .unnamed
    | some d => exact .classDef (by simpa [Statement.words] using ht) (Noted.eq_mk hread)
  | function =>
    obtain ⟨d, left, hread, rfl⟩ := exists_read_of_handled h
    rw [readFunction_eq hrest ht] at hread
    cases d with
    | none => exact .unnamed
    | some d => exact .function (by simpa [Statement.words] using ht) hread
  | constant =>
    obtain ⟨d, left, hread, rfl⟩ := exists_read_of_handled h
    rw [readConstant_eq hrest ht] at hread
    obtain ⟨others, hconstants⟩ := readConstantFrom_eq_ok_iff.1 hread
    exact .constant hconstants
  | inclusion =>
    obtain ⟨d, left, hread, rfl⟩ := exists_read_of_handled h
    rw [readInclude_eq hrest ht] at hread
    cases hread
    obtain ⟨k, hk, hkeyword⟩ := List.any_eq_true.1 ht
    exact .inclusion hk hkeyword

/-! ## The pass -/

/-- What every statement keeps, the pass over a file keeps. -/
theorem collect_preserves {P : Symbols → Prop} {tokens : List Token}
    (hstep : ∀ {s s' : Symbols} {c : Cursor} {t : Token} {rest : List Token}, P s →
      c.toList = tokens → c.rest = t :: rest → Enters s c t rest s' → P s')
    (hs : P s) (h : c.toList = tokens) (hcollect : (s.collect c).2 = .ok s') : P s' := by
  -- by induction on the tokens from the cursor on, as every round moves it forward
  induction hlen : c.rest.length using Nat.strongRecOn generalizing s c with
  | ind n ih =>
    cases hrest : c.rest with
    | nil =>
      have hc : c.current = none := by rw [Cursor.current, hrest, List.head?_nil]
      rw [collect_of_end hc] at hcollect
      cases hcollect
      exact hs
    | cons t rest =>
      have hc : c.current = some t := by rw [Cursor.current, hrest, List.head?_cons]
      have hpos : 0 < c.rest.length := by rw [hrest]; exact Nat.succ_pos _
      cases hst : statement? t with
      | none =>
        rw [collect_of_inert hc hst] at hcollect
        refine ih _ ?_ hs (by rwa [Cursor.toList_advance]) hcollect rfl
        rw [Cursor.rest_advance, List.length_tail]
        omega
      | some st =>
        rw [collect_of_statement hc hst] at hcollect
        cases hhandle : (s.handle c st).result with
        | error e =>
          rw [hhandle] at hcollect
          cases hcollect
        | ok out =>
          obtain ⟨next, after⟩ := out
          rw [hhandle] at hcollect
          have hnext := hstep hs h hrest (enters_of_handle hrest hst hhandle)
          exact ih _ (hlen ▸ handle_length hpos hhandle) hnext (by rwa [toList_handle hhandle])
            hcollect rfl

end Symbols

end PhpOutline
