import Mathlib.Data.List.TakeWhile
import PhpOutline.Proofs.Lifecycle
import PhpOutline.Proofs.Scan
import PhpOutline.Proofs.Statements

/-!
# The line of an error

A reader that fails blames a line: that of the keyword of the declaration, which is handed down to
it, or that of the token it stopped at. Both are lines of tokens. The one exception is a list of
properties, which is handed no line; if the text ends after a comma of such a list, line zero is
blamed, which no token is on.

Results:
* `significant_suffix`, `readNames_suffix`, `readReturnType_suffix`: the token after a part.
* `readSignature_blames`, `readConstants_blames`, `readClassHead_blames`: readers that blame tokens.
* `readProperties_located`, `readMembers_located`: lists of properties, and bodies.
* `Symbols.exists_of_collect_error`: the pass over a file fails in one statement.
* `process_error_line`: the line of an error that stops the reading of a file.
-/

namespace PhpOutline

open PhpOutline.Text

namespace Reading

/-! ## Tokens after a part -/

section Suffixes

variable {line : Int} {t u : Token} {ts rest : List Token}

theorem Takes.suffix {γ : Type} {read : List Token → γ} {out : List Token → γ}
    (h : Takes read ts rest out) : rest <:+ ts := by
  obtain ⟨taken, rfl, -⟩ := h
  exact List.suffix_append taken rest

theorem significant_suffix (h : significant line ts = .ok (t, rest)) : t :: rest <:+ ts := by
  obtain ⟨front, rfl⟩ := exists_append_of_significant h
  exact List.suffix_append front (t :: rest)

theorem collect_suffix (stops : List String) (ts : List Token) :
    (Reading.collect stops ts).2 <:+ ts :=
  ⟨_, collectFrom_append stops 0 ts⟩

theorem qualifiedName_suffix (ts : List Token) : (qualifiedName ts).2 <:+ ts :=
  List.dropWhile_suffix _

theorem readNames_suffix {names : List String} (h : readNames line ts = .ok (names, t, rest)) :
    t :: rest <:+ ts := by
  fun_induction readNames line ts generalizing names with
  | case1 => cases h
  | case2 => cases h
  | case3 => cases h
  | case4 ts first afterFirst hfirst name afterName hname next after hnext hcomma hlt names' p hrec
      ih =>
    cases h
    have hafterName := qualifiedName_suffix (first :: afterFirst)
    rw [hname] at hafterName
    have hafter := (List.suffix_cons next after).trans (significant_suffix hnext)
    exact (((ih hrec).trans hafter).trans hafterName).trans (significant_suffix hfirst)
  | case5 ts first afterFirst hfirst name afterName hname next after hnext hcomma =>
    cases h
    have hafterName := qualifiedName_suffix (first :: afterFirst)
    rw [hname] at hafterName
    exact ((significant_suffix hnext).trans hafterName).trans (significant_suffix hfirst)

theorem readReferenceMark_suffix {mark : Bool}
    (h : readReferenceMark line ts = .ok (mark, t, rest)) : t :: rest <:+ ts := by
  obtain ⟨u, first, hfirst, -, ⟨-, hnext⟩ | ⟨-, rfl, rfl⟩⟩ := readReferenceMark_eq_ok_iff.1 h
  · exact ((significant_suffix hnext).trans (List.suffix_cons u first)).trans
      (significant_suffix hfirst)
  · exact significant_suffix hfirst

theorem readClosureUse_suffix {isClosure : Bool}
    (h : readClosureUse line isClosure ts = .ok (t, rest)) : t :: rest <:+ ts := by
  obtain ⟨u, first, hfirst, hend⟩ := readClosureUse_eq_ok_iff.1 h
  rcases hend with ⟨-, -, opener, after, used, hopener, hskip, hnext⟩ | ⟨-, rfl, rfl⟩
  · have hused := (skipBalanced_cons_takes hskip).suffix.trans (List.suffix_cons opener after)
    exact (((significant_suffix hnext).trans hused).trans (significant_suffix hopener)).trans
      ((List.suffix_cons u first).trans (significant_suffix hfirst))
  · exact significant_suffix hfirst

theorem readReturnType_suffix {type : Option String}
    (h : readReturnType line t ts = .ok (type, u, rest)) : u :: rest <:+ t :: ts := by
  rcases readReturnType_eq_ok_iff.1 h with ⟨-, -, hnext⟩ | ⟨-, -, rfl, rfl⟩
  · exact ((significant_suffix hnext).trans (collect_suffix _ ts)).trans (List.suffix_cons t ts)
  · exact List.suffix_rfl

theorem readParent_suffix {parent : Option String}
    (h : readParent line t ts = .ok (parent, u, rest)) : u :: rest <:+ t :: ts := by
  rcases readParent_eq_ok_iff.1 h with ⟨-, v, first, hfirst, -, hnext⟩ | ⟨-, -, rfl, rfl⟩
  · exact (((significant_suffix hnext).trans (qualifiedName_suffix _)).trans
      (significant_suffix hfirst)).trans (List.suffix_cons t ts)
  · exact List.suffix_rfl

theorem readNamesAfter_suffix {word : Keyword} {names : List String}
    (h : readNamesAfter word line t ts = .ok (names, u, rest)) : u :: rest <:+ t :: ts := by
  rcases readNamesAfter_eq_ok_iff.1 h with ⟨-, hnames⟩ | ⟨-, -, rfl, rfl⟩
  · exact (readNames_suffix hnames).trans (List.suffix_cons t ts)
  · exact List.suffix_rfl

theorem readConstants_suffix {scope : String} {doc : Option Docblock} {first : ConstantDecl}
    {others : List ConstantDecl} (h : readConstants scope line doc ts = .ok (first, others, rest)) :
    rest <:+ ts := by
  cases rest with
  | nil => exact List.nil_suffix
  | cons t rest =>
    obtain ⟨taken, rfl, -⟩ := readConstants_takes h
    exact List.suffix_append taken (t :: rest)

end Suffixes

/-! ## Readers that blame tokens -/

/-- The error blames a line that one of the tokens is on. -/
def Blames (all : List Token) (e : ParseError) : Prop := e.line ∈ all.map Token.line

section Blame

variable {all : List Token} {line : Int} {t : Token} {ts rest : List Token} {e : Failure}

theorem line_mem_of_suffix (h : t :: ts <:+ all) : t.line ∈ all.map Token.line :=
  List.mem_map_of_mem (h.subset List.mem_cons_self)

theorem tail_suffix (h : t :: ts <:+ all) : ts <:+ all := (List.suffix_cons t ts).trans h

theorem significant_eq_error (h : significant line ts = .error e) :
    e.error = ⟨.endOfFile, line⟩ ∧ ∀ t ∈ ts, t.isTrivia = true := by
  unfold significant at h
  split at h
  · rename_i htrivia
    cases h
    exact ⟨rfl, List.dropWhile_eq_nil_iff.1 htrivia⟩
  · cases h

theorem significant_blames (hline : line ∈ all.map Token.line)
    (h : significant line ts = .error e) : Blames all e.error := by
  rw [Blames, (significant_eq_error h).1]
  exact hline

theorem skipBalanced_blames (hline : line ∈ all.map Token.line)
    (h : skipBalanced line ts = .error e) : Blames all e.error := by
  unfold skipBalanced at h
  split at h
  · cases h
  · cases h
    exact hline

theorem readNames_blames (hline : line ∈ all.map Token.line) (h : readNames line ts = .error e) :
    Blames all e.error := by
  fun_induction readNames line ts with
  | case1 ts e' hfirst =>
    cases h
    exact significant_blames hline hfirst
  | case2 ts first afterFirst hfirst name afterName hname e' hnext =>
    cases h
    exact significant_blames hline hnext
  | case3 ts first afterFirst hfirst name afterName hname next after hnext hcomma hlt e' hrec ih =>
    cases h
    exact ih hrec
  | case4 => cases h
  | case5 => cases h

theorem readReferenceMark_blames (hline : line ∈ all.map Token.line)
    (h : readReferenceMark line ts = .error e) : Blames all e.error := by
  unfold readReferenceMark at h
  split at h
  · rename_i hfirst
    cases h
    exact significant_blames hline hfirst
  · split at h
    · split at h
      · rename_i hnext
        cases h
        exact significant_blames hline hnext
      · cases h
    · cases h

theorem readFunctionName_blames (hline : line ∈ all.map Token.line) (hts : t :: ts <:+ all)
    (h : readFunctionName line t ts = .error e) : Blames all e.error := by
  unfold readFunctionName at h
  split at h
  · cases h
  · split at h
    · cases h
      exact line_mem_of_suffix hts
    · split at h
      · rename_i hnext
        cases h
        exact significant_blames hline hnext
      · rename_i next after hnext
        split at h
        · cases h
        · cases h
          exact line_mem_of_suffix ((significant_suffix hnext).trans (tail_suffix hts))

theorem readArguments_blames (hline : line ∈ all.map Token.line)
    (h : readArguments line ts = .error e) : Blames all e.error := by
  unfold readArguments at h
  split at h
  · cases h
    exact hline
  · cases h

theorem readClosureUse_blames {isClosure : Bool} (hline : line ∈ all.map Token.line)
    (h : readClosureUse line isClosure ts = .error e) : Blames all e.error := by
  unfold readClosureUse at h
  split at h
  · rename_i hfirst
    cases h
    exact significant_blames hline hfirst
  · split at h
    · split at h
      · rename_i hopener
        cases h
        exact significant_blames hline hopener
      · split at h
        · rename_i hskip
          cases h
          exact skipBalanced_blames hline hskip
        · exact significant_blames hline h
    · cases h

theorem readReturnType_blames (hline : line ∈ all.map Token.line)
    (h : readReturnType line t ts = .error e) : Blames all e.error := by
  unfold readReturnType at h
  split at h
  · simp only at h
    split at h
    · rename_i hnext
      cases h
      exact significant_blames hline hnext
    · cases h
  · cases h

theorem readFunctionBody_blames (hline : line ∈ all.map Token.line) (hts : t :: ts <:+ all)
    (h : readFunctionBody line t ts = .error e) : Blames all e.error := by
  unfold readFunctionBody at h
  split at h
  · split at h
    · rename_i hskip
      cases h
      exact skipBalanced_blames hline hskip
    · cases h
  · split at h
    · cases h
    · cases h
      exact line_mem_of_suffix hts

theorem readSignature_blames (hline : line ∈ all.map Token.line) (hts : ts <:+ all)
    (h : readSignature line ts = .error e) : Blames all e.error := by
  unfold readSignature at h
  split at h
  · rename_i hmark
    cases h
    exact readReferenceMark_blames hline hmark
  rename_i mark t afterMark hmark
  have hafterMark := (readReferenceMark_suffix hmark).trans hts
  split at h
  · rename_i hname
    cases h
    exact readFunctionName_blames hline hafterMark hname
  rename_i name afterName hname
  have hafterName := (readFunctionName_takes hname).suffix.trans (tail_suffix hafterMark)
  split at h
  · rename_i harguments
    cases h
    exact readArguments_blames hline harguments
  rename_i arguments afterArguments harguments
  have hafterArguments := (readArguments_takes harguments).suffix.trans hafterName
  split at h
  · rename_i huse
    cases h
    exact readClosureUse_blames hline huse
  rename_i u afterUse huse
  have hafterUse := (readClosureUse_suffix huse).trans hafterArguments
  split at h
  · rename_i htype
    cases h
    exact readReturnType_blames hline htype
  rename_i type v afterType htype
  have hafterType := (readReturnType_suffix htype).trans hafterUse
  split at h
  · rename_i hbody
    cases h
    exact readFunctionBody_blames hline hafterType hbody
  · cases h

theorem readConstants_blames {scope : String} {doc : Option Docblock}
    (hline : line ∈ all.map Token.line) (h : readConstants scope line doc ts = .error e) :
    Blames all e.error := by
  fun_induction readConstants scope line doc ts with
  | case1 => cases h
  | case2 =>
    rename_i ih
    cases h
    exact ih (by assumption)
  | case3 => cases h
  | case4 => cases h
  | case5 => cases h
  | case6 =>
    cases h
    exact hline
  | case7 =>
    cases h
    exact hline

theorem readMethod_blames {lead : Lead} {scope : String} {doc : Option Docblock}
    (hline : line ∈ all.map Token.line) (hts : ts <:+ all)
    (h : readMethod lead scope line doc ts = .error e) : Blames all e.error := by
  unfold readMethod at h
  split at h
  · rename_i hsignature
    cases h
    exact readSignature_blames hline hts hsignature
  · split at h
    · cases h
      exact hline
    · cases h

theorem skipTraitUse_blames (hline : line ∈ all.map Token.line)
    (h : skipTraitUse line ts = .error e) : Blames all e.error := by
  unfold skipTraitUse at h
  split at h
  · cases h
    exact hline
  · split at h
    · exact skipBalanced_blames hline h
    · split at h
      · cases h
      · cases h
        exact hline

theorem skipAnonymousClass_blames (hline : line ∈ all.map Token.line)
    (h : skipAnonymousClass line ts = .error e) : Blames all e.error := by
  fun_induction skipAnonymousClass line ts with
  | case1 => exact skipBalanced_blames hline h
  | case2 => exact skipBalanced_blames hline h
  | case3 =>
    rename_i hskip
    cases h
    exact skipBalanced_blames hline hskip
  | case4 =>
    rename_i ih
    exact ih h
  | case5 =>
    rename_i ih
    exact ih h

theorem readParent_blames (hline : line ∈ all.map Token.line)
    (h : readParent line t ts = .error e) : Blames all e.error := by
  unfold readParent at h
  split at h
  · split at h
    · rename_i hfirst
      cases h
      exact significant_blames hline hfirst
    · simp only at h
      split at h
      · rename_i hnext
        cases h
        exact significant_blames hline hnext
      · cases h
  · cases h

theorem readNamesAfter_blames {word : Keyword} (hline : line ∈ all.map Token.line)
    (h : readNamesAfter word line t ts = .error e) : Blames all e.error := by
  unfold readNamesAfter at h
  split at h
  · exact readNames_blames hline h
  · cases h

theorem readClassHead_blames {name : String} (hline : line ∈ all.map Token.line)
    (hts : ts <:+ all) (h : readClassHead line name ts = .error e) : Blames all e.error := by
  unfold readClassHead at h
  split at h
  · rename_i hfirst
    cases h
    exact significant_blames hline hfirst
  rename_i t afterFirst hfirst
  have hafterFirst := (significant_suffix hfirst).trans hts
  split at h
  · rename_i hparent
    cases h
    exact readParent_blames hline hparent
  rename_i parent u afterParent hparent
  have hafterParent := (readParent_suffix hparent).trans hafterFirst
  split at h
  · rename_i hnames
    cases h
    exact readNamesAfter_blames hline hnames
  rename_i interfaces v afterNames hnames
  have hafterNames := (readNamesAfter_suffix hnames).trans hafterParent
  split at h
  · cases h
  · cases h
    exact line_mem_of_suffix hafterNames

theorem readInterfaceHead_blames (hline : line ∈ all.map Token.line) (hts : ts <:+ all)
    (h : readInterfaceHead line ts = .error e) : Blames all e.error := by
  unfold readInterfaceHead at h
  split at h
  · rename_i hname
    cases h
    exact significant_blames hline hname
  rename_i name afterName hname
  have hafterName := (significant_suffix hname).trans hts
  split at h
  · split at h
    · rename_i hfirst
      cases h
      exact significant_blames hline hfirst
    rename_i t afterFirst hfirst
    have hafterFirst := (significant_suffix hfirst).trans (tail_suffix hafterName)
    split at h
    · rename_i hnames
      cases h
      exact readNamesAfter_blames hline hnames
    rename_i parents u afterNames hnames
    split at h
    · cases h
    · cases h
      exact line_mem_of_suffix ((readNamesAfter_suffix hnames).trans hafterFirst)
  · cases h
    exact line_mem_of_suffix hafterName

/-! ## Lists of properties, and bodies -/

/-- The tokens end, but for trivia, with a comma after a variable. -/
def EndsAfterComma (ts : List Token) : Prop :=
  ∃ front var between comma trivia, ts = front ++ var :: (between ++ comma :: trivia) ∧
    var.isKind .variable = true ∧ comma.isPunct "," = true ∧ ∀ t ∈ trivia, t.isTrivia = true

theorem EndsAfterComma.of_suffix (h : EndsAfterComma ts) (hts : ts <:+ all) :
    EndsAfterComma all := by
  obtain ⟨before, rfl⟩ := hts
  obtain ⟨front, var, between, comma, trivia, rfl, hkinds⟩ := h
  exact ⟨before ++ front, var, between, comma, trivia, by simp, hkinds⟩

/-- The error blames the line of a token, or line zero because the tokens end within a list of
    properties. -/
def Located (all : List Token) (e : ParseError) : Prop :=
  Blames all e ∨ e = ⟨.endOfFile, 0⟩ ∧ EndsAfterComma all

theorem readDefault_blames (hline : line ∈ all.map Token.line)
    (h : readDefault line ts = .error e) : Blames all e.error := by
  unfold readDefault at h
  split at h
  · rename_i hfirst
    cases h
    exact significant_blames hline hfirst
  · split at h
    · cases h
    · cases h

/-- A list of properties blames a token unless the tokens end where a name should stand. -/
theorem readProperties_blames {head : PropertyHead} (hts : ts <:+ all)
    (h : readProperties head ts = .error e) :
    Blames all e.error ∨ e.error = ⟨.endOfFile, 0⟩ ∧
      ((∀ t ∈ ts, t.isTrivia = true) ∨ EndsAfterComma ts) := by
  fun_induction readProperties head ts with
  | case1 ts e' hname =>
    cases h
    obtain ⟨herror, htrivia⟩ := significant_eq_error hname
    exact .inr ⟨herror, .inl htrivia⟩
  | case2 ts t afterName hname hvar e' hdefault =>
    cases h
    have ht := line_mem_of_suffix ((significant_suffix hname).trans hts)
    exact .inl (readDefault_blames ht hdefault)
  | case3 ts t afterName hname hvar default afterDefault hdefault e' hstop =>
    cases h
    have ht := line_mem_of_suffix ((significant_suffix hname).trans hts)
    exact .inl (significant_blames ht hstop)
  | case4 => cases h
  | case5 ts t afterName hname hvar default afterDefault hdefault stop rest hstop hsemi hcomma hlt
      e' hrec ih =>
    cases h
    have hstopName := (significant_suffix hstop).trans (readDefault_isInfix hdefault).2
    have hrest := (tail_suffix hstopName).trans (tail_suffix (significant_suffix hname))
    rcases ih (hrest.trans hts) hrec with hblames | ⟨herror, htrivia | hcomma'⟩
    · exact .inl hblames
    · obtain ⟨front, rfl⟩ := significant_suffix hname
      obtain ⟨between, rfl⟩ := hstopName
      exact .inr ⟨herror, .inr ⟨front, t, between, stop, rest, rfl, hvar, hcomma, htrivia⟩⟩
    · exact .inr ⟨herror, .inr (hcomma'.of_suffix hrest)⟩
  | case6 => cases h
  | case7 ts t afterName hname hvar default afterDefault hdefault stop rest hstop =>
    cases h
    have hstopName := (significant_suffix hstop).trans (readDefault_isInfix hdefault).2
    have hstopAll := hstopName.trans (tail_suffix ((significant_suffix hname).trans hts))
    exact .inl (line_mem_of_suffix hstopAll)
  | case8 ts t afterName hname =>
    cases h
    exact .inl (line_mem_of_suffix ((significant_suffix hname).trans hts))

theorem isTrivia_of_properties (h : stepOf t = .properties) : t.isTrivia = false := by
  unfold Token.isTrivia
  cases hkind : t.kind with
  | none => rfl
  | some kind =>
    cases kind with
    | whitespace | comment | docComment => simp [stepOf, hkind] at h
    | _ => rfl

theorem readProperties_located {head : PropertyHead} (hstep : stepOf t = .properties)
    (hts : t :: ts <:+ all) (h : readProperties head (t :: ts) = .error e) :
    Located all e.error := by
  rcases readProperties_blames hts h with hblames | ⟨herror, htrivia | hcomma⟩
  · exact .inl hblames
  · have ht := htrivia t List.mem_cons_self
    rw [isTrivia_of_properties hstep] at ht
    cases ht
  · exact .inr ⟨herror, hcomma.of_suffix hts⟩

theorem eq_error_of_map {α β : Type} {f : α → β} {r : Except Failure α} (h : r.map f = .error e) :
    r = .error e := by
  cases r with
  | error e' =>
    cases h
    rfl
  | ok a => cases h

/-- A body blames the line of a token, but for lists of properties that never end. -/
theorem readMembers_located {scope : String} {lead : Lead} (hline : line ∈ all.map Token.line)
    (hts : ts <:+ all) (h : (readMembers scope line lead ts).result = .error e) :
    Located all e.error := by
  fun_induction readMembers scope line lead ts with
  | case1 =>
    cases h
    exact .inl hline
  | case2 => cases h
  | case3 | case4 | case5 | case6 | case7 =>
    rename_i ih
    exact ih (tail_suffix hts) h
  | case8 lead t rest notes doc hdoc hstep e' hread =>
    cases h
    exact .inl (readConstants_blames (line_mem_of_suffix hts) hread)
  | case9 lead t rest notes doc hdoc hstep first others after hread hlt ih =>
    have hafter := (readConstants_suffix hread).trans (tail_suffix hts)
    exact ih hafter (eq_error_of_map h)
  | case10 lead t rest notes doc hdoc hstep e' hread =>
    cases h
    exact .inl (readMethod_blames (line_mem_of_suffix hts) (tail_suffix hts) hread)
  | case11 lead t rest notes doc hdoc hstep method after hread hlt ih =>
    have hafter := (readMethod_takes hread).suffix.trans (tail_suffix hts)
    exact ih hafter (eq_error_of_map h)
  | case12 lead t rest notes doc hdoc hstep e' hread =>
    cases h
    exact readProperties_located hstep hts hread
  | case13 lead t rest notes doc hdoc hstep properties after hread hlt ih =>
    have hafter := (readProperties_takes hread).suffix.trans hts
    exact ih hafter (eq_error_of_map h)
  | case14 lead t rest notes doc hdoc hstep e' hread =>
    cases h
    exact .inl (skipTraitUse_blames hline hread)
  | case15 lead t rest notes doc hdoc hstep after hread hlt ih =>
    exact ih ((skipTraitUse_takes hread).suffix.trans (tail_suffix hts)) h

/-! ## Declarations -/

theorem readClassFrom_located {scope : String} {modifiers : List Keyword} {doc : Option Docblock}
    (hline : line ∈ all.map Token.line) (hts : ts <:+ all)
    (h : (readClassFrom scope line modifiers doc ts).result = .error e) : Located all e.error := by
  unfold readClassFrom at h
  split at h
  · rename_i hname
    cases h
    exact .inl (significant_blames hline hname)
  rename_i t afterName hname
  have hafterName := (significant_suffix hname).trans hts
  split at h
  · split at h
    · rename_i hhead
      cases h
      exact .inl (readClassHead_blames hline (tail_suffix hafterName) hhead)
    · rename_i hhead
      have hbody := (readClassHead_takes hhead).suffix.trans (tail_suffix hafterName)
      exact readMembers_located hline hbody (eq_error_of_map h)
  · exact .inl (skipAnonymousClass_blames hline (eq_error_of_map h))

theorem readInterfaceFrom_located {scope : String} {doc : Option Docblock}
    (hline : line ∈ all.map Token.line) (hts : ts <:+ all)
    (h : (readInterfaceFrom scope line doc ts).result = .error e) : Located all e.error := by
  unfold readInterfaceFrom at h
  split at h
  · rename_i hhead
    cases h
    exact .inl (readInterfaceHead_blames hline hts hhead)
  · rename_i hhead
    have hbody := (readInterfaceHead_takes hhead).suffix.trans hts
    exact readMembers_located hline hbody (eq_error_of_map h)

theorem readFunctionFrom_blames {scope : String} {doc : Option Docblock}
    (hline : line ∈ all.map Token.line) (hts : ts <:+ all)
    (h : readFunctionFrom scope line doc ts = .error e) : Blames all e.error := by
  unfold readFunctionFrom at h
  split at h
  · rename_i hsignature
    cases h
    exact readSignature_blames hline hts hsignature
  · cases h

theorem readConstantFrom_blames {scope : String} {doc : Option Docblock}
    (hline : line ∈ all.map Token.line) (h : readConstantFrom scope line doc ts = .error e) :
    Blames all e.error := by
  unfold readConstantFrom at h
  split at h
  · rename_i hread
    cases h
    exact readConstants_blames hline hread
  · cases h

end Blame

end Reading

/-! ## The pass -/

namespace Symbols

open PhpOutline.Reading

variable {s : Symbols} {c : Cursor} {e : ParseError}

theorem read_error_of_handled {α : Type} {enter : α → List Event × Symbols}
    {n : Noted (α × List Token)} {failure : Failure}
    (h : (handled c enter n).result = .error failure) : n.result = .error failure := by
  unfold handled at h
  simp only at h
  split at h
  · rename_i hresult
    cases h
    exact hresult
  · cases h

/-- A statement blames the line of a token, but for lists of properties that never end. -/
theorem handle_located {t : Token} {rest : List Token} {st : Statement} {failure : Failure}
    (hrest : c.rest = t :: rest) (hst : statement? t = some st)
    (h : (s.handle c st).result = .error failure) : Located c.toList failure.error := by
  have hts : t :: rest <:+ c.toList := ⟨c.passed.reverse, by rw [Cursor.toList, hrest]⟩
  have hline := line_mem_of_suffix hts
  have hword := statement?_eq_some_iff.1 hst
  cases st with
  | scope => cases h
  | use => cases h
  | interface =>
    have hread := read_error_of_handled h
    rw [readInterface_eq hrest hword] at hread
    exact readInterfaceFrom_located hline (tail_suffix hts) hread
  | classDef =>
    have hread := read_error_of_handled h
    rw [readClass_eq hrest hword] at hread
    exact readClassFrom_located hline (tail_suffix hts) hread
  | function =>
    have hread := read_error_of_handled h
    rw [readFunction_eq hrest hword] at hread
    exact .inl (readFunctionFrom_blames hline (tail_suffix hts) hread)
  | constant =>
    have hread := read_error_of_handled h
    rw [readConstant_eq hrest hword] at hread
    exact .inl (readConstantFrom_blames hline hread)
  | inclusion =>
    have hread := read_error_of_handled h
    rw [readInclude_eq hrest hword] at hread
    cases hread

/-- The pass over a file fails in one of its statements. -/
theorem exists_of_collect_error {halt : Halt} (h : (s.collect c).2 = .error halt) :
    ∃ s' c' t rest st failure, c'.toList = c.toList ∧ c'.rest = t :: rest ∧
      statement? t = some st ∧ (handle s' c' st).result = .error failure ∧
      failure.error = halt.error := by
  induction hlen : c.rest.length using Nat.strongRecOn generalizing s c with
  | ind n ih =>
    cases hrest : c.rest with
    | nil =>
      have hc : c.current = none := by rw [Cursor.current, hrest, List.head?_nil]
      rw [collect_of_end hc] at h
      cases h
    | cons t rest =>
      have hc : c.current = some t := by rw [Cursor.current, hrest, List.head?_cons]
      have hpos : 0 < c.rest.length := by rw [hrest]; exact Nat.succ_pos _
      cases hst : statement? t with
      | none =>
        rw [collect_of_inert hc hst] at h
        have hlt : c.advance.rest.length < n := by
          rw [Cursor.rest_advance, List.length_tail]
          omega
        have hlater := ih _ hlt h rfl
        rwa [Cursor.toList_advance] at hlater
      | some st =>
        rw [collect_of_statement hc hst] at h
        cases hhandle : (s.handle c st).result with
        | error failure =>
          rw [hhandle] at h
          cases h
          exact ⟨s, c, t, rest, st, failure, rfl, hrest, hst, hhandle, rfl⟩
        | ok out =>
          obtain ⟨next, after⟩ := out
          rw [hhandle] at h
          have hlater := ih _ (hlen ▸ handle_length hpos hhandle) h rfl
          rwa [toList_handle hhandle] at hlater

end Symbols

/-! ## Source files -/

open PhpOutline.Reading

/-- A line of a source text: lines are counted from one. -/
def IsLineOf (source : String) (line : Int) : Prop :=
  1 ≤ line ∧ line ≤ 1 + newlines source.toList

theorem isLineOf_of_append {source : String} {before after : List Char}
    (h : before ++ after = source.toList) : IsLineOf source (1 + newlines before) := by
  rw [IsLineOf, ← h, newlines_append]
  omega

theorem isLineOf_of_mem_lex {source : String} {ts : List Token} {t : Token}
    (h : lex source = .ok ts) (ht : t ∈ ts) : IsLineOf source t.line := by
  obtain ⟨after, hscan⟩ := lexFrom_eq_ok_iff.1 h
  obtain ⟨k, hk⟩ := List.mem_iff_getElem?.1 ht
  have hcovers := hscan.covers
  rw [hcovers.line_eq k t hk]
  have hparts : (joined (ts.take k)).toList ++ (joined (ts.drop k)).toList = source.toList := by
    rw [← toList_joined_append, List.take_append_drop, hcovers.joined_eq]
  exact isLineOf_of_append hparts

theorem isLineOf_of_lex_error {source : String} {e : LexError} (h : lex source = .error e) :
    IsLineOf source e.line := by
  obtain ⟨ts, after, c, r, hscan, -, hline⟩ := lexFrom_eq_error_iff.1 h
  rw [hline, hscan.line_after]
  exact isLineOf_of_append hscan.joined_append

theorem located_of_collect_error {ts : List Token} {halt : Symbols.Halt}
    (h : (Symbols.collect {} (.ofList ts)).2 = .error halt) : Located ts halt.error := by
  obtain ⟨s, c, t, rest, st, failure, htokens, hrest, hst, hhandle, herror⟩ :=
    Symbols.exists_of_collect_error h
  have hlocated := Symbols.handle_located hrest hst hhandle
  rwa [htokens, Cursor.toList_ofList, herror] at hlocated

/-- An error that stops the reading of a file is on a line of the file, and a declaration that
    cannot be read is on the line of a token. The one exception is a file that ends after a comma in
    a list of properties: that error is on line zero. -/
theorem process_error_line {f : SourceFile} {e : ProcessError} (h : f.process.error? = some e) :
    (∀ cause, e = .lex cause → IsLineOf f.contents cause.line) ∧
    ∀ cause, e = .parse cause → ∃ ts, lex f.contents = .ok ts ∧
      ((∃ t ∈ ts, t.line = cause.line) ∧ IsLineOf f.contents cause.line ∨
        cause = ⟨.endOfFile, 0⟩ ∧ EndsAfterComma ts) := by
  obtain ⟨-, hsource⟩ := (SourceFile.State.process_error_eq_some_iff f.idle).1 h
  cases hlex : lex f.contents with
  | error cause =>
    rw [Outline.ofSource_of_lex_error hlex] at hsource
    cases hsource
    constructor
    · rintro _ ⟨⟩
      exact isLineOf_of_lex_error hlex
    · rintro _ ⟨⟩
  | ok ts =>
    cases hcollect : (Symbols.collect {} (.ofList ts)).2 with
    | ok symbols =>
      rw [Outline.ofSource_of_symbols hlex hcollect] at hsource
      cases hsource
    | error halt =>
      rw [Outline.ofSource_of_halt hlex hcollect] at hsource
      cases hsource
      constructor
      · rintro _ ⟨⟩
      · rintro _ ⟨⟩
        refine ⟨ts, rfl, ?_⟩
        rcases located_of_collect_error hcollect with hblames | hcomma
        · obtain ⟨t, ht, hline⟩ := List.mem_map.1 hblames
          exact .inl ⟨⟨t, ht, hline⟩, hline ▸ isLineOf_of_mem_lex hlex ht⟩
        · exact .inr hcomma

/-- A file that ends after a comma in a list of properties is in error on line zero, one that ends
    after the keyword of a method on the line of that keyword. -/
theorem process_error_line_of_ended :
    let list : SourceFile :=
      { path := "a.php", contents := "<?php\nclass A \x7b\n  public $a,\n", terms := [] }
    let method : SourceFile :=
      { path := "a.php", contents := "<?php\nclass A \x7b\n  function \n", terms := [] }
    (list.process.error? = some (.parse ⟨.endOfFile, 0⟩) ∧ ¬ IsLineOf list.contents 0 ∧
      ∃ ts, lex list.contents = .ok ts ∧ EndsAfterComma ts) ∧
    method.process.error? = some (.parse ⟨.endOfFile, 3⟩) ∧ IsLineOf method.contents 3 := by
  intro list method
  have hzero : ¬ IsLineOf list.contents 0 := fun h => absurd h.1 (by decide)
  have hlist : list.process.error? = some (.parse ⟨.endOfFile, 0⟩) := by decide +kernel
  have hmethod : method.process.error? = some (.parse ⟨.endOfFile, 3⟩) := by decide +kernel
  refine ⟨⟨hlist, hzero, ?_⟩, hmethod, ?_⟩
  · obtain ⟨ts, hlex, ⟨-, hline⟩ | ⟨-, hcomma⟩⟩ := (process_error_line hlist).2 _ rfl
    · exact absurd hline hzero
    · exact ⟨ts, hlex, hcomma⟩
  · obtain ⟨ts, -, ⟨-, hline⟩ | ⟨hcause, -⟩⟩ := (process_error_line hmethod).2 _ rfl
    · exact hline
    · cases hcause

end PhpOutline
