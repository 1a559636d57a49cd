import Mathlib.Data.List.Forall2
import PhpOutline.Proofs.Inversion

/-!
# Tokens that are alike

Names, literals, comments and markup are typed tokens, and the readers of declarations do not look
at the texts of typed tokens to find their way. Tokens that differ only there are alike. On tokens
that are alike two readings have the same outcome: they fail with the same line, or they succeed
with results that agree but for their texts and with tokens after them that are alike again.

Results:
* `dropWhile_alike`, `filter_alike`: parts of token lists that are alike.
* `significant_alike`, `readNames_alike`: trivia and names.
* `skipBalanced_alike`, `collect_alike`: brackets.
* `readSignature_alike`: headers of functions.
-/

namespace PhpOutline

/-! ## Texts left out -/

/-- A text that may be missing, without its letters. -/
def presence (text : Option String) : Option String := text.map fun _ => ""

theorem presence_some (s s' : String) : presence (some s) = presence (some s') := rfl

/-- An argument without its texts. -/
def Argument.shape (a : Argument) : Argument :=
  { a with name := "", type := presence a.type, default := presence a.default }

/-- A function header without its texts. -/
def Signature.shape (s : Signature) : Signature :=
  { s with
    name := presence s.name
    arguments := s.arguments.map Argument.shape
    returnType := presence s.returnType }

/-! ## Tokens that are alike -/

/-- Two tokens that differ at most in the text of a typed token, which is empty in neither. -/
inductive Token.Alike : Token → Token → Prop
  | same (t : Token) : Token.Alike t t
  | typed (kind : Kind) (line : Int) {s s' : String} : s ≠ "" → s' ≠ "" →
      Token.Alike ⟨some kind, s, line⟩ ⟨some kind, s', line⟩

namespace Token.Alike

variable {t u : Token}

theorem kind_eq (h : t.Alike u) : t.kind = u.kind := by cases h <;> rfl

theorem line_eq (h : t.Alike u) : t.line = u.line := by cases h <;> rfl

theorem content_eq_empty (h : t.Alike u) : t.content = "" ↔ u.content = "" := by
  cases h with
  | same => rfl
  | typed _ _ hs hs' => exact iff_of_false hs hs'

theorem isTrivia_eq (h : t.Alike u) : t.isTrivia = u.isTrivia := by
  rw [isTrivia, isTrivia, h.kind_eq]

theorem isKind_eq (h : t.Alike u) (kind : Kind) : t.isKind kind = u.isKind kind := by
  rw [isKind, isKind, h.kind_eq]

theorem isKeyword_eq (h : t.Alike u) (word : Keyword) : t.isKeyword word = u.isKeyword word := by
  rw [isKeyword, isKeyword, h.kind_eq]

theorem isPunct_eq (h : t.Alike u) (sign : String) : t.isPunct sign = u.isPunct sign := by
  cases h <;> rfl

theorem isOpener_eq (h : t.Alike u) : t.isOpener = u.isOpener := by cases h <;> rfl

theorem isCloser_eq (h : t.Alike u) : t.isCloser = u.isCloser := by cases h <;> rfl

/-- Only punctuation stops a part. -/
theorem isStop_iff (h : t.Alike u) (p : Prop) (stops : List String) :
    (p ∧ t.kind.isNone ∧ stops.contains t.content) ↔
      (p ∧ u.kind.isNone ∧ stops.contains u.content) := by
  cases h <;> simp

/-- Only punctuation closes a list of parameters. -/
theorem closes_iff (h : t.Alike u) (p : Prop) (sign : String) :
    (t.isCloser ∧ p ∧ t.content = sign) ↔ (u.isCloser ∧ p ∧ u.content = sign) := by
  cases h with
  | same => rfl
  | typed => simp [isCloser]

theorem stepOf_eq (h : t.Alike u) : Reading.stepOf t = Reading.stepOf u := by
  cases h with
  | same => rfl
  | typed kind => cases kind with
    | keyword word => cases word <;> rfl
    | _ => rfl

theorem isNamePart_eq (h : t.Alike u) : Reading.isNamePart t = Reading.isNamePart u := by
  cases h <;> rfl

theorem isMemberModifier_eq (h : t.Alike u) :
    Reading.isMemberModifier t = Reading.isMemberModifier u := by
  cases h <;> rfl

theorem isParameterMark_eq (h : t.Alike u) :
    Reading.isParameterMark t = Reading.isParameterMark u := by
  cases h <;> rfl

theorem classModifier?_eq (h : t.Alike u) : Reading.classModifier? t = Reading.classModifier? u := by
  cases h <;> rfl

theorem isLeading_eq (h : t.Alike u) : Reading.isLeading t = Reading.isLeading u := by
  cases h <;> rfl

end Token.Alike

namespace Reading

/-- Tokens that are alike one by one. -/
abbrev Alike (ts us : List Token) : Prop := List.Forall₂ Token.Alike ts us

variable {ts us : List Token} {p : Token → Bool}

theorem dropWhile_alike (hp : ∀ t u : Token, t.Alike u → p t = p u) (h : Alike ts us) :
    Alike (ts.dropWhile p) (us.dropWhile p) := by
  induction h with
  | nil => exact .nil
  | cons htu hrest ih =>
    rw [List.dropWhile_cons, List.dropWhile_cons, hp _ _ htu]
    split
    · exact ih
    · exact .cons htu hrest

theorem takeWhile_alike (hp : ∀ t u : Token, t.Alike u → p t = p u) (h : Alike ts us) :
    Alike (ts.takeWhile p) (us.takeWhile p) := by
  induction h with
  | nil => exact .nil
  | cons htu hrest ih =>
    rw [List.takeWhile_cons, List.takeWhile_cons, hp _ _ htu]
    split
    · exact .cons htu ih
    · exact .nil

theorem filter_alike (hp : ∀ t u : Token, t.Alike u → p t = p u) (h : Alike ts us) :
    Alike (ts.filter p) (us.filter p) :=
  List.rel_filter (fun t u htu => Bool.eq_iff_iff.1 (hp t u htu)) h

theorem any_alike (hp : ∀ t u : Token, t.Alike u → p t = p u) (h : Alike ts us) :
    ts.any p = us.any p := by
  induction h with
  | nil => rfl
  | cons htu _ ih => rw [List.any_cons, List.any_cons, hp _ _ htu, ih]

theorem getLast?_alike (h : Alike ts us) : Option.Rel Token.Alike ts.getLast? us.getLast? := by
  rw [List.getLast?_eq_head?_reverse, List.getLast?_eq_head?_reverse]
  match ts.reverse, us.reverse, List.rel_reverse h with
  | _, _, .nil => exact .none
  | _, _, .cons htu _ => exact .some htu

theorem joined_eq_empty (h : Alike ts us) : joined ts = "" ↔ joined us = "" := by
  induction h with
  | nil => rfl
  | cons htu _ ih =>
    have hcons : ∀ (t : Token) (r : List Token), joined (t :: r) = t.content ++ joined r := by
      intro t r
      simp [joined]
    rw [hcons, hcons, String.append_eq_empty_iff, String.append_eq_empty_iff,
      htu.content_eq_empty, ih]

theorem presence_nonEmpty? {s s' : String} (h : s = "" ↔ s' = "") :
    presence (nonEmpty? s) = presence (nonEmpty? s') := by
  unfold nonEmpty?
  by_cases hs : s = ""
  · rw [if_pos hs, if_pos (h.1 hs)]
  · rw [if_neg hs, if_neg (mt h.2 hs)]
    rfl

theorem presence_compact (h : Alike ts us) :
    presence (nonEmpty? (compact ts)) = presence (nonEmpty? (compact us)) :=
  presence_nonEmpty? (joined_eq_empty (filter_alike (fun _ _ htu => congrArg not htu.isTrivia_eq) h))

/-! ## Outcomes -/

/-- Two readings fail with the same line or succeed with results that are related. -/
inductive SameOutcome (R : α → α → Prop) : Except Failure α → Except Failure α → Prop
  | error {e f : Failure} : e.error.line = f.error.line → SameOutcome R (.error e) (.error f)
  | ok {a b : α} : R a b → SameOutcome R (.ok a) (.ok b)

/-- Two results that are the same under `f`, with tokens after them that are alike. -/
def AlikeBy (f : α → β) (a b : α × List Token) : Prop := f a.1 = f b.1 ∧ Alike a.2 b.2

/-- Two tokens with those after them that are alike. -/
def AlikeNext (a b : Token × List Token) : Prop := Alike (a.1 :: a.2) (b.1 :: b.2)

theorem SameOutcome.map {R : α → α → Prop} {S : β → β → Prop} {x y : Except Failure α} {f g : α → β}
    (h : SameOutcome R x y) (hfg : ∀ a b, R a b → S (f a) (g b)) :
    SameOutcome S (x.map f) (y.map g) := by
  cases h with
  | error he => exact .error he
  | ok hab => exact .ok (hfg _ _ hab)

/-- Two outcomes that are the same are both failures or both results. -/
theorem SameOutcome.eq_cases {R : α → α → Prop} {x y : Except Failure α} (h : SameOutcome R x y) :
    (∃ e f, x = .error e ∧ y = .error f ∧ e.error.line = f.error.line) ∨
      ∃ a b, x = .ok a ∧ y = .ok b ∧ R a b := by
  cases h with
  | error he => exact .inl ⟨_, _, rfl, rfl, he⟩
  | ok hab => exact .inr ⟨_, _, rfl, rfl, hab⟩

theorem fail_alike {R : α → α → Prop} {cause cause' : ParseError.Cause} {line line' : Int}
    {rest rest' : List Token} (h : line = line') :
    SameOutcome R (fail cause line rest) (fail cause' line' rest') := .error h

/-! ## Trivia, names and brackets -/

theorem significant_alike (line : Int) (h : Alike ts us) :
    SameOutcome AlikeNext (significant line ts) (significant line us) := by
  have hdrop := dropWhile_alike (fun _ _ htu => htu.isTrivia_eq) h
  unfold significant
  match ts.dropWhile Token.isTrivia, us.dropWhile Token.isTrivia, hdrop with
  | _, _, .nil => exact .error rfl
  | _, _, .cons htu hrest => exact .ok (.cons htu hrest)

theorem qualifiedName_alike (h : Alike ts us) :
    presence (nonEmpty? (qualifiedName ts).1) = presence (nonEmpty? (qualifiedName us).1) ∧
      Alike (qualifiedName ts).2 (qualifiedName us).2 :=
  ⟨presence_nonEmpty? (joined_eq_empty (takeWhile_alike (fun _ _ htu => htu.isNamePart_eq) h)),
    dropWhile_alike (fun _ _ htu => htu.isNamePart_eq) h⟩

theorem readNames_eq (line : Int) (ts : List Token) :
    readNames line ts =
      match significant line ts with
      | .error e => .error e
      | .ok (t, first) =>
        match significant line (qualifiedName (t :: first)).2 with
        | .error e => .error e
        | .ok (next, rest) =>
          if next.isPunct "," then
            (readNames line rest).map fun (names, after) =>
              ((nonEmpty? (qualifiedName (t :: first)).1).toList ++ names, after)
          else .ok ((nonEmpty? (qualifiedName (t :: first)).1).toList, next, rest) := by
  fun_cases readNames line ts <;> simp [Except.map, *]

theorem map_presence {s s' : Option String} (h : presence s = presence s') :
    s.toList.map (fun _ => "") = s'.toList.map fun _ => "" := by
  cases s <;> cases s' <;> first | rfl | cases h

/-- Two results with a list of names and the next token. -/
def AlikeNames (a b : List String × Token × List Token) : Prop :=
  (a.1.map fun _ => "") = (b.1.map fun _ => "") ∧ AlikeNext a.2 b.2

theorem readNames_alike (line : Int) (h : Alike ts us) :
    SameOutcome AlikeNames (readNames line ts) (readNames line us) := by
  induction hn : ts.length using Nat.strongRecOn generalizing ts us with
  | ind n ih =>
    subst hn
    rw [readNames_eq, readNames_eq]
    match hfirst : significant line ts, significant line us, significant_alike line h with
    | _, _, .error he => exact .error he
    | .ok (t, first), .ok (u, first'), .ok htu =>
      obtain ⟨hname, hafter⟩ := qualifiedName_alike htu
      have hlt := significant_length hfirst
      have hle := qualifiedName_length (t :: first)
      simp only
      match hnext : significant line (qualifiedName (t :: first)).2,
        significant line (qualifiedName (u :: first')).2, significant_alike line hafter with
      | _, _, .error he => exact .error he
      | .ok (next, rest), .ok (next', rest'), .ok (.cons hcomma hrest) =>
        have hlt' := significant_length hnext
        rw [List.length_cons] at hle
        simp only [hcomma.isPunct_eq]
        split
        · refine (ih rest.length (by omega) hrest rfl).map fun a b hab => ⟨?_, hab.2⟩
          rw [List.map_append, List.map_append, map_presence hname, hab.1]
        · exact .ok ⟨map_presence hname, .cons hcomma hrest⟩

theorem afterBalanced?_alike (depth : Int) (h : Alike ts us) :
    Option.Rel Alike (afterBalanced? depth ts) (afterBalanced? depth us) := by
  induction h generalizing depth with
  | nil => exact .none
  | cons htu hrest ih =>
    rw [afterBalanced?, afterBalanced?, htu.isOpener_eq, htu.isCloser_eq]
    split
    · exact ih _
    · split
      · split
        · exact .some hrest
        · exact ih _
      · exact ih _

theorem skipBalanced_alike (line : Int) (h : Alike ts us) :
    SameOutcome Alike (skipBalanced line ts) (skipBalanced line us) := by
  unfold skipBalanced
  match afterBalanced? 0 ts, afterBalanced? 0 us, afterBalanced?_alike 0 h with
  | _, _, .none => exact fail_alike rfl
  | _, _, .some hrest => exact .ok hrest

theorem collectFrom_alike (stops : List String) (depth : Nat) (h : Alike ts us) :
    Alike (collectFrom stops depth ts).1 (collectFrom stops depth us).1 ∧
      Alike (collectFrom stops depth ts).2 (collectFrom stops depth us).2 := by
  induction h generalizing depth with
  | nil => exact ⟨.nil, .nil⟩
  | cons htu hrest ih =>
    rw [collectFrom, collectFrom]
    simp only [htu.isKind_eq, htu.isStop_iff, htu.isOpener_eq, htu.isCloser_eq]
    split
    · exact ⟨.nil, .cons htu hrest⟩
    · split
      · exact ⟨.nil, .cons htu hrest⟩
      · split
        · exact ⟨.cons htu (ih _).1, (ih _).2⟩
        · split
          · split
            · exact ⟨.nil, .cons htu hrest⟩
            · exact ⟨.cons htu (ih _).1, (ih _).2⟩
          · exact ⟨.cons htu (ih _).1, (ih _).2⟩

theorem collect_alike (stops : List String) (h : Alike ts us) :
    Alike (collect stops ts).1 (collect stops us).1 ∧
      Alike (collect stops ts).2 (collect stops us).2 :=
  collectFrom_alike stops 0 h

/-! ## Headers of functions -/

theorem argument?_alike (h : Alike ts us) :
    (argument? ts).map Argument.shape = (argument? us).map Argument.shape := by
  have hvar : ∀ t u : Token, t.Alike u → (!t.isKind .variable) = !u.isKind .variable :=
    fun _ _ htu => by rw [htu.isKind_eq]
  have hdrop := dropWhile_alike hvar h
  unfold argument?
  generalize ts.dropWhile (fun t : Token => !t.isKind .variable) = x at hdrop ⊢
  generalize us.dropWhile (fun t : Token => !t.isKind .variable) = y at hdrop ⊢
  cases hdrop with
  | nil => rfl
  | @cons var var' tail tail' hv htail =>
    have hhead := List.rel_reverse (filter_alike (fun _ _ htu => congrArg not htu.isTrivia_eq)
      (takeWhile_alike hvar h))
    have hmarks := takeWhile_alike (fun _ _ htu => htu.isParameterMark_eq) hhead
    have htypes := filter_alike (fun _ _ htu => congrArg not htu.isMemberModifier_eq)
      (List.rel_reverse (dropWhile_alike (fun _ _ htu => htu.isParameterMark_eq) hhead))
    -- The texts of the defaults differ, but they are there or missing together.
    have hvalue := dropWhile_alike (fun _ _ htu => congrArg not (htu.isPunct_eq "=")) htail
    simp only [Option.map_some, Argument.shape, presence_compact htypes, hv.line_eq,
      any_alike (fun _ _ htu => htu.isPunct_eq "&") hmarks,
      any_alike (fun _ _ htu => htu.isKind_eq (.operator .ellipsis)) hmarks]
    generalize tail.dropWhile (fun t : Token => !t.isPunct "=") = x at hvalue ⊢
    generalize tail'.dropWhile (fun t : Token => !t.isPunct "=") = y at hvalue ⊢
    cases hvalue with
    | nil => rfl
    | @cons _ _ value value' _ _ => rw [presence_some (sourceText value) (sourceText value')]

theorem arguments_alike {groups groups' : List (List Token)} (h : List.Forall₂ Alike groups groups') :
    (groups.filterMap argument?).map Argument.shape =
      (groups'.filterMap argument?).map Argument.shape := by
  rw [List.map_filterMap, List.map_filterMap]
  induction h with
  | nil => rfl
  | cons hgroup _ ih => rw [List.filterMap_cons, List.filterMap_cons, argument?_alike hgroup, ih]

/-- Two lists of parameters with the tokens after them. -/
def AlikeParameters (a b : List Token × List (List Token) × List Token) : Prop :=
  List.Forall₂ Alike (a.1 :: a.2.1) (b.1 :: b.2.1) ∧ Alike a.2.2 b.2.2

theorem splitParameters?_alike (depth : Int) (h : Alike ts us) :
    Option.Rel AlikeParameters (splitParameters? depth ts) (splitParameters? depth us) := by
  induction h generalizing depth with
  | nil => exact .none
  | @cons t u rest rest' htu hrest ih =>
    rw [splitParameters?, splitParameters?]
    simp only [htu.closes_iff]
    simp only [htu.isPunct_eq, htu.isOpener_eq, htu.isCloser_eq]
    split
    · exact .some ⟨.cons .nil .nil, hrest⟩
    · split
      · have hsplit := ih depth
        generalize splitParameters? depth rest = x, splitParameters? depth rest' = y at hsplit ⊢
        cases hsplit with
        | none => exact .none
        | some h => exact .some ⟨.cons .nil h.1, h.2⟩
      · generalize (if u.isOpener then depth + 1 else if u.isCloser then depth - 1 else depth) = d
        have hsplit := ih d
        generalize splitParameters? d rest = x, splitParameters? d rest' = y at hsplit ⊢
        cases hsplit with
        | none => exact .none
        | some h =>
          obtain ⟨hgroup, hgroups⟩ := List.forall₂_cons.1 h.1
          exact .some ⟨.cons (.cons htu hgroup) hgroups, h.2⟩

theorem readArguments_alike (line : Int) (h : Alike ts us) :
    SameOutcome (AlikeBy (List.map Argument.shape)) (readArguments line ts)
      (readArguments line us) := by
  unfold readArguments
  match splitParameters? 0 ts, splitParameters? 0 us, splitParameters?_alike 0 h with
  | _, _, .none => exact fail_alike rfl
  | _, _, .some ⟨hgroups, hafter⟩ => exact .ok ⟨arguments_alike hgroups, hafter⟩

theorem readReferenceMark_alike (line : Int) (h : Alike ts us) :
    SameOutcome (fun a b => a.1 = b.1 ∧ AlikeNext a.2 b.2) (readReferenceMark line ts)
      (readReferenceMark line us) := by
  unfold readReferenceMark
  match significant line ts, significant line us, significant_alike line h with
  | _, _, .error he => exact .error he
  | .ok (t, first), .ok (u, first'), .ok (.cons htu hfirst) =>
    simp only [htu.isPunct_eq]
    split
    · match significant line first, significant line first', significant_alike line hfirst with
      | _, _, .error he => exact .error he
      | _, _, .ok hnext => exact .ok ⟨rfl, hnext⟩
    · exact .ok ⟨rfl, .cons htu hfirst⟩

theorem readFunctionName_alike (line : Int) {t u : Token} (htu : t.Alike u) (h : Alike ts us) :
    SameOutcome (AlikeBy presence) (readFunctionName line t ts) (readFunctionName line u us) := by
  unfold readFunctionName
  simp only [htu.isPunct_eq, htu.kind_eq]
  split
  · exact .ok ⟨rfl, h⟩
  · split
    · exact fail_alike htu.line_eq
    · match significant line ts, significant line us, significant_alike line h with
      | _, _, .error he => exact .error he
      | .ok (next, after), .ok (next', after'), .ok (.cons hnext hafter) =>
        simp only [hnext.isPunct_eq]
        split
        · exact .ok ⟨rfl, hafter⟩
        · exact fail_alike hnext.line_eq

theorem readClosureUse_alike (line : Int) (isClosure : Bool) (h : Alike ts us) :
    SameOutcome AlikeNext (readClosureUse line isClosure ts) (readClosureUse line isClosure us) := by
  unfold readClosureUse
  match significant line ts, significant line us, significant_alike line h with
  | _, _, .error he => exact .error he
  | .ok (t, rest), .ok (u, rest'), .ok (.cons htu hrest) =>
    simp only [htu.isKeyword_eq]
    split
    · match significant line rest, significant line rest', significant_alike line hrest with
      | _, _, .error he => exact .error he
      | .ok (opener, after), .ok (opener', after'), .ok hopener =>
        simp only
        match skipBalanced line (opener :: after), skipBalanced line (opener' :: after'),
          skipBalanced_alike line hopener with
        | _, _, .error he => exact .error he
        | _, _, .ok hafter => exact significant_alike line hafter
    · exact .ok (.cons htu hrest)

theorem readReturnType_alike (line : Int) {t u : Token} (htu : t.Alike u) (h : Alike ts us) :
    SameOutcome (fun a b => presence a.1 = presence b.1 ∧ AlikeNext a.2 b.2)
      (readReturnType line t ts) (readReturnType line u us) := by
  obtain ⟨htype, hafter⟩ := collect_alike [openBrace, ";"] h
  unfold readReturnType
  simp only [htu.isPunct_eq]
  split
  · match significant line (collect [openBrace, ";"] ts).2,
      significant line (collect [openBrace, ";"] us).2, significant_alike line hafter with
    | _, _, .error he => exact .error he
    | _, _, .ok hnext => exact .ok ⟨presence_compact htype, hnext⟩
  · exact .ok ⟨rfl, .cons htu h⟩

theorem readFunctionBody_alike (line : Int) {t u : Token} (htu : t.Alike u) (h : Alike ts us) :
    SameOutcome (AlikeBy id) (readFunctionBody line t ts) (readFunctionBody line u us) := by
  unfold readFunctionBody
  simp only [htu.isPunct_eq]
  split
  · match skipBalanced line (t :: ts), skipBalanced line (u :: us),
      skipBalanced_alike line (.cons htu h) with
    | _, _, .error he => exact .error he
    | _, _, .ok hrest => exact .ok ⟨rfl, hrest⟩
  · split
    · exact .ok ⟨rfl, h⟩
    · exact fail_alike htu.line_eq

theorem isNone_of_presence {s s' : Option String} (h : presence s = presence s') :
    s.isNone = s'.isNone := by
  cases s <;> cases s' <;> first | rfl | cases h

theorem readSignature_alike (line : Int) (h : Alike ts us) :
    SameOutcome (AlikeBy Signature.shape) (readSignature line ts) (readSignature line us) := by
  unfold readSignature
  match readReferenceMark line ts, readReferenceMark line us, readReferenceMark_alike line h with
  | _, _, .error he => exact .error he
  | .ok (_, t, ts), .ok (_, u, us), .ok ⟨rfl, .cons htu h⟩ =>
  simp only
  match readFunctionName line t ts, readFunctionName line u us, readFunctionName_alike line htu h with
  | _, _, .error he => exact .error he
  | .ok (name, ts), .ok (name', us), .ok ⟨hname, h⟩ =>
  simp only at hname h ⊢
  match readArguments line ts, readArguments line us, readArguments_alike line h with
  | _, _, .error he => exact .error he
  | .ok (arguments, ts), .ok (arguments', us), .ok ⟨harguments, h⟩ =>
  simp only [isNone_of_presence hname]
  match readClosureUse line name'.isNone ts, readClosureUse line name'.isNone us,
    readClosureUse_alike line name'.isNone h with
  | _, _, .error he => exact .error he
  | .ok (t, ts), .ok (u, us), .ok (.cons htu h) =>
  simp only
  match readReturnType line t ts, readReturnType line u us, readReturnType_alike line htu h with
  | _, _, .error he => exact .error he
  | .ok (type, t, ts), .ok (type', u, us), .ok ⟨htype, .cons htu h⟩ =>
  simp only at htype ⊢
  match readFunctionBody line t ts, readFunctionBody line u us, readFunctionBody_alike line htu h with
  | _, _, .error he => exact .error he
  | .ok (body, ts), .ok (body', us), .ok ⟨hbody, h⟩ =>
  simp only [id] at hbody harguments
  refine .ok ⟨?_, h⟩
  simp only [Signature.shape, hname, harguments, htype, hbody]

end Reading

end PhpOutline
