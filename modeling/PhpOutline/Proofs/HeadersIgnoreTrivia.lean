import PhpOutline.Proofs.Likeness
import PhpOutline.Proofs.Locality

/-!
# Function headers ignore trivia

White space and comments stand between the parts of a function header, and no part of the header
depends on them. The tokens of a header without its trivia give the same outcome: the same error, or
the same function but for the texts of default values, which are copied with their blanks and
comments, and a place after it that is the image of the other one.

Results:
* `dropWhile_bare`, `takeWhile_bare`: searches that pass over trivia.
* `significant_bare`, `skipBalanced_bare`, `collect_bare`: trivia and brackets.
* `argument?_bare`, `splitParameters?_bare`: parameters.
* `readSignature_bare`: a whole header.
* `readFunction_withoutTrivia`: a function at a position, and the position after it.
-/

namespace PhpOutline

/-! ## Texts of defaults left out -/

/-- An argument without the text of its default. -/
def Argument.defaultHidden (a : Argument) : Argument := { a with default := presence a.default }

/-- A function header without the texts of the defaults. -/
def Signature.defaultsHidden (s : Signature) : Signature :=
  { s with arguments := s.arguments.map Argument.defaultHidden }

/-- A function without the texts of the defaults. -/
def FunctionDecl.defaultsHidden (f : FunctionDecl) : FunctionDecl :=
  { f with arguments := f.arguments.map Argument.defaultHidden }

/-! ## Trivia -/

namespace Token

variable {t : Token}

theorem isNone_of_isTrivia (h : t.isTrivia = true) : t.kind.isNone = false := by
  obtain ⟨kind, content, line⟩ := t
  cases kind with
  | none => cases h
  | some kind => rfl

theorem isPunct_of_isTrivia (h : t.isTrivia = true) (sign : String) : t.isPunct sign = false := by
  rw [isPunct, isNone_of_isTrivia h, Bool.false_and]

theorem isOpener_of_isTrivia (h : t.isTrivia = true) : t.isOpener = false := by
  rw [isOpener, isNone_of_isTrivia h, Bool.false_and]

theorem isCloser_of_isTrivia (h : t.isTrivia = true) : t.isCloser = false := by
  rw [isCloser, isNone_of_isTrivia h, Bool.false_and, Bool.and_false]

theorem isKind_of_isTrivia (h : t.isTrivia = true) {kind : Kind} (hkind : kind.isTrivia = false) :
    t.isKind kind = false := by
  rw [isKind, beq_eq_false_iff_ne]
  intro heq
  rw [isTrivia, heq, Option.any_some, hkind] at h
  cases h

end Token

namespace Reading

/-- Some tokens without the trivia among them. -/
def bare (ts : List Token) : List Token := ts.filter (!·.isTrivia)

@[simp] theorem bare_nil : bare [] = [] := rfl

theorem bare_cons_of_isTrivia {t : Token} (h : t.isTrivia = true) (ts : List Token) :
    bare (t :: ts) = bare ts := List.filter_cons_of_neg (by simp [h])

theorem bare_cons {t : Token} (h : t.isTrivia = false) (ts : List Token) :
    bare (t :: ts) = t :: bare ts := List.filter_cons_of_pos (by simp [h])

theorem bare_append (ts us : List Token) : bare (ts ++ us) = bare ts ++ bare us :=
  List.filter_append ..

theorem bare_bare (ts : List Token) : bare (bare ts) = bare ts := by simp [bare]

theorem compact_eq (ts : List Token) : compact ts = joined (bare ts) := rfl

section

variable {p : Token → Bool}

theorem dropWhile_bare (hp : ∀ t : Token, t.isTrivia = true → p t = true) (ts : List Token) :
    (bare ts).dropWhile p = bare (ts.dropWhile p) := by
  induction ts with
  | nil => rfl
  | cons t r ih =>
    by_cases ht : t.isTrivia = true
    · rw [bare_cons_of_isTrivia ht, List.dropWhile_cons_of_pos (hp t ht), ih]
    · rw [Bool.not_eq_true] at ht
      rw [bare_cons ht, List.dropWhile_cons, List.dropWhile_cons]
      split
      · exact ih
      · exact (bare_cons ht r).symm

theorem takeWhile_bare (hp : ∀ t : Token, t.isTrivia = true → p t = true) (ts : List Token) :
    (bare ts).takeWhile p = bare (ts.takeWhile p) := by
  induction ts with
  | nil => rfl
  | cons t r ih =>
    by_cases ht : t.isTrivia = true
    · rw [bare_cons_of_isTrivia ht, List.takeWhile_cons_of_pos (hp t ht),
        bare_cons_of_isTrivia ht, ih]
    · rw [Bool.not_eq_true] at ht
      rw [bare_cons ht, List.takeWhile_cons, List.takeWhile_cons]
      split
      · rw [bare_cons ht, ih]
      · rfl

end

/-! ## Outcomes -/

/-- What an outcome is on tokens without trivia: a failure stops at the tokens that are left without
    trivia, and a result is carried over by `f`. -/
def image (f : α → β) : Except Failure α → Except Failure β
  | .error e => .error ⟨e.error, bare e.rest⟩
  | .ok a => .ok (f a)

/-- The next significant token and the tokens after it. -/
theorem significant_bare (line : Int) (ts : List Token) :
    significant line (bare ts) = image (Prod.map id bare) (significant line ts) := by
  rw [significant, significant, dropWhile_bare (fun _ h => h)]
  cases hdrop : ts.dropWhile Token.isTrivia with
  | nil => rfl
  | cons t rest =>
    obtain ⟨ht, -⟩ := dropWhile_eq_cons_iff.1 hdrop
    rw [bare_cons ht]
    rfl

/-- An outcome that is the image of another one but for `f` fails or succeeds together with it. -/
theorem eq_cases_of_image {f : β → γ} {g : α → γ} {x : Except Failure β} {y : Except Failure α}
    (h : x.map f = image g y) :
    (∃ e, y = .error e ∧ x = .error ⟨e.error, bare e.rest⟩) ∨
      ∃ a b, y = .ok a ∧ x = .ok b ∧ f b = g a := by
  cases y with
  | error e =>
    cases x with
    | error e' =>
      cases h
      exact .inl ⟨e, rfl, rfl⟩
    | ok b => cases h
  | ok a =>
    cases x with
    | error e' => cases h
    | ok b => exact .inr ⟨a, b, rfl, rfl, Except.ok.inj h⟩

theorem isTrivia_of_significant {line : Int} {ts rest : List Token} {t : Token}
    (h : significant line ts = .ok (t, rest)) : t.isTrivia = false := (significant_eq_ok_iff.1 h).1

/-! ## Brackets -/

theorem afterBalanced?_bare (depth : Int) (ts : List Token) :
    afterBalanced? depth (bare ts) = (afterBalanced? depth ts).map bare := by
  induction ts generalizing depth with
  | nil => rfl
  | cons t r ih =>
    by_cases ht : t.isTrivia = true
    · have hopen := Token.isOpener_of_isTrivia ht
      have hclose := Token.isCloser_of_isTrivia ht
      rw [bare_cons_of_isTrivia ht, ih, afterBalanced?, if_neg (by simp [hopen]),
        if_neg (by simp [hclose])]
    · rw [Bool.not_eq_true] at ht
      rw [bare_cons ht, afterBalanced?, afterBalanced?, ih, ih, ih]
      split_ifs <;> rfl

theorem skipBalanced_bare (line : Int) (ts : List Token) :
    skipBalanced line (bare ts) = image bare (skipBalanced line ts) := by
  rw [skipBalanced, skipBalanced, afterBalanced?_bare]
  cases afterBalanced? 0 ts <;> rfl

theorem collectFrom_bare (stops : List String) (depth : Nat) (ts : List Token) :
    collectFrom stops depth (bare ts) = (collectFrom stops depth ts).map bare bare := by
  induction ts generalizing depth with
  | nil => rfl
  | cons t r ih =>
    by_cases ht : t.isTrivia = true
    · have htag := Token.isKind_of_isTrivia ht (show Kind.isTrivia .closeTag = false from rfl)
      have hkind := Token.isNone_of_isTrivia ht
      have hopen := Token.isOpener_of_isTrivia ht
      have hclose := Token.isCloser_of_isTrivia ht
      rw [bare_cons_of_isTrivia ht, ih, collectFrom, if_neg (by simp [htag]),
        if_neg (by simp [hkind]), if_neg (by simp [hopen]), if_neg (by simp [hclose])]
      show _ = (bare (t :: _), _)
      rw [bare_cons_of_isTrivia ht]
      rfl
    · rw [Bool.not_eq_true] at ht
      rw [bare_cons ht, collectFrom, collectFrom, ih, ih, ih]
      split_ifs <;> simp [Prod.map, bare_cons ht]

theorem collect_bare (stops : List String) (ts : List Token) :
    collect stops (bare ts) = (collect stops ts).map bare bare := collectFrom_bare stops 0 ts

/-! ## Parameters -/

theorem isTrivia_of_dropWhile {p : Token → Bool} (hp : ∀ t, t.isTrivia = true → p t = true)
    {ts rest : List Token} {t : Token} (h : ts.dropWhile p = t :: rest) : t.isTrivia = false := by
  obtain ⟨ht, -⟩ := dropWhile_eq_cons_iff.1 h
  by_contra htrivia
  rw [hp t (by simpa using htrivia)] at ht
  cases ht

/-- The default of a parameter has another text without trivia, but it is there or missing all the
    same. -/
theorem argument?_bare (ts : List Token) :
    (argument? (bare ts)).map Argument.defaultHidden =
      (argument? ts).map Argument.defaultHidden := by
  have hvar : ∀ t : Token, t.isTrivia = true → (!t.isKind .variable) = true := by
    intro t ht
    rw [Token.isKind_of_isTrivia ht rfl]
    rfl
  have hsign : ∀ t : Token, t.isTrivia = true → (!t.isPunct "=") = true := by
    intro t ht
    rw [Token.isPunct_of_isTrivia ht]
    rfl
  unfold argument?
  rw [dropWhile_bare hvar, takeWhile_bare hvar]
  cases hdrop : ts.dropWhile (!·.isKind .variable) with
  | nil => rfl
  | cons var tail =>
    rw [bare_cons (isTrivia_of_dropWhile hvar hdrop)]
    simp only [dropWhile_bare hsign, Option.map_some, Argument.defaultHidden]
    have hhead : (bare (ts.takeWhile (!·.isKind .variable))).filter (!·.isTrivia) =
        (ts.takeWhile (!·.isKind .variable)).filter (!·.isTrivia) := bare_bare _
    rw [hhead]
    cases hvalue : tail.dropWhile (!·.isPunct "=") with
    | nil => rfl
    | cons sign value =>
      rw [bare_cons (isTrivia_of_dropWhile hsign hvalue)]
      rfl

theorem splitParameters?_bare (depth : Int) (ts : List Token) :
    splitParameters? depth (bare ts) =
      (splitParameters? depth ts).map (Prod.map bare (Prod.map (List.map bare) bare)) := by
  induction ts generalizing depth with
  | nil => rfl
  | cons t r ih =>
    by_cases ht : t.isTrivia = true
    · have hopen := Token.isOpener_of_isTrivia ht
      have hclose := Token.isCloser_of_isTrivia ht
      have hcomma := Token.isPunct_of_isTrivia ht ","
      rw [bare_cons_of_isTrivia ht, ih, splitParameters?, if_neg (by simp [hclose]),
        if_neg (by simp [hcomma])]
      simp only [hopen, hclose, Bool.false_eq_true, if_false]
      cases splitParameters? depth r with
      | none => rfl
      | some out =>
        show some _ = some (bare (t :: out.1), _)
        rw [bare_cons_of_isTrivia ht]
        rfl
    · rw [Bool.not_eq_true] at ht
      rw [bare_cons ht, splitParameters?, splitParameters?]
      simp only [ih]
      split
      · rfl
      · split
        · cases splitParameters? depth r <;> rfl
        · generalize (if t.isOpener then depth + 1 else if t.isCloser then depth - 1 else depth) = d
          cases splitParameters? d r with
          | none => rfl
          | some out =>
            show some (t :: bare out.1, _) = some (bare (t :: out.1), _)
            rw [bare_cons ht]
            rfl

/-- The arguments of a list are the same but for the texts of the defaults. -/
theorem readArguments_bare (line : Int) (ts : List Token) :
    (readArguments line (bare ts)).map (Prod.map (List.map Argument.defaultHidden) id) =
      image (Prod.map (List.map Argument.defaultHidden) bare) (readArguments line ts) := by
  rw [readArguments, readArguments, splitParameters?_bare]
  cases splitParameters? 0 ts with
  | none => rfl
  | some out =>
    obtain ⟨group, groups, after⟩ := out
    show Except.ok (((bare group :: groups.map bare).filterMap argument?).map
        Argument.defaultHidden, bare after) = .ok (((group :: groups).filterMap argument?).map
        Argument.defaultHidden, bare after)
    rw [← List.map_cons, List.map_filterMap, List.map_filterMap, List.filterMap_map]
    have hgroup : (fun ts => (argument? ts).map Argument.defaultHidden) ∘ bare =
        fun ts => (argument? ts).map Argument.defaultHidden := by
      funext ts
      exact argument?_bare ts
    rw [hgroup]

/-! ## Headers -/

theorem readReferenceMark_bare (line : Int) (ts : List Token) :
    readReferenceMark line (bare ts) =
      image (Prod.map id (Prod.map id bare)) (readReferenceMark line ts) := by
  rw [readReferenceMark, readReferenceMark, significant_bare]
  cases significant line ts with
  | error e => rfl
  | ok next =>
    obtain ⟨t, rest⟩ := next
    simp only [image, Prod.map, id]
    split
    · rw [significant_bare]
      cases significant line rest <;> rfl
    · rfl

theorem readFunctionName_bare (line : Int) {t : Token} (ht : t.isTrivia = false)
    (rest : List Token) :
    readFunctionName line t (bare rest) =
      image (Prod.map id bare) (readFunctionName line t rest) := by
  rw [readFunctionName, readFunctionName]
  split
  · rfl
  · split
    · show Except.error _ = Except.error _
      rw [bare_cons ht]
    · rw [significant_bare]
      cases hnext : significant line rest with
      | error e => rfl
      | ok next =>
        obtain ⟨u, after⟩ := next
        simp only [image, Prod.map, id]
        split
        · rfl
        · show Except.error _ = Except.error _
          rw [bare_cons (isTrivia_of_significant hnext)]

theorem readClosureUse_bare (line : Int) (isClosure : Bool) (ts : List Token) :
    readClosureUse line isClosure (bare ts) =
      image (Prod.map id bare) (readClosureUse line isClosure ts) := by
  rw [readClosureUse, readClosureUse, significant_bare]
  cases significant line ts with
  | error e => rfl
  | ok first =>
    obtain ⟨t, rest⟩ := first
    simp only [image, Prod.map, id]
    split
    · rw [significant_bare]
      cases hopener : significant line rest with
      | error e => rfl
      | ok second =>
        obtain ⟨opener, after⟩ := second
        simp only [image, Prod.map, id]
        rw [← bare_cons (isTrivia_of_significant hopener), skipBalanced_bare]
        cases skipBalanced line (opener :: after) with
        | error e => rfl
        | ok used => exact significant_bare line used
    · rfl

theorem readReturnType_bare (line : Int) (t : Token) (rest : List Token) :
    readReturnType line t (bare rest) =
      image (Prod.map id (Prod.map id bare)) (readReturnType line t rest) := by
  rw [readReturnType, readReturnType]
  split
  · simp only [collect_bare, Prod.map, significant_bare, compact_eq, bare_bare]
    cases significant line (collect [openBrace, ";"] rest).2 <;> rfl
  · rfl

theorem readFunctionBody_bare (line : Int) {t : Token} (ht : t.isTrivia = false)
    (rest : List Token) :
    readFunctionBody line t (bare rest) =
      image (Prod.map id bare) (readFunctionBody line t rest) := by
  rw [readFunctionBody, readFunctionBody]
  split
  · rw [← bare_cons ht, skipBalanced_bare]
    cases skipBalanced line (t :: rest) <;> rfl
  · split
    · rfl
    · show Except.error _ = Except.error _
      rw [bare_cons ht]

theorem isTrivia_of_readReferenceMark {line : Int} {ts rest : List Token} {mark : Bool} {t : Token}
    (h : readReferenceMark line ts = .ok (mark, t, rest)) : t.isTrivia = false := by
  obtain ⟨u, first, hfirst, -, ⟨-, hnext⟩ | ⟨-, rfl, -⟩⟩ := readReferenceMark_eq_ok_iff.1 h
  · exact isTrivia_of_significant hnext
  · exact isTrivia_of_significant hfirst

theorem isTrivia_of_readClosureUse {line : Int} {isClosure : Bool} {ts rest : List Token}
    {t : Token} (h : readClosureUse line isClosure ts = .ok (t, rest)) : t.isTrivia = false := by
  obtain ⟨u, first, hfirst, ⟨-, -, _, _, _, -, -, hnext⟩ | ⟨-, rfl, -⟩⟩ :=
    readClosureUse_eq_ok_iff.1 h
  · exact isTrivia_of_significant hnext
  · exact isTrivia_of_significant hfirst

theorem isTrivia_of_readReturnType {line : Int} {t u : Token} {ts rest : List Token}
    {type : Option String} (ht : t.isTrivia = false)
    (h : readReturnType line t ts = .ok (type, u, rest)) : u.isTrivia = false := by
  obtain ⟨-, -, hnext⟩ | ⟨-, -, rfl, -⟩ := readReturnType_eq_ok_iff.1 h
  · exact isTrivia_of_significant hnext
  · exact ht

/-- A header without its trivia is read in the same way, part by part. -/
theorem readSignature_bare (line : Int) (ts : List Token) :
    (readSignature line (bare ts)).map (Prod.map Signature.defaultsHidden id) =
      image (Prod.map Signature.defaultsHidden bare) (readSignature line ts) := by
  rw [readSignature, readSignature, readReferenceMark_bare]
  cases hmark : readReferenceMark line ts with
  | error e => rfl
  | ok out =>
  obtain ⟨byReference, t, afterMark⟩ := out
  have ht := isTrivia_of_readReferenceMark hmark
  simp only [image, Prod.map, id, readFunctionName_bare line ht]
  cases readFunctionName line t afterMark with
  | error e => rfl
  | ok out =>
  obtain ⟨name, afterName⟩ := out
  simp only
  -- The arguments are the one part that is not the same: only the texts of the defaults differ.
  obtain ⟨e, hfailed, hfailed'⟩ | ⟨⟨arguments, afterArguments⟩, ⟨arguments', after'⟩, hread, hread',
      harguments⟩ := eq_cases_of_image (readArguments_bare line afterName)
  · rw [hfailed, hfailed']
    rfl
  obtain ⟨hsame, hafter⟩ := Prod.mk.inj harguments
  rw [hread, hread']
  simp only [id] at hafter
  simp only [hafter, readClosureUse_bare]
  cases huse : readClosureUse line name.isNone afterArguments with
  | error e => rfl
  | ok out =>
  obtain ⟨u, afterUse⟩ := out
  simp only [image, Prod.map, id, readReturnType_bare]
  cases htype : readReturnType line u afterUse with
  | error e => rfl
  | ok out =>
  obtain ⟨returnType, v, afterType⟩ := out
  have hv := isTrivia_of_readReturnType (isTrivia_of_readClosureUse huse) htype
  simp only [image, Prod.map, id, readFunctionBody_bare line hv]
  cases readFunctionBody line v afterType with
  | error e => rfl
  | ok out =>
    obtain ⟨hasBody, rest⟩ := out
    simp only [Except.map, Prod.map, Signature.defaultsHidden, hsame, id]

/-! ## Functions at a position -/

/-- Some tokens without the trivia after position `p`. -/
def withoutTriviaAfter (p : Nat) (ts : List Token) : List Token :=
  ts.take (p + 1) ++ bare (ts.drop (p + 1))

/-- The position that `q` becomes when the trivia after position `p` is left out: the number of
    tokens before `q` that stay. -/
def positionWithoutTrivia (p : Nat) (ts : List Token) (q : Nat) : Nat :=
  (withoutTriviaAfter p (ts.take q)).length

/-- Two outcomes of reading a function, the second without trivia: the same error, no function, or
    functions that differ at most in the texts of defaults, where `position` gives the place after
    the second one. -/
inductive SameFunction (position : Nat → Nat) :
    Except Failure (Option FunctionDecl × Nat) → Except Failure (Option FunctionDecl × Nat) → Prop
  | error {e e' : Failure} : e'.error = e.error → SameFunction position (.error e) (.error e')
  | closure {q : Nat} : SameFunction position (.ok (none, q)) (.ok (none, position q))
  | function {f f' : FunctionDecl} {q : Nat} : f'.defaultsHidden = f.defaultsHidden →
      SameFunction position (.ok (some f, q)) (.ok (some f', position q))

theorem withoutTriviaAfter_append (front rest : List Token) (t : Token) :
    withoutTriviaAfter front.length (front ++ t :: rest) = front ++ t :: bare rest := by
  have hfront : front.length + 1 = (front ++ [t]).length := by simp
  have hsplit : front ++ t :: rest = (front ++ [t]) ++ rest := List.append_cons ..
  rw [withoutTriviaAfter, hfront, hsplit, List.take_left, List.drop_left, List.append_assoc,
    List.singleton_append]

theorem positionWithoutTrivia_append (front taken rest : List Token) (t : Token) :
    positionWithoutTrivia front.length (front ++ (t :: taken ++ rest))
      (front.length + (t :: taken).length) = front.length + (t :: bare taken).length := by
  rw [positionWithoutTrivia, ← List.length_append, ← List.append_assoc, List.take_left,
    withoutTriviaAfter_append, List.length_append]

/-- A function is read with and without trivia from the same signature. -/
theorem readFunctionFrom_bare (scope : String) (line : Int) (doc : Option Docblock)
    (ts : List Token) :
    (∃ e e', readFunctionFrom scope line doc ts = .error e ∧
        readFunctionFrom scope line doc (bare ts) = .error e' ∧ e'.error = e.error) ∨
      ∃ f f' taken rest, ts = taken ++ rest ∧
        readFunctionFrom scope line doc ts = .ok (f, rest) ∧
        readFunctionFrom scope line doc (bare ts) = .ok (f', bare rest) ∧
        f'.map FunctionDecl.defaultsHidden = f.map FunctionDecl.defaultsHidden := by
  rw [readFunctionFrom, readFunctionFrom]
  obtain ⟨e, hfailed, hfailed'⟩ | ⟨⟨s, rest⟩, ⟨s', rest'⟩, hread, hread', hsame⟩ :=
    eq_cases_of_image (readSignature_bare line ts)
  · rw [hfailed, hfailed']
    exact .inl ⟨_, _, rfl, rfl, rfl⟩
  · obtain ⟨taken, htaken, -⟩ := readSignature_takes hread
    obtain ⟨hs, hrest⟩ := Prod.mk.inj hsame
    rw [id] at hrest
    rw [hread, hread', hrest]
    refine .inr ⟨_, _, taken, rest, htaken, rfl, rfl, ?_⟩
    obtain ⟨hname, harguments, htype, hmark, -⟩ := Signature.mk.inj hs
    rw [hname]
    cases s.name with
    | none => rfl
    | some name =>
      simp only [Option.map_some, FunctionDecl.defaultsHidden, harguments, htype, hmark]

theorem sameFunction_of_readAt {position : Nat → Nat} {f f' : Option FunctionDecl} {q q' : Nat}
    (hsame : f'.map FunctionDecl.defaultsHidden = f.map FunctionDecl.defaultsHidden)
    (hq : position q = q') : SameFunction position (.ok (f, q)) (.ok (f', q')) := by
  subst hq
  cases f with
  | none =>
    cases f' with
    | none => exact .closure
    | some f' => cases hsame
  | some f =>
    cases f' with
    | none => cases hsame
    | some f' => exact .function (Option.some.inj hsame)

/-- White space and comments after the keyword do not matter to a function header, whatever the
    tokens are. -/
theorem readFunction_withoutTrivia (scope : String) (ts : List Token) (p : Nat) :
    SameFunction (positionWithoutTrivia p ts) (readAt (readFunction scope) ts p).result
      (readAt (readFunction scope) (withoutTriviaAfter p ts) p).result := by
  by_cases hp : p < ts.length
  · obtain ⟨front, t, rest, rfl, rfl⟩ :
        ∃ front t rest, ts = front ++ t :: rest ∧ front.length = p :=
      ⟨ts.take p, ts[p], ts.drop (p + 1),
        by rw [← List.drop_eq_getElem_cons, List.take_append_drop],
        by rw [List.length_take]; omega⟩
    rw [withoutTriviaAfter_append, readAt, readAt, Cursor.ofPosition_append,
      Cursor.ofPosition_append]
    by_cases ht : [Keyword.functionKw].any t.isKeyword = true
    · rw [readFunction_eq rfl ht, readFunction_eq rfl ht]
      obtain ⟨e, e', hread, hread', herror⟩ | ⟨f, f', taken, left, rfl, hread, hread', hsame⟩ :=
        readFunctionFrom_bare scope t.line (attached (leadingComment front.reverse)).2 rest
      · rw [hread, hread']
        exact .error herror
      · rw [hread, hread']
        refine sameFunction_of_readAt hsame ?_
        show positionWithoutTrivia front.length (front ++ (t :: taken ++ left))
            ((⟨front.reverse, t :: taken ++ left⟩ : Cursor).moveTo left).position =
          ((⟨front.reverse, t :: bare (taken ++ left)⟩ : Cursor).moveTo (bare left)).position
        rw [Cursor.position_moveTo, List.length_reverse, positionWithoutTrivia_append, bare_append,
          ← List.cons_append, Cursor.position_moveTo, List.length_reverse]
    · -- Without a keyword both readings blame the token at the position.
      rw [readFunction, readFunction, expect_eq_error ht, expect_eq_error ht]
      exact .error rfl
  · have hnil : (Cursor.ofPosition ts p).rest = [] := by
      rw [Cursor.rest_ofPosition]
      exact List.drop_eq_nil_of_le (by omega)
    have hsame : withoutTriviaAfter p ts = ts := by
      rw [withoutTriviaAfter, List.take_of_length_le (by omega), List.drop_eq_nil_of_le (by omega),
        bare_nil, List.append_nil]
    have hread : (readAt (readFunction scope) ts p).result = fail (.misplaced none) 0 [] := by
      rw [readAt, readFunction, expect, hnil]
      rfl
    rw [hsame, hread]
    exact .error rfl

end Reading

end PhpOutline
