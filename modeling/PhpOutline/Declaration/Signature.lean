import PhpOutline.Declaration.Brackets

/-!
# Signatures

The header of a function or a method, `[&]name(parameters) [: type]`, with the body or the
semicolon after it. A function without a name is a closure, which may list the variables it uses.

Results:
* `readSignature_length`: reading goes forward.
-/

namespace PhpOutline

/-- A function header (`_Signature`). -/
structure Signature where
  name : Option String
  arguments : List Argument
  returnType : Option String
  byReference : Bool
  hasBody : Bool
  deriving DecidableEq, Repr

namespace Keyword

/-- A word that may stand before a member or a promoted parameter. -/
def isMemberModifier : Keyword → Bool
  | .abstractKw | .finalKw | .publicKw | .protectedKw | .privateKw | .staticKw | .varKw
  | .readonlyKw => true
  | _ => false

end Keyword

namespace Reading

/-! ## Parameters -/

/-- A token that modifies a member. -/
def isMemberModifier (t : Token) : Bool :=
  match t.kind with
  | some (.keyword word) => word.isMemberModifier
  | _ => false

/-- A sign between the type and the variable of a parameter: by reference or variadic. -/
def isParameterMark (t : Token) : Bool := t.isKind (.operator .ellipsis) || t.isPunct "&"

/-- The argument that the tokens of one parameter declare, if they hold a variable
    (`_build_argument`). The type is what stands before the marks, without modifiers; the default is
    what follows the first equals sign. -/
def argument? (ts : List Token) : Option Argument :=
  match ts.dropWhile (!·.isKind .variable) with
  | [] => none
  | var :: tail =>
    let head := (ts.takeWhile (!·.isKind .variable)).filter (!·.isTrivia)
    let marks := head.reverse.takeWhile isParameterMark
    let types := (head.reverse.dropWhile isParameterMark).reverse.filter (!isMemberModifier ·)
    some {
      name := var.content
      type := nonEmpty? (compact types)
      default :=
        match tail.dropWhile (!·.isPunct "=") with
        | [] => none
        | _ :: value => some (sourceText value)
      byReference := marks.any (·.isPunct "&")
      variadic := marks.any (·.isKind (.operator .ellipsis))
      line := var.line
    }

/-- The parameters of a list whose opening parenthesis has been read: the tokens of the first one,
    those of the others, and the tokens after the closing parenthesis. Commas divide at depth
    zero. -/
def splitParameters? (depth : Int) : List Token → Option (List Token × List (List Token) × List Token)
  | [] => none
  | t :: rest =>
    if t.isCloser ∧ depth = 0 ∧ t.content = ")" then some ([], [], rest)
    else if t.isPunct "," ∧ depth = 0 then
      (splitParameters? depth rest).map fun (group, groups, after) => ([], group :: groups, after)
    else
      let depth := if t.isOpener then depth + 1 else if t.isCloser then depth - 1 else depth
      (splitParameters? depth rest).map fun (group, groups, after) => (t :: group, groups, after)

/-- The arguments of a parameter list whose opening parenthesis has been read
    (`_parse_arguments`). -/
def readArguments (line : Int) (ts : List Token) : Except Failure (List Argument × List Token) :=
  match splitParameters? 0 ts with
  | none => fail .unterminatedParameters line []
  | some (group, groups, after) => .ok ((group :: groups).filterMap argument?, after)

/-! ## Headers -/

/-- An optional by-reference mark before a name, the next token and the tokens after it. -/
def readReferenceMark (line : Int) (ts : List Token) :
    Except Failure (Bool × Token × List Token) :=
  match significant line ts with
  | .error e => .error e
  | .ok (t, rest) =>
    if t.isPunct "&" then
      match significant line rest with
      | .error e => .error e
      | .ok (t, rest) => .ok (true, t, rest)
    else .ok (false, t, rest)

/-- The name of a function, which a closure lacks, and the tokens after the opening parenthesis;
    `t` is the first token. -/
def readFunctionName (line : Int) (t : Token) (rest : List Token) :
    Except Failure (Option String × List Token) :=
  if t.isPunct "(" then .ok (none, rest)
  else if t.kind.isNone then fail (.noFunctionName t.content) t.line (t :: rest)
  else
    match significant line rest with
    | .error e => .error e
    | .ok (next, after) =>
      if next.isPunct "(" then .ok (some t.content, after)
      else fail (.noParameters t.content next.content) next.line (next :: after)

/-- The list of variables that a closure uses, if there is one, the next token and the tokens after
    it. -/
def readClosureUse (line : Int) (isClosure : Bool) (ts : List Token) :
    Except Failure (Token × List Token) :=
  match significant line ts with
  | .error e => .error e
  | .ok (t, rest) =>
    if isClosure ∧ t.isKeyword .useKw then
      match significant line rest with
      | .error e => .error e
      | .ok (opener, after) =>
        match skipBalanced line (opener :: after) with
        | .error e => .error e
        | .ok rest => significant line rest
    else .ok (t, rest)

/-- A return type, if there is one, the next token and the tokens after it; `t` is the first
    token. -/
def readReturnType (line : Int) (t : Token) (rest : List Token) :
    Except Failure (Option String × Token × List Token) :=
  if t.isPunct ":" then
    let (type, after) := collect [openBrace, ";"] rest
    match significant line after with
    | .error e => .error e
    | .ok (next, rest) => .ok (nonEmpty? (compact type), next, rest)
  else .ok (none, t, rest)

/-- The body of a function or the semicolon in its place; `t` is the first token. -/
def readFunctionBody (line : Int) (t : Token) (rest : List Token) :
    Except Failure (Bool × List Token) :=
  if t.isPunct openBrace then
    match skipBalanced line (t :: rest) with
    | .error e => .error e
    | .ok rest => .ok (true, rest)
  else if t.isPunct ";" then .ok (false, rest)
  else fail (.noFunctionBody t.content) t.line (t :: rest)

/-- The header and the body of a function whose keyword stands on `line` (`_parse_signature`). -/
def readSignature (line : Int) (ts : List Token) : Except Failure (Signature × List Token) :=
  match readReferenceMark line ts with
  | .error e => .error e
  | .ok (byReference, t, ts) =>
    match readFunctionName line t ts with
    | .error e => .error e
    | .ok (name, ts) =>
      match readArguments line ts with
      | .error e => .error e
      | .ok (arguments, ts) =>
        match readClosureUse line name.isNone ts with
        | .error e => .error e
        | .ok (t, ts) =>
          match readReturnType line t ts with
          | .error e => .error e
          | .ok (returnType, t, ts) =>
            match readFunctionBody line t ts with
            | .error e => .error e
            | .ok (hasBody, rest) =>
              .ok (⟨name, arguments, returnType, byReference, hasBody⟩, rest)

/-! ## Progress -/

theorem splitParameters?_length {depth : Int} {ts group rest : List Token}
    {groups : List (List Token)} (h : splitParameters? depth ts = some (group, groups, rest)) :
    rest.length < ts.length := by
  induction ts generalizing depth group groups with
  | nil => simp [splitParameters?] at h
  | cons t r ih =>
    rw [splitParameters?] at h
    split at h
    · obtain ⟨_, _, rfl⟩ := by simpa using h
      simp
    · split at h
      · obtain ⟨⟨g, gs, after⟩, hrec, heq⟩ := Option.map_eq_some_iff.1 h
        obtain ⟨_, _, rfl⟩ := by simpa using heq
        exact Nat.lt_succ_of_lt (ih hrec)
      · obtain ⟨⟨g, gs, after⟩, hrec, heq⟩ := Option.map_eq_some_iff.1 h
        obtain ⟨_, _, rfl⟩ := by simpa using heq
        exact Nat.lt_succ_of_lt (ih hrec)

theorem readArguments_length {line : Int} {ts rest : List Token} {arguments : List Argument}
    (h : readArguments line ts = .ok (arguments, rest)) : rest.length < ts.length := by
  unfold readArguments at h
  split at h
  · simp [fail] at h
  · rename_i group groups after hsplit
    obtain ⟨_, rfl⟩ := by simpa using h
    exact splitParameters?_length hsplit

theorem readReferenceMark_length {line : Int} {ts rest : List Token} {t : Token} {mark : Bool}
    (h : readReferenceMark line ts = .ok (mark, t, rest)) : rest.length < ts.length := by
  unfold readReferenceMark at h
  split at h
  · simp at h
  · rename_i u r hfirst
    have h1 := significant_length hfirst
    split at h
    · split at h
      · simp at h
      · rename_i v s hsecond
        have h2 := significant_length hsecond
        obtain ⟨_, _, rfl⟩ := by simpa using h
        omega
    · obtain ⟨_, _, rfl⟩ := by simpa using h
      exact h1

theorem readFunctionName_length {line : Int} {t : Token} {ts rest : List Token}
    {name : Option String} (h : readFunctionName line t ts = .ok (name, rest)) :
    rest.length ≤ ts.length := by
  unfold readFunctionName at h
  split at h
  · obtain ⟨_, rfl⟩ := by simpa using h
    exact Nat.le_refl _
  · split at h
    · simp [fail] at h
    · split at h
      · simp at h
      · rename_i u r hnext
        have h1 := significant_length hnext
        split at h
        · obtain ⟨_, rfl⟩ := by simpa using h
          omega
        · simp [fail] at h

theorem readClosureUse_length {line : Int} {isClosure : Bool} {ts rest : List Token} {t : Token}
    (h : readClosureUse line isClosure ts = .ok (t, rest)) : rest.length < ts.length := by
  unfold readClosureUse at h
  split at h
  · simp at h
  · rename_i u r hfirst
    have h1 := significant_length hfirst
    split at h
    · split at h
      · simp at h
      · rename_i v s hsecond
        have h2 := significant_length hsecond
        split at h
        · simp at h
        · rename_i after hskip
          have h3 := skipBalanced_length hskip
          have h4 := significant_length h
          simp at h3; omega
    · obtain ⟨_, rfl⟩ := by simpa using h
      exact h1

theorem readReturnType_length {line : Int} {t u : Token} {ts rest : List Token}
    {type : Option String} (h : readReturnType line t ts = .ok (type, u, rest)) :
    rest.length ≤ ts.length := by
  unfold readReturnType at h
  split at h
  · simp only at h
    split at h
    · simp at h
    · rename_i v r hnext
      have h1 := significant_length hnext
      have h2 := collect_length [openBrace, ";"] ts
      obtain ⟨_, _, rfl⟩ := by simpa using h
      omega
  · obtain ⟨_, _, rfl⟩ := by simpa using h
    exact Nat.le_refl _

theorem readFunctionBody_length {line : Int} {t : Token} {ts rest : List Token} {hasBody : Bool}
    (h : readFunctionBody line t ts = .ok (hasBody, rest)) : rest.length ≤ ts.length := by
  unfold readFunctionBody at h
  split at h
  · split at h
    · simp at h
    · rename_i r hskip
      have h1 := skipBalanced_length hskip
      obtain ⟨_, rfl⟩ := by simpa using h
      simp at h1; omega
  · split at h
    · obtain ⟨_, rfl⟩ := by simpa using h
      exact Nat.le_refl _
    · simp [fail] at h

/-- Reading a signature goes forward. -/
theorem readSignature_length {line : Int} {ts rest : List Token} {s : Signature}
    (h : readSignature line ts = .ok (s, rest)) : rest.length < ts.length := by
  unfold readSignature at h
  split at h
  · simp at h
  · rename_i mark t r1 h1
    split at h
    · simp at h
    · rename_i name r2 h2
      split at h
      · simp at h
      · rename_i arguments r3 h3
        split at h
        · simp at h
        · rename_i u r4 h4
          split at h
          · simp at h
          · rename_i type v r5 h5
            split at h
            · simp at h
            · rename_i hasBody r6 h6
              have l1 := readReferenceMark_length h1
              have l2 := readFunctionName_length h2
              have l3 := readArguments_length h3
              have l4 := readClosureUse_length h4
              have l5 := readReturnType_length h5
              have l6 := readFunctionBody_length h6
              obtain ⟨_, rfl⟩ := by simpa using h
              omega

end Reading

end PhpOutline
