import PhpOutline.Proofs.Written

/-!
# Written functions

How a function is written in tokens: an optional mark for a result by reference, a name unless it is
a closure, parameters, the variables that a closure uses, an optional type of the result, and a
block or a semicolon. Gaps may stand between all parts. Whatever follows a written function, reading
gives back its parts and stops where it ends.

Results:
* `Parameter.argument?_tokens`: a parameter is read back.
* `ParameterList.readArguments`: a list of parameters is read back in order.
* `Block.readFunctionBody`, `ResultType.exists_first`: what follows the parameters.
* `Header.readSignature`: a header is read back.
* `readFunction_written`: a written function at a cursor.
-/

namespace PhpOutline.Written

open Reading

/-! ## Parameters -/

/-- The words that may stand before a member or a parameter. -/
def modifierWords : List Keyword :=
  [.abstractKw, .finalKw, .publicKw, .protectedKw, .privateKw, .staticKw, .varKw, .readonlyKw]

/-- A token that modifies a member or a parameter. -/
def isModifier (t : Token) : Bool := modifierWords.any t.isKeyword

theorem isMemberModifier_eq (t : Token) : isMemberModifier t = isModifier t := by
  obtain ⟨kind, content, line⟩ := t
  cases kind with
  | none => rfl
  | some kind =>
    cases kind with
    | keyword word => cases word <;> rfl
    | _ => rfl

/-- Tokens that do not end with a token of some sort have none of the sort at their end. -/
theorem takeWhile_reverse_of_getLast {p : Token → Bool} {ts : List Token}
    (h : ∀ t, ts.getLast? = some t → p t = false) :
    ts.reverse.takeWhile p = [] ∧ ts.reverse.dropWhile p = ts.reverse := by
  rw [List.getLast?_eq_head?_reverse] at h
  cases hts : ts.reverse with
  | nil => exact ⟨rfl, rfl⟩
  | cons t us =>
    have ht : ¬ p t = true := by simp [h t (by rw [hts]; rfl)]
    exact ⟨List.takeWhile_cons_of_neg ht, List.dropWhile_cons_of_neg ht⟩

/-- A default value with the sign before it, or a gap in its place. -/
inductive Default (stops : List String) (tags : Bool) where
  | absent (gap : Gap)
  | present (gap : Gap) (sign : Int) (value : Part stops tags)

/-- The tokens of a default. -/
def Default.tokens {stops : List String} {tags : Bool} : Default stops tags → List Token
  | .absent gap => gap.tokens
  | .present gap sign value => gap.tokens ++ .punct "=" sign :: value.tokens

/-- The text of a default without the blanks at either end. -/
def Default.text? {stops : List String} {tags : Bool} : Default stops tags → Option String
  | .absent _ => none
  | .present _ _ value => some (sourceText value.tokens)

/-- There is no sign in the gap before a default. -/
theorem dropWhile_gap (g : Gap) (ts : List Token) :
    (g.tokens ++ ts).dropWhile (!·.isPunct "=") = ts.dropWhile (!·.isPunct "=") := by
  apply List.dropWhile_append_of_pos
  intro t ht
  rw [Token.isPunct_of_isTrivia (g.trivia t ht)]
  rfl

/-- A parameter: modifiers and a type, marks, a variable and a default. -/
structure Parameter where
  /-- The modifiers and the tokens of the type, with gaps among them. -/
  lead : Part [","] true
  /-- The line of the mark for a parameter by reference, and the gap after it. -/
  reference? : Option (Int × Gap)
  /-- The mark for a variadic parameter, and the gap after it. -/
  variadic? : Option (Word × Gap)
  var : Word
  default : Default [","] true
  lead_ok : ∀ t ∈ lead.tokens, t.isKind .variable = false
  /-- A type does not end with a mark, which would belong to the variable. -/
  lead_end : ∀ t, (bare lead.tokens).getLast? = some t →
    t.isPunct "&" = false ∧ t.isKind (.operator .ellipsis) = false

namespace Parameter

/-- The tokens of the mark for a parameter by reference. -/
def referenceTokens (p : Parameter) : List Token :=
  match p.reference? with
  | none => []
  | some (line, gap) => .punct "&" line :: gap.tokens

/-- The tokens of the mark for a variadic parameter. -/
def variadicTokens (p : Parameter) : List Token :=
  match p.variadic? with
  | none => []
  | some (word, gap) => word.token (.operator .ellipsis) :: gap.tokens

/-- The tokens before the variable. -/
def front (p : Parameter) : List Token :=
  p.lead.tokens ++ (p.referenceTokens ++ p.variadicTokens)

/-- The tokens of a parameter. -/
def tokens (p : Parameter) : List Token :=
  p.front ++ p.var.token .variable :: p.default.tokens

/-- The tokens of the type, with gaps among them. -/
def typeTokens (p : Parameter) : List Token := p.lead.tokens.filter (!isModifier ·)

/-- The argument that a parameter declares. -/
def argument (p : Parameter) : Argument where
  name := p.var.text
  type := nonEmpty? (compact p.typeTokens)
  default := p.default.text?
  byReference := p.reference?.isSome
  variadic := p.variadic?.isSome
  line := p.var.line

/-- The significant tokens of the marks. -/
theorem bare_marks (p : Parameter) :
    bare (p.referenceTokens ++ p.variadicTokens) =
      p.reference?.toList.map (fun mark => .punct "&" mark.1) ++
        p.variadic?.toList.map (fun mark => mark.1.token (.operator .ellipsis)) := by
  have hreference : bare p.referenceTokens =
      p.reference?.toList.map fun mark => .punct "&" mark.1 := by
    unfold referenceTokens
    cases p.reference? with
    | none => rfl
    | some mark =>
      rw [bare_cons rfl, ← List.append_nil mark.2.tokens, mark.2.bare_append]
      rfl
  have hvariadic : bare p.variadicTokens =
      p.variadic?.toList.map fun mark => mark.1.token (.operator .ellipsis) := by
    unfold variadicTokens
    cases p.variadic? with
    | none => rfl
    | some mark =>
      rw [bare_cons rfl, ← List.append_nil mark.2.tokens, mark.2.bare_append]
      rfl
  rw [bare_append, hreference, hvariadic]

theorem isVariable_of_mem_front (p : Parameter) :
    ∀ t ∈ p.front, (!t.isKind .variable) = true := by
  have hgap : ∀ g : Gap, ∀ t ∈ g.tokens, t.isKind .variable = false := fun g t ht =>
    Token.isKind_of_isTrivia (g.trivia t ht) rfl
  intro t ht
  rw [Bool.not_eq_true']
  rcases List.mem_append.1 ht with hlead | ht
  · exact p.lead_ok t hlead
  rcases List.mem_append.1 ht with hmark | hmark
  · unfold referenceTokens at hmark
    split at hmark
    · cases hmark
    · rcases List.mem_cons.1 hmark with rfl | hmark
      · rfl
      · exact hgap _ t hmark
  · unfold variadicTokens at hmark
    split at hmark
    · cases hmark
    · rcases List.mem_cons.1 hmark with rfl | hmark
      · rfl
      · exact hgap _ t hmark

/-- The marks are what stands last before the variable, and the type is what is left before them
    when the modifiers are left out. -/
theorem marks_and_type (p : Parameter) :
    (bare p.front).reverse.takeWhile isParameterMark =
        (bare (p.referenceTokens ++ p.variadicTokens)).reverse ∧
      ((bare p.front).reverse.dropWhile isParameterMark).reverse.filter (!isMemberModifier ·) =
        bare p.typeTokens := by
  have hmarks : ∀ t ∈ (bare (p.referenceTokens ++ p.variadicTokens)).reverse,
      isParameterMark t = true := by
    intro t ht
    rw [List.mem_reverse, bare_marks, List.mem_append, List.mem_map, List.mem_map] at ht
    rcases ht with ⟨mark, -, rfl⟩ | ⟨mark, -, rfl⟩ <;> rfl
  have hlast : ∀ t, (bare p.lead.tokens).getLast? = some t → isParameterMark t = false := by
    intro t ht
    obtain ⟨hreference, hvariadic⟩ := p.lead_end t ht
    rw [isParameterMark, hreference, hvariadic]
    rfl
  obtain ⟨hnoMarks, hrest⟩ := takeWhile_reverse_of_getLast hlast
  have hfront : (bare p.front).reverse =
      (bare (p.referenceTokens ++ p.variadicTokens)).reverse ++ (bare p.lead.tokens).reverse := by
    rw [front, bare_append, List.reverse_append]
  rw [hfront, List.takeWhile_append_of_pos hmarks, List.dropWhile_append_of_pos hmarks, hnoMarks,
    hrest, List.append_nil, List.reverse_reverse]
  refine ⟨rfl, ?_⟩
  simp only [isMemberModifier_eq]
  exact List.filter_comm ..

theorem any_marks (p : Parameter) :
    (bare (p.referenceTokens ++ p.variadicTokens)).any (·.isPunct "&") = p.reference?.isSome ∧
      (bare (p.referenceTokens ++ p.variadicTokens)).any (·.isKind (.operator .ellipsis)) =
        p.variadic?.isSome := by
  rw [bare_marks]
  cases p.reference? <;> cases p.variadic? <;> exact ⟨rfl, rfl⟩

/-- A parameter is read back. -/
theorem argument?_tokens (p : Parameter) : argument? p.tokens = some p.argument := by
  have hdrop : p.tokens.dropWhile (!·.isKind .variable) =
      p.var.token .variable :: p.default.tokens := by
    rw [tokens, List.dropWhile_append_of_pos p.isVariable_of_mem_front,
      List.dropWhile_cons_of_neg (by simp [Word.token, Token.isKind])]
  have htake : p.tokens.takeWhile (!·.isKind .variable) = p.front := by
    rw [tokens, List.takeWhile_append_of_pos p.isVariable_of_mem_front,
      List.takeWhile_cons_of_neg (by simp [Word.token, Token.isKind]), List.append_nil]
  obtain ⟨hmarks, htype⟩ := p.marks_and_type
  obtain ⟨hreference, hvariadic⟩ := p.any_marks
  have hfront : p.front.filter (!·.isTrivia) = bare p.front := rfl
  have hcompact : compact (bare p.typeTokens) = compact p.typeTokens := by
    rw [compact_eq, bare_bare, compact_eq]
  unfold argument? argument
  rw [hdrop, htake]
  simp only [hfront, hmarks, htype, hcompact, List.any_reverse, hreference, hvariadic]
  cases p.default with
  | absent gap =>
    rw [Default.tokens, ← List.append_nil gap.tokens, dropWhile_gap]
    rfl
  | present gap sign value =>
    rw [Default.tokens, dropWhile_gap gap, List.dropWhile_cons_of_neg (by simp)]
    rfl

end Parameter

/-- A default is a part wherever the sign before it is no stop. -/
theorem Default.exists_part {stops : List String} {tags : Bool} (d : Default stops tags)
    (hstops : stops.contains "=" = false) : ∃ part : Part stops tags, part.tokens = d.tokens := by
  cases d with
  | absent gap => exact ⟨.ofGap gap, rfl⟩
  | present gap sign value =>
    have hplain : Plain stops (.punct "=" sign) :=
      ⟨by rw [Token.any_isPunct]; exact hstops, rfl, rfl⟩
    exact ⟨(Part.ofGap gap).append ((Part.ofPlain (.punct "=" sign) (Token.isSingle_punct '=' sign)
      hplain fun _ => rfl).append value), rfl⟩

/-- The tokens of a parameter are a part without commas. -/
theorem Parameter.exists_part (p : Parameter) :
    ∃ part : Part [","] true, part.tokens = p.tokens := by
  have hreference : ∃ part : Part [","] true, part.tokens = p.referenceTokens := by
    unfold referenceTokens
    cases p.reference? with
    | none => exact ⟨.empty, rfl⟩
    | some mark =>
      exact ⟨(Part.ofPlain (.punct "&" mark.1) (Token.isSingle_punct '&' mark.1) ⟨rfl, rfl, rfl⟩
        fun _ => rfl).append (.ofGap mark.2), rfl⟩
  have hvariadic : ∃ part : Part [","] true, part.tokens = p.variadicTokens := by
    unfold variadicTokens
    cases p.variadic? with
    | none => exact ⟨.empty, rfl⟩
    | some mark =>
      exact ⟨(Part.ofTyped (mark.1.token (.operator .ellipsis)) rfl fun _ => rfl).append
        (.ofGap mark.2), rfl⟩
  obtain ⟨reference, hreference⟩ := hreference
  obtain ⟨variadic, hvariadic⟩ := hvariadic
  obtain ⟨default, hdefault⟩ := p.default.exists_part rfl
  rw [tokens, front, ← hreference, ← hvariadic, ← hdefault]
  exact ⟨(p.lead.append (reference.append variadic)).append
    ((Part.ofTyped (p.var.token .variable) rfl fun _ => rfl).append default), rfl⟩

/-- Parameters with commas between them. A list without parameters is a gap, and so is what follows
    a comma at the end. -/
inductive ParameterList where
  | none (gap : Gap)
  | one (p : Parameter)
  | more (p : Parameter) (comma : Int) (others : ParameterList)

namespace ParameterList

/-- The tokens of a list of parameters. -/
def tokens : ParameterList → List Token
  | .none gap => gap.tokens
  | .one p => p.tokens
  | .more p comma others => p.tokens ++ .punct "," comma :: others.tokens

/-- The arguments that a list of parameters declares. -/
def arguments : ParameterList → List Argument
  | .none _ => []
  | .one p => [p.argument]
  | .more p _ others => p.argument :: others.arguments

theorem argument?_gap (g : Gap) : argument? g.tokens = Option.none := by
  have hdrop : g.tokens.dropWhile (!·.isKind .variable) = [] := by
    rw [← List.append_nil g.tokens, List.dropWhile_append_of_pos]
    · rfl
    · intro t ht
      rw [Token.isKind_of_isTrivia (g.trivia t ht) rfl]
      rfl
  rw [argument?, hdrop]

/-- A list of parameters is divided at its commas and ends at its parenthesis. -/
theorem splitParameters? (list : ParameterList) (closer : Int) (rest : List Token) :
    ∃ group groups, splitParameters? 0 (list.tokens ++ .punct ")" closer :: rest) =
        some (group, groups, rest) ∧
      (group :: groups).filterMap argument? = list.arguments := by
  have hend : Reading.splitParameters? 0 (.punct ")" closer :: rest) = some ([], [], rest) := by
    have hcloser := Token.isCloser_eq (Token.isSingle_punct ')' closer)
    rw [Reading.splitParameters?, if_pos ⟨hcloser, rfl, rfl⟩]
  have hlast : ∀ part : Part [","] true,
      Reading.splitParameters? 0 (part.tokens ++ .punct ")" closer :: rest) =
        some (part.tokens, [], rest) := by
    intro part
    rw [part.splitParameters?, hend, Option.map_some, Prod.map, List.append_nil]
    rfl
  induction list with
  | none gap =>
    exact ⟨gap.tokens, [], hlast (.ofGap gap), by rw [List.filterMap_cons, argument?_gap]; rfl⟩
  | one p =>
    obtain ⟨part, hpart⟩ := p.exists_part
    refine ⟨p.tokens, [], ?_, by rw [List.filterMap_cons, p.argument?_tokens]; rfl⟩
    rw [tokens, ← hpart]
    exact hlast part
  | more p comma others ih =>
    obtain ⟨group, groups, hsplit, harguments⟩ := ih
    obtain ⟨part, hpart⟩ := p.exists_part
    refine ⟨p.tokens, group :: groups, ?_, ?_⟩
    · rw [tokens, List.append_assoc, List.cons_append, ← hpart, part.splitParameters?,
        Reading.splitParameters?, if_neg (by simp [Token.isCloser, Token.punct]), if_pos ⟨rfl, rfl⟩,
        hsplit]
      simp [Prod.map]
    · rw [List.filterMap_cons, p.argument?_tokens, harguments]
      rfl

theorem readArguments (list : ParameterList) (line closer : Int) (rest : List Token) :
    readArguments line (list.tokens ++ .punct ")" closer :: rest) = .ok (list.arguments, rest) := by
  obtain ⟨group, groups, hsplit, harguments⟩ := list.splitParameters? closer rest
  exact readArguments_eq_ok_iff.2 ⟨group, groups, hsplit, harguments.symm⟩

end ParameterList

/-! ## Blocks and types of results -/

/-- A block in braces, or a semicolon in its place. -/
inductive Block where
  | braces (opener : Int) (inner : Part [] true) (closer : Int)
  | semicolon (line : Int)

namespace Block

/-- The token that a block starts with. -/
def first : Block → Token
  | .braces opener _ _ => .punct openBrace opener
  | .semicolon line => .punct ";" line

/-- The tokens of a block after its first. -/
def others : Block → List Token
  | .braces _ inner closer => inner.tokens ++ [.punct closeBrace closer]
  | .semicolon _ => []

/-- The tokens of a block. -/
def tokens (b : Block) : List Token := b.first :: b.others

/-- The block has braces. -/
def hasBraces : Block → Bool
  | .braces _ _ _ => true
  | .semicolon _ => false

theorem isPunct_first (b : Block) : b.first.isPunct openBrace = b.hasBraces := by
  cases b <;> rfl

/-- A block in braces is passed over as a whole, and a semicolon is a block by itself. -/
theorem ends (b : Block) (line : Int) (rest : List Token) :
    (b.hasBraces = true ∧ skipBalanced line (b.first :: (b.others ++ rest)) = .ok rest) ∨
      (b.hasBraces = false ∧ b.first.isPunct ";" = true ∧ rest = b.others ++ rest) := by
  cases b with
  | braces opener inner closer =>
    refine .inl ⟨rfl, ?_⟩
    rw [others, List.append_assoc]
    exact inner.skipBalanced (Token.isSingle_punct '{' opener) rfl
      (Token.isSingle_punct '}' closer) rfl line rest
  | semicolon line => exact .inr ⟨rfl, rfl, rfl⟩

theorem readFunctionBody (b : Block) (line : Int) (rest : List Token) :
    readFunctionBody line b.first (b.others ++ rest) = .ok (b.hasBraces, rest) :=
  readFunctionBody_eq_ok_iff.2 ⟨b.isPunct_first.symm, b.ends line rest⟩

end Block

/-- The type of a result with the colon before it, or a gap in its place. -/
inductive ResultType where
  | absent (gap : Gap)
  | present (gap : Gap) (colon : Int) (type : Part [openBrace, ";"] false)

namespace ResultType

/-- The tokens of the type of a result. -/
def tokens : ResultType → List Token
  | .absent gap => gap.tokens
  | .present gap colon type => gap.tokens ++ .punct ":" colon :: type.tokens

/-- The text of the type of a result. -/
def text? : ResultType → Option String
  | .absent _ => none
  | .present _ _ type => nonEmpty? (compact type.tokens)

/-- The type of a result and the block after it are read back, from their first significant token
    on. -/
theorem exists_first (r : ResultType) (b : Block) (line : Int) (rest : List Token) :
    ∃ t first v after, significant line (r.tokens ++ (b.tokens ++ rest)) = .ok (t, first) ∧
      t.isKeyword .useKw = false ∧ readReturnType line t first = .ok (r.text?, v, after) ∧
      readFunctionBody line v after = .ok (b.hasBraces, rest) := by
  have htrivia : b.first.isTrivia = false := by cases b <;> rfl
  cases r with
  | absent gap =>
    refine ⟨b.first, b.others ++ rest, b.first, b.others ++ rest, gap.significant htrivia line _,
      by cases b <;> rfl, ?_, b.readFunctionBody line rest⟩
    exact readReturnType_eq_ok_iff.2 (.inr ⟨by cases b <;> rfl, rfl, rfl, rfl⟩)
  | present gap colon type =>
    have hcollect : collect [openBrace, ";"] (type.tokens ++ b.first :: (b.others ++ rest)) =
        (type.tokens, b.first :: (b.others ++ rest)) :=
      type.collect_append (by cases b <;> rfl) _
    refine ⟨.punct ":" colon, type.tokens ++ (b.tokens ++ rest), b.first, b.others ++ rest, ?_, rfl,
      ?_, b.readFunctionBody line rest⟩
    · rw [tokens, List.append_assoc]
      exact gap.significant rfl line _
    · refine readReturnType_eq_ok_iff.2 (.inl ⟨rfl, ?_, ?_⟩)
      · rw [Block.tokens, List.cons_append, hcollect, text?]
      · rw [Block.tokens, List.cons_append, hcollect]
        exact significant_cons htrivia _

end ResultType

/-! ## Headers -/

/-- The variables that a closure uses, in parentheses after their keyword. -/
structure ClosureUse where
  gap : Gap
  keyword : Word
  inner : Gap
  opener : Int
  listed : Part [] true
  closer : Int

/-- The tokens of the variables that a closure uses. -/
def ClosureUse.tokens (u : ClosureUse) : List Token :=
  u.gap.tokens ++ u.keyword.token (.keyword .useKw) ::
    (u.inner.tokens ++ .punct "(" u.opener :: (u.listed.tokens ++ [.punct ")" u.closer]))

/-- The name of a function, which may be any typed token that is not trivia. -/
structure FunctionName where
  gap : Gap
  kind : Kind
  word : Word
  kind_ok : kind.isTrivia = false

/-- The tokens of the name of a function. -/
def FunctionName.tokens (n : FunctionName) : List Token := n.gap.tokens ++ [n.word.token n.kind]

/-- A function from its keyword to the end of its block. It is a closure if it has no name, and only
    a closure uses variables. -/
structure Header where
  keyword : Word
  /-- The mark for a result by reference, and the gap before it. -/
  reference? : Option (Gap × Int)
  name? : Option FunctionName
  gap : Gap
  opener : Int
  parameters : ParameterList
  closer : Int
  use? : Option ClosureUse
  result : ResultType
  block : Block
  use_ok : name?.isSome = true → use? = none

namespace Header

/-- The tokens of the mark for a result by reference. -/
def referenceTokens (h : Header) : List Token :=
  match h.reference? with
  | none => []
  | some (gap, line) => gap.tokens ++ [.punct "&" line]

/-- The tokens of the name. -/
def nameTokens (h : Header) : List Token :=
  match h.name? with
  | none => []
  | some name => name.tokens

/-- The tokens of the variables that are used. -/
def useTokens (h : Header) : List Token :=
  match h.use? with
  | none => []
  | some use => use.tokens

/-- The tokens after the parameters. -/
def tail (h : Header) : List Token := h.useTokens ++ (h.result.tokens ++ h.block.tokens)

/-- The tokens after the keyword. -/
def afterKeyword (h : Header) : List Token :=
  h.referenceTokens ++ (h.nameTokens ++ (h.gap.tokens ++ .punct "(" h.opener ::
    (h.parameters.tokens ++ .punct ")" h.closer :: h.tail)))

/-- The tokens of a function. -/
def tokens (h : Header) : List Token := h.keyword.token (.keyword .functionKw) :: h.afterKeyword

/-- The parts of a function. -/
def signature (h : Header) : Signature where
  name := h.name?.map (·.word.text)
  arguments := h.parameters.arguments
  returnType := h.result.text?
  byReference := h.reference?.isSome
  hasBody := h.block.hasBraces

/-- The name is read back with the parenthesis after it, from its first significant token on. -/
theorem exists_name (h : Header) (line : Int) (rest : List Token) :
    ∃ t first, significant line (h.nameTokens ++ (h.gap.tokens ++ .punct "(" h.opener :: rest)) =
        .ok (t, first) ∧
      t.isPunct "&" = false ∧ readFunctionName line t first = .ok (h.signature.name, rest) := by
  unfold nameTokens signature
  cases h.name? with
  | none =>
    exact ⟨.punct "(" h.opener, rest, h.gap.significant rfl line rest, rfl,
      readFunctionName_eq_ok_iff.2 (.inl ⟨rfl, rfl, rfl⟩)⟩
  | some name =>
    refine ⟨name.word.token name.kind, h.gap.tokens ++ .punct "(" h.opener :: rest, ?_, rfl,
      readFunctionName_eq_ok_iff.2 (.inr ⟨rfl, rfl, rfl, .punct "(" h.opener, ?_, rfl⟩)⟩
    · show significant line (name.gap.tokens ++ [name.word.token name.kind] ++ _) = _
      rw [List.append_assoc]
      exact name.gap.significant (t := name.word.token name.kind) name.kind_ok line _
    · exact h.gap.significant rfl line rest

/-- The mark for a result by reference is read back. -/
theorem readReferenceMark (h : Header) {line : Int} {ts rest : List Token} {t : Token}
    (hfirst : significant line ts = .ok (t, rest)) (ht : t.isPunct "&" = false) :
    readReferenceMark line (h.referenceTokens ++ ts) = .ok (h.signature.byReference, t, rest) := by
  unfold referenceTokens signature
  cases h.reference? with
  | none => exact readReferenceMark_eq_ok_iff.2 ⟨t, rest, hfirst, ht.symm, .inr ⟨rfl, rfl, rfl⟩⟩
  | some mark =>
    refine readReferenceMark_eq_ok_iff.2 ⟨.punct "&" mark.2, ts, ?_, rfl, .inl ⟨rfl, hfirst⟩⟩
    rw [List.append_assoc]
    exact mark.1.significant rfl line ts

/-- The variables that a closure uses are passed over. -/
theorem readClosureUse (h : Header) {line : Int} {ts rest : List Token} {t : Token}
    (hfirst : significant line ts = .ok (t, rest)) (ht : t.isKeyword .useKw = false) :
    readClosureUse line h.signature.name.isNone (h.useTokens ++ ts) = .ok (t, rest) := by
  unfold useTokens
  cases huse : h.use? with
  | none => exact readClosureUse_eq_ok_iff.2 ⟨t, rest, hfirst, .inr ⟨by simp [ht], rfl, rfl⟩⟩
  | some use =>
    have hclosure : h.signature.name.isNone = true := by
      unfold signature
      cases hname : h.name? with
      | none => rfl
      | some name =>
        have hnone := h.use_ok (by rw [hname]; rfl)
        rw [huse] at hnone
        cases hnone
    have hkeyword : significant line (use.tokens ++ ts) =
        .ok (use.keyword.token (.keyword .useKw), use.inner.tokens ++ .punct "(" use.opener ::
          (use.listed.tokens ++ .punct ")" use.closer :: ts)) := by
      simp only [ClosureUse.tokens, List.append_assoc, List.cons_append, List.nil_append]
      exact use.gap.significant rfl line _
    have hskip := use.listed.skipBalanced (Token.isSingle_punct '(' use.opener) rfl
      (Token.isSingle_punct ')' use.closer) rfl line ts
    exact readClosureUse_eq_ok_iff.2 ⟨_, _, hkeyword,
      .inl ⟨hclosure, rfl, _, _, ts, use.inner.significant rfl line _, hskip, hfirst⟩⟩

/-- A header is read back. -/
theorem readSignature (h : Header) (line : Int) (rest : List Token) :
    readSignature line (h.afterKeyword ++ rest) = .ok (h.signature, rest) := by
  obtain ⟨u, afterUse, v, afterType, huse, hkeyword, hresult, hblock⟩ :=
    h.result.exists_first h.block line rest
  obtain ⟨t, afterMark, hmark, hsign, hname⟩ := h.exists_name line
    (h.parameters.tokens ++ .punct ")" h.closer :: (h.tail ++ rest))
  have htail : h.tail ++ rest = h.useTokens ++ (h.result.tokens ++ (h.block.tokens ++ rest)) := by
    rw [tail, List.append_assoc, List.append_assoc]
  refine readSignature_eq_ok_iff.2 ⟨t, afterMark, _, h.tail ++ rest, u, afterUse, v, afterType, ?_,
    hname, h.parameters.readArguments line h.closer _, ?_, hresult, hblock⟩
  · simp only [afterKeyword, List.append_assoc, List.cons_append]
    exact h.readReferenceMark hmark hsign
  · rw [htail]
    exact h.readClosureUse huse hkeyword

/-- The function that a header declares, unless it is a closure. -/
def function? (h : Header) (scope : String) (doc : Option Docblock) : Option FunctionDecl :=
  h.name?.map fun name =>
    { name := name.word.text, scope, line := h.keyword.line, docblock := doc
      arguments := h.parameters.arguments
      returnType := h.result.text?
      byReference := h.reference?.isSome }

end Header

/-- A written function is read back from its keyword, and reading ends right after its block. A
    closure is passed over. -/
theorem readFunction_written (scope : String) (before : List Token) (h : Header)
    (rest : List Token) :
    (readAt (readFunction scope) (before ++ (h.tokens ++ rest)) before.length).result =
      .ok (h.function? scope (attached (leadingComment before.reverse)).2,
        before.length + h.tokens.length) := by
  have hfrom : readFunctionFrom scope h.keyword.line (attached (leadingComment before.reverse)).2
      (h.afterKeyword ++ rest) =
        .ok (h.function? scope (attached (leadingComment before.reverse)).2, rest) := by
    refine readFunctionFrom_eq_ok_iff.2 ⟨h.signature, h.readSignature h.keyword.line rest, ?_⟩
    unfold Header.function? Header.signature
    cases h.name? <;> rfl
  have hread : readFunction scope ⟨before.reverse, h.tokens ++ rest⟩ =
      ⟨(attached (leadingComment before.reverse)).1,
        .ok (h.function? scope (attached (leadingComment before.reverse)).2, rest)⟩ := by
    rw [readFunction_eq rfl rfl]
    exact congrArg (Noted.mk _) hfrom
  rw [readAt_of_read hread]

/-- A function with a result by reference, a default in brackets, a type with the sign of a mark,
    and a comma at the end of its parameters. -/
theorem readFunction_written_with_parts :
    let word (kind : Kind) (text : String) : Token := ⟨some kind, text, 1⟩
    let sign (text : String) : Token := .punct text 1
    let space := word .whitespace " "
    let tokens := [word (.keyword .functionKw) "function", space, sign "&", word .name "f",
      sign "(", word (.keyword .publicKw) "public", space, sign "?", word .name "int", space,
      word .variable "$a", space, sign "=", space, sign "[", word .integer "1", sign ",", space,
      word .integer "2", sign "]", sign ",", word .name "A", sign "&", word .name "B", space,
      sign "&", word (.operator .ellipsis) "...", word .variable "$b", sign ",", sign ")", sign ":",
      space, word .name "array", space, sign openBrace, sign openBrace, sign closeBrace,
      sign closeBrace]
    ∃ h : Header, h.tokens = tokens ∧
      ∀ rest, (readAt (readFunction "N") (tokens ++ rest) 0).result =
        .ok (some {
          name := "f", scope := "N", line := 1, returnType := some "array", byReference := true
          arguments := [
            { name := "$a", type := some "?int", default := some "[1, 2]", line := 1 },
            { name := "$b", type := some "A&B", byReference := true, variadic := true,
              line := 1 }] }, 38) := by
  intro word sign space tokens
  let empty : Gap := ⟨[], by decide⟩
  let blank : Gap := ⟨[space], by decide⟩
  let a : Parameter := {
    lead := ⟨[word (.keyword .publicKw) "public", space, sign "?", word .name "int", space],
      by decide, by decide, by decide⟩
    reference? := none
    variadic? := none
    var := ⟨"$a", 1⟩
    default := .present blank 1 ⟨[space, sign "[", word .integer "1", sign ",", space,
      word .integer "2", sign "]"], by decide, by decide, by decide⟩
    lead_ok := by decide
    lead_end := by decide }
  let b : Parameter := {
    lead := ⟨[word .name "A", sign "&", word .name "B", space], by decide, by decide, by decide⟩
    reference? := some (1, empty)
    variadic? := some (⟨"...", 1⟩, empty)
    var := ⟨"$b", 1⟩
    default := .absent empty
    lead_ok := by decide
    lead_end := by decide }
  let h : Header := {
    keyword := ⟨"function", 1⟩
    reference? := some (blank, 1)
    name? := some ⟨empty, .name, ⟨"f", 1⟩, rfl⟩
    gap := empty
    opener := 1
    parameters := .more a 1 (.more b 1 (.none empty))
    closer := 1
    use? := none
    result := .present empty 1 ⟨[space, word .name "array", space], by decide, by decide, by decide⟩
    block := .braces 1 ⟨[sign openBrace, sign closeBrace], by decide, by decide, by decide⟩ 1
    use_ok := fun _ => rfl }
  refine ⟨h, rfl, fun rest => (readFunction_written "N" [] h rest).trans ?_⟩
  decide +kernel

end PhpOutline.Written
