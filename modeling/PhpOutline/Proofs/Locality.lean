import PhpOutline.Proofs.Progress
import PhpOutline.Proofs.ReadersIgnoreRest

/-!
# Declarations and what follows them

A reader at a position of a token list that ends at a later position has looked at no token from
there on: on every list with the same tokens before that position it ends there again with the same
result. A list of constants and an included file may also end before a closing tag, before a bracket
of an enclosing construct or with the last token; for them this holds if they end by taking their
own semicolon.

Results:
* `ofPosition_append`, `position_moveTo`: positions and the tokens on both sides of them.
* `ConstantsClosed.takes`, `ExpressionClosed.takes`: statements that take their own semicolon.
* `settled_of_takes`: from the tokens that a reader takes to the position it ends at.
* `readers_settled`: all readers.
-/

namespace PhpOutline

/-! ## Positions -/

namespace Cursor

/-- The cursor at a position of a token list, or at its end if the list is shorter. -/
def ofPosition (tokens : List Token) (p : Nat) : Cursor := (ofList tokens).skip p

theorem ofPosition_append (front rest : List Token) :
    ofPosition (front ++ rest) front.length = ⟨front.reverse, rest⟩ := by
  rw [ofPosition, ofList, skip_append, List.append_nil]

theorem rest_ofPosition (tokens : List Token) (p : Nat) :
    (ofPosition tokens p).rest = tokens.drop p := rest_skip p _

theorem position_moveTo (passed front rest : List Token) :
    ((⟨passed, front ++ rest⟩ : Cursor).moveTo rest).position = passed.length + front.length := by
  have hskip : (front ++ rest).length - rest.length = front.length := by
    rw [List.length_append, Nat.add_sub_cancel]
  rw [moveTo, hskip, skip_append, position, List.length_append, List.length_reverse, Nat.add_comm]

end Cursor

namespace Reading

/-- What a reader gives at a position of a token list, with the position it ends at. -/
def readAt (read : Cursor → Noted (α × List Token)) (ts : List Token) (p : Nat) : Noted (α × Nat) :=
  (read (.ofPosition ts p)).map fun out => (out.1, ((Cursor.ofPosition ts p).moveTo out.2).position)

/-- If a reader at position `p` ends at position `q`, then it gives the same result and ends at `q`
    on all tokens that agree with `ts` before `q`. -/
def Settled (read : Cursor → Noted (α × List Token)) (ts : List Token) (p q : Nat) : Prop :=
  ∀ notes a, readAt read ts p = ⟨notes, .ok (a, q)⟩ →
    ∀ ts', ts'.take q = ts.take q → readAt read ts' p = ⟨notes, .ok (a, q)⟩

/-! ## Statements that take their own semicolon -/

/-- A list of constants ends by taking a semicolon, the one that its last value stops at. -/
inductive ConstantsClosed : List Token → List Token → Prop
  | last {ts head afterSign value rest : List Token} {sign stop : Token} :
      Reading.collect ["=", ";"] ts = (head, sign :: afterSign) →
      Reading.collect [",", ";"] afterSign = (value, stop :: rest) → stop.isPunct ";" = true →
      ConstantsClosed ts rest
  | next {ts head afterSign value after rest : List Token} {sign stop : Token} :
      Reading.collect ["=", ";"] ts = (head, sign :: afterSign) →
      Reading.collect [",", ";"] afterSign = (value, stop :: after) → stop.isPunct "," = true →
      ConstantsClosed after rest → ConstantsClosed ts rest

/-- The expression of an included file ends by taking a semicolon. -/
def ExpressionClosed (ts rest : List Token) : Prop :=
  ∃ expression stop, Reading.collect [";"] ts = (expression, stop :: rest) ∧
    stop.isPunct ";" = true

theorem isPunct_comma_of_semicolon {t : Token} (h : t.isPunct ";" = true) :
    t.isPunct "," = false := by
  have hcontent : t.content = ";" := by simpa using (Bool.and_eq_true_iff.1 h).2
  simp [Token.isPunct, hcontent]

theorem ConstantsClosed.takes {ts rest left : List Token} {scope : String} {line : Int}
    {doc : Option Docblock} {first : ConstantDecl} {others : List ConstantDecl}
    (hclosed : ConstantsClosed ts rest)
    (h : readConstants scope line doc ts = .ok (first, others, left)) :
    Takes (readConstants scope line doc) ts left fun more => .ok (first, others, more) := by
  induction hclosed generalizing first others with
  | @last ts head afterSign value rest sign stop hhead hvalue hstop =>
    obtain ⟨_, name, _, _, _, _, hhead', hname, hsign, hvalue', rfl, hend⟩ :=
      readConstants_eq_ok_iff.1 h
    cases hhead.symm.trans hhead'
    cases hvalue.symm.trans hvalue'
    have hcomma := isPunct_comma_of_semicolon hstop
    obtain ⟨rfl, rfl⟩ : others = [] ∧ left = rest := by
      rcases hend with ⟨hnil, -⟩ | ⟨_, _, hcons, ⟨hcomma', -⟩ | ⟨-, hothers, hleft⟩⟩
      · cases hnil
      · cases hcons
        rw [hcomma] at hcomma'
        cases hcomma'
      · cases hcons
        exact ⟨hothers, by rw [hleft, if_pos hstop]⟩
    obtain ⟨rfl, khead⟩ := collect_takes hhead
    obtain ⟨rfl, kvalue⟩ := collect_takes hvalue
    refine ⟨head ++ sign :: (value ++ [stop]), by simp, fun more => ?_⟩
    simp only [List.append_assoc, List.cons_append, List.nil_append]
    exact readConstants_eq_ok_iff.2 ⟨head, name, sign, _, value, _, khead _, hname, hsign,
      kvalue _, rfl, .inr ⟨stop, _, rfl, .inr ⟨hcomma, rfl, (if_pos hstop).symm⟩⟩⟩
  | @next ts head afterSign value after rest sign stop hhead hvalue hcomma _ ih =>
    obtain ⟨_, name, _, _, _, _, hhead', hname, hsign, hvalue', rfl, hend⟩ :=
      readConstants_eq_ok_iff.1 h
    cases hhead.symm.trans hhead'
    cases hvalue.symm.trans hvalue'
    obtain ⟨second, later, hlater, rfl⟩ : ∃ second later,
        readConstants scope line doc after = .ok (second, later, left) ∧
          others = second :: later := by
      rcases hend with ⟨hnil, -⟩ | ⟨_, _, hcons, ⟨-, hlater⟩ | ⟨hcomma', -⟩⟩
      · cases hnil
      · cases hcons
        exact hlater
      · cases hcons
        rw [hcomma] at hcomma'
        cases hcomma'
    obtain ⟨taken, rfl, htaken⟩ := ih hlater
    obtain ⟨rfl, khead⟩ := collect_takes hhead
    obtain ⟨rfl, kvalue⟩ := collect_takes hvalue
    refine ⟨head ++ sign :: (value ++ stop :: taken), by simp, fun more => ?_⟩
    simp only [List.append_assoc, List.cons_append]
    exact readConstants_eq_ok_iff.2 ⟨head, name, sign, _, value, _, khead _, hname, hsign,
      kvalue _, rfl, .inr ⟨stop, _, rfl, .inl ⟨hcomma, second, later, htaken more, rfl⟩⟩⟩

theorem ExpressionClosed.takes {ts rest : List Token} (hclosed : ExpressionClosed ts rest) :
    Takes readIncludeTarget ts (readIncludeTarget ts).2
      fun more => ((readIncludeTarget ts).1, more) := by
  obtain ⟨expression, stop, hcollect, hstop⟩ := hclosed
  obtain ⟨rfl, kcollect⟩ := collect_takes hcollect
  have hread : ∀ more, readIncludeTarget (expression ++ stop :: more) =
      (includeTarget expression, more) := by
    intro more
    rw [readIncludeTarget, kcollect]
    simp only [if_pos hstop]
  refine ⟨expression ++ [stop], ?_, fun more => ?_⟩
  · rw [hread, List.append_assoc, List.singleton_append]
  · rw [List.append_assoc, List.singleton_append, hread, hread]

/-! ## From tokens to positions -/

theorem readAt_of_read {read : Cursor → Noted (α × List Token)} {passed front rest : List Token}
    {notes : List DocblockError} {a : α}
    (h : read ⟨passed.reverse, front ++ rest⟩ = ⟨notes, .ok (a, rest)⟩) :
    readAt read (passed ++ (front ++ rest)) passed.length =
      ⟨notes, .ok (a, passed.length + front.length)⟩ := by
  rw [readAt, Cursor.ofPosition_append, h, Noted.map, Except.map]
  simp only [Cursor.position_moveTo, List.length_reverse]

/-- A reader at a keyword that takes the tokens up to some place is settled by the tokens before
    that place. -/
theorem settled_of_takes {read : Cursor → Noted (α × List Token)} {ts : List Token} {p q : Nat}
    (hnil : ∀ passed notes out, read ⟨passed, []⟩ ≠ ⟨notes, .ok out⟩)
    (h : ∀ passed t rest left notes a, ts.drop p = t :: rest →
      read ⟨passed, t :: rest⟩ = ⟨notes, .ok (a, left)⟩ →
      ∃ taken, rest = taken ++ left ∧
        ∀ more, read ⟨passed, t :: (taken ++ more)⟩ = ⟨notes, .ok (a, more)⟩) :
    Settled read ts p q := by
  intro notes a hread ts' hagree
  obtain ⟨⟨_, left⟩, hleft, hq⟩ := Noted.map_eq_ok_iff.1 hread
  cases hrest : ts.drop p with
  | nil =>
    -- There is no keyword to start from.
    have hc : Cursor.ofPosition ts p = ⟨(Cursor.ofPosition ts p).passed, []⟩ := by
      rw [← hrest, ← Cursor.rest_ofPosition]
    rw [hc] at hleft
    exact absurd hleft (hnil _ _ _)
  | cons t rest =>
    have hp : p = (ts.take p).length := by
      have := congrArg List.length hrest
      rw [List.length_drop, List.length_cons] at this
      rw [List.length_take]
      omega
    have hts : ts = ts.take p ++ t :: rest := by rw [← hrest, List.take_append_drop]
    generalize ts.take p = passed at hp hts
    subst hp hts
    rw [Cursor.ofPosition_append] at hleft hq
    obtain ⟨taken, rfl, htaken⟩ := h _ t rest left notes _ hrest hleft
    rw [← List.cons_append, Cursor.position_moveTo, List.length_reverse] at hq
    obtain ⟨rfl, rfl⟩ := Prod.mk.inj hq
    -- The other tokens start with the tokens before the end, whatever they go on with.
    have hfront : ts'.take (passed.length + (t :: taken).length) = passed ++ t :: taken := by
      rw [hagree, ← List.cons_append, ← List.append_assoc, ← List.length_append,
        List.take_left]
    have hts' : ts' = passed ++ (t :: taken ++ ts'.drop (passed.length + (t :: taken).length)) := by
      rw [← List.append_assoc, ← hfront, List.take_append_drop]
    rw [hts']
    exact readAt_of_read (htaken _)

theorem expect_eq_error {words : List Keyword} {passed rest : List Token} {t : Token}
    (h : ¬ words.any t.isKeyword = true) :
    expect words ⟨passed, t :: rest⟩ = fail (.misplaced (some t.content)) t.line (t :: rest) :=
  if_neg h

theorem readClass_settled (scope : String) (ts : List Token) (p q : Nat) :
    Settled (readClass scope) ts p q := by
  refine settled_of_takes (fun _ _ _ h => by cases h) fun passed t rest left notes a _ h => ?_
  by_cases ht : [Keyword.classKw].any t.isKeyword = true
  · rw [readClass_eq rfl ht] at h
    obtain ⟨later, rfl, hfrom⟩ := Noted.after_eq_ok_iff.1 h
    obtain ⟨taken, rfl, htaken⟩ := readClassFrom_takes hfrom
    refine ⟨taken, rfl, fun more => ?_⟩
    rw [readClass_eq rfl ht, htaken]
    rfl
  · rw [readClass, expect_eq_error ht] at h
    cases h

theorem readInterface_settled (scope : String) (ts : List Token) (p q : Nat) :
    Settled (readInterface scope) ts p q := by
  refine settled_of_takes (fun _ _ _ h => by cases h) fun passed t rest left notes a _ h => ?_
  by_cases ht : [Keyword.interfaceKw].any t.isKeyword = true
  · rw [readInterface_eq rfl ht] at h
    obtain ⟨later, rfl, hfrom⟩ := Noted.after_eq_ok_iff.1 h
    obtain ⟨taken, rfl, htaken⟩ := readInterfaceFrom_takes hfrom
    refine ⟨taken, rfl, fun more => ?_⟩
    rw [readInterface_eq rfl ht, htaken]
    rfl
  · rw [readInterface, expect_eq_error ht] at h
    cases h

theorem readFunction_settled (scope : String) (ts : List Token) (p q : Nat) :
    Settled (readFunction scope) ts p q := by
  refine settled_of_takes (fun _ _ _ h => by cases h) fun passed t rest left notes a _ h => ?_
  by_cases ht : [Keyword.functionKw].any t.isKeyword = true
  · rw [readFunction_eq rfl ht] at h
    obtain ⟨rfl, hfrom⟩ := Noted.mk.inj h
    obtain ⟨taken, rfl, htaken⟩ := readFunctionFrom_takes hfrom
    refine ⟨taken, rfl, fun more => ?_⟩
    rw [readFunction_eq rfl ht, htaken]
  · rw [readFunction, expect_eq_error ht] at h
    cases h

theorem readConstant_settled {scope : String} {ts : List Token} {p q : Nat}
    (hclosed : ConstantsClosed (ts.drop (p + 1)) (ts.drop q)) :
    Settled (readConstant scope) ts p q := by
  refine settled_of_takes (fun _ _ _ h => by cases h) fun passed t rest left notes a hrest h => ?_
  rw [← List.drop_drop, hrest] at hclosed
  by_cases ht : [Keyword.constKw].any t.isKeyword = true
  · rw [readConstant_eq rfl ht] at h
    obtain ⟨rfl, hfrom⟩ := Noted.mk.inj h
    obtain ⟨others, hconstants⟩ := readConstantFrom_eq_ok_iff.1 hfrom
    obtain ⟨taken, rfl, htaken⟩ := hclosed.takes hconstants
    refine ⟨taken, rfl, fun more => ?_⟩
    rw [readConstant_eq rfl ht, readConstantFrom_eq_ok_iff.2 ⟨others, htaken more⟩]
  · rw [readConstant, expect_eq_error ht] at h
    cases h

theorem readInclude_settled {scope : String} {ts : List Token} {p q : Nat}
    (hclosed : ExpressionClosed (ts.drop (p + 1)) (ts.drop q)) :
    Settled (readInclude scope) ts p q := by
  refine settled_of_takes (fun _ _ _ h => by cases h) fun passed t rest left notes a hrest h => ?_
  rw [← List.drop_drop, hrest] at hclosed
  by_cases ht : includeWords.any t.isKeyword = true
  · rw [readInclude_eq rfl ht] at h
    cases h
    obtain ⟨taken, htaken, hmore⟩ := hclosed.takes
    refine ⟨taken, htaken, fun more => ?_⟩
    rw [readInclude_eq rfl ht, hmore]
    rfl
  · rw [readInclude, expect_eq_error ht] at h
    cases h

/-- On tokens that agree before the position where a reader ends, it ends there with the same
    result, a constant or an included file provided that it ends by taking its own semicolon. -/
theorem readers_settled (scope : String) (ts : List Token) (p q : Nat) :
    Settled (readClass scope) ts p q ∧ Settled (readInterface scope) ts p q ∧
      Settled (readFunction scope) ts p q ∧
      (ConstantsClosed (ts.drop (p + 1)) (ts.drop q) → Settled (readConstant scope) ts p q) ∧
      (ExpressionClosed (ts.drop (p + 1)) (ts.drop q) → Settled (readInclude scope) ts p q) :=
  ⟨readClass_settled scope ts p q, readInterface_settled scope ts p q,
    readFunction_settled scope ts p q, readConstant_settled, readInclude_settled⟩

/-- An abstract class after a doc comment, and two constants of which the first has brackets and a
    comma in its value, whatever follows them. -/
theorem readers_settled_class_and_constants :
    let word (w : Keyword) (s : String) : Token := ⟨some (.keyword w), s, 1⟩
    let name (s : String) : Token := ⟨some .name, s, 1⟩
    let sign (s : String) : Token := ⟨none, s, 1⟩
    let number (s : String) : Token := ⟨some .integer, s, 1⟩
    let front : List Token :=
      [⟨some .docComment, "/** D */", 1⟩, word .abstractKw "abstract", word .classKw "class",
        name "A", sign openBrace, word .functionKw "function", name "f", sign "(", sign ")",
        sign ";", sign closeBrace]
    let list : List Token :=
      [word .constKw "const", name "B", sign "=", sign "[", number "1", sign ",", sign "]",
        sign ",", name "C", sign "=", number "2", sign ";"]
    let method : MethodDecl := { name := "f", scope := "N", line := 1, isAbstract := true }
    let d : ClassDecl :=
      { name := "A", scope := "N", line := 1, docblock := some { short := "D", line := 1 },
        isAbstract := true, methods := [method] }
    (∃ notes, ∀ more, readAt (readClass "N") (front ++ more) 2 = ⟨notes, .ok (some d, 11)⟩) ∧
    ConstantsClosed (list.drop 1) (list.drop 12) ∧
    ∃ notes, ∀ more, readAt (readConstant "N") (list ++ more) 0 =
      ⟨notes, .ok ({ name := "B", scope := "N", line := 1, value := "[1,]" }, 12)⟩ := by
  intro word name sign number front list method d
  have hclass : (readAt (readClass "N") front 2).result = .ok (some d, 11) := by decide +kernel
  have hclosed : ConstantsClosed (list.drop 1) (list.drop 12) :=
    @ConstantsClosed.next _ [name "B"] _ [sign "[", number "1", sign ",", sign "]"] (list.drop 8) _
      (sign "=") (sign ",") rfl (by decide) rfl
      (@ConstantsClosed.last _ [name "C"] _ [number "2"] _ (sign "=") (sign ";") rfl (by decide) rfl)
  have hconst : (readAt (readConstant "N") list 0).result =
      .ok ({ name := "B", scope := "N", line := 1, value := "[1,]" }, 12) := by decide +kernel
  refine ⟨⟨(readAt (readClass "N") front 2).notes, fun more => ?_⟩, hclosed,
    (readAt (readConstant "N") list 0).notes, fun more => ?_⟩
  · exact (readers_settled "N" front 2 11).1 _ _ (Noted.eq_mk hclass) _ (List.take_left' rfl)
  · exact (readers_settled "N" list 0 12).2.2.2.1 hclosed _ _ (Noted.eq_mk hconst) _
      (List.take_left' rfl)

end Reading

end PhpOutline
