import PhpOutline.Proofs.Inversion

/-!
# Readers ignore what follows

A reader that succeeds has taken some tokens off the front and has not looked at the others: with
the same tokens in front and anything after them it gives the same result again. Two ways of
stopping look at one token more than they take, the end of a collected part and the end of a
qualified name; what is read next always takes that token.

Results:
* `significant_takes`, `qualifiedName_takes`, `readNames_takes`: trivia and names.
* `readSignature_takes`, `readMembers_takes`: headers of functions and bodies of classes.
* `readClassFrom_takes`, `readInterfaceFrom_takes`, `readFunctionFrom_takes`: whole declarations.
-/

namespace PhpOutline.Reading

/-- A reader takes the tokens of `ts` before `rest`, and its outcome depends on no others: `out`
    says what it is in terms of the tokens that are left. -/
def Takes (read : List Token → γ) (ts rest : List Token) (out : List Token → γ) : Prop :=
  ∃ taken, ts = taken ++ rest ∧ ∀ more, read (taken ++ more) = out more

theorem exists_cons_of_shorter {t : Token} {ts taken rest : List Token}
    (h : t :: ts = taken ++ rest) (hlt : rest.length < (t :: ts).length) :
    ∃ later, taken = t :: later ∧ ts = later ++ rest := by
  cases taken with
  | nil => rw [h] at hlt; simp at hlt
  | cons u later =>
    obtain ⟨rfl, rfl⟩ := List.cons.inj h
    exact ⟨later, rfl, rfl⟩

/-! ## Trivia, names and brackets -/

theorem significant_takes {line : Int} {ts rest : List Token} {t : Token}
    (h : significant line ts = .ok (t, rest)) :
    Takes (significant line) ts rest fun more => .ok (t, more) := by
  obtain ⟨ht, front, hfront, rfl⟩ := significant_eq_ok_iff.1 h
  refine ⟨front ++ [t], by simp, fun more => ?_⟩
  exact significant_eq_ok_iff.2 ⟨ht, front, hfront, by simp⟩

/-- Passing over a bracketed part takes the token it starts with. -/
theorem skipBalanced_cons_takes {line : Int} {t : Token} {ts rest : List Token}
    (h : skipBalanced line (t :: ts) = .ok rest) :
    Takes (fun ts => skipBalanced line (t :: ts)) ts rest .ok := by
  obtain ⟨taken, htaken, hmore⟩ := skipBalanced_takes h
  obtain ⟨later, rfl, rfl⟩ := exists_cons_of_shorter htaken (skipBalanced_length h)
  exact ⟨later, rfl, hmore⟩

/-- A qualified name ends at a token that is left, so it is the same whenever that token follows. -/
theorem qualifiedName_takes {ts after : List Token} {t : Token}
    (h : (qualifiedName ts).2 = t :: after) :
    ∃ parts, ts = parts ++ t :: after ∧
      ∀ more, qualifiedName (parts ++ t :: more) = ((qualifiedName ts).1, t :: more) := by
  obtain ⟨ht, parts, hparts, rfl⟩ := dropWhile_eq_cons_iff.1 h
  have htake : ∀ more, (parts ++ t :: more).takeWhile isNamePart = parts := fun more => by
    rw [List.takeWhile_append_of_pos hparts, List.takeWhile_cons_of_neg (by simp [ht]),
      List.append_nil]
  refine ⟨parts, rfl, fun more => ?_⟩
  unfold qualifiedName
  rw [htake, htake, dropWhile_eq_cons_iff.2 ⟨ht, parts, hparts, rfl⟩]

/-- A qualified name and the significant token after it. The name may end at trivia before that
    token. -/
theorem qualifiedName_significant_takes {line : Int} {u t : Token} {ts rest : List Token}
    (h : significant line (qualifiedName (u :: ts)).2 = .ok (t, rest)) :
    ∃ taken, ts = taken ++ rest ∧ ∀ more,
      (qualifiedName (u :: (taken ++ more))).1 = (qualifiedName (u :: ts)).1 ∧
        significant line (qualifiedName (u :: (taken ++ more))).2 = .ok (t, more) := by
  cases hafter : (qualifiedName (u :: ts)).2 with
  | nil => rw [hafter] at h; cases h
  | cons w after =>
    rw [hafter] at h
    obtain ⟨parts, hparts, hname⟩ := qualifiedName_takes hafter
    obtain ⟨front, hfront, hnext⟩ := significant_takes h
    obtain ⟨later, rfl, rfl⟩ := exists_cons_of_shorter hfront (significant_length h)
    have hsplit : u :: ts = (parts ++ w :: later) ++ rest := by rw [hparts]; simp
    obtain ⟨taken, htaken, rfl⟩ := exists_cons_of_shorter hsplit (by
      rw [hsplit, List.length_append, List.length_append, List.length_cons]; omega)
    refine ⟨taken, rfl, fun more => ?_⟩
    have hmore : u :: (taken ++ more) = parts ++ w :: (later ++ more) := by
      rw [← List.cons_append, ← htaken, List.append_assoc, List.cons_append]
    rw [hmore, hname]
    exact ⟨rfl, hnext more⟩

theorem readNames_takes {line : Int} {ts rest : List Token} {names : List String} {t : Token}
    (h : readNames line ts = .ok (names, t, rest)) :
    Takes (readNames line) ts rest fun more => .ok (names, t, more) := by
  -- The recursion is on what follows a comma, which is shorter.
  induction hlen : ts.length using Nat.strongRecOn generalizing ts names with
  | ind n ih =>
    obtain ⟨u, first, next, after, hfirst, hnext, hend⟩ := readNames_eq_ok_iff.1 h
    obtain ⟨front, rfl, hfront⟩ := significant_takes hfirst
    obtain ⟨name, rfl, hname⟩ := qualifiedName_significant_takes hnext
    rcases hend with ⟨hcomma, later, hlater, rfl⟩ | ⟨hcomma, rfl, rfl, rfl⟩
    · have hlt : after.length < n := by
        have := significant_length hfirst
        rw [List.length_append] at this
        omega
      obtain ⟨taken, rfl, htaken⟩ := ih _ hlt hlater rfl
      refine ⟨front ++ (name ++ taken), by simp, fun more => ?_⟩
      rw [List.append_assoc, List.append_assoc]
      obtain ⟨hsame, hsig⟩ := hname (taken ++ more)
      exact readNames_eq_ok_iff.2 ⟨u, _, next, _, hfront _, hsig, .inl ⟨hcomma, later, htaken more,
        by rw [hsame]⟩⟩
    · refine ⟨front ++ name, by simp, fun more => ?_⟩
      rw [List.append_assoc]
      obtain ⟨hsame, hsig⟩ := hname more
      exact readNames_eq_ok_iff.2 ⟨u, _, t, _, hfront _, hsig,
        .inr ⟨hcomma, by rw [hsame], rfl, rfl⟩⟩

/-! ## Headers of functions -/

theorem splitParameters?_takes {depth : Int} {ts rest group : List Token}
    {groups : List (List Token)} (h : splitParameters? depth ts = some (group, groups, rest)) :
    Takes (splitParameters? depth) ts rest fun more => some (group, groups, more) := by
  induction ts generalizing depth group groups with
  | nil => cases h
  | cons t r ih =>
    rw [splitParameters?] at h
    by_cases hclose : t.isCloser = true ∧ depth = 0 ∧ t.content = ")"
    · rw [if_pos hclose] at h
      cases h
      exact ⟨[t], rfl, fun more => by rw [List.singleton_append, splitParameters?, if_pos hclose]⟩
    rw [if_neg hclose] at h
    by_cases hcomma : t.isPunct "," = true ∧ depth = 0
    · rw [if_pos hcomma] at h
      obtain ⟨⟨g, gs, after⟩, hrec, heq⟩ := Option.map_eq_some_iff.1 h
      cases heq
      obtain ⟨taken, rfl, htaken⟩ := ih hrec
      refine ⟨t :: taken, rfl, fun more => ?_⟩
      rw [List.cons_append, splitParameters?, if_neg hclose, if_pos hcomma, htaken, Option.map_some]
    · rw [if_neg hcomma] at h
      obtain ⟨⟨g, gs, after⟩, hrec, heq⟩ := Option.map_eq_some_iff.1 h
      cases heq
      obtain ⟨taken, rfl, htaken⟩ := ih hrec
      refine ⟨t :: taken, rfl, fun more => ?_⟩
      rw [List.cons_append, splitParameters?, if_neg hclose, if_neg hcomma]
      simp only [htaken, Option.map_some]

theorem readArguments_takes {line : Int} {ts rest : List Token} {arguments : List Argument}
    (h : readArguments line ts = .ok (arguments, rest)) :
    Takes (readArguments line) ts rest fun more => .ok (arguments, more) := by
  obtain ⟨group, groups, hsplit, rfl⟩ := readArguments_eq_ok_iff.1 h
  obtain ⟨taken, rfl, htaken⟩ := splitParameters?_takes hsplit
  exact ⟨taken, rfl, fun more => readArguments_eq_ok_iff.2 ⟨group, groups, htaken more, rfl⟩⟩

theorem readReferenceMark_takes {line : Int} {ts rest : List Token} {mark : Bool} {t : Token}
    (h : readReferenceMark line ts = .ok (mark, t, rest)) :
    Takes (readReferenceMark line) ts rest fun more => .ok (mark, t, more) := by
  obtain ⟨u, first, hfirst, hmark, hend⟩ := readReferenceMark_eq_ok_iff.1 h
  obtain ⟨front, rfl, hfront⟩ := significant_takes hfirst
  rcases hend with ⟨htrue, hnext⟩ | ⟨hfalse, rfl, rfl⟩
  · obtain ⟨taken, rfl, htaken⟩ := significant_takes hnext
    refine ⟨front ++ taken, by simp, fun more => ?_⟩
    rw [List.append_assoc]
    exact readReferenceMark_eq_ok_iff.2 ⟨u, _, hfront _, hmark, .inl ⟨htrue, htaken more⟩⟩
  · exact ⟨front, rfl, fun more => readReferenceMark_eq_ok_iff.2
      ⟨t, _, hfront _, hmark, .inr ⟨hfalse, rfl, rfl⟩⟩⟩

theorem readFunctionName_takes {line : Int} {t : Token} {ts rest : List Token}
    {name : Option String} (h : readFunctionName line t ts = .ok (name, rest)) :
    Takes (readFunctionName line t) ts rest fun more => .ok (name, more) := by
  rcases readFunctionName_eq_ok_iff.1 h with
    ⟨hopen, hname, rfl⟩ | ⟨hopen, hkind, hname, next, hnext, hparen⟩
  · exact ⟨[], rfl, fun more => readFunctionName_eq_ok_iff.2 (.inl ⟨hopen, hname, rfl⟩)⟩
  · obtain ⟨taken, rfl, htaken⟩ := significant_takes hnext
    exact ⟨taken, rfl, fun more => readFunctionName_eq_ok_iff.2
      (.inr ⟨hopen, hkind, hname, next, htaken more, hparen⟩)⟩

theorem readClosureUse_takes {line : Int} {isClosure : Bool} {ts rest : List Token} {t : Token}
    (h : readClosureUse line isClosure ts = .ok (t, rest)) :
    Takes (readClosureUse line isClosure) ts rest fun more => .ok (t, more) := by
  obtain ⟨u, first, hfirst, hend⟩ := readClosureUse_eq_ok_iff.1 h
  obtain ⟨front, rfl, hfront⟩ := significant_takes hfirst
  rcases hend with ⟨hclosure, huse, opener, after, used, hopener, hskip, hnext⟩ | ⟨hnone, rfl, rfl⟩
  · obtain ⟨blank, rfl, hblank⟩ := significant_takes hopener
    obtain ⟨list, rfl, hlist⟩ := skipBalanced_cons_takes hskip
    obtain ⟨taken, rfl, htaken⟩ := significant_takes hnext
    refine ⟨front ++ (blank ++ (list ++ taken)), by simp, fun more => ?_⟩
    simp only [List.append_assoc]
    exact readClosureUse_eq_ok_iff.2 ⟨u, _, hfront _, .inl ⟨hclosure, huse, opener, _, _, hblank _,
      hlist _, htaken more⟩⟩
  · exact ⟨front, rfl, fun more => readClosureUse_eq_ok_iff.2
      ⟨t, _, hfront _, .inr ⟨hnone, rfl, rfl⟩⟩⟩

/-- A collected part and the significant token after it, which is the token that ends the part. -/
theorem collect_significant_takes {stops : List String} {line : Int} {t : Token}
    {ts rest : List Token} (h : significant line (collect stops ts).2 = .ok (t, rest)) :
    ∃ taken, ts = taken ++ rest ∧ ∀ more,
      (collect stops (taken ++ more)).1 = (collect stops ts).1 ∧
        significant line (collect stops (taken ++ more)).2 = .ok (t, more) := by
  cases hcollect : collect stops ts with
  | mk part after =>
    rw [hcollect] at h
    cases after with
    | nil => cases h
    | cons u after =>
      obtain ⟨rfl, hpart⟩ := collect_takes hcollect
      obtain ⟨front, hfront, hnext⟩ := significant_takes h
      obtain ⟨later, rfl, rfl⟩ := exists_cons_of_shorter hfront (significant_length h)
      refine ⟨part ++ u :: later, by simp, fun more => ?_⟩
      rw [List.append_assoc, List.cons_append, hpart]
      exact ⟨rfl, hnext more⟩

theorem readReturnType_takes {line : Int} {t u : Token} {ts rest : List Token}
    {type : Option String} (h : readReturnType line t ts = .ok (type, u, rest)) :
    Takes (readReturnType line t) ts rest fun more => .ok (type, u, more) := by
  rcases readReturnType_eq_ok_iff.1 h with ⟨hcolon, rfl, hnext⟩ | ⟨hcolon, rfl, rfl, rfl⟩
  · obtain ⟨taken, rfl, htaken⟩ := collect_significant_takes hnext
    refine ⟨taken, rfl, fun more => ?_⟩
    obtain ⟨hsame, hsig⟩ := htaken more
    exact readReturnType_eq_ok_iff.2 (.inl ⟨hcolon, by rw [hsame], hsig⟩)
  · exact ⟨[], rfl, fun more => readReturnType_eq_ok_iff.2 (.inr ⟨hcolon, rfl, rfl, rfl⟩)⟩

theorem readFunctionBody_takes {line : Int} {t : Token} {ts rest : List Token} {hasBody : Bool}
    (h : readFunctionBody line t ts = .ok (hasBody, rest)) :
    Takes (readFunctionBody line t) ts rest fun more => .ok (hasBody, more) := by
  obtain ⟨hopen, ⟨htrue, hskip⟩ | ⟨hfalse, hend, rfl⟩⟩ := readFunctionBody_eq_ok_iff.1 h
  · obtain ⟨taken, rfl, htaken⟩ := skipBalanced_cons_takes hskip
    exact ⟨taken, rfl, fun more => readFunctionBody_eq_ok_iff.2
      ⟨hopen, .inl ⟨htrue, htaken more⟩⟩⟩
  · exact ⟨[], rfl, fun more => readFunctionBody_eq_ok_iff.2 ⟨hopen, .inr ⟨hfalse, hend, rfl⟩⟩⟩

theorem readSignature_takes {line : Int} {ts rest : List Token} {s : Signature}
    (h : readSignature line ts = .ok (s, rest)) :
    Takes (readSignature line) ts rest fun more => .ok (s, more) := by
  obtain ⟨t, _, _, _, u, _, v, _, hmark, hname, hargs, huse, htype, hbody⟩ :=
    readSignature_eq_ok_iff.1 h
  obtain ⟨mark, rfl, kmark⟩ := readReferenceMark_takes hmark
  obtain ⟨name, rfl, kname⟩ := readFunctionName_takes hname
  obtain ⟨args, rfl, kargs⟩ := readArguments_takes hargs
  obtain ⟨use, rfl, kuse⟩ := readClosureUse_takes huse
  obtain ⟨type, rfl, ktype⟩ := readReturnType_takes htype
  obtain ⟨body, rfl, kbody⟩ := readFunctionBody_takes hbody
  refine ⟨mark ++ (name ++ (args ++ (use ++ (type ++ body)))), by simp, fun more => ?_⟩
  simp only [List.append_assoc]
  exact readSignature_eq_ok_iff.2 ⟨t, _, _, _, u, _, v, _, kmark _, kname _, kargs _, kuse _,
    ktype _, kbody more⟩

/-! ## Members -/

/-- A list of constants before some token is the same whenever that token follows. -/
theorem readConstants_takes {scope : String} {line : Int} {doc : Option Docblock}
    {ts after : List Token} {first : ConstantDecl} {others : List ConstantDecl} {t : Token}
    (h : readConstants scope line doc ts = .ok (first, others, t :: after)) :
    ∃ taken, ts = taken ++ t :: after ∧ ∀ more,
      readConstants scope line doc (taken ++ t :: more) = .ok (first, others, t :: more) := by
  -- The recursion is on what follows a comma, which is shorter.
  induction hlen : ts.length using Nat.strongRecOn generalizing ts first others with
  | ind n ih =>
    obtain ⟨head, name, sign, afterSign, value, afterValue, hhead, hname, hsign, hvalue, rfl,
      hend⟩ := readConstants_eq_ok_iff.1 h
    obtain ⟨rfl, khead⟩ := collect_takes hhead
    rcases hend with ⟨-, -, hnil⟩ | ⟨stop, later, rfl, hend⟩
    · cases hnil
    obtain ⟨rfl, kvalue⟩ := collect_takes hvalue
    have hlater : later.length < n := by
      rw [← hlen, List.length_append, List.length_cons, List.length_append, List.length_cons]
      omega
    rcases hend with ⟨hcomma, second, rest, hrest, rfl⟩ | ⟨hcomma, rfl, hafter⟩
    · obtain ⟨taken, rfl, htaken⟩ := ih _ hlater hrest rfl
      refine ⟨head ++ sign :: (value ++ stop :: taken), by simp, fun more => ?_⟩
      simp only [List.append_assoc, List.cons_append]
      exact readConstants_eq_ok_iff.2 ⟨head, name, sign, _, value, _, khead _, hname, hsign,
        kvalue _, rfl, .inr ⟨stop, _, rfl, .inl ⟨hcomma, second, rest, htaken more, rfl⟩⟩⟩
    · by_cases hsemi : stop.isPunct ";" = true
      · rw [if_pos hsemi] at hafter
        subst hafter
        refine ⟨head ++ sign :: (value ++ [stop]), by simp, fun more => ?_⟩
        simp only [List.append_assoc, List.cons_append, List.nil_append]
        exact readConstants_eq_ok_iff.2 ⟨head, name, sign, _, value, _, khead _, hname, hsign,
          kvalue _, rfl, .inr ⟨stop, _, rfl, .inr ⟨hcomma, rfl, (if_pos hsemi).symm⟩⟩⟩
      · rw [if_neg hsemi] at hafter
        obtain ⟨rfl, rfl⟩ := List.cons.inj hafter
        refine ⟨head ++ sign :: value, by simp, fun more => ?_⟩
        simp only [List.append_assoc, List.cons_append]
        exact readConstants_eq_ok_iff.2 ⟨head, name, sign, _, value, _, khead _, hname, hsign,
          kvalue _, rfl, .inr ⟨t, _, rfl, .inr ⟨hcomma, rfl, (if_neg hsemi).symm⟩⟩⟩

/-- An optional default and the significant token after it. -/
theorem readDefault_significant_takes {line : Int} {ts after rest : List Token}
    {value : Option String} {t : Token} (h : readDefault line ts = .ok (value, after))
    (hnext : significant line after = .ok (t, rest)) :
    ∃ taken, ts = taken ++ rest ∧ ∀ more, ∃ after,
      readDefault line (taken ++ more) = .ok (value, after) ∧
        significant line after = .ok (t, more) := by
  obtain ⟨u, first, hfirst, hend⟩ := readDefault_eq_ok_iff.1 h
  obtain ⟨front, rfl, hfront⟩ := significant_takes hfirst
  rcases hend with ⟨hsign, rfl, rfl⟩ | ⟨hsign, rfl, rfl⟩
  · obtain ⟨taken, rfl, htaken⟩ := collect_significant_takes hnext
    refine ⟨front ++ taken, by simp, fun more => ?_⟩
    obtain ⟨hsame, hsig⟩ := htaken more
    refine ⟨_, ?_, hsig⟩
    rw [List.append_assoc]
    exact readDefault_eq_ok_iff.2 ⟨u, _, hfront _, .inl ⟨hsign, by rw [hsame], rfl⟩⟩
  · have hu : u.isTrivia = false := (significant_eq_ok_iff.1 hfirst).1
    rw [significant_cons hu] at hnext
    cases hnext
    refine ⟨front, rfl, fun more => ⟨t :: more, ?_, significant_cons hu more⟩⟩
    exact readDefault_eq_ok_iff.2 ⟨t, _, hfront _, .inr ⟨hsign, rfl, rfl⟩⟩

theorem readProperties_takes {head : PropertyHead} {ts rest : List Token}
    {properties : List PropertyDecl} (h : readProperties head ts = .ok (properties, rest)) :
    Takes (readProperties head) ts rest fun more => .ok (properties, more) := by
  induction hlen : ts.length using Nat.strongRecOn generalizing ts properties with
  | ind n ih =>
    obtain ⟨t, _, default, _, stop, after, hname, hvar, hdefault, hstop, property, later, rfl,
      hproperty, hend⟩ := readProperties_eq_ok_iff.1 h
    have hlt := significant_length hname
    obtain ⟨front, rfl, hfront⟩ := significant_takes hname
    obtain ⟨value, rfl, hvalue⟩ := readDefault_significant_takes hdefault hstop
    rcases hend with ⟨hsemi, rfl, rfl⟩ | ⟨hsemi, hcomma, hrest⟩
    · refine ⟨front ++ value, by simp, fun more => ?_⟩
      obtain ⟨after, hdefault, hstop⟩ := hvalue more
      rw [List.append_assoc]
      exact readProperties_eq_ok_iff.2 ⟨t, _, default, after, stop, _, hfront _, hvar, hdefault,
        hstop, property, [], rfl, hproperty, .inl ⟨hsemi, rfl, rfl⟩⟩
    · rw [List.length_append] at hlt
      obtain ⟨taken, rfl, htaken⟩ := ih _ (by omega) hrest rfl
      refine ⟨front ++ (value ++ taken), by simp, fun more => ?_⟩
      obtain ⟨after, hdefault, hstop⟩ := hvalue (taken ++ more)
      rw [List.append_assoc, List.append_assoc]
      exact readProperties_eq_ok_iff.2 ⟨t, _, default, after, stop, _, hfront _, hvar, hdefault,
        hstop, property, later, rfl, hproperty, .inr ⟨hsemi, hcomma, htaken more⟩⟩

theorem skipTraitUse_takes {line : Int} {ts rest : List Token}
    (h : skipTraitUse line ts = .ok rest) : Takes (skipTraitUse line) ts rest .ok := by
  obtain ⟨names, t, after, hnames, hend⟩ := skipTraitUse_eq_ok_iff.1 h
  obtain ⟨rfl, knames⟩ := collect_takes hnames
  rcases hend with ⟨hopen, hskip⟩ | ⟨hopen, hsemi, rfl⟩
  · obtain ⟨taken, rfl, htaken⟩ := skipBalanced_cons_takes hskip
    refine ⟨names ++ t :: taken, by simp, fun more => ?_⟩
    rw [List.append_assoc, List.cons_append]
    exact skipTraitUse_eq_ok_iff.2 ⟨names, t, _, knames _, .inl ⟨hopen, htaken more⟩⟩
  · refine ⟨names ++ [t], by simp, fun more => ?_⟩
    rw [List.append_assoc, List.singleton_append]
    exact skipTraitUse_eq_ok_iff.2 ⟨names, t, _, knames _, .inr ⟨hopen, hsemi, rfl⟩⟩

theorem readMethod_takes {lead : Lead} {scope : String} {line : Int} {doc : Option Docblock}
    {ts rest : List Token} {m : MethodDecl}
    (h : readMethod lead scope line doc ts = .ok (m, rest)) :
    Takes (readMethod lead scope line doc) ts rest fun more => .ok (m, more) := by
  obtain ⟨s, name, hsig, hname, rfl⟩ := readMethod_eq_ok_iff.1 h
  obtain ⟨taken, rfl, htaken⟩ := readSignature_takes hsig
  exact ⟨taken, rfl, fun more => readMethod_eq_ok_iff.2 ⟨s, name, htaken more, hname, rfl⟩⟩

/-! ## Bodies -/

/-- A step before some token is the same whenever that token follows. -/
theorem MemberStep.takes {scope : String} {line : Int} {lead lead' : Lead} {ts after : List Token}
    {notes : List DocblockError} {part : Body} {u : Token}
    (h : MemberStep scope line lead ts notes part lead' (u :: after)) :
    ∃ taken, ts = taken ++ u :: after ∧
      ∀ more, MemberStep scope line lead (taken ++ u :: more) notes part lead' (u :: more) := by
  cases h with
  | comment hstep => exact ⟨[_], rfl, fun more => .comment hstep⟩
  | trivia hstep => exact ⟨[_], rfl, fun more => .trivia hstep⟩
  | modifier hstep => exact ⟨[_], rfl, fun more => .modifier hstep⟩
  | type hstep => exact ⟨[_], rfl, fun more => .type hstep⟩
  | semicolon hstep => exact ⟨[_], rfl, fun more => .semicolon hstep⟩
  | constants hstep hread =>
    obtain ⟨taken, rfl, htaken⟩ := readConstants_takes hread
    exact ⟨_ :: taken, rfl, fun more => .constants hstep (htaken more)⟩
  | method hstep hread =>
    obtain ⟨taken, rfl, htaken⟩ := readMethod_takes hread
    exact ⟨_ :: taken, rfl, fun more => .method hstep (htaken (u :: more))⟩
  | properties hstep hread =>
    obtain ⟨taken, htaken, hmore⟩ := readProperties_takes hread
    obtain ⟨later, rfl, rfl⟩ := exists_cons_of_shorter htaken (readProperties_length hread)
    exact ⟨_ :: later, rfl, fun more => .properties hstep (hmore (u :: more))⟩
  | traitUse hstep hskip =>
    obtain ⟨taken, rfl, htaken⟩ := skipTraitUse_takes hskip
    exact ⟨_ :: taken, rfl, fun more => .traitUse hstep (htaken (u :: more))⟩

theorem MemberStep.length {scope : String} {line : Int} {lead lead' : Lead} {ts after : List Token}
    {notes : List DocblockError} {part : Body}
    (h : MemberStep scope line lead ts notes part lead' after) : after.length < ts.length := by
  cases h with
  | comment hstep | trivia hstep | modifier hstep | type hstep | semicolon hstep =>
    exact Nat.lt_succ_self _
  | constants hstep hread => exact Nat.lt_succ_of_lt (readConstants_length hread)
  | method hstep hread => exact Nat.lt_succ_of_lt (readMethod_length hread)
  | properties hstep hread => exact readProperties_length hread
  | traitUse hstep hskip => exact Nat.lt_succ_of_lt (skipTraitUse_length hskip)

/-- A body takes the tokens up to its closing brace. -/
theorem readMembers_takes {scope : String} {line : Int} {lead : Lead} {ts rest : List Token}
    {notes : List DocblockError} {body : Body}
    (h : readMembers scope line lead ts = ⟨notes, .ok (body, rest)⟩) :
    Takes (readMembers scope line lead) ts rest fun more => ⟨notes, .ok (body, more)⟩ := by
  induction hlen : ts.length using Nat.strongRecOn generalizing ts lead notes body with
  | ind n ih =>
    rcases readMembers_eq_ok_iff.1 h with
      ⟨t, rfl, hclose, rfl, rfl⟩ |
      ⟨before, part, lead', after, later, members, hstep, hread, rfl, rfl⟩
    · exact ⟨[t], rfl, fun more => readMembers_of_close hclose⟩
    · obtain ⟨taken, rfl, htaken⟩ := ih _ (hlen ▸ hstep.length) hread rfl
      -- What follows the step is not empty, for a body has a closing brace.
      cases taken with
      | nil =>
        have := readMembers_length (congrArg Noted.result hread)
        exact absurd this (Nat.lt_irrefl _)
      | cons u taken =>
        obtain ⟨front, rfl, hfront⟩ := hstep.takes
        refine ⟨front ++ u :: taken, by simp, fun more => ?_⟩
        rw [List.append_assoc, List.cons_append]
        exact readMembers_eq_ok_iff.2 (.inr ⟨before, part, lead', _, later, members, hfront _,
          htaken more, rfl, rfl⟩)

/-! ## Declarations -/

theorem skipAnonymousClass_paren {line : Int} {t : Token} {rest after : List Token}
    (hopen : ¬ t.isPunct openBrace = true) (hparen : t.isPunct "(" = true)
    (h : skipBalanced line (t :: rest) = .ok after) :
    skipAnonymousClass line (t :: rest) = skipAnonymousClass line after := by
  rw [skipAnonymousClass, if_neg hopen, if_pos hparen]
  split
  · rename_i h'
    rw [h] at h'
    cases h'
  · rename_i h'
    rw [h] at h'
    cases h'
    rfl

theorem skipAnonymousClass_takes {line : Int} {ts rest : List Token}
    (h : skipAnonymousClass line ts = .ok rest) : Takes (skipAnonymousClass line) ts rest .ok := by
  fun_induction skipAnonymousClass line ts with
  | case1 => exact absurd (skipBalanced_length h) (Nat.not_lt_zero _)
  | case2 t r hopen =>
    obtain ⟨taken, rfl, htaken⟩ := skipBalanced_cons_takes h
    exact ⟨t :: taken, rfl, fun more => by
      rw [List.cons_append, skipAnonymousClass, if_pos hopen]
      exact htaken more⟩
  | case3 => cases h
  | case4 t r hopen hparen after hskip hlt ih =>
    obtain ⟨list, rfl, hlist⟩ := skipBalanced_cons_takes hskip
    obtain ⟨taken, rfl, htaken⟩ := ih h
    refine ⟨t :: (list ++ taken), by simp, fun more => ?_⟩
    rw [List.cons_append, List.append_assoc, skipAnonymousClass_paren hopen hparen (hlist _),
      htaken]
  | case5 t r hopen hparen ih =>
    obtain ⟨taken, rfl, htaken⟩ := ih h
    exact ⟨t :: taken, rfl, fun more => by
      rw [List.cons_append, skipAnonymousClass, if_neg hopen, if_neg hparen, htaken]⟩

theorem readParent_takes {line : Int} {t u : Token} {ts rest : List Token} {parent : Option String}
    (h : readParent line t ts = .ok (parent, u, rest)) :
    Takes (readParent line t) ts rest fun more => .ok (parent, u, more) := by
  rcases readParent_eq_ok_iff.1 h with
    ⟨hword, v, first, hfirst, rfl, hnext⟩ | ⟨hword, rfl, rfl, rfl⟩
  · obtain ⟨front, rfl, hfront⟩ := significant_takes hfirst
    obtain ⟨name, rfl, hname⟩ := qualifiedName_significant_takes hnext
    refine ⟨front ++ name, by simp, fun more => ?_⟩
    obtain ⟨hsame, hsig⟩ := hname more
    rw [List.append_assoc]
    exact readParent_eq_ok_iff.2 (.inl ⟨hword, v, _, hfront _, by rw [hsame], hsig⟩)
  · exact ⟨[], rfl, fun more => readParent_eq_ok_iff.2 (.inr ⟨hword, rfl, rfl, rfl⟩)⟩

theorem readNamesAfter_takes {word : Keyword} {line : Int} {t u : Token} {ts rest : List Token}
    {names : List String} (h : readNamesAfter word line t ts = .ok (names, u, rest)) :
    Takes (readNamesAfter word line t) ts rest fun more => .ok (names, u, more) := by
  rcases readNamesAfter_eq_ok_iff.1 h with ⟨hword, hnames⟩ | ⟨hword, rfl, rfl, rfl⟩
  · obtain ⟨taken, rfl, htaken⟩ := readNames_takes hnames
    exact ⟨taken, rfl, fun more => readNamesAfter_eq_ok_iff.2 (.inl ⟨hword, htaken more⟩)⟩
  · exact ⟨[], rfl, fun more => readNamesAfter_eq_ok_iff.2 (.inr ⟨hword, rfl, rfl, rfl⟩)⟩

theorem readClassHead_takes {line : Int} {name : String} {ts rest : List Token}
    {parent : Option String} {interfaces : List String}
    (h : readClassHead line name ts = .ok (parent, interfaces, rest)) :
    Takes (readClassHead line name) ts rest fun more => .ok (parent, interfaces, more) := by
  obtain ⟨t, _, u, _, v, hfirst, hparent, hnames, hopen⟩ := readClassHead_eq_ok_iff.1 h
  obtain ⟨front, rfl, kfront⟩ := significant_takes hfirst
  obtain ⟨extension, rfl, kparent⟩ := readParent_takes hparent
  obtain ⟨list, rfl, knames⟩ := readNamesAfter_takes hnames
  refine ⟨front ++ (extension ++ list), by simp, fun more => ?_⟩
  rw [List.append_assoc, List.append_assoc]
  exact readClassHead_eq_ok_iff.2 ⟨t, _, u, _, v, kfront _, kparent _, knames more, hopen⟩

theorem readInterfaceHead_takes {line : Int} {name : String} {ts rest : List Token}
    {parents : List String} (h : readInterfaceHead line ts = .ok (name, parents, rest)) :
    Takes (readInterfaceHead line) ts rest fun more => .ok (name, parents, more) := by
  obtain ⟨n, _, t, _, u, hname, hkind, rfl, hfirst, hnames, hopen⟩ :=
    readInterfaceHead_eq_ok_iff.1 h
  obtain ⟨front, rfl, kname⟩ := significant_takes hname
  obtain ⟨next, rfl, kfirst⟩ := significant_takes hfirst
  obtain ⟨list, rfl, knames⟩ := readNamesAfter_takes hnames
  refine ⟨front ++ (next ++ list), by simp, fun more => ?_⟩
  rw [List.append_assoc, List.append_assoc]
  exact readInterfaceHead_eq_ok_iff.2 ⟨n, _, t, _, u, kname _, hkind, rfl, kfirst _,
    knames more, hopen⟩

/-- A class takes the tokens up to its closing brace. -/
theorem readClassFrom_takes {scope : String} {line : Int} {modifiers : List Keyword}
    {doc : Option Docblock} {ts rest : List Token} {notes : List DocblockError}
    {decl : Option ClassDecl}
    (h : readClassFrom scope line modifiers doc ts = ⟨notes, .ok (decl, rest)⟩) :
    Takes (readClassFrom scope line modifiers doc) ts rest
      fun more => ⟨notes, .ok (decl, more)⟩ := by
  obtain ⟨t, _, hfirst, hend⟩ := readClassFrom_eq_ok_iff.1 h
  obtain ⟨front, rfl, kfront⟩ := significant_takes hfirst
  rcases hend with ⟨hname, parent, interfaces, _, body, hhead, hbody, hdecl⟩ |
    ⟨hname, hnotes, hdecl, hskip⟩
  · obtain ⟨head, rfl, khead⟩ := readClassHead_takes hhead
    obtain ⟨members, rfl, kbody⟩ := readMembers_takes hbody
    refine ⟨front ++ (head ++ members), by simp, fun more => ?_⟩
    rw [List.append_assoc, List.append_assoc]
    exact readClassFrom_eq_ok_iff.2 ⟨t, _, kfront _, .inl ⟨hname, parent, interfaces, _, body,
      khead _, kbody more, hdecl⟩⟩
  · obtain ⟨taken, htaken, hmore⟩ := skipAnonymousClass_takes hskip
    obtain ⟨later, rfl, rfl⟩ := exists_cons_of_shorter htaken (skipAnonymousClass_length hskip)
    refine ⟨front ++ later, by simp, fun more => ?_⟩
    rw [List.append_assoc]
    exact readClassFrom_eq_ok_iff.2 ⟨t, _, kfront _, .inr ⟨hname, hnotes, hdecl, hmore more⟩⟩

/-- An interface takes the tokens up to its closing brace. -/
theorem readInterfaceFrom_takes {scope : String} {line : Int} {doc : Option Docblock}
    {ts rest : List Token} {notes : List DocblockError} {decl : InterfaceDecl}
    (h : readInterfaceFrom scope line doc ts = ⟨notes, .ok (decl, rest)⟩) :
    Takes (readInterfaceFrom scope line doc) ts rest fun more => ⟨notes, .ok (decl, more)⟩ := by
  obtain ⟨name, parents, _, body, hhead, hbody, hdecl⟩ := readInterfaceFrom_eq_ok_iff.1 h
  obtain ⟨head, rfl, khead⟩ := readInterfaceHead_takes hhead
  obtain ⟨members, rfl, kbody⟩ := readMembers_takes hbody
  refine ⟨head ++ members, by simp, fun more => ?_⟩
  rw [List.append_assoc]
  exact readInterfaceFrom_eq_ok_iff.2 ⟨name, parents, _, body, khead _, kbody more, hdecl⟩

/-- A function takes the tokens up to the end of its body or its semicolon. -/
theorem readFunctionFrom_takes {scope : String} {line : Int} {doc : Option Docblock}
    {ts rest : List Token} {decl : Option FunctionDecl}
    (h : readFunctionFrom scope line doc ts = .ok (decl, rest)) :
    Takes (readFunctionFrom scope line doc) ts rest fun more => .ok (decl, more) := by
  obtain ⟨s, hsig, hdecl⟩ := readFunctionFrom_eq_ok_iff.1 h
  obtain ⟨taken, rfl, htaken⟩ := readSignature_takes hsig
  exact ⟨taken, rfl, fun more => readFunctionFrom_eq_ok_iff.2 ⟨s, htaken more, hdecl⟩⟩

end PhpOutline.Reading
