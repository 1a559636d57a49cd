import PhpOutline.Document
import PhpOutline.Proofs.Progress

/-!
# The life of a file

A file under a sequence of calls: marker terms are added or set, the file is read, and its document
is asked for. Reading fills in the outline as it goes and may break off anywhere. What is kept
between the calls is that the file is at rest: no tokens are left, and the outline is empty unless
the file has been read. So a reading that fails leaves no trace, the first one that succeeds makes
the outline from the first token on, and no call changes it again. Whether and how a reading fails
does not depend on the marker terms.

Results:
* `ofSource_error_of_terms`: how reading fails does not depend on the marker terms.
* `idle_step`, `idle_run`: a file at rest is at rest after every call.
* `step_eq`, `run_of_processed`, `run_of_failing`: only a reading that succeeds changes more than
  the terms.
* `nodup_terms_run`: the marker terms are distinct along a run.
* `exists_terms_of_run`: every outline along a run comes from a reading of the source.
* `run_of_first`: the first reading that succeeds makes the outline.
* `read_at_most_once`: all of it, for every run of a fresh file.
-/

namespace PhpOutline

/-- How reading fails does not depend on the marker terms. -/
theorem Outline.ofSource_error_of_terms {path contents : String} {terms : List String}
    {e : ProcessError} (h : Outline.ofSource path contents terms = .error e)
    (others : List String) : Outline.ofSource path contents others = .error e := by
  cases hlex : lex contents with
  | error cause => rwa [ofSource_of_lex_error hlex] at h ⊢
  | ok ts =>
    cases hcollect : (Symbols.collect {} (.ofList ts)).2 with
    | error halt => rwa [ofSource_of_halt hlex hcollect] at h ⊢
    | ok symbols =>
      rw [ofSource_of_symbols hlex hcollect] at h
      cases h

namespace SourceFile

/-- A call on a file. -/
inductive Call where
  | addMarker (term : String)
  | setMarkers (terms : List String)
  | process
  | serialize (pretty : Bool)
  deriving DecidableEq, Repr

/-- What a call gives back. -/
inductive Reply where
  | done
  | processed (error? : Option ProcessError)
  | document (text : Except DocumentError String)

namespace State

variable {s : State} {call : Call} {calls : List Call}

/-- What a call gives back, and the file after it. -/
def answer (s : State) : Call → Reply × State
  | .addMarker term => (.done, s.addMarker term)
  | .setMarkers terms => (.done, s.setMarkers terms)
  | .process => (.processed s.process.error?, s.process.state)
  | .serialize pretty => (.document (s.document pretty), s)

/-- The file after a call. -/
def step (s : State) (call : Call) : State := (s.answer call).2

/-- The file after some calls. -/
def run (s : State) (calls : List Call) : State := calls.foldl step s

/-- No reading among some calls succeeds. -/
def Failing (s : State) (calls : List Call) : Prop :=
  ∀ before later, calls = before ++ .process :: later → (s.run before).process.error? ≠ none

@[simp] theorem run_nil (s : State) : s.run [] = s := rfl

@[simp] theorem run_cons (s : State) (call : Call) (calls : List Call) :
    s.run (call :: calls) = (s.step call).run calls := rfl

theorem run_append (s : State) (calls later : List Call) :
    s.run (calls ++ later) = (s.run calls).run later := List.foldl_append ..

/-! ## Files at rest -/

/-- A file at rest is at rest after every call. -/
theorem idle_step (h : s.Idle) (call : Call) : (s.step call).Idle := by
  cases call with
  | addMarker term => exact idle_addMarker h term
  | setMarkers terms => exact h
  | process => exact idle_process h
  | serialize pretty => exact h

theorem idle_run (h : s.Idle) (calls : List Call) : (s.run calls).Idle := by
  induction calls generalizing s with
  | nil => exact h
  | cons call calls ih => exact ih (idle_step h call)

/-! ## One call -/

theorem process_of_processed (h : s.isProcessed = true) :
    s.process.error? = none ∧ s.process.state = s := by
  rw [process, if_pos h]
  exact ⟨rfl, rfl⟩

/-- A reading fails exactly if the file has not been read and its source has no outline. -/
theorem process_error_eq_some_iff {e : ProcessError} (hidle : s.Idle) :
    s.process.error? = some e ↔
      s.isProcessed = false ∧ Outline.ofSource s.path s.contents s.terms = .error e := by
  cases hs : s.isProcessed with
  | true => simp [process_of_processed hs]
  | false =>
    cases hsource : Outline.ofSource s.path s.contents s.terms with
    | error cause => simp [process_of_error hidle hs hsource]
    | ok o => simp [process_of_ok hidle hs hsource]

/-- After a reading that succeeds a file has been read. -/
theorem isProcessed_process (h : s.process.error? = none) : s.process.state.isProcessed = true := by
  cases hs : s.isProcessed with
  | true =>
    rw [(process_of_processed hs).2]
    exact hs
  | false =>
    cases hread : s.read.error? with
    | none => rw [process_of_read_ok hs hread]
    | some e =>
      rw [process_of_read_error hs hread, hread] at h
      cases h

/-- Reading a file leaves its source, its digest and its terms. -/
theorem process_source (s : State) :
    s.process.state.path = s.path ∧ s.process.state.contents = s.contents ∧
      s.process.state.digest = s.digest ∧ s.process.state.terms = s.terms := by
  have hread := reset_read s
  have hpath := congrArg State.path hread
  have hcontents := congrArg State.contents hread
  have hdigest := congrArg State.digest hread
  have hterms := congrArg State.terms hread
  unfold process
  split
  · exact ⟨rfl, rfl, rfl, rfl⟩
  · simp only
    split
    · exact ⟨hpath, hcontents, hdigest, hterms⟩
    · exact ⟨hpath, hcontents, hdigest, hterms⟩

/-- A further term changes nothing but the terms. -/
theorem addMarker_eq (s : State) (term : String) :
    s.addMarker term = { s with terms := (s.addMarker term).terms } := by
  unfold addMarker
  split <;> rfl

/-- A call changes more than the terms only by a reading that succeeds. -/
theorem step_eq (hidle : s.Idle)
    (h : call = .process → s.isProcessed = true ∨ s.process.error? ≠ none) :
    s.step call = { s with terms := (s.step call).terms } := by
  cases call with
  | addMarker term => exact addMarker_eq s term
  | setMarkers terms => rfl
  | process =>
    rw [step, answer]
    rcases h rfl with hread | herror
    · rw [(process_of_processed hread).2]
    · obtain ⟨e, he⟩ := Option.ne_none_iff_exists'.1 herror
      obtain ⟨hunread, hsource⟩ := (process_error_eq_some_iff hidle).1 he
      rw [(process_of_error hidle hunread hsource).2]
  | serialize pretty => rfl

/-! ## Runs -/

theorem step_source (s : State) (call : Call) :
    (s.step call).path = s.path ∧ (s.step call).contents = s.contents ∧
      (s.step call).digest = s.digest := by
  cases call with
  | addMarker term =>
    rw [step, answer, addMarker_eq]
    exact ⟨rfl, rfl, rfl⟩
  | setMarkers terms => exact ⟨rfl, rfl, rfl⟩
  | process =>
    obtain ⟨hpath, hcontents, hdigest, -⟩ := process_source s
    exact ⟨hpath, hcontents, hdigest⟩
  | serialize pretty => exact ⟨rfl, rfl, rfl⟩

theorem run_source (s : State) (calls : List Call) :
    (s.run calls).path = s.path ∧ (s.run calls).contents = s.contents ∧
      (s.run calls).digest = s.digest := by
  induction calls generalizing s with
  | nil => exact ⟨rfl, rfl, rfl⟩
  | cons call calls ih =>
    obtain ⟨hpath, hcontents, hdigest⟩ := step_source s call
    rw [run_cons, ← hpath, ← hcontents, ← hdigest]
    exact ih (s.step call)

/-- Of a file that has been read, no call changes more than the terms. -/
theorem run_of_processed (hidle : s.Idle) (hread : s.isProcessed = true) (calls : List Call) :
    s.run calls = { s with terms := (s.run calls).terms } := by
  induction calls generalizing s with
  | nil => rfl
  | cons call calls ih =>
    have hstep := @step_eq s call hidle fun _ => .inl hread
    rw [run_cons, ih (idle_step hidle call) (by rw [hstep]; exact hread), hstep]

theorem failing_nil (s : State) : s.Failing [] := by
  intro before later h
  cases before <;> cases h

theorem failing_cons :
    s.Failing (call :: calls) ↔
      (call = .process → s.process.error? ≠ none) ∧ (s.step call).Failing calls := by
  constructor
  · intro h
    refine ⟨fun hcall => h [] calls (by rw [hcall]; rfl), fun before later hsplit => ?_⟩
    exact h (call :: before) later (by rw [hsplit]; rfl)
  · rintro ⟨hcall, hcalls⟩ before later hsplit
    cases before with
    | nil =>
      obtain ⟨rfl, -⟩ := List.cons.inj hsplit
      exact hcall rfl
    | cons first before =>
      obtain ⟨rfl, hrest⟩ := List.cons.inj hsplit
      exact hcalls before later hrest

/-- Without a reading that succeeds no call changes more than the terms. -/
theorem run_of_failing (hidle : s.Idle) (h : s.Failing calls) :
    s.run calls = { s with terms := (s.run calls).terms } := by
  induction calls generalizing s with
  | nil => rfl
  | cons call calls ih =>
    obtain ⟨hcall, hcalls⟩ := failing_cons.1 h
    have hstep := @step_eq s call hidle fun hprocess => .inr (hcall hprocess)
    rw [run_cons, ih (idle_step hidle call) hcalls, hstep]

/-- After a reading that fails, every further reading fails in the same way. -/
theorem process_error_run {e : ProcessError} (hidle : s.Idle) (h : s.process.error? = some e)
    (calls : List Call) : (s.run calls).process.error? = some e := by
  induction calls generalizing s with
  | nil => exact h
  | cons call calls ih =>
    have hnext := idle_step hidle call
    refine ih hnext ((process_error_eq_some_iff hnext).2 ?_)
    obtain ⟨hunread, hsource⟩ := (process_error_eq_some_iff hidle).1 h
    rw [step_eq hidle fun _ => .inr (by simp [h])]
    exact ⟨hunread, Outline.ofSource_error_of_terms hsource _⟩

/-! ## Marker terms -/

/-- A term is entered unless it is there already. -/
theorem nodup_enter {ts : List String} (h : ts.Nodup) (t : String) :
    (if ts.contains t then ts else ts ++ [t]).Nodup := by
  by_cases ht : ts.contains t = true
  · rw [if_pos ht]
    exact h
  · rw [if_neg ht]
    refine List.nodup_append.2 ⟨h, by simp, ?_⟩
    rintro u hu v hv rfl
    rw [List.mem_singleton.1 hv] at hu
    exact ht (List.contains_iff_mem.2 hu)

theorem nodup_foldl_enter (terms : List String) {entered : List String} (h : entered.Nodup) :
    (terms.foldl (fun ts t => if ts.contains t then ts else ts ++ [t]) entered).Nodup := by
  induction terms generalizing entered with
  | nil => exact h
  | cons t terms ih => exact ih (nodup_enter h t)

/-- Distinct terms are all entered. -/
theorem foldl_enter_of_nodup {terms entered : List String} (h : (entered ++ terms).Nodup) :
    terms.foldl (fun ts t => if ts.contains t then ts else ts ++ [t]) entered =
      entered ++ terms := by
  induction terms generalizing entered with
  | nil => rw [List.foldl_nil, List.append_nil]
  | cons t terms ih =>
    have ht : ¬ entered.contains t = true := fun hmem =>
      (List.nodup_append.1 h).2.2 t (List.contains_iff_mem.1 hmem) t List.mem_cons_self rfl
    rw [List.append_cons] at h
    rw [List.foldl_cons, if_neg ht, ih h, ← List.append_cons]

theorem nodup_terms_step (h : s.terms.Nodup) (call : Call) : (s.step call).terms.Nodup := by
  cases call with
  | addMarker term =>
    have hterms : (s.addMarker term).terms =
        if s.terms.contains term then s.terms else s.terms ++ [term] := by
      unfold addMarker
      split <;> rfl
    rw [step, answer, hterms]
    exact nodup_enter h term
  | setMarkers terms => exact nodup_foldl_enter terms List.nodup_nil
  | process =>
    obtain ⟨-, -, -, hterms⟩ := process_source s
    rw [step, answer, hterms]
    exact h
  | serialize pretty => exact h

theorem nodup_terms_run (h : s.terms.Nodup) (calls : List Call) : (s.run calls).terms.Nodup := by
  induction calls generalizing s with
  | nil => exact h
  | cons call calls ih => exact ih (nodup_terms_step h call)

theorem setMarkers_of_nodup {terms : List String} (h : terms.Nodup) (s : State) :
    s.setMarkers terms = { s with terms } := by
  unfold setMarkers
  rw [foldl_enter_of_nodup (by simpa using h)]
  rfl

/-! ## Files from the start -/

/-- A call after which a file has been read is a reading with the terms of that moment. -/
theorem ofSource_of_step (hidle : s.Idle) (hunread : s.isProcessed = false)
    (h : (s.step call).isProcessed = true) :
    Outline.ofSource s.path s.contents s.terms = .ok (s.step call).outline := by
  by_cases hcall : call = .process ∧ s.process.error? = none
  · obtain ⟨rfl, herror⟩ := hcall
    cases hsource : Outline.ofSource s.path s.contents s.terms with
    | error e =>
      rw [(process_of_error hidle hunread hsource).1] at herror
      cases herror
    | ok o => rw [step, answer, (process_of_ok hidle hunread hsource).2]
  · rw [step_eq hidle fun hprocess => .inr fun herror => hcall ⟨hprocess, herror⟩, hunread] at h
    cases h

/-- The outline of a file that has been read comes from its source, with some terms. -/
theorem exists_terms_of_run (hidle : s.Idle) (hunread : s.isProcessed = false)
    (h : (s.run calls).isProcessed = true) :
    ∃ terms, Outline.ofSource s.path s.contents terms = .ok (s.run calls).outline := by
  induction calls generalizing s with
  | nil =>
    rw [run_nil, hunread] at h
    cases h
  | cons call calls ih =>
    rw [run_cons] at h ⊢
    have hnext := idle_step hidle call
    cases hstep : (s.step call).isProcessed with
    | false =>
      obtain ⟨hpath, hcontents, -⟩ := step_source s call
      rw [← hpath, ← hcontents]
      exact ih hnext hstep h
    | true =>
      rw [run_of_processed hnext hstep calls]
      exact ⟨s.terms, ofSource_of_step hidle hunread hstep⟩

/-- The first reading that succeeds leaves the file as reading it from the start with the terms of
    that moment does, and later calls change the terms only. -/
theorem run_of_first {before : List Call} (hidle : s.Idle)
    (hterms : (s.run before).terms.Nodup) (hfail : s.Failing before)
    (hok : (s.run before).process.error? = none) (later : List Call) :
    let again := (s.setMarkers (s.run before).terms).process
    let last := s.run (before ++ .process :: later)
    again.error? = none ∧ again.state.isProcessed = true ∧
      last = { again.state with terms := last.terms } := by
  intro again last
  have hagain : again = (s.run before).process := by
    rw [run_of_failing hidle hfail, ← setMarkers_of_nodup hterms s]
  have hread : again.state.isProcessed = true := by
    rw [hagain]
    exact isProcessed_process hok
  have hlast : last = again.state.run later := by
    rw [hagain]
    exact run_append s before (.process :: later)
  have hrest : again.state.Idle := by
    rw [hagain]
    exact idle_process (idle_run hidle before)
  refine ⟨hagain ▸ hok, hread, ?_⟩
  rw [hlast]
  exact run_of_processed hrest hread later

/-- The life of a file from the start, whatever is called in between:
    until a reading succeeds the file is as it was at the start but for its terms, so no tokens are
    left and the outline is empty;
    the first reading that succeeds makes the outline that a fresh file with the terms of that
    moment gets, and it stays, as does the document;
    a reading that fails is followed only by readings that fail in the same way;
    the terms are distinct, and only the calls about markers change them. -/
theorem read_at_most_once (path contents : String) (digest : Option String) (calls : List Call) :
    let fresh : State := { path, contents, digest }
    let s := fresh.run calls
    (fresh.Failing calls → s = { fresh with terms := s.terms } ∧ s.isProcessed = false ∧
      s.outline = ⟨⟨"default", [], [], [], [], [], []⟩, [], none, []⟩) ∧
    (∀ before later, calls = before ++ .process :: later → fresh.Failing before →
      (fresh.run before).process.error? = none →
        let again := (fresh.setMarkers (fresh.run before).terms).process
        again.error? = none ∧ s = { again.state with terms := s.terms } ∧ s.isProcessed = true ∧
          s.outline = again.state.outline ∧
          ∀ pretty, (s.answer (.serialize pretty)).1 = .document (again.state.document pretty)) ∧
    (∀ before later e, calls = before ++ .process :: later →
      (fresh.run before).process.error? = some e → s.process.error? = some e) ∧
    s.terms.Nodup ∧ (s.answer .process).2.terms = s.terms ∧
      ∀ pretty, (s.answer (.serialize pretty)).2 = s := by
  intro fresh s
  have hidle : fresh.Idle := ⟨rfl, fun _ => rfl⟩
  have hterms : ∀ calls, (fresh.run calls).terms.Nodup :=
    nodup_terms_run (show defaultTerms.Nodup by decide)
  refine ⟨fun hfail => ?_, fun before later hcalls hfail hok => ?_,
    fun before later e hcalls herror => ?_, hterms calls, ?_, fun _ => rfl⟩
  · have hs : s = { fresh with terms := s.terms } := run_of_failing hidle hfail
    exact ⟨hs, by rw [hs], by rw [hs]; rfl⟩
  · subst hcalls
    obtain ⟨herror, hread, hs⟩ := run_of_first hidle (hterms before) hfail hok later
    have hsame : s = _ := hs
    refine ⟨herror, hs, by rw [hsame]; exact hread, by rw [hsame], fun pretty => ?_⟩
    rw [hsame]
    rfl
  · have := process_error_run (idle_run hidle before) herror (.process :: later)
    rwa [← run_append, ← hcalls] at this
  · obtain ⟨-, -, -, hsame⟩ := process_source s
    exact hsame

/-- A file that is read after its terms are set, and a file that cannot be read to its end: a
    function is found before the error. -/
theorem read_at_most_once_set_terms :
    let good : State := { path := "a.php", contents := "<?php function f() \x7b\x7d // X: y" }
    let bad : State := { path := "a.php", contents := "<?php function g() \x7b\x7d class C" }
    let before : List Call := [.setMarkers ["X", "X"], .serialize true]
    let later : List Call := [.setMarkers ["TODO"], .addMarker "X", .process, .process]
    (good.Failing before ∧ (good.run before).process.error? = none ∧
      (good.run (before ++ .process :: later)).outline =
        (good.setMarkers ["X"]).process.state.outline) ∧
    (bad.read.state.outline.symbols.functions.keys = ["g"] ∧ bad.read.state.stream?.isSome = true ∧
      (bad.run before).process.error? = some (.parse ⟨.endOfFile, 1⟩) ∧
      (bad.run (before ++ .process :: later)).process.error? = some (.parse ⟨.endOfFile, 1⟩)) := by
  intro good bad before later
  have hbefore : good.Failing before :=
    failing_cons.2 ⟨nofun, failing_cons.2 ⟨nofun, failing_nil _⟩⟩
  have hgood : (good.run before).process.error? = none := by decide +kernel
  have hmidway : bad.read.state.outline.symbols.functions.keys = ["g"] ∧
      bad.read.state.stream?.isSome = true := by decide +kernel
  have hbad : (bad.run before).process.error? = some (.parse ⟨.endOfFile, 1⟩) := by decide +kernel
  have h := (read_at_most_once "a.php" _ none (before ++ .process :: later)).2.1 before later rfl
    hbefore hgood
  exact ⟨⟨hbefore, hgood, h.2.2.2.1⟩, hmidway.1, hmidway.2, hbad,
    (read_at_most_once "a.php" _ none _).2.2.1 before later _ rfl hbad⟩

/-- Without the reset a second reading would start within the statement that could not be read, and
    find no error. -/
example :
    let bad : State := { path := "a.php", contents := "<?php function g() \x7b\x7d class C" }
    bad.read.error? = some (.parse ⟨.endOfFile, 1⟩) ∧ bad.read.state.read.error? = none := by
  decide +kernel

end State

end SourceFile

end PhpOutline
