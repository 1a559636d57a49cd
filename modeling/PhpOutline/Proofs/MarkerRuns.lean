import PhpOutline.Command
import PhpOutline.Proofs.Lifecycle
import PhpOutline.Proofs.Loading

/-!
# Listing the markers of several files

A run that lists markers goes through its files one after the other. What it prints about a file is
what a run over that file alone prints: the lines of its markers, which are counted over all files,
and the log with the messages about errors. A file that is missing, in an encoding that is not
known, or that cannot be lexed or parsed adds no lines, takes none away, and makes the run fail. All
this holds as long as no file breaks the run off. A file does so if the system does not say whether
it is there, if the name of its encoding is none that the system takes, or if its encoding breaks
off. Then nothing is printed about the later files, nor how many markers there are.

Results:
* `loaded_cases`: a file breaks the run off, or has no text, or is loaded.
* `markersOf_of_breaks`, `markersOf_of_unlisted`, `markersOf_of_listed`: one file.
* `markersFrom_of_whole`, `markersFrom_of_broken`: the loop over the files.
* `listing_of_each`: a run over files in terms of the runs over each file alone.
-/

namespace PhpOutline.Command

open Text CommandLine

variable {host : Host} {settings : Settings} {options : Options} {path : String}

/-! ## The text of a file -/

/-- What comes of loading the file at a path. -/
def loaded (host : Host) (settings : Settings) (path : String) : Except LoadError SourceText :=
  (SourceText.load host.codecs host.look (.ofText path) settings.encoding).2

/-- The text of the file at a path, if it can be loaded. -/
def textOf? (host : Host) (settings : Settings) (path : String) : Option String :=
  (loaded host settings path).toOption.map SourceText.contents

/-- A file that breaks a run off, and the error that it does so with. -/
inductive Breaks (host : Host) (settings : Settings) (path : String) : LoadError → Prop
  | refused {code : Nat} {reason : String} : host.look (.ofText path) = .refused code reason →
      Breaks host settings path (.refused (.refused (Path.ofText path).text code reason))
  | unusable {bytes : List UInt8} : host.look (.ofText path) = .file bytes →
      Utf8.decode? bytes = none → '\x00' ∈ settings.encoding.toList →
      Breaks host settings path (.unusableName settings.encoding)
  | codec {bytes : List UInt8} {codec : List UInt8 → Except String (List Char)} {reason : String} :
      host.look (.ofText path) = .file bytes → Utf8.decode? bytes = none →
      '\x00' ∉ settings.encoding.toList → host.codecs settings.encoding = some codec →
      codec bytes = .error reason → Breaks host settings path (.broken settings.encoding reason)

/-- A file without a text: it is not there or not readable, or no encoding has the name. -/
inductive Unopened (host : Host) (settings : Settings) (path : String) : Prop
  | missing : (∀ bytes, host.look (.ofText path) ≠ .file bytes) →
      (∀ code reason, host.look (.ofText path) ≠ .refused code reason) →
      Unopened host settings path
  | undecodable {bytes : List UInt8} : host.look (.ofText path) = .file bytes →
      Utf8.decode? bytes = none → '\x00' ∉ settings.encoding.toList →
      host.codecs settings.encoding = none → Unopened host settings path

/-- A file whose markers cannot be listed. -/
inductive Unlisted (host : Host) (settings : Settings) (path : String) : Prop
  | unopened : Unopened host settings path → Unlisted host settings path
  | unlexed {contents : String} {e : LexError} : textOf? host settings path = some contents →
      lex contents = .error e → Unlisted host settings path
  | unparsed {contents : String} {ts : List Token} {halt : Symbols.Halt} :
      textOf? host settings path = some contents → lex contents = .ok ts →
      (Symbols.collect {} (.ofList ts)).2 = .error halt → Unlisted host settings path

theorem loaded_of_breaks {e : LoadError} (h : Breaks host settings path e) :
    loaded host settings path = .error e ∧ e.message? = none := by
  cases h with
  | refused hlook => simp [loaded, SourceText.load, hlook, LoadError.message?]
  | unusable hlook hdecode hname =>
    simp [loaded, SourceText.load, SourceText.decode, hlook, hdecode,
      SourceText.transcode_of_unusable hname, LoadError.message?, Except.map]
  | codec hlook hdecode hname hcodec hreason =>
    simp [loaded, SourceText.load, SourceText.decode, hlook, hdecode,
      SourceText.transcode_of_known hname hcodec, hreason, LoadError.message?, Except.map,
      Except.mapError]

theorem loaded_of_unopened (h : Unopened host settings path) :
    ∃ e message, loaded host settings path = .error e ∧ e.message? = some message := by
  cases h with
  | missing hfile hrefused =>
    unfold loaded SourceText.load
    cases hlook : host.look (.ofText path) with
    | file bytes => exact absurd hlook (hfile bytes)
    | refused code reason => exact absurd hlook (hrefused code reason)
    | missing | blocked | directory | unreadable _ | device => exact ⟨_, _, rfl, rfl⟩
  | undecodable hlook hdecode hname hcodec =>
    refine ⟨.unknownEncoding settings.encoding, _, ?_, rfl⟩
    simp [loaded, SourceText.load, SourceText.decode, hlook, hdecode,
      SourceText.transcode_of_unknown hname hcodec, Except.map]

/-- A file breaks the run off, or it has no text, or it is loaded. -/
theorem loaded_cases (host : Host) (settings : Settings) (path : String) :
    (∃ e, Breaks host settings path e) ∨ Unopened host settings path ∨
      ∃ source, loaded host settings path = .ok source := by
  cases hlook : host.look (.ofText path) with
  | file bytes =>
    cases hdecode : Utf8.decode? bytes with
    | some cs =>
      refine .inr (.inr ?_)
      simp [loaded, SourceText.load, SourceText.decode, hlook, hdecode, Except.map]
    | none =>
      by_cases hname : '\x00' ∈ settings.encoding.toList
      · exact .inl ⟨_, .unusable hlook hdecode hname⟩
      · cases hcodec : host.codecs settings.encoding with
        | none => exact .inr (.inl (.undecodable hlook hdecode hname hcodec))
        | some codec =>
          cases htext : codec bytes with
          | error reason => exact .inl ⟨_, .codec hlook hdecode hname hcodec htext⟩
          | ok cs =>
            refine .inr (.inr ?_)
            simp [loaded, SourceText.load, SourceText.decode, hlook, hdecode,
              SourceText.transcode_of_known hname hcodec, htext, Except.map, Except.mapError]
  | refused code reason => exact .inl ⟨_, .refused hlook⟩
  | missing | blocked | directory | unreadable _ | device =>
    refine .inr (.inl (.missing (fun bytes h => ?_) fun code reason h => ?_))
    · cases hlook.symm.trans h
    · cases hlook.symm.trans h

/-! ## Opening a file -/

theorem openFile_of_error {e : LoadError} (h : loaded host settings path = .error e) :
    (openFile host settings false path).result = .error (.load e) := by
  unfold loaded at h
  unfold openFile SourceFile.openAt
  generalize SourceText.load host.codecs host.look (.ofText path) settings.encoding = found at h
  obtain ⟨events, result⟩ := found
  cases h
  rfl

/-- A file with a text is opened unread. -/
theorem openFile_of_text {contents : String} (h : textOf? host settings path = some contents) :
    ∃ file, (openFile host settings false path).result = .ok file ∧ file.contents = contents ∧
      file.isProcessed = false := by
  obtain ⟨source, hsource, rfl⟩ := Option.map_eq_some_iff.1 h
  unfold loaded at hsource
  unfold openFile SourceFile.openAt
  generalize SourceText.load host.codecs host.look (.ofText path) settings.encoding = found
    at hsource
  obtain ⟨events, result⟩ := found
  cases result with
  | error e => cases hsource
  | ok loaded =>
    cases hsource
    exact ⟨_, rfl, rfl, rfl⟩

/-! ## Marker terms -/

theorem toState_foldl_addMarker (more : List String) (file : SourceFile) :
    (more.foldl SourceFile.addMarker file).toState =
      more.foldl SourceFile.State.addMarker file.toState := by
  induction more generalizing file with
  | nil => rfl
  | cons term more ih => exact ih (file.addMarker term)

theorem foldl_addMarker_eq (more : List String) (s : SourceFile.State) :
    more.foldl SourceFile.State.addMarker s =
      { s with terms := (more.foldl SourceFile.State.addMarker s).terms } := by
  induction more generalizing s with
  | nil => rfl
  | cons term more ih => rw [List.foldl_cons, ih, s.addMarker_eq]

theorem terms_foldl_addMarker (more : List String) {s t : SourceFile.State}
    (h : s.terms = t.terms) :
    (more.foldl SourceFile.State.addMarker s).terms =
      (more.foldl SourceFile.State.addMarker t).terms := by
  induction more generalizing s t with
  | nil => exact h
  | cons term more ih =>
    apply ih
    unfold SourceFile.State.addMarker
    rw [h]
    split
    · exact h
    · rfl

/-- The terms that a run looks for are the same for all files. -/
theorem terms_withTerms (file other : SourceFile) :
    (withTerms settings options file).terms = (withTerms settings options other).terms := by
  unfold withTerms
  rw [toState_foldl_addMarker, toState_foldl_addMarker]
  exact terms_foldl_addMarker _ rfl

theorem withTerms_eq (file : SourceFile) :
    (withTerms settings options file).toState =
      { file.toState with terms := (withTerms settings options file).terms } := by
  unfold withTerms
  rw [toState_foldl_addMarker, foldl_addMarker_eq]
  rfl

/-! ## What is printed for one file -/

/-- A file that breaks the run off has no lines. -/
theorem markersOf_of_breaks {e : LoadError} (h : Breaks host settings path e) :
    (markersOf host settings options path).broken? = some (.opening (.load e)) ∧
      (markersOf host settings options path).lines = [] := by
  obtain ⟨herror, hmessage⟩ := loaded_of_breaks h
  have hopen : (OpenError.load e).message? = none := hmessage
  simp [markersOf, reflect, openFile_of_error herror, hopen]

theorem markersOf_of_unopened (h : Unopened host settings path) :
    (markersOf host settings options path).broken? = none ∧
      (markersOf host settings options path).failed = true ∧
      (markersOf host settings options path).lines = [] := by
  obtain ⟨e, message, herror, hmessage⟩ := loaded_of_unopened h
  have hopen : (OpenError.load e).message? = some message := hmessage
  simp [markersOf, reflect, openFile_of_error herror, hopen]

theorem markersOf_of_error {contents : String} {e : ProcessError}
    (htext : textOf? host settings path = some contents)
    (h : ∀ name terms, Outline.ofSource name contents terms = .error e) :
    (markersOf host settings options path).broken? = none ∧
      (markersOf host settings options path).failed = true ∧
      (markersOf host settings options path).lines = [] := by
  obtain ⟨file, hfile, rfl, hunread⟩ := openFile_of_text htext
  have hprocess : (withTerms settings options file).process.error? = some e := by
    refine (SourceFile.process_of_error ?_ ?_).1
    · rw [withTerms_eq]
      exact hunread
    · rw [withTerms_eq]
      exact h _ _
  simp [markersOf, reflect, hfile, hprocess]

/-- A file whose markers cannot be listed has no lines. -/
theorem markersOf_of_unlisted (h : Unlisted host settings path) :
    (markersOf host settings options path).broken? = none ∧
      (markersOf host settings options path).failed = true ∧
      (markersOf host settings options path).lines = [] := by
  cases h with
  | unopened h => exact markersOf_of_unopened h
  | unlexed htext hlex =>
    exact markersOf_of_error htext fun _ _ => Outline.ofSource_of_lex_error hlex
  | unparsed htext hlex hcollect =>
    exact markersOf_of_error htext fun _ _ => Outline.ofSource_of_halt hlex hcollect

/-- A file that is read has a line for each of its markers. -/
theorem markersOf_of_listed {contents : String} {ts : List Token} {symbols : Symbols}
    (htext : textOf? host settings path = some contents) (hlex : lex contents = .ok ts)
    (hcollect : (Symbols.collect {} (.ofList ts)).2 = .ok symbols) :
    (markersOf host settings options path).broken? = none ∧
      (markersOf host settings options path).failed = false ∧
      (markersOf host settings options path).lines =
        (Marker.scan (withTerms settings options { path, contents }).terms contents).map
          (markerLine host path) := by
  obtain ⟨file, hfile, rfl, hunread⟩ := openFile_of_text htext
  have hprocess := SourceFile.process_of_ok (f := withTerms settings options file)
    (by rw [withTerms_eq]; exact hunread)
    (by rw [withTerms_eq]; exact Outline.ofSource_of_symbols hlex hcollect)
  rw [terms_withTerms _ file]
  simp [markersOf, reflect, hfile, hprocess]

/-- A file breaks the run off, or its markers cannot be listed, or it is read. -/
theorem markersOf_cases (host : Host) (settings : Settings) (path : String) :
    (∃ e, Breaks host settings path e) ∨ Unlisted host settings path ∨
      ∃ contents ts symbols, textOf? host settings path = some contents ∧
        lex contents = .ok ts ∧ (Symbols.collect {} (.ofList ts)).2 = .ok symbols := by
  rcases loaded_cases host settings path with hbreaks | hunopened | ⟨source, hsource⟩
  · exact .inl hbreaks
  · exact .inr (.inl (.unopened hunopened))
  · right
    have htext : textOf? host settings path = some source.contents := by
      rw [textOf?, hsource]
      rfl
    cases hlex : lex source.contents with
    | error e => exact .inl (.unlexed htext hlex)
    | ok ts =>
      cases hcollect : (Symbols.collect {} (.ofList ts)).2 with
      | error halt => exact .inl (.unparsed htext hlex hcollect)
      | ok symbols => exact .inr ⟨_, ts, symbols, htext, hlex, hcollect⟩

/-- The files that break a run off. -/
theorem broken?_eq_some_iff {e : LoadError} :
    (markersOf host settings options path).broken? = some (.opening (.load e)) ↔
      Breaks host settings path e := by
  refine ⟨fun h => ?_, fun h => (markersOf_of_breaks h).1⟩
  rcases markersOf_cases host settings path with ⟨e', hbreaks⟩ | hunlisted |
    ⟨contents, ts, symbols, htext, hlex, hcollect⟩
  · rw [(markersOf_of_breaks hbreaks).1] at h
    cases h
    exact hbreaks
  · rw [(markersOf_of_unlisted hunlisted).1] at h
    cases h
  · rw [(markersOf_of_listed htext hlex hcollect).1] at h
    cases h

theorem broken?_eq_none_iff :
    (markersOf host settings options path).broken? = none ↔ ∀ e, ¬ Breaks host settings path e := by
  constructor
  · intro h e hbreaks
    rw [(markersOf_of_breaks hbreaks).1] at h
    cases h
  · intro h
    rcases markersOf_cases host settings path with ⟨e, hbreaks⟩ | hunlisted |
      ⟨contents, ts, symbols, htext, hlex, hcollect⟩
    · exact absurd hbreaks (h e)
    · exact (markersOf_of_unlisted hunlisted).1
    · exact (markersOf_of_listed htext hlex hcollect).1

/-- The files that make a run fail. -/
theorem failed_iff (hwhole : ∀ e, ¬ Breaks host settings path e) :
    (markersOf host settings options path).failed = true ↔ Unlisted host settings path := by
  refine ⟨fun h => ?_, fun h => (markersOf_of_unlisted h).2.1⟩
  rcases markersOf_cases host settings path with ⟨e, hbreaks⟩ | hunlisted |
    ⟨contents, ts, symbols, htext, hlex, hcollect⟩
  · exact absurd hbreaks (hwhole e)
  · exact hunlisted
  · rw [(markersOf_of_listed htext hlex hcollect).2.1] at h
    cases h

/-! ## The loop over the files -/

section ManyFiles

variable {files : List String}

/-- A run that no file breaks off goes through all its files. -/
theorem markersFrom_of_whole
    (h : ∀ f ∈ files, (markersOf host settings options f).broken? = none) (count : Nat)
    (failed : Bool) :
    let lines := files.flatMap fun f => (markersOf host settings options f).lines
    let run := markersFrom host settings options count failed files
    run.out = String.join lines ++ foundLine (count + lines.length) ∧
      run.err = String.join (files.map fun f => (markersOf host settings options f).err) ∧
      run.ending = .exit (if failed || files.any fun f =>
        (markersOf host settings options f).failed then 1 else 0) := by
  induction files generalizing count failed with
  | nil => simp [markersFrom]
  | cons f files ih =>
    have hf := h f List.mem_cons_self
    obtain ⟨hout, herr, hending⟩ := ih (fun g hg => h g (List.mem_cons_of_mem f hg))
      (count + (markersOf host settings options f).lines.length)
      (failed || (markersOf host settings options f).failed)
    simp only [markersFrom, hf]
    refine ⟨?_, ?_, ?_⟩
    · rw [hout, List.flatMap_cons, String.join_append, String.append_assoc, List.length_append,
        Nat.add_assoc]
    · rw [herr, List.map_cons, String.join_cons]
    · rw [hending, List.any_cons, Bool.or_assoc]

/-- A run that a file breaks off has the lines of the files before, and the messages of the file
    itself too. -/
theorem markersFrom_of_broken {before after : List String} {f : String} {ending : Ending}
    (h : ∀ g ∈ before, (markersOf host settings options g).broken? = none)
    (hf : (markersOf host settings options f).broken? = some ending) (count : Nat)
    (failed : Bool) :
    let run := markersFrom host settings options count failed (before ++ f :: after)
    run.out = String.join (before.flatMap fun g => (markersOf host settings options g).lines) ∧
      run.err = String.join ((before ++ [f]).map fun g => (markersOf host settings options g).err) ∧
      run.ending = ending := by
  induction before generalizing count failed with
  | nil => simp [markersFrom, hf]
  | cons g before ih =>
    have hg := h g List.mem_cons_self
    obtain ⟨hout, herr, hending⟩ := ih (fun k hk => h k (List.mem_cons_of_mem g hk))
      (count + (markersOf host settings options g).lines.length)
      (failed || (markersOf host settings options g).failed)
    simp only [List.cons_append, markersFrom, hg]
    refine ⟨?_, ?_, ?_⟩
    · rw [hout, List.flatMap_cons, String.join_append]
    · rw [herr, List.map_cons, String.join_cons]
    · exact hending

/-! ## Runs over files -/

/-- The run that lists the markers of files. -/
def listing (host : Host) (options : Options) (files : List String) : Run :=
  answer host (.markers files options)

/-- A run over files in terms of the runs over each file alone: the lines of the markers one after
    the other and their number, the logs and messages one after the other, and a failure if one of
    the files fails. -/
structure ListsEach (host : Host) (settings : Settings) (options : Options) (files : List String) :
    Prop where
  /-- What a file alone prints is the lines of its markers and their number. -/
  out_alone : ∀ f ∈ files, (listing host options [f]).out =
    String.join (markersOf host settings options f).lines ++
      foundLine (markersOf host settings options f).lines.length
  out : (listing host options files).out =
    String.join (files.flatMap fun f => (markersOf host settings options f).lines) ++
      foundLine (files.flatMap fun f => (markersOf host settings options f).lines).length
  err : (listing host options files).err =
    String.join (files.map fun f => (listing host options [f]).err)
  exit_one_iff : (listing host options files).ending = .exit 1 ↔
    ∃ f ∈ files, (listing host options [f]).ending = .exit 1
  exit_zero : (¬ ∃ f ∈ files, (listing host options [f]).ending = .exit 1) →
    (listing host options files).ending = .exit 0
  /-- The files that fail are those that are missing, or cannot be decoded, lexed or parsed. -/
  exit_one_alone_iff : ∀ f ∈ files, (listing host options [f]).ending = .exit 1 ↔
    Unlisted host settings f
  /-- A file that fails has no lines, so that it changes nothing in the lines of the others. -/
  lines_of_unlisted : ∀ f ∈ files, Unlisted host settings f →
    (markersOf host settings options f).lines = []
  lines_of_listed : ∀ f ∈ files, ¬ Unlisted host settings f →
    ∃ contents, textOf? host settings f = some contents ∧
      (markersOf host settings options f).lines =
        (Marker.scan (withTerms settings options { path := f, contents }).terms contents).map
          (markerLine host f)

theorem listing_eq (hsettings : Command.settings host options.config = .ok settings)
    (files : List String) :
    listing host options files = markersFrom host settings options 0 false files := by
  simp [listing, answer, withSettings, hsettings, markers]

/-- What a run prints that goes through all its files, and how it ends. -/
theorem listing_of_whole (hsettings : Command.settings host options.config = .ok settings)
    (h : ∀ f ∈ files, ∀ e, ¬ Breaks host settings f e) :
    (listing host options files).out =
        String.join (files.flatMap fun f => (markersOf host settings options f).lines) ++
          foundLine (files.flatMap fun f => (markersOf host settings options f).lines).length ∧
      (listing host options files).err =
        String.join (files.map fun f => (markersOf host settings options f).err) ∧
      (listing host options files).ending =
        .exit (if files.any fun f => (markersOf host settings options f).failed then 1 else 0) := by
  have hwhole : ∀ f ∈ files, (markersOf host settings options f).broken? = none :=
    fun f hf => broken?_eq_none_iff.2 (h f hf)
  rw [listing_eq hsettings]
  simpa using markersFrom_of_whole hwhole 0 false

theorem listsEach (hsettings : Command.settings host options.config = .ok settings)
    (h : ∀ f ∈ files, ∀ e, ¬ Breaks host settings f e) :
    ListsEach host settings options files := by
  obtain ⟨hout, herr, hending⟩ := listing_of_whole hsettings h
  have halone : ∀ f ∈ files, (listing host options [f]).out =
        String.join (markersOf host settings options f).lines ++
          foundLine (markersOf host settings options f).lines.length ∧
      (listing host options [f]).err = (markersOf host settings options f).err ∧
      (listing host options [f]).ending =
        .exit (if (markersOf host settings options f).failed then 1 else 0) := by
    intro f hf
    have hwhole : ∀ g ∈ [f], ∀ e, ¬ Breaks host settings g e := by simpa using h f hf
    simpa using listing_of_whole hsettings hwhole
  have hone : ∀ f ∈ files, (listing host options [f]).ending = .exit 1 ↔
      (markersOf host settings options f).failed = true := by
    intro f hf
    rw [(halone f hf).2.2]
    cases (markersOf host settings options f).failed <;> simp
  have hany : (files.any fun f => (markersOf host settings options f).failed) = true ↔
      ∃ f ∈ files, (listing host options [f]).ending = .exit 1 := by
    rw [List.any_eq_true]
    exact exists_congr fun f => and_congr_right fun hf => (hone f hf).symm
  exact
    { out_alone := fun f hf => (halone f hf).1
      out := hout
      err := by
        rw [herr]
        exact congrArg String.join (List.map_congr_left fun f hf => (halone f hf).2.1.symm)
      exit_one_iff := by
        rw [hending, ← hany]
        split <;> simp_all
      exit_zero := by
        intro hnone
        rw [hending, if_neg (mt hany.1 hnone)]
      exit_one_alone_iff := fun f hf => (hone f hf).trans (failed_iff (h f hf))
      lines_of_unlisted := fun f _ hf => (markersOf_of_unlisted hf).2.2
      lines_of_listed := by
        intro f hf hlisted
        rcases markersOf_cases host settings f with ⟨e, hbreaks⟩ | hunlisted |
          ⟨contents, ts, symbols, htext, hlex, hcollect⟩
        · exact absurd hbreaks (h f hf e)
        · exact absurd hunlisted hlisted
        · exact ⟨contents, htext, (markersOf_of_listed htext hlex hcollect).2.2⟩ }

theorem err_listing_alone (hsettings : Command.settings host options.config = .ok settings)
    (f : String) :
    (listing host options [f]).err = (markersOf host settings options f).err := by
  rw [listing_eq hsettings]
  cases hbroken : (markersOf host settings options f).broken? with
  | none => simp [markersFrom, hbroken]
  | some ending => simp [markersFrom, hbroken]

theorem ending_listing_alone (hsettings : Command.settings host options.config = .ok settings)
    (f : String) (e : LoadError) :
    (listing host options [f]).ending = .opening (.load e) ↔
      (markersOf host settings options f).broken? = some (.opening (.load e)) := by
  rw [listing_eq hsettings]
  cases hbroken : (markersOf host settings options f).broken? with
  | none => simp [markersFrom, hbroken]
  | some ending => simp [markersFrom, hbroken]

/-- A run treats its files independently as long as no file alone breaks off. Otherwise the run goes
    through the files up to the first one that does, and breaks off there as that file alone does:
    there is no number of markers, and of the later files nothing is listed and nothing said. -/
theorem listing_of_each (files : List String)
    (hsettings : Command.settings host options.config = .ok settings) :
    (∀ f e, (listing host options [f]).ending = .opening (.load e) ↔
      Breaks host settings f e) ∧
    ((∀ f ∈ files, ∀ e, ¬ Breaks host settings f e) → ListsEach host settings options files) ∧
    ∀ before f after e, files = before ++ f :: after →
      (∀ g ∈ before, ∀ e, ¬ Breaks host settings g e) → Breaks host settings f e →
      (listing host options files).out =
        String.join (before.flatMap fun g => (markersOf host settings options g).lines) ∧
      (listing host options files).err =
        String.join ((before ++ [f]).map fun g => (listing host options [g]).err) ∧
      (listing host options files).ending = .opening (.load e) := by
  refine ⟨fun f e => (ending_listing_alone hsettings f e).trans broken?_eq_some_iff,
    listsEach hsettings, ?_⟩
  rintro before f after e rfl hbefore hf
  obtain ⟨hout, herr, hending⟩ := @markersFrom_of_broken host settings options before after f _
    (fun g hg => broken?_eq_none_iff.2 (hbefore g hg)) (markersOf_of_breaks hf).1 0 false
  rw [listing_eq hsettings]
  refine ⟨hout, ?_, hending⟩
  rw [herr]
  exact congrArg String.join (List.map_congr_left fun g _ => (err_listing_alone hsettings g).symm)

end ManyFiles

/-- A missing file before one with a marker makes the run fail, and what is printed is what the
    second file alone prints. If the name of the encoding is none that the system takes, then a file
    that is not in UTF-8 breaks the run off: a file before it is listed, a file after it is not. -/
theorem listing_of_each_missing_and_broken :
    let marker := "<?php // TODO: x".toUTF8.toList
    let tree : FileTree := [(["a.php"], some marker), (["c.php"], some [0xFF])]
    let good : Host :=
      { look := tree.look, check := fun _ => .notFound, home := "/", codecs := fun _ => none
        loadYaml := fun _ => .ok (.scalar .null), render := fun _ r => r.event
        paint := fun _ text => text }
    let bad : Host := { good with
      look := FileTree.look ((settingsName :: [], some []) :: tree)
      loadYaml := fun _ =>
        .ok (.mapping [(.text SettingsKey.encoding.name, .scalar (.text "a\x00b"))]) }
    let unusable : LoadError := .unusableName "a\x00b"
    (Command.settings good "" = .ok {} ∧
      (listing good {} ["b.php", "a.php"]).ending = .exit 1 ∧
      (listing good {} ["b.php", "a.php"]).out = (listing good {} ["a.php"]).out) ∧
    (Command.settings bad "" = .ok { encoding := "a\x00b" } ∧
      (listing bad {} ["a.php", "c.php", "a.php"]).ending = .opening (.load unusable) ∧
      (listing bad {} ["a.php", "c.php", "a.php"]).out = "a.php:1  TODO  x\n" ∧
      (listing bad {} ["a.php"]).out = "a.php:1  TODO  x\nFound 1 marker(s).\n") := by
  intro marker tree good bad unusable
  have hgood : Command.settings good "" = .ok {} := by decide +kernel
  have hbad : Command.settings bad "" = .ok { encoding := "a\x00b" } := by decide +kernel
  have hmissing : Unlisted good {} "b.php" := by
    have hlook : good.look (.ofText "b.php") = .missing := by decide +kernel
    exact .unopened (.missing (fun bytes h => nomatch hlook.symm.trans h)
      fun code reason h => nomatch hlook.symm.trans h)
  have hwhole : ∀ f ∈ ["b.php", "a.php"], ∀ e, ¬ Breaks good {} f e := by
    have hall : (["b.php", "a.php"].all fun f => (markersOf good {} {} f).broken?.isNone) = true := by
      decide +kernel
    intro f hf
    exact broken?_eq_none_iff.1 (Option.isNone_iff_eq_none.1 (List.all_eq_true.1 hall f hf))
  have hbreaks : Breaks bad { encoding := "a\x00b" } "c.php" unusable := by
    have hfile : bad.look (.ofText "c.php") = .file [0xFF] := by decide +kernel
    exact .unusable hfile (by decide +kernel) (by decide +kernel)
  have hlines : (markersOf bad { encoding := "a\x00b" } {} "a.php").broken? = none ∧
      (markersOf bad { encoding := "a\x00b" } {} "a.php").lines = ["a.php:1  TODO  x\n"] := by
    decide +kernel
  have hbefore : ∀ g ∈ ["a.php"], ∀ e, ¬ Breaks bad { encoding := "a\x00b" } g e := by
    simpa using broken?_eq_none_iff.1 hlines.1
  have each := (@listing_of_each good {} {} ["b.php", "a.php"] hgood).2.1 hwhole
  have heach := (@listing_of_each bad { encoding := "a\x00b" } {} ["a.php"] hbad).2.1 hbefore
  obtain ⟨hout, -, hending⟩ := (@listing_of_each bad { encoding := "a\x00b" } {}
    ["a.php", "c.php", "a.php"] hbad).2.2 ["a.php"] "c.php" ["a.php"] unusable rfl hbefore hbreaks
  refine ⟨⟨hgood, each.exit_one_iff.2 ⟨"b.php", List.mem_cons_self, ?_⟩, ?_⟩, hbad, hending, ?_, ?_⟩
  · exact (each.exit_one_alone_iff "b.php" List.mem_cons_self).2 hmissing
  · rw [each.out, each.out_alone "a.php" (List.mem_cons_of_mem _ List.mem_cons_self)]
    simp [each.lines_of_unlisted "b.php" List.mem_cons_self hmissing]
  · rw [hout, List.flatMap_cons, hlines.2]
    decide
  · rw [heach.out, List.flatMap_cons, hlines.2]
    decide

end PhpOutline.Command
