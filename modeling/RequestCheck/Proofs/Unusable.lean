import RequestCheck.Proofs.Endings
import RequestCheck.Proofs.ExistingFile
import RequestCheck.Proofs.Failures
import RequestCheck.Proofs.Shapes

/-!
# Files that cannot be used

What a run does about a file that it cannot use depends on what the file is for. Rules and requests
that cannot be read, and a metrics file with another header, are complained about, and the exit
status is 2. A log file or a metrics file that cannot be opened or decoded makes the run fail, which
the command line shows as an exit status of 1 although the engine was asked about nothing; so does any
path that is not handed to the system. A run that ends with the status 1 of its own has had a request
rejected by the engine.

    s.disk.Blocks p q         a directory lies at p, or a file at q, where a directory has to be, or p
                              is not handed to the system
    Complains s m after       the run complains with m, and has neither printed nor asked anything
    Breaks s f after          the run fails with f, and has neither printed nor asked anything
-/

namespace RequestCheck

/-! ## Files -/

/-- No file can be opened at a path: a directory lies there, or a file where its directory has to be,
or the path is not handed to the system. -/
def Disk.Blocks (d : Disk) (path parent : Text) : Prop :=
  d.isDirectory path = .ok true ∨ (∃ content, d.status parent = .ok (some (.file content))) ∨
    path.pathError? ≠ none

/-- There is no text to be read at the path of a rule file. -/
def Rules.Unreadable (d : Disk) (path : Text) : Prop :=
  ∀ octets, d.read (Path.ofText path).toText = .ok octets → ∀ text, Utf8.decode octets ≠ .ok text

namespace Rules

variable {d : Disk} {path : Text} {paths : List Text} {failure : Failure}

/-- A rule file whose path is not handed to the system gives no complaint. -/
theorem readFile_of_pathError? {error : FileError}
    (h : (Path.ofText path).toText.pathError? = some error) :
    readFile d path = .error (.file error) := by
  have hread : d.read (Path.ofText path).toText = .error error := Disk.read_of_pathError? h
  unfold readFile
  rw [hread]
  rcases Text.pathError?_cases h with ⟨encoding, rfl⟩ | rfl
  · rfl
  · rfl

/-- Any other rule file is read, or complained about. -/
theorem readFile_cases (d : Disk) (hpath : (Path.ofText path).toText.pathError? = none) :
    (∃ text, readFile d path = .ok text) ∨
      ∃ why, readFile d path = .error (.configuration (.unreadableRules path why)) := by
  unfold readFile
  cases hread : d.read (Path.ofText path).toText with
  | error error =>
    obtain ⟨why, rfl⟩ := Disk.refused_of_read hpath hread
    exact .inr ⟨_, rfl⟩
  | ok octets =>
    simp only
    cases Utf8.decode octets with
    | error error => exact .inr ⟨_, rfl⟩
    | ok text => exact .inl ⟨_, rfl⟩

/-- There is a text to be read exactly if the rule file is read. -/
theorem not_unreadable_iff : ¬ Unreadable d path ↔ ∃ text, readFile d path = .ok text := by
  unfold Unreadable readFile
  constructor
  · intro h
    push Not at h
    obtain ⟨octets, hread, text, hdecode⟩ := h
    rw [hread]
    simp only [hdecode]
    exact ⟨_, rfl⟩
  · rintro ⟨text, hfile⟩ hnone
    split at hfile
    · cases hfile
    · cases hfile
    · cases hfile
    · next octets hread =>
      split at hfile
      · cases hfile
      · next text hdecode => exact hnone octets hread text hdecode

/-- Reading fails with the first rule file that fails. -/
theorem readFiles_append {before behind : List Text}
    (hbefore : ∀ p ∈ before, ∃ text, readFile d p = .ok text)
    (hpath : readFile d path = .error failure) :
    readFiles d (before ++ path :: behind) = .error failure := by
  induction before with
  | nil => simp only [List.nil_append, readFiles, hpath]
  | cons first before ih =>
    obtain ⟨⟨text, htext⟩, hbefore⟩ := List.forall_mem_cons.mp hbefore
    simp only [List.cons_append, readFiles, htext, ih hbefore]

theorem readFiles_of_unreadable
    (hpaths : ∀ path ∈ paths, (Path.ofText path).toText.pathError? = none)
    (hbad : ∃ path ∈ paths, Unreadable d path) :
    ∃ error, readFiles d paths = .error (.configuration error) := by
  induction paths with
  | nil =>
    obtain ⟨_, hmem, -⟩ := hbad
    cases hmem
  | cons path rest ih =>
    obtain ⟨hpath, hrest⟩ := List.forall_mem_cons.mp hpaths
    rcases readFile_cases d hpath with ⟨text, hread⟩ | ⟨why, hread⟩
    · have hgood : ¬ Unreadable d path := not_unreadable_iff.mpr ⟨text, hread⟩
      have hbad' : ∃ path ∈ rest, Unreadable d path := by
        obtain ⟨path', hmem, hpath'⟩ := hbad
        rcases List.mem_cons.mp hmem with rfl | hmem
        · exact absurd hpath' hgood
        · exact ⟨path', hmem, hpath'⟩
      obtain ⟨error, herror⟩ := ih hrest hbad'
      exact ⟨error, by simp only [readFiles, hread, herror]⟩
    · exact ⟨.unreadableRules path why, by simp only [readFiles, hread]⟩

/-- The missing files are found, if the disk tells of each path whether a file is there. -/
theorem exists_missing {ps : List Path} (h : ∀ p ∈ ps, ∃ there, d.isFile p.toText = .ok there) :
    ∃ others, missing d ps = .ok others := by
  induction ps with
  | nil => exact ⟨[], rfl⟩
  | cons p rest ih =>
    obtain ⟨there, hthere⟩ := h p List.mem_cons_self
    obtain ⟨others, hothers⟩ := ih fun q hq => h q (List.mem_cons_of_mem _ hq)
    refine ⟨if there then others else p :: others, ?_⟩
    rw [missing, hthere]
    simp only [hothers]

/-- If no file is missing, all paths have been handed to the system. -/
theorem pathError?_of_missing {ps : List Path} (h : missing d ps = .ok []) :
    ∀ path ∈ ps.map Path.toText, (Path.ofText path).toText.pathError? = none := by
  intro path hpath
  obtain ⟨p, hp, rfl⟩ := List.mem_map.mp hpath
  obtain ⟨_, _, hlocate, -⟩ := (Disk.isFile_iff d _).mp ((missing_eq_nil_iff d ps).mp h p hp)
  exact Path.pathError?_toText (Disk.pathError?_of_locate hlocate)

end Rules

/-- **Rules that cannot be read** are a configuration error. -/
theorem load_of_unreadable {e : Environment} {o : Options} {d : Disk}
    (hpaths : ∀ paths, o.rules = some paths → ∀ path ∈ paths,
      (Path.ofText path).toText.pathError? = none)
    (hanswers : o.rules = none → ∀ p ∈
      (Rules.Config.ofSetting e.project e.dataDirectory).defaultPaths,
        ∃ there, d.isFile p.toText = .ok there)
    (hbad : ∃ path ∈ e.rulePaths o, Rules.Unreadable d path) :
    ∃ error, e.load o d = .error (.configuration error) := by
  unfold Environment.rulePaths at hbad
  unfold Environment.load Rules.load
  cases hrules : o.rules with
  | some paths =>
    rw [hrules] at hbad
    exact Rules.readFiles_of_unreadable (hpaths paths hrules) hbad
  | none =>
    rw [hrules] at hbad
    obtain ⟨others, hothers⟩ := Rules.exists_missing (hanswers hrules)
    simp only [hothers]
    cases others with
    | nil => exact Rules.readFiles_of_unreadable (Rules.pathError?_of_missing hothers) hbad
    | cons p rest => exact ⟨_, rfl⟩

/-- A rule file is not complained about if its path is not handed to the system. -/
theorem load_of_pathError? {e : Environment} {o : Options} {d : Disk} {before behind : List Text}
    {path : Text} {error : FileError} (hrules : o.rules = some (before ++ path :: behind))
    (hbefore : ∀ p ∈ before, ¬ Rules.Unreadable d p)
    (hpath : (Path.ofText path).toText.pathError? = some error) :
    e.load o d = .error (.file error) := by
  unfold Environment.load Rules.load
  rw [hrules]
  exact Rules.readFiles_append (fun p hp => Rules.not_unreadable_iff.mp (hbefore p hp))
    (Rules.readFile_of_pathError? hpath)

/-- A requests file is not complained about either if its path is not handed to the system. -/
theorem openSource_of_pathError? {path : Text} {error : FileError} (input : Octets) (d : Disk)
    (hdash : path ≠ "-") (h : path.pathError? = some error) :
    openSource (.value path) input d = .error (.file error) := by
  have hread : d.read path = .error error := Disk.read_of_pathError? h
  unfold openSource
  simp only [if_neg hdash, hread]
  rcases Text.pathError?_cases h with ⟨encoding, rfl⟩ | rfl
  · rfl
  · rfl

/-! ## Opening files -/

/-- **A log file** that cannot be opened is an error of the subscription. -/
theorem subscribe_of_blocks (j : Journal) {path : Text} (level : Journal.Level) {d : Disk}
    (hpath : path ≠ [])
    (h : d.Blocks ((Path.ofText path).absolute d.home).toText (Path.ofText path).parent.toText) :
    ∃ error, (j.subscribe (some path) level d).1 = .error error := by
  have hfile : Journal.filePath? (some path) = some (Path.ofText path) := by
    unfold Journal.filePath?
    split
    · next hnone => cases hnone
    · next hnil => exact absurd (Option.some.inj hnil) hpath
    · next hsome => rw [Option.some.inj hsome]
  unfold Journal.subscribe
  rw [hfile]
  simp only [Journal.makeDirectory]
  cases hmade : d.makeParents (Path.ofText path).parent with
  | mk result made =>
    cases result with
    | error error => exact ⟨error, rfl⟩
    | ok =>
      have hkeeps := Disk.keeps_of_makeParents hmade
      rcases h with hdirectory | ⟨content, hparent⟩ | hbad
      · -- the directory is there still when its parents have been made
        have hthere := hkeeps.isDirectory hdirectory
        rw [← hkeeps.home_eq] at hthere
        have hopen : Journal.openFile (Path.ofText path) made =
            .error (.refused .isDirectory ((Path.ofText path).absolute made.home).toText) := by
          unfold Journal.openFile Disk.append
          simp only [Disk.modify_of_directory _ hthere]
        simp only [hopen]
        exact ⟨_, rfl⟩
      · rw [Disk.makeParents_of_file hparent] at hmade
        cases hmade
      · obtain ⟨error, herror⟩ := Option.ne_none_iff_exists'.mp hbad
        rw [← hkeeps.home_eq] at herror
        have hopen : Journal.openFile (Path.ofText path) made = .error error := by
          unfold Journal.openFile Disk.append Disk.modify
          simp only [Disk.locate_of_pathError? herror]
        simp only [hopen]
        exact ⟨_, rfl⟩

/-- No header can be written where the path is not handed to the system. -/
theorem Metrics.ensureHeader_of_pathError? {p : Path} {d : Disk} {error : FileError}
    (h : p.toText.pathError? = some error) :
    (Metrics.ensureHeader p d).1 = .error (.file error) := by
  have hlocate : d.locate p.toText = .error error := Disk.locate_of_pathError? h
  have hstatus : d.status p.toText = .ok none := by
    unfold Disk.status
    rw [hlocate]
    rcases Text.pathError?_cases h with ⟨encoding, rfl⟩ | rfl
    · rfl
    · rfl
  unfold Metrics.ensureHeader Metrics.writeHeader Disk.overwrite Disk.modify
  simp only [hstatus, hlocate]
  rfl

/-- **A metrics file** that cannot be opened is an error of the system. -/
theorem prepare_of_blocks {path : Text} {d : Disk}
    (h : d.Blocks (Path.ofText path).toText (Path.ofText path).parent.toText) :
    ∃ error, (Metrics.prepare path d).1 = .error (.file error) := by
  simp only [Metrics.prepare]
  cases hmade : d.makeParents (Path.ofText path).parent with
  | mk result made =>
    cases result with
    | error error => exact ⟨error, rfl⟩
    | ok =>
      rcases h with hdirectory | ⟨content, hparent⟩ | hbad
      · have hthere := (Disk.keeps_of_makeParents hmade).isDirectory hdirectory
        obtain ⟨location, hlocate, hentry⟩ := (Disk.isDirectory_iff made _).mp hthere
        have hstatus := Disk.status_eq_some_iff.mpr ⟨location, hlocate, hentry⟩
        refine ⟨.refused .isDirectory (Path.ofText path).toText, ?_⟩
        simp only [Metrics.ensureHeader, hstatus]
      · rw [Disk.makeParents_of_file hparent] at hmade
        cases hmade
      · obtain ⟨error, herror⟩ := Option.ne_none_iff_exists'.mp hbad
        have hheader := Metrics.ensureHeader_of_pathError? (d := made) herror
        cases hensured : Metrics.ensureHeader (Path.ofText path) made with
        | mk result disk =>
          rw [hensured] at hheader
          obtain rfl : result = .error (.file error) := hheader
          exact ⟨error, by simp only [hensured]⟩

/-! ## What a run does about them -/

/-- The run complains with a message, and has neither printed nor asked anything. -/
structure Complains (s : Session) (message : Text) (after : Outcome × Session) : Prop where
  outcome_eq : after.1 = .finished 2
  output_eq : after.2.output = s.output
  calls_eq : after.2.calls = s.calls
  console_eq : ∃ before rest, Text.WholeLines before ∧ after.2.console = s.console ++ before ++
    Utf8.showSurrogates (Journal.entry s.now .error message) ++ rest

/-- The run fails, and has neither printed nor asked anything. -/
structure Breaks (s : Session) (failure : Failure) (after : Outcome × Session) : Prop where
  outcome_eq : after.1 = .failed failure
  output_eq : after.2.output = s.output
  calls_eq : after.2.calls = s.calls

section Subscribed

variable {e : Environment} {o : Options} {job : Job} {input : Octets} {s s1 : Session}
  {subscription : Journal.Subscription}

/-- **A configuration error** is complained about. -/
theorem complains_of_perform {error : ConfigurationError}
    (hsubscribe : (s.journal.subscribe o.logFile.text? o.level s.disk).1 = .ok subscription)
    (h : perform e o job input (s.started o) = (.error (.configuration error), s1)) :
    Complains s error.message (runJob e o job input s) := by
  have hprepared := perform_configuration h
  obtain ⟨hlevel, hsink⟩ := started_console hsubscribe
  rw [← hprepared.journal_eq] at hlevel hsink
  obtain ⟨shown, hshown, hconsole⟩ := hprepared.console_lines
  obtain ⟨before, rest, hbefore, herror⟩ :=
    @log_error_console _ _ e.runtime .outside error.message hlevel hsink
  rw [runJob_eq job input hsubscribe, h]
  refine ⟨rfl, hprepared.output_eq, hprepared.calls_eq, shown ++ before, rest,
    hshown.append hbefore, ?_⟩
  show (s1.log e.runtime .outside .error error.message).console = _
  rw [herror, hconsole, hprepared.now_eq]
  show s.console ++ shown ++ before ++ _ ++ rest = _
  rw [List.append_assoc s.console]
  rfl

/-- Rules that cannot be loaded end a job before anything else is done. -/
theorem perform_of_load (job : Job) (input : Octets) {failure : Failure}
    (hload : e.load o s.disk = .error failure) :
    perform e o job input s = (.error failure, s) := by
  rw [perform_stages, hload]

/-- A metrics file that cannot be made ready ends a job once the rules have been loaded. -/
theorem perform_of_prepare (job : Job) (input : Octets) {sources : List Text} {path : Text}
    {failure : Failure} {d : Disk} (hload : e.load o s.disk = .ok sources)
    (hpath : o.metricsPath.text? = some path)
    (hne : path ≠ [])
    (hprepare : Metrics.prepare path (e.equipped o sources s).disk = (.error failure, d)) :
    ∃ s1, perform e o job input s = (.error failure, s1) ∧ s.Prepared s1 := by
  have hopen : openMetrics o.metricsPath.text? (e.equipped o sources s) =
      (.error failure, { e.equipped o sources s with disk := d }) := by
    obtain ⟨c, rest, rfl⟩ := List.exists_cons_of_ne_nil hne
    rw [hpath]
    simp only [openMetrics, hprepare]
  refine ⟨{ e.equipped o sources s with disk := d }, ?_, prepared_of_openMetrics hopen⟩
  rw [perform_stages, hload]
  simp only [hopen]

/-- A requests file that cannot be opened ends a job once the metrics file has been made ready. -/
theorem perform_of_openSource {sources : List Text} {metrics : Option Metrics} {path : Text}
    {failure : Failure} (hload : e.load o s.disk = .ok sources)
    (hmetrics : openMetrics o.metricsPath.text? (e.equipped o sources s) = (.ok metrics, s1))
    (hsource : openSource (.value path) input s1.disk = .error failure) :
    perform e o (.stream (.value path)) input s =
      (.error failure, { s1 with anyFailure := false }) := by
  rw [perform_stages, hload]
  simp only [hmetrics, Checker.answer, hsource]

/-- Any other failure before the first check escapes. -/
theorem breaks_of_perform {failure : Failure} (hescapes : failure.Escapes)
    (hsubscribe : (s.journal.subscribe o.logFile.text? o.level s.disk).1 = .ok subscription)
    (h : perform e o job input (s.started o) = (.error failure, s1))
    (hprepared : (s.started o).Prepared s1) : Breaks s failure (runJob e o job input s) := by
  rw [runJob_eq job input hsubscribe, h]
  simp only [conclude_of_escapes hescapes]
  exact ⟨rfl, hprepared.output_eq, hprepared.calls_eq⟩

/-- **An old metrics file** has a first row that cannot be read, and the run fails, or one that is
read, and if that is not the header the run complains. -/
theorem runJob_of_firstRow {sources : List Text} {path : Text} {content : Octets}
    (hsubscribe : (s.journal.subscribe o.logFile.text? o.level s.disk).1 = .ok subscription)
    (hload : e.load o (s.started o).disk = .ok sources)
    (hpath : o.metricsPath.text? = some path) (hne : path ≠ [])
    (hstatus : (e.equipped o sources (s.started o)).disk.status (Path.ofText path).toText =
      .ok (some (.file content)))
    (hcontent : content ≠ []) :
    match Metrics.firstRow content with
    | .error failure => Breaks s failure (runJob e o job input s)
    | .ok row => row ≠ Metrics.columns →
      Complains s (ConfigurationError.unexpectedHeader (Path.ofText path) row).message
        (runJob e o job input s) := by
  have hprepare := Metrics.prepare_of_content hstatus hcontent
  unfold Metrics.checkHeader at hprepare
  cases hrow : Metrics.firstRow content with
  | error failure =>
    rw [hrow] at hprepare
    obtain ⟨s1, hperform, hprepared⟩ := perform_of_prepare job input hload hpath hne hprepare
    exact breaks_of_perform (Metrics.firstRow_error hrow) hsubscribe hperform hprepared
  | ok row =>
    intro hcolumns
    simp only [hrow, if_neg hcolumns] at hprepare
    obtain ⟨s1, hperform, -⟩ := perform_of_prepare job input hload hpath hne hprepare
    exact complains_of_perform hsubscribe hperform

end Subscribed

/-! ## Rejections -/

/-- Between two sessions the engine was asked, and the mark of a failure goes with its rejections. -/
def Session.Asked (engine : Engine) (s s' : Session) : Prop :=
  ∃ calls, s'.calls = s.calls ++ calls ∧
    (s'.anyFailure = true ↔ s.anyFailure = true ∨ ∃ q ∈ calls, (engine q).Rejects)

theorem Session.Asked.of_eq {engine : Engine} {s s' : Session} (hcalls : s'.calls = s.calls)
    (hany : s'.anyFailure = s.anyFailure) : Asked engine s s' := by
  refine ⟨[], by rw [hcalls, List.append_nil], ?_⟩
  rw [hany]
  constructor
  · intro h
    exact .inl h
  · rintro (h | ⟨q, hq, -⟩)
    · exact h
    · cases hq

/-- Every check is a call, and it is marked if the engine rejects it. -/
theorem Checker.carries_asked (c : Checker) : c.Carries (Session.Asked c.engine) where
  refl := fun s => .of_eq rfl rfl
  trans := by
    rintro s s' s'' ⟨calls, hcalls, hany⟩ ⟨calls', hcalls', hany'⟩
    refine ⟨calls ++ calls', by rw [hcalls', hcalls, List.append_assoc], ?_⟩
    rw [hany', hany]
    simp only [List.mem_append, or_and_right, exists_or, or_assoc]
  ask := by
    intro origin q r s
    refine ⟨[q], c.ask_calls origin q r s, ?_⟩
    rw [c.ask_anyFailure origin q r s, Bool.or_eq_true, Engine.any_failed_verdict?]
    simp only [List.mem_singleton, exists_eq_left]

/-- **The status 1** of a run is due to a request that the engine rejected. -/
theorem rejected_of_finished {e : Environment} {o : Options} {job : Job} {input : Octets}
    {s : Session} {subscription : Journal.Subscription}
    (hsubscribe : (s.journal.subscribe o.logFile.text? o.level s.disk).1 = .ok subscription)
    (h : (runJob e o job input s).1 = .finished 1) :
    ∃ sources calls q, e.load o (s.started o).disk = .ok sources ∧
      (runJob e o job input s).2.calls = s.calls ++ calls ∧ q ∈ calls ∧
      (e.engine o sources q).Rejects := by
  rw [runJob_eq job input hsubscribe] at h ⊢
  cases hperform : perform e o job input (s.started o) with
  | mk result s1 =>
    simp only [hperform] at h ⊢
    cases result with
    | error failure =>
      exfalso
      cases failure <;> simp [conclude, unusableStatus] at h
    | ok =>
      have hmark : s1.anyFailure = true := by
        cases hany : s1.anyFailure with
        | true => rfl
        | false => simp [conclude, Report.exitStatus, hany] at h
      rw [perform_stages] at hperform
      split at hperform
      · cases hperform
      · next sources hload =>
        split at hperform
        · cases hperform
        · next metrics s2 hmetrics =>
          have hprepared := prepared_of_openMetrics hmetrics
          let c : Checker :=
            { engine := e.engine o sources, metrics, runtime := e.runtime }
          have hasked := c.carries_asked.answer (fun s t => .of_eq rfl rfl) o.verbose job input
            { s2 with anyFailure := false }
          rw [hperform] at hasked
          obtain ⟨calls, hcalls, hany⟩ := hasked
          simp only [hprepared.calls_eq] at hcalls
          rcases hany.mp hmark with hbefore | ⟨q, hq, hrejects⟩
          · cases hbefore
          · exact ⟨sources, calls, q, hload, hcalls, hq, hrejects⟩

/-! ## Top theorem -/

/-- **What a run does about files that it cannot use.** A log file that cannot be opened makes the run
fail. Rules that cannot be read are complained about. Once they have been read, a metrics file that
cannot be opened makes the run fail; so does one of which the first row cannot be read, while another
first row than the header is complained about. Then a requests file that cannot be read is complained
about. But a run fails with a named rule file, or with a requests file, of which the path is not handed
to the system. It ends with the status 1 only if the engine rejected a request. -/
theorem run_unusable {e : Environment} {arguments : List Text} {o : Options} {job : Job}
    (hparse : Options.parse arguments = .ok o) (hjob : o.job = .ok job) (input : Octets)
    (s : Session) :
    let after := run e arguments input s
    let d := (s.started o).disk
    (∀ path, o.logFile.text? = some path → path ≠ [] →
        s.disk.Blocks ((Path.ofText path).absolute s.disk.home).toText
          (Path.ofText path).parent.toText →
        ∃ error, Breaks s (.file error) after) ∧
      ∀ subscription, (s.journal.subscribe o.logFile.text? o.level s.disk).1 = .ok subscription →
        ((∀ paths, o.rules = some paths → ∀ path ∈ paths,
            (Path.ofText path).toText.pathError? = none) →
          (o.rules = none → ∀ p ∈ (Rules.Config.ofSetting e.project e.dataDirectory).defaultPaths,
            ∃ there, d.isFile p.toText = .ok there) →
          (∃ path ∈ e.rulePaths o, Rules.Unreadable d path) →
          ∃ error : ConfigurationError, Complains s error.message after) ∧
        (∀ before path behind error, o.rules = some (before ++ path :: behind) →
          (∀ p ∈ before, ¬ Rules.Unreadable d p) →
          (Path.ofText path).toText.pathError? = some error → Breaks s (.file error) after) ∧
        (∀ sources, e.load o d = .ok sources →
          let d1 := (e.equipped o sources (s.started o)).disk
          (∀ path, o.metricsPath.text? = some path → path ≠ [] →
            (d1.Blocks (Path.ofText path).toText (Path.ofText path).parent.toText →
              ∃ error, Breaks s (.file error) after) ∧
            ∀ content, d1.status (Path.ofText path).toText = .ok (some (.file content)) →
              content ≠ [] →
              match Metrics.firstRow content with
              | .error failure => Breaks s failure after
              | .ok row => row ≠ Metrics.columns →
                Complains s (ConfigurationError.unexpectedHeader (Path.ofText path) row).message
                  after) ∧
          ∀ metrics s1, openMetrics o.metricsPath.text? (e.equipped o sources (s.started o)) =
              (.ok metrics, s1) →
            ∀ path, job = .stream (.value path) → path ≠ "-" →
              (∀ why at', s1.disk.read path = .error (.refused why at') →
                Complains s (ConfigurationError.unreadableRequests path (.refused why at')).message
                  after) ∧
              ∀ error, path.pathError? = some error → Breaks s (.file error) after) ∧
        (after.1 = .finished 1 →
          ∃ sources calls q, e.load o d = .ok sources ∧ after.2.calls = s.calls ++ calls ∧
            q ∈ calls ∧ (e.engine o sources q).Rejects) := by
  intro after d
  have hafter : after = runJob e o job input s := run_eq_runJob hparse hjob input s
  clear_value after
  subst hafter
  refine ⟨?_, fun subscription hsubscribe => ⟨?_, ?_, ?_, ?_⟩⟩
  · intro path hpath hne hblocks
    obtain ⟨error, herror⟩ := subscribe_of_blocks s.journal o.level hne hblocks
    rw [← hpath] at herror
    refine ⟨error, ?_⟩
    rw [runJob_of_unsubscribed job input herror]
    exact ⟨rfl, rfl, rfl⟩
  · intro hpaths hanswers hbad
    obtain ⟨error, hload⟩ := load_of_unreadable hpaths hanswers hbad
    exact ⟨error, complains_of_perform hsubscribe (perform_of_load job input hload)⟩
  · intro before path behind error hrules hbefore hpath
    have hload : e.load o (s.started o).disk = .error (.file error) :=
      load_of_pathError? hrules hbefore hpath
    exact breaks_of_perform trivial hsubscribe (perform_of_load job input hload)
      (Session.Prepared.refl _)
  · intro sources hload d1
    constructor
    · intro path hpath hne
      constructor
      · intro hblocks
        obtain ⟨error, herror⟩ := prepare_of_blocks hblocks
        obtain ⟨s1, hperform, hprepared⟩ := perform_of_prepare job input hload
          hpath hne (Prod.ext herror rfl)
        exact ⟨error, breaks_of_perform trivial hsubscribe hperform hprepared⟩
      · intro content hstatus hcontent
        exact runJob_of_firstRow hsubscribe hload hpath hne hstatus hcontent
    · intro metrics s1 hmetrics path hstream hdash
      subst hstream
      constructor
      · intro why at' hread
        have hsource : openSource (.value path) input s1.disk =
            .error (.configuration (.unreadableRequests path (.refused why at'))) := by
          unfold openSource
          simp only [if_neg hdash, hread]
        exact complains_of_perform hsubscribe (perform_of_openSource hload hmetrics hsource)
      · intro error hpath
        have hsource := openSource_of_pathError? input s1.disk hdash hpath
        have hprepared := prepared_of_openMetrics hmetrics
        exact breaks_of_perform trivial hsubscribe (perform_of_openSource hload hmetrics hsource)
          { hprepared with }
  · intro hone
    exact rejected_of_finished hsubscribe hone

/-- A log file where a directory lies, and a rule file that is not UTF-8. -/
theorem run_unusable_log_and_rules :
    let e : Environment := { project := .ofText "/", matcher := fun _ _ => .answered {} }
    let s : Session := { disk := { entries := [(["d"], .directory), (["r.txt"], .file [0xFF])] } }
    (∃ o job, Options.parse ["--rules", "--log-file", "d"] = .ok o ∧ o.job = .ok job ∧
        ∃ error, Breaks s (.file error) (run e ["--rules", "--log-file", "d"] [] s)) ∧
      ∃ o job, Options.parse ["--rules", "r.txt"] = .ok o ∧ o.job = .ok job ∧
        ∃ error : ConfigurationError,
          Complains s error.message (run e ["--rules", "r.txt"] [] s) := by
  intro e s
  have hlog : Options.parse ["--rules", "--log-file", "d"] =
      .ok { rules := some [], logFile := .value "d" } := by decide +kernel
  have hrules : Options.parse ["--rules", "r.txt"] = .ok { rules := some ["r.txt"] } := by
    decide +kernel
  refine ⟨⟨_, .stream .absent, hlog, rfl, ?_⟩, _, .stream .absent, hrules, rfl, ?_⟩
  · obtain ⟨hblocked, -⟩ := run_unusable (e := e) hlog rfl [] s
    exact hblocked "d" rfl (by decide) (.inl (by decide +kernel))
  · obtain ⟨-, hsubscribed⟩ := run_unusable (e := e) hrules rfl [] s
    obtain ⟨hunreadable, -⟩ := hsubscribed _ rfl
    apply hunreadable
    · intro paths hpaths path hpath
      obtain rfl := Option.some.inj hpaths
      obtain rfl := List.mem_singleton.mp hpath
      decide +kernel
    · intro hnone
      cases hnone
    · refine ⟨"r.txt", List.mem_singleton.mpr rfl, fun octets hread text htext => ?_⟩
      have hcontent : (s.started { rules := some ["r.txt"] }).disk.read
          (Path.ofText "r.txt").toText = .ok [0xFF] := by decide +kernel
      rw [hcontent] at hread
      cases hread
      cases htext

/-- The log file and the metrics file may lie where a directory does, and the metrics file may not be
UTF-8: the arguments are in order, the exit status is 1, and the engine was asked about nothing. -/
theorem run_of_directories :
    let e : Environment := { project := .ofText "/", matcher := fun _ _ => .answered {} }
    let s : Session := { disk := { entries := [(["d"], .directory), (["m.csv"], .file [0xFF])] } }
    ∀ arguments ∈ ([["--rules", "--log-file", "d"], ["--rules", "--metrics-path", "d"],
        ["--rules", "--metrics-path", "m.csv"]] : List (List Text)),
      ¬ Misused arguments ∧ (run e arguments [] s).1.status = 1 ∧
        (∀ status, (run e arguments [] s).1 ≠ .finished status) ∧
        (run e arguments [] s).2.calls = [] := by
  intro e s
  have key : ∀ (arguments : List Text) (failure : Failure),
      failure? e arguments [] s = some failure → failure.Escapes →
      ¬ Misused arguments ∧ (run e arguments [] s).1.status = 1 ∧
        ∀ status, (run e arguments [] s).1 ≠ .finished status := by
    intro arguments failure hfailure hescapes
    have houtcome := @outcome_of_failure? e arguments [] s
    rw [hfailure] at houtcome
    have hfailed := houtcome.1 hescapes
    refine ⟨fun hmisused => ?_, by rw [hfailed]; rfl, fun status => by rw [hfailed]; simp⟩
    obtain ⟨error, hstopped⟩ := (@stopped_iff_misused e arguments [] s).mpr hmisused
    rw [hfailed] at hstopped
    cases hstopped
  intro arguments harguments
  simp only [List.mem_cons, List.not_mem_nil, or_false] at harguments
  rcases harguments with rfl | rfl | rfl
  · obtain ⟨hfit, hstatus, hfinished⟩ := key ["--rules", "--log-file", "d"]
      (.file (.refused .isDirectory "/d")) (by decide +kernel) trivial
    exact ⟨hfit, hstatus, hfinished, by decide +kernel⟩
  · obtain ⟨hfit, hstatus, hfinished⟩ := key ["--rules", "--metrics-path", "d"]
      (.file (.refused .isDirectory "d")) (by decide +kernel) trivial
    exact ⟨hfit, hstatus, hfinished, by decide +kernel⟩
  · obtain ⟨hfit, hstatus, hfinished⟩ := key ["--rules", "--metrics-path", "m.csv"]
      (.undecodable { position := 0, part := [0xFF], fault := .badStart }) (by decide +kernel) trivial
    exact ⟨hfit, hstatus, hfinished, by decide +kernel⟩

end RequestCheck
