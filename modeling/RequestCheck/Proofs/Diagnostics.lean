import RequestCheck.Proofs.Endings
import RequestCheck.Proofs.ExistingFile
import RequestCheck.Proofs.Failures

/-!
# Diagnostics have no part in the answers

Two runs whose options differ only in what the journal shows and in where messages and metrics go
come to the same exit status, output and calls, if both of them end with an exit status. A check that
comes to a verdict comes to that of the engine, whatever is logged or recorded next to it; what a
check fails with otherwise escapes, and then the run has no exit status. The rules are read alike,
since the log file is none of them.

    s.Alike s'                 the same output, calls and mark of a failure
    Settles result             the result is no failure that escapes
    drainAfter_alike           one stream, two checkers with the same engine
    DiagnosticsAside e o s     log file, metrics file and rules lie apart
    perform_alike              one job, two preparations
-/

namespace RequestCheck

/-! ## Streams -/

/-- Two sessions have the same output, the same calls and the same mark of a failure. -/
structure Session.Alike (s s' : Session) : Prop where
  output_eq : s'.output = s.output
  calls_eq : s'.calls = s.calls
  anyFailure_eq : s'.anyFailure = s.anyFailure

theorem Session.Alike.print {s s' : Session} (h : s.Alike s') (t : Text) :
    (s.print t).Alike (s'.print t) where
  output_eq := congrArg (· ++ t) h.output_eq
  calls_eq := h.calls_eq
  anyFailure_eq := h.anyFailure_eq

/-- What comes of a line is no failure that escapes. -/
def LineOutcome.Settles : LineOutcome → Prop
  | .failed failure => ¬ failure.Escapes
  | _ => True

namespace Checker

theorem ask_output (c : Checker) (origin : Origin) (q : Engine.Query) (r : Request) (s : Session) :
    (c.ask origin q r s).2.output = s.output := by
  -- a check cannot change what it does not look at
  have hsame : s.mapAside (fun _ => s.output) id = s := rfl
  have key := congrArg Prod.snd (ask_mapAside (fun _ => s.output) id c s origin q r)
  rw [hsame] at key
  rw [key]
  rfl

/-- Two checkers have the same engine and give up lines that are nested alike. -/
structure Alike (c c' : Checker) : Prop where
  engine_eq : c'.engine = c.engine
  nesting_eq : c'.runtime.nesting = c.runtime.nesting

variable {c c' : Checker} {s s' : Session}

/-- **One check** by each of two checkers that are alike. -/
theorem ask_alike (hc : c.Alike c') (h : s.Alike s') (origin : Origin) (q : Engine.Query)
    (r : Request) : (c.ask origin q r s).2.Alike (c'.ask origin q r s').2 where
  output_eq := by rw [ask_output, ask_output, h.output_eq]
  calls_eq := by rw [ask_calls, ask_calls, h.calls_eq]
  anyFailure_eq := by rw [ask_anyFailure, ask_anyFailure, h.anyFailure_eq, hc.engine_eq]

/-- Two checks that come to a verdict come to the same one. -/
theorem ask_ok_eq (hc : c.Alike c') {origin : Origin} {q : Engine.Query} {r : Request}
    {v v' : Verdict} (hask : (c.ask origin q r s).1 = .ok v)
    (hask' : (c'.ask origin q r s').1 = .ok v') : v' = v := by
  have hv := verdict?_of_ask hask
  have hv' := verdict?_of_ask hask'
  rw [hc.engine_eq, hv] at hv'
  exact (Option.some.inj hv').symm

theorem feed_alike (hc : c.Alike c') (h : s.Alike s') (number : Nat)
    (line : Line) : (c.feed number line s).2.Alike (c'.feed number line s').2 := by
  rw [feed_session, feed_session, hc.nesting_eq]
  cases line.request? c.runtime.nesting with
  | none => exact h
  | some r => exact ask_alike hc h .stream r.query r

theorem feed_eq_of_settles (hc : c.Alike c') {number : Nat} {line : Line}
    (hsettles : (c.feed number line s).1.Settles) (hsettles' : (c'.feed number line s').1.Settles) :
    (c'.feed number line s').1 = (c.feed number line s).1 := by
  rw [feed_eq] at hsettles hsettles' ⊢
  rw [feed_eq]
  rw [hc.nesting_eq] at hsettles' ⊢
  cases hfault : line.fault? c.runtime.nesting number with
  | some failure => rfl
  | none =>
    cases hr : line.request? c.runtime.nesting with
    | none => rfl
    | some r =>
      simp only [hfault, hr, check] at hsettles hsettles' ⊢
      cases hask : c.ask .stream r.query r s with
      | mk result s1 =>
        cases hask' : c'.ask .stream r.query r s' with
        | mk result' s1' =>
          rw [hask] at hsettles
          rw [hask'] at hsettles'
          cases result with
          | error failure => exact absurd (ask_error (congrArg Prod.fst hask)) hsettles
          | ok v =>
            cases result' with
            | error failure => exact absurd (ask_error (congrArg Prod.fst hask')) hsettles'
            | ok v' =>
              simp only
              rw [ask_ok_eq hc (congrArg Prod.fst hask) (congrArg Prod.fst hask')]

/-- **All lines** of a stream, drained by each of the two, give the same answers. -/
theorem drainAfter_alike (hc : c.Alike c') (h : s.Alike s') (taken : Nat)
    (lines : List Line)
    (hsettles : ∀ failure ∈ (c.drainAfter taken s lines).2.1, ¬ failure.Escapes)
    (hsettles' : ∀ failure ∈ (c'.drainAfter taken s' lines).2.1, ¬ failure.Escapes) :
    (c'.drainAfter taken s' lines).1 = (c.drainAfter taken s lines).1 ∧
      (c'.drainAfter taken s' lines).2.1 = (c.drainAfter taken s lines).2.1 ∧
      (c.drainAfter taken s lines).2.2.2.Alike (c'.drainAfter taken s' lines).2.2.2 := by
  induction lines generalizing taken s s' with
  | nil => exact ⟨rfl, rfl, h⟩
  | cons line lines ih =>
    have halike := feed_alike hc h (taken + 1) line
    have hfeed := @feed_eq_of_settles c c' s s' hc (taken + 1) line
    simp only [drainAfter] at hsettles hsettles' ⊢
    cases hf : c.feed (taken + 1) line s with
    | mk outcome s1 =>
      cases hf' : c'.feed (taken + 1) line s' with
      | mk outcome' s1' =>
        rw [hf] at halike hfeed hsettles
        rw [hf'] at halike hfeed hsettles'
        have hsame : outcome' = outcome := by
          apply hfeed
          · cases outcome with
            | failed failure => exact hsettles failure rfl
            | _ => trivial
          · cases outcome' with
            | failed failure => exact hsettles' failure rfl
            | _ => trivial
        subst hsame
        cases outcome' with
        | blank => exact ih halike (taken + 1) hsettles hsettles'
        | failed failure => exact ⟨rfl, rfl, halike⟩
        | answered r v =>
          obtain ⟨hitems, hending, hrest⟩ := ih halike (taken + 1) hsettles hsettles'
          exact ⟨congrArg ((r, v) :: ·) hitems, hending, hrest⟩

/-! ## Answers -/

def Settles (result : Except Failure Unit) : Prop :=
  ∀ failure, result = .error failure → ¬ failure.Escapes

/-- The answer to a single draft. -/
theorem answerDraft_alike (hc : c.Alike c') (h : s.Alike s') (detailed : Bool)
    {draft : Draft} (hsettles : Settles (c.answerDraft detailed draft s).1)
    (hsettles' : Settles (c'.answerDraft detailed draft s').1) :
    (c'.answerDraft detailed draft s').1 = (c.answerDraft detailed draft s).1 ∧
      (c.answerDraft detailed draft s).2.Alike (c'.answerDraft detailed draft s').2 := by
  unfold answerDraft checkDraft at hsettles hsettles' ⊢
  cases htype : draft.type with
  | none => exact ⟨rfl, h⟩
  | some type =>
    simp only [htype] at hsettles hsettles' ⊢
    have halike := ask_alike hc h .request (draft.query type) (draft.shown type)
    cases hask : c.ask .request (draft.query type) (draft.shown type) s with
    | mk result s1 =>
      cases hask' : c'.ask .request (draft.query type) (draft.shown type) s' with
      | mk result' s1' =>
        rw [hask] at halike hsettles
        rw [hask'] at halike hsettles'
        cases result with
        | error failure => exact absurd (ask_error (congrArg Prod.fst hask)) (hsettles failure rfl)
        | ok v =>
          cases result' with
          | error failure =>
            exact absurd (ask_error (congrArg Prod.fst hask')) (hsettles' failure rfl)
          | ok v' =>
            obtain rfl := ask_ok_eq hc (congrArg Prod.fst hask) (congrArg Prod.fst hask')
            exact ⟨rfl, halike.print _⟩

/-- The standard input does not grow. -/
theorem answerSource_input (c : Checker) (detailed : Bool) (input : Octets) (s : Session) :
    c.answerSource detailed { ahead := input } s =
      match c.drainAfter 0 s ((octetLines input).map .octets) with
      | (items, ending, _, s') =>
        (ending.elim (.ok ()) .error, s'.print (Report.text detailed (items.map (·.2)))) :=
  answerSource_eq c s detailed { ahead := input } fun _ => rfl

/-- The answer to the standard input. -/
theorem answerSource_alike (hc : c.Alike c') (h : s.Alike s') (detailed : Bool)
    {input : Octets} (hsettles : Settles (c.answerSource detailed { ahead := input } s).1)
    (hsettles' : Settles (c'.answerSource detailed { ahead := input } s').1) :
    (c'.answerSource detailed { ahead := input } s').1 =
        (c.answerSource detailed { ahead := input } s).1 ∧
      (c.answerSource detailed { ahead := input } s).2.Alike
        (c'.answerSource detailed { ahead := input } s').2 := by
  rw [answerSource_input] at hsettles hsettles' ⊢
  rw [answerSource_input]
  have hdrain := drainAfter_alike hc h 0 ((octetLines input).map .octets)
  cases hd : c.drainAfter 0 s ((octetLines input).map .octets) with
  | mk items rest =>
    obtain ⟨ending, g, s1⟩ := rest
    cases hd' : c'.drainAfter 0 s' ((octetLines input).map .octets) with
    | mk items' rest' =>
      obtain ⟨ending', g', s1'⟩ := rest'
      rw [hd] at hdrain hsettles
      rw [hd'] at hdrain hsettles'
      obtain ⟨rfl, rfl, halike⟩ := hdrain
        (by rintro failure rfl; exact hsettles failure rfl)
        (by rintro failure rfl; exact hsettles' failure rfl)
      exact ⟨rfl, halike.print _⟩

/-- **One answer** by each of the two, to a single request or to the standard input. -/
theorem answer_alike (hc : c.Alike c') (h : s.Alike s') (detailed : Bool) {job : Job}
    (hjob : ∀ path, job = .stream (.value path) → path = "-") {input : Octets}
    (hsettles : Settles (c.answer detailed job input s).1)
    (hsettles' : Settles (c'.answer detailed job input s').1) :
    (c'.answer detailed job input s').1 = (c.answer detailed job input s).1 ∧
      (c.answer detailed job input s).2.Alike (c'.answer detailed job input s').2 := by
  cases job with
  | single draft => exact answerDraft_alike hc h detailed hsettles hsettles'
  | stream requests =>
    cases requests with
    | absent => exact answerSource_alike hc h detailed hsettles hsettles'
    | blank => exact ⟨rfl, h⟩
    | value path =>
      obtain rfl := hjob path rfl
      exact answerSource_alike hc h detailed hsettles hsettles'

end Checker

/-! ## Rules -/

namespace Rules

variable {W : Location → Prop} {d d' : Disk}

theorem readFile_of_keeps (h : Disk.Keeps W d d') {path text : Text}
    (hapart : ∀ location, d.locate (Path.ofText path).toText = .ok location → ¬ W location)
    (hread : readFile d path = .ok text) : readFile d' path = .ok text := by
  unfold readFile at hread ⊢
  cases hcontent : d.read (Path.ofText path).toText with
  | error error =>
    rw [hcontent] at hread
    cases error <;> cases hread
  | ok content =>
    obtain ⟨location, hlocate, -⟩ := locate_of_read hcontent
    rw [h.read hlocate (hapart location hlocate) hcontent]
    rw [hcontent] at hread
    exact hread

theorem readFiles_of_keeps (h : Disk.Keeps W d d') {paths texts : List Text}
    (hapart : ∀ path ∈ paths, ∀ location,
      d.locate (Path.ofText path).toText = .ok location → ¬ W location)
    (hread : readFiles d paths = .ok texts) : readFiles d' paths = .ok texts := by
  induction paths generalizing texts with
  | nil => exact hread
  | cons path rest ih =>
    rw [readFiles] at hread ⊢
    split at hread
    · cases hread
    · next text hfirst =>
      rw [readFile_of_keeps h (hapart path List.mem_cons_self) hfirst]
      split at hread
      · cases hread
      · next others hothers =>
        simp only [ih (fun path hpath => hapart path (List.mem_cons_of_mem _ hpath)) hothers]
        exact hread

end Rules

/-- None of the rule files lies where something may be written. -/
def RulesApart (e : Environment) (o : Options) (W : Location → Prop) (d : Disk) : Prop :=
  ∀ path ∈ e.rulePaths o, ∀ shown ∈ [path, (Path.ofText path).toText], ∀ location,
    d.locate shown = .ok location → ¬ W location

/-- **Rules** that are not written to are read as before. -/
theorem load_of_keeps {e : Environment} {o : Options} {W : Location → Prop} {d d' : Disk}
    {sources : List Text} (h : Disk.Keeps W d d') (hapart : RulesApart e o W d)
    (hload : e.load o d = .ok sources) : e.load o d' = .ok sources := by
  unfold RulesApart Environment.rulePaths at hapart
  unfold Environment.load Rules.load at hload ⊢
  cases hrules : o.rules with
  | some paths =>
    rw [hrules] at hapart hload
    refine Rules.readFiles_of_keeps h (fun path hpath location => ?_) hload
    exact hapart path hpath _ (by simp) location
  | none =>
    rw [hrules] at hapart hload
    simp only at hload ⊢
    split at hload
    · cases hload
    · next hmissing =>
      have hthere : Rules.missing d'
          (Rules.Config.ofSetting e.project e.dataDirectory).defaultPaths = .ok [] := by
        rw [Rules.missing_eq_nil_iff] at hmissing ⊢
        intro p hp
        obtain ⟨location, content, hlocate, hentry⟩ := (Disk.isFile_iff d _).mp (hmissing p hp)
        have hnot := hapart p.toText (List.mem_map.mpr ⟨p, hp, rfl⟩) p.toText (by simp) location
          hlocate
        refine (Disk.isFile_iff d' _).mpr ⟨location, content, h.locate hlocate, ?_⟩
        rw [h.entry_eq location hnot, hentry]
      rw [hthere]
      refine Rules.readFiles_of_keeps h (fun path hpath location => ?_) hload
      exact hapart path hpath _ (by simp) location
    · cases hload

theorem RulesApart.of_agrees {e : Environment} {o : Options} {W : Location → Prop} {d d' : Disk}
    (h : Disk.Agrees W d d') (hapart : RulesApart e o W d) : RulesApart e o W d' :=
  fun path hpath shown hshown location hlocate =>
    hapart path hpath shown hshown location (h.locate_iff.mp hlocate)

theorem load_iff_of_agrees {e : Environment} {o : Options} {W : Location → Prop} {d d' : Disk}
    (h : Disk.Agrees W d d') (hapart : RulesApart e o W d) (sources : List Text) :
    e.load o d' = .ok sources ↔ e.load o d = .ok sources :=
  ⟨load_of_keeps h.back (hapart.of_agrees h), load_of_keeps h.forth hapart⟩

/-! ## The log file -/

/-- **Subscribing** changes no more than the log file, if its directory is there. -/
theorem subscribe_agrees {j j' : Journal} {path : Option Text} {level : Journal.Level} {d d' : Disk}
    {subscription : Journal.Subscription}
    (hdirectory : ∀ p, Journal.filePath? path = some p → d.isDirectory p.parent.toText = .ok true)
    (h : j.subscribe path level d = (.ok subscription, j', d')) :
    Disk.Agrees j'.Writes d d' := by
  unfold Journal.subscribe at h
  cases hpath : Journal.filePath? path with
  | none =>
    rw [hpath] at h
    cases h
    exact Disk.Agrees.refl _
  | some p =>
    rw [hpath] at h
    simp only [Journal.makeDirectory, Disk.makeParents_of_isDirectory (hdirectory p hpath)] at h
    split at h
    · cases h
    · next location opened hopen =>
      cases h
      unfold Journal.openFile at hopen
      simp only at hopen
      split at hopen
      · cases hopen
      · next hopened =>
        split at hopen
        · cases hopen
        · next location' hlocate =>
          cases hopen
          obtain ⟨at', hat, hagrees⟩ := Disk.modify_agrees hopened
          have hbefore := hagrees.locate_iff.mp hlocate
          obtain rfl : at' = location := Except.ok.inj (hat.symm.trans hbefore)
          apply hagrees.mono
          rintro _ rfl
          exact ⟨_, List.mem_append_right _ (List.mem_cons_of_mem _ List.mem_cons_self), rfl⟩

theorem log_agrees (s : Session) (k : Runtime) (origin : Origin) (level : Journal.Level)
    (message : Text) :
    Disk.Agrees s.journal.Writes s.disk (s.log k origin level message).disk := by
  apply Journal.write_relates Disk.Agrees.refl Disk.Agrees.trans
  intro location octets d hwrites
  exact Journal.extend_agrees hwrites d octets

theorem equipped_agrees (e : Environment) (o : Options) (sources : List Text) (s : Session) :
    Disk.Agrees s.journal.Writes s.disk (e.equipped o sources s).disk := by
  show Disk.Agrees s.journal.Writes s.disk (announce e.runtime sources s).disk
  unfold announce
  split
  · have hwarned := log_agrees s e.runtime .outside .warning
      "No filter rules loaded; no request will match"
    exact hwarned.trans (log_agrees (s.log e.runtime .outside .warning _) e.runtime .outside .debug _)
  · exact log_agrees s e.runtime .outside .debug _

/-! ## The metrics file -/

namespace Metrics

/-- The first of all rows is the row that is checked, if no field is too long. -/
theorem firstRow_of_rows {octets : Octets} {t : Text} {row : Csv.Row}
    (hdecode : Utf8.decode octets = .ok t) (hhead : (Csv.rows t).head? = some row) :
    firstRow octets = .ok row ∨ firstRow octets = .error .fieldTooLong := by
  have key := Csv.head_rowsAfter {} t.lines
  rw [show Csv.rowsAfter {} t.lines = Csv.rows t from rfl, hhead] at key
  unfold firstRow
  rw [Utf8.decodeChunks_of_decode chunkSize hdecode]
  simp only [Option.isNone_none, if_true]
  cases hfirst : Csv.firstRow {} t.lines with
  | complete row' =>
    rw [hfirst] at key
    exact .inl (congrArg Except.ok (Option.some.inj key).symm)
  | fieldTooLong => exact .inr rfl
  | unfinished reader =>
    rw [hfirst] at key
    left
    simp only [← key, Option.getD_some]

/-- A file begins with the header row, if there is anything in it. -/
def BeginsWithHeader (octets : Octets) : Prop :=
  octets = [] ∨ ∃ t, Utf8.decode octets = .ok t ∧ (Csv.rows t).head? = some columns

theorem beginsWithHeader_headerOctets : BeginsWithHeader headerOctets :=
  .inr ⟨Csv.writeRow columns, by decide +kernel, by decide +kernel⟩

theorem writeHeader_error {p : Path} {d : Disk} {failure : Failure}
    (h : (writeHeader p d).1 = .error failure) : failure.Escapes := by
  unfold writeHeader at h
  split at h
  · cases h; trivial
  · split at h
    · cases h; trivial
    · cases h

/-- **A metrics file** that begins with the header, or is not there, is made ready, or the failure
escapes. -/
theorem prepare_error {path : Text} {d : Disk} {failure : Failure}
    (hdirectory : d.isDirectory (Path.ofText path).parent.toText = .ok true)
    (hheader : ∀ octets, d.status (Path.ofText path).toText = .ok (some (.file octets)) →
      BeginsWithHeader octets)
    (h : (Metrics.prepare path d).1 = .error failure) : failure.Escapes := by
  simp only [Metrics.prepare, Disk.makeParents_of_isDirectory hdirectory] at h
  have hensure : (ensureHeader (Path.ofText path) d).1 = .error failure := by
    split at h
    · next heq =>
      obtain rfl := Except.error.inj h
      rw [heq]
    · cases h
  unfold ensureHeader at hensure
  split at hensure
  · cases hensure; trivial
  · exact writeHeader_error hensure
  · exact writeHeader_error hensure
  · next octets hne hstatus =>
    unfold checkHeader at hensure
    rcases hheader octets hstatus with rfl | ⟨t, hdecode, hhead⟩
    · exact absurd rfl hne
    · rcases firstRow_of_rows hdecode hhead with hrow | hrow
      · simp only [hrow, if_true] at hensure
        cases hensure
      · simp only [hrow] at hensure
        cases hensure
        trivial
  · exact writeHeader_error hensure
  · cases hensure; trivial

end Metrics

/-- The log file and the metrics file of a run lie in directories that are there, apart from each
other and from the rules, and a metrics file that is there begins with the header. -/
structure DiagnosticsAside (e : Environment) (o : Options) (s : Session) : Prop where
  log_directory : ∀ p, Journal.filePath? o.logFile.text? = some p →
    s.disk.isDirectory p.parent.toText = .ok true
  rules_apart : RulesApart e o (s.started o).journal.Writes s.disk
  metrics_directory : ∀ path, o.metricsPath.text? = some path → path ≠ [] →
    s.disk.isDirectory (Path.ofText path).parent.toText = .ok true
  metrics_apart : ∀ path location, o.metricsPath.text? = some path → path ≠ [] →
    s.disk.locate (Path.ofText path).toText = .ok location →
    ¬ (s.started o).journal.Writes location
  metrics_header : ∀ path octets, o.metricsPath.text? = some path → path ≠ [] →
    s.disk.status (Path.ofText path).toText = .ok (some (.file octets)) →
    Metrics.BeginsWithHeader octets

theorem started_agrees {e : Environment} {o : Options} {s : Session} (h : DiagnosticsAside e o s)
    {subscription : Journal.Subscription}
    (hsubscribe : (s.journal.subscribe o.logFile.text? o.level s.disk).1 = .ok subscription) :
    Disk.Agrees (s.started o).journal.Writes s.disk (s.started o).disk := by
  unfold Session.started
  cases hsubscribed : s.journal.subscribe o.logFile.text? o.level s.disk with
  | mk result rest =>
    obtain ⟨journal, disk⟩ := rest
    rw [hsubscribed] at hsubscribe
    obtain rfl : result = .ok subscription := hsubscribe
    exact subscribe_agrees h.log_directory hsubscribed

/-- **The metrics file** is made ready, or the failure escapes. -/
theorem openMetrics_error {e : Environment} {o : Options} {s : Session}
    (h : DiagnosticsAside e o s) {subscription : Journal.Subscription}
    (hsubscribe : (s.journal.subscribe o.logFile.text? o.level s.disk).1 = .ok subscription)
    {sources : List Text} {failure : Failure}
    (herror : (openMetrics o.metricsPath.text? (e.equipped o sources (s.started o))).1 =
      .error failure) : failure.Escapes := by
  have hagrees := (started_agrees h hsubscribe).trans (equipped_agrees e o sources (s.started o))
  unfold openMetrics at herror
  split at herror
  · cases herror
  · cases herror
  · next path hne hpath =>
    have hnonempty : path ≠ [] := hne
    have hprepare : (Metrics.prepare path (e.equipped o sources (s.started o)).disk).1 =
        .error failure := by
      split at herror
      · next heq =>
        obtain rfl := Except.error.inj herror
        rw [heq]
      · cases herror
    refine Metrics.prepare_error (hagrees.forth.isDirectory
      (h.metrics_directory path hpath hnonempty)) (fun octets hstatus => ?_) hprepare
    obtain ⟨location, hlocate, hentry⟩ := Disk.status_eq_some_iff.mp hstatus
    have hbefore := hagrees.locate_iff.mp hlocate
    apply h.metrics_header path octets hpath hnonempty
    rw [Disk.status_eq_some_iff]
    refine ⟨location, hbefore, ?_⟩
    rw [← hagrees.forth.entry_eq location (h.metrics_apart path location hpath hnonempty hbefore)]
    exact hentry

/-! ## Runs -/

/-- Two preparations up to the metrics file. -/
theorem openMetrics_alike {e : Environment} {o o' : Options} {sources sources' : List Text}
    {path path' : Option Text} {s s' s1 s1' : Session}
    {made made' : Except Failure (Option Metrics)} (h : s.Alike s')
    (hopen : openMetrics path (e.equipped o sources s) = (made, s1))
    (hopen' : openMetrics path' (e.equipped o' sources' s') = (made', s1')) :
    Session.Alike { s1 with anyFailure := false } { s1' with anyFailure := false } := by
  have hprepared := prepared_of_openMetrics hopen
  have hprepared' := prepared_of_openMetrics hopen'
  exact {
    output_eq := hprepared'.output_eq.trans (h.output_eq.trans hprepared.output_eq.symm)
    calls_eq := hprepared'.calls_eq.trans (h.calls_eq.trans hprepared.calls_eq.symm)
    anyFailure_eq := rfl }

/-- The same job after two preparations: the rules are read alike, and a metrics file is made ready
or the failure escapes. -/
theorem perform_alike {e : Environment} {o o' : Options} {job : Job}
    (hverbose : o'.verbose = o.verbose) (hjob : ∀ path, job = .stream (.value path) → path = "-")
    {s s' : Session} (h : s.Alike s')
    (hload : ∀ sources, e.load o' s'.disk = .ok sources ↔ e.load o s.disk = .ok sources)
    (hmetrics : ∀ sources failure,
      (openMetrics o.metricsPath.text? (e.equipped o sources s)).1 = .error failure → failure.Escapes)
    (hmetrics' : ∀ sources failure,
      (openMetrics o'.metricsPath.text? (e.equipped o' sources s')).1 = .error failure →
      failure.Escapes)
    {input : Octets} (hsettles : Checker.Settles (perform e o job input s).1)
    (hsettles' : Checker.Settles (perform e o' job input s').1) :
    ((perform e o' job input s').1 = .ok () ↔ (perform e o job input s).1 = .ok ()) ∧
      (perform e o job input s).2.Alike (perform e o' job input s').2 := by
  rw [perform_stages] at hsettles hsettles' ⊢
  rw [perform_stages]
  cases hsources : e.load o s.disk with
  | error failure =>
    cases hsources' : e.load o' s'.disk with
    | error failure' => exact ⟨⟨fun hok => (by cases hok), fun hok => (by cases hok)⟩, h⟩
    | ok sources =>
      rw [(hload sources).mp hsources'] at hsources
      cases hsources
  | ok sources =>
    simp only [hsources, (hload sources).mpr hsources] at hsettles hsettles' ⊢
    cases hopen : openMetrics o.metricsPath.text? (e.equipped o sources s) with
    | mk made s1 =>
      cases hopen' : openMetrics o'.metricsPath.text? (e.equipped o' sources s') with
      | mk made' s1' =>
        rw [hopen] at hsettles
        rw [hopen'] at hsettles'
        have halike := openMetrics_alike h hopen hopen'
        cases made with
        | error failure =>
          exact absurd (hmetrics sources failure (by rw [hopen])) (hsettles failure rfl)
        | ok metrics =>
          cases made' with
          | error failure =>
            exact absurd (hmetrics' sources failure (by rw [hopen'])) (hsettles' failure rfl)
          | ok metrics' =>
            have hc : Checker.Alike
                { engine := e.engine o sources, metrics, runtime := e.runtime }
                { engine := e.engine o' sources, metrics := metrics', runtime := e.runtime } := by
              refine ⟨?_, rfl⟩
              unfold Environment.engine
              rw [hverbose]
            simp only [hverbose] at hsettles' ⊢
            obtain ⟨hresult, hrest⟩ :=
              Checker.answer_alike hc halike o.verbose hjob hsettles hsettles'
            exact ⟨by rw [hresult], hrest⟩

/-- A run that comes to an exit status: what its job has come to, and the status. -/
theorem finished_of_run {e : Environment} {arguments : List Text} {o : Options} {input : Octets}
    {s s1 : Session} {status : Nat} (hparse : Options.parse arguments = .ok o)
    (h : run e arguments input s = (.finished status, s1)) :
    ∃ job subscription, o.job = .ok job ∧
      (s.journal.subscribe o.logFile.text? o.level s.disk).1 = .ok subscription ∧
      Checker.Settles (perform e o job input (s.started o)).1 ∧
      (perform e o job input (s.started o)).2.Alike s1 ∧
      status = (match (perform e o job input (s.started o)).1 with
        | .ok () => Report.exitStatus (perform e o job input (s.started o)).2.anyFailure
        | .error _ => 2) := by
  cases hjob : o.job with
  | error error =>
    rw [run_eq_stop_usage hparse hjob] at h
    cases h
  | ok job =>
    rw [run_eq_runJob hparse hjob] at h
    cases hsubscribe : (s.journal.subscribe o.logFile.text? o.level s.disk).1 with
    | error error =>
      rw [runJob_of_unsubscribed job input hsubscribe] at h
      cases h
    | ok subscription =>
      rw [runJob_eq job input hsubscribe] at h
      refine ⟨job, subscription, rfl, rfl, ?_⟩
      cases hperform : perform e o job input (s.started o) with
      | mk result s2 =>
        rw [hperform] at h
        cases result with
        | ok =>
          cases h
          exact ⟨fun _ hfailure => (by cases hfailure), ⟨rfl, rfl, rfl⟩, rfl⟩
        | error failure =>
          cases failure with
          | configuration error =>
            cases h
            exact ⟨by rintro _ ⟨⟩; exact id, ⟨rfl, rfl, rfl⟩, rfl⟩
          | line error =>
            cases h
            exact ⟨by rintro _ ⟨⟩; exact id, ⟨rfl, rfl, rfl⟩, rfl⟩
          | _ => cases h

/-! ## Top theorem -/

/-- **Diagnostics have no part in the answers.** Let the arguments of two runs ask for the same but
for the level of the journal, the log file and the metrics file, for a single request or for those of
the standard input, and let these files lie apart from each other and from the rules. If both runs
come to an exit status, it is the same, and so are the output and the calls to the engine. -/
theorem run_of_other_diagnostics {e : Environment} {arguments arguments' : List Text}
    {o o' : Options} (hparse : Options.parse arguments = .ok o)
    (hparse' : Options.parse arguments' = .ok o')
    (hoptions : o' = { o with
      debugLog := o'.debugLog, logFile := o'.logFile, metricsPath := o'.metricsPath })
    (hrequests : ∀ path, o.requests = .value path → path = "-") (input : Octets)
    {s s' : Session} (hdisk : s'.disk = s.disk) (h : s.Alike s')
    (haside : DiagnosticsAside e o s) (haside' : DiagnosticsAside e o' s') {status status' : Nat}
    (hrun : (run e arguments input s).1 = .finished status)
    (hrun' : (run e arguments' input s').1 = .finished status') :
    status' = status ∧
      (run e arguments' input s').2.output = (run e arguments input s).2.output ∧
      (run e arguments' input s').2.calls = (run e arguments input s).2.calls := by
  obtain ⟨job, subscription, hjob, hsubscribe, hsettles, hafter, hstatus⟩ :=
    finished_of_run hparse (Prod.ext hrun rfl)
  obtain ⟨job', subscription', hjob', hsubscribe', hsettles', hafter', hstatus'⟩ :=
    finished_of_run hparse' (Prod.ext hrun' rfl)
  have hverbose : o'.verbose = o.verbose := by rw [hoptions]
  have hsame : o'.job = o.job := by rw [hoptions]; rfl
  obtain rfl : job' = job := by
    rw [hsame, hjob] at hjob'
    exact (Except.ok.inj hjob').symm
  have hrules : ∀ d, e.load o' d = e.load o d := by
    intro d
    unfold Environment.load
    rw [hoptions]
  have hload : ∀ sources, e.load o' (s'.started o').disk = .ok sources ↔
      e.load o (s.started o).disk = .ok sources := by
    intro sources
    rw [load_iff_of_agrees (started_agrees haside hsubscribe) haside.rules_apart,
      load_iff_of_agrees (started_agrees haside' hsubscribe') haside'.rules_apart, hrules, hdisk]
  have hstream : ∀ path, job' = .stream (.value path) → path = "-" := by
    rintro path rfl
    apply hrequests path
    unfold Options.job at hjob
    split at hjob
    · cases hjob
    · exact Job.stream.inj (Except.ok.inj hjob)
    · split at hjob <;> cases hjob
  have hstarted : (s.started o).Alike (s'.started o') :=
    ⟨h.output_eq, h.calls_eq, h.anyFailure_eq⟩
  obtain ⟨hresult, halike⟩ := perform_alike hverbose hstream hstarted hload
    (fun _ _ => openMetrics_error haside hsubscribe)
    (fun _ _ => openMetrics_error haside' hsubscribe') hsettles hsettles'
  refine ⟨?_, by rw [hafter'.output_eq, hafter.output_eq, halike.output_eq],
    by rw [hafter'.calls_eq, hafter.calls_eq, halike.calls_eq]⟩
  rw [hstatus, hstatus']
  generalize perform e o job' input (s.started o) = done at hresult halike ⊢
  generalize perform e o' job' input (s'.started o') = done' at hresult halike ⊢
  obtain ⟨result, s2⟩ := done
  obtain ⟨result', s2'⟩ := done'
  simp only at hresult halike ⊢
  cases result with
  | ok =>
    rw [hresult.mpr rfl]
    simp only [halike.anyFailure_eq]
  | error failure =>
    cases result' with
    | ok => cases hresult.mp rfl
    | error failure' => rfl

theorem writes_iff (j : Journal) (location : Location) :
    j.Writes location ↔ .file location ∈ j.sinks.map (·.target) := by
  rw [List.mem_map]
  rfl

/-- A stream of two requests, of which the engine rejects the second, and a line that holds none:
without diagnostics, and with a log file and a metrics file that is there. -/
theorem run_of_other_diagnostics_of_files :
    let e : Environment := {
      project := .ofText "/"
      matcher := fun _ q =>
        if q.type = "font" then .answered { matched := some (.boolean true) }
        else .raised { kind := .invalidValue, detail := "?" } }
    let input : Octets :=
      ("\x7b\"url\": \"u\", \"context\": \"\", \"type\": \"font\"\x7d\n" ++
        "\x7b\"url\": \"u\", \"context\": \"\", \"type\": \"x\"\x7d\n" ++
        "[]\n" : Text).flatMap Utf8.encodePoint
    let s : Session := { disk := { entries :=
      [(["r.txt"], .file []), (["m.csv"], .file Metrics.headerOctets)] } }
    let arguments : List Text := ["--rules", "r.txt"]
    let arguments' : List Text :=
      ["--debug-log", "--log-file=l.txt", "--metrics-path=m.csv", "--rules", "r.txt"]
    (run e arguments input s).1 = .finished 2 ∧ (run e arguments' input s).1 = .finished 2 ∧
      (run e arguments' input s).2.output = (run e arguments input s).2.output ∧
      (run e arguments' input s).2.calls = (run e arguments input s).2.calls ∧
      (run e arguments input s).2.calls.length = 2 := by
  intro e input s arguments arguments'
  let o : Options := { rules := some ["r.txt"] }
  let o' : Options := { o with
    debugLog := true, logFile := .value "l.txt", metricsPath := .value "m.csv" }
  have hparse : Options.parse arguments = .ok o := by decide +kernel
  have hparse' : Options.parse arguments' = .ok o' := by decide +kernel
  -- both runs end at the third line
  have hfailure : failure? e arguments input s =
      some (.line { number := 3, line := "[]", fault := .missingKeys }) := by decide +kernel
  have hfailure' : failure? e arguments' input s =
      some (.line { number := 3, line := "[]", fault := .missingKeys }) := by decide +kernel
  have hstatus := finished_of_failure? hfailure id
  have hstatus' := finished_of_failure? hfailure' id
  have hsinks : (s.started o).journal.sinks.map (·.target) = [.console] := by decide +kernel
  have hsinks' : (s.started o').journal.sinks.map (·.target) = [.console, .file ["l.txt"]] := by
    decide +kernel
  have hrules : ∀ shown ∈ (["r.txt", (Path.ofText "r.txt").toText] : List Text),
      s.disk.locate shown = .ok ["r.txt"] := by decide +kernel
  have hmetrics : s.disk.locate (Path.ofText "m.csv").toText = .ok ["m.csv"] := by decide +kernel
  have haside : DiagnosticsAside e o s := {
    log_directory := by rintro p ⟨⟩
    rules_apart := by
      rintro path hpath shown hshown location hlocate hwrites
      rw [writes_iff, hsinks] at hwrites
      cases List.mem_singleton.mp hwrites
    metrics_directory := by rintro path ⟨⟩
    metrics_apart := by rintro path location ⟨⟩
    metrics_header := by rintro path octets ⟨⟩ }
  have haside' : DiagnosticsAside e o' s := {
    log_directory := by
      rintro p ⟨⟩
      decide +kernel
    rules_apart := by
      rintro path hpath shown hshown location hlocate hwrites
      obtain rfl := List.mem_singleton.mp hpath
      rw [hrules shown hshown] at hlocate
      cases hlocate
      rw [writes_iff, hsinks'] at hwrites
      revert hwrites
      decide
    metrics_directory := by
      rintro path ⟨⟩ -
      decide +kernel
    metrics_apart := by
      rintro path location ⟨⟩ - hlocate hwrites
      rw [hmetrics] at hlocate
      cases hlocate
      rw [writes_iff, hsinks'] at hwrites
      revert hwrites
      decide
    metrics_header := by
      rintro path octets ⟨⟩ - hstatus
      have hthere : s.disk.status (Path.ofText "m.csv").toText =
          .ok (some (.file Metrics.headerOctets)) := by decide +kernel
      rw [hthere] at hstatus
      cases hstatus
      exact Metrics.beginsWithHeader_headerOctets }
  obtain ⟨-, houtput, hcalls⟩ := run_of_other_diagnostics hparse hparse' rfl
    (by rintro path ⟨⟩) input rfl ⟨rfl, rfl, rfl⟩ haside haside' hstatus hstatus'
  exact ⟨hstatus, hstatus', houtput, hcalls, by decide +kernel⟩

end RequestCheck
