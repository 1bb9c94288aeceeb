import RequestCheck.Proofs.Streaming

/-!
# Stages of a run

A run subscribes to the journal, loads the rules, makes the metrics file ready, opens the requests
and checks them; it ends at the first stage that fails. What a check fails with escapes, and what
ends a stream is that or a complaint about a line. So a configuration error comes before any check.

    s.Prepared s'                     between s and s' nothing was printed and nothing asked
    perform = the failure of the rules, or of the metrics file, or the answers     (perform_stages)
    (c.ask origin q r s).1 = .error failure  →  failure.Escapes                    (ask_error)
-/

namespace RequestCheck

/-- The failure is no complaint to the user. -/
def Failure.Escapes : Failure → Prop
  | .configuration _ => False
  | .line _ => False
  | _ => True

/-! ## Failures of checks -/

theorem Metrics.checkOctets_error {now latency : Int} {r : Request} {type : Text} {v : Verdict}
    {failure : Failure} (h : checkOctets now r type v latency = .error failure) :
    failure.Escapes := by
  unfold checkOctets at h
  split at h
  · cases h; trivial
  · split at h <;> cases h
    trivial

theorem Metrics.log_error {m : Metrics} {now latency : Int} {r : Request} {type : Text}
    {v : Verdict} {d : Disk} {failure : Failure}
    (h : (m.log now r type v latency d).1 = .error failure) : failure.Escapes := by
  unfold log at h
  split at h
  · cases h; trivial
  · split at h
    · cases h; trivial
    · split at h
      · next hoctets => cases h; exact checkOctets_error hoctets
      · split at h <;> cases h
        trivial

theorem Metrics.firstRow_error {octets : Octets} {failure : Failure}
    (h : firstRow octets = .error failure) : failure.Escapes := by
  unfold firstRow at h
  split at h
  split at h
  · cases h
  · cases h; trivial
  · split at h <;> cases h
    trivial

namespace Checker

variable {c : Checker} {origin : Origin} {q : Engine.Query} {r : Request} {v : Verdict}
  {s s' : Session} {failure : Failure}

theorem record_error {type : Text} {latency : Int}
    (h : (c.record r type latency v s).1 = .error failure) : failure.Escapes := by
  unfold record at h
  split at h
  · cases h
  · split at h
    · next hlog =>
      cases h
      exact Metrics.log_error (congrArg Prod.fst hlog)
    · cases h

theorem finish_error {type : Text} {start : Reading}
    (h : (c.finish origin r type start v s).1 = .error failure) : failure.Escapes := by
  unfold finish at h
  simp only at h
  split at h
  · cases h; trivial
  · exact record_error h

/-- **A check** that fails does so with what escapes. -/
theorem ask_error (h : (c.ask origin q r s).1 = .error failure) : failure.Escapes := by
  rw [ask_eq] at h
  split at h
  · cases h; trivial
  · exact finish_error h

theorem feed_failed {number : Nat} {line : Line} (h : (c.feed number line s).1 = .failed failure) :
    failure.Escapes ∨ ∃ error, failure = .line error := by
  rw [feed_eq] at h
  split at h
  · next hfault =>
    cases h
    unfold Line.fault? at hfault
    split at hfault
    · next error _ => cases hfault; exact .inr ⟨error, rfl⟩
    · split at hfault
      · cases hfault
      · split at hfault
        · next error _ =>
          cases hfault
          cases error with
          | line error => exact .inr ⟨error, rfl⟩
          | excess what => exact .inl trivial
        · cases hfault
  · cases h
  · split at h
    · next hcheck =>
      cases h
      exact .inl (ask_error (congrArg Prod.fst hcheck))
    · cases h

/-- What ends a stream escapes, or is a complaint about a line. -/
theorem drainAfter_error {taken : Nat} {lines : List Line}
    (h : (c.drainAfter taken s lines).2.1 = some failure) :
    failure.Escapes ∨ ∃ error, failure = .line error := by
  cases hd : c.drainAfter taken s lines with
  | mk items rest =>
    obtain ⟨ending, g, s'⟩ := rest
    rw [hd] at h
    obtain rfl : ending = some failure := h
    obtain ⟨_, _, _, _, _, -, -, hfail, -⟩ := drainAfter_failed hd
    exact feed_failed (congrArg Prod.fst hfail)

theorem answerRounds_error {detailed : Bool} {bound taken : Nat} {source : Source}
    (h : (c.answerRounds detailed bound taken source s).1 = .error failure) :
    failure.Escapes ∨ ∃ error, failure = .line error := by
  induction bound generalizing taken source s with
  | zero => cases h
  | succ bound ih =>
    simp only [answerRounds, answerLines] at h
    split at h
    · next hlines =>
      cases h
      exact drainAfter_error (congrArg Prod.fst hlines)
    · split at h
      · exact ih h
      · split at h
        · cases h
        · split at h
          · next hlines =>
            cases h
            exact drainAfter_error (congrArg Prod.fst hlines)
          · split at h
            · exact ih h
            · cases h

/-- **A configuration error** of an answer is that of the requests file; nothing was done before. -/
theorem answer_configuration {detailed : Bool} {job : Job} {input : Octets}
    {error : ConfigurationError}
    (h : c.answer detailed job input s = (.error (.configuration error), s')) : s' = s := by
  unfold answer at h
  split at h
  · next draft =>
    exfalso
    unfold answerDraft checkDraft at h
    split at h
    · next hcheck =>
      split at hcheck
      · cases hcheck; cases h
      · obtain rfl : _ = Failure.configuration error := by
          simpa using congrArg Prod.fst h
        exact ask_error (congrArg Prod.fst hcheck)
    · cases h
  · split at h
    · cases h; rfl
    · exfalso
      rcases answerRounds_error (congrArg Prod.fst h) with hescapes | ⟨_, hline⟩
      · exact hescapes
      · cases hline

end Checker

/-! ## Answers -/

section Carried

variable {c : Checker} {R : Session → Session → Prop}

theorem Checker.Carries.checkDraft (h : c.Carries R) (draft : Draft) (s : Session) :
    R s (c.checkDraft draft s).2 := by
  unfold Checker.checkDraft
  split
  · exact h.refl s
  · exact h.ask _ _ _ s

theorem Checker.Carries.answerLines (h : c.Carries R) (hprint : ∀ s t, R s (s.print t))
    (detailed : Bool) (taken : Nat) (lines : List Octets) (s : Session) :
    R s (c.answerLines detailed taken lines s).2.2 :=
  h.trans (h.drainAfter taken s (lines.map .octets)) (hprint _ _)

/-- What every check and every print carries on, all rounds of answers do. -/
theorem Checker.Carries.answerRounds (h : c.Carries R) (hprint : ∀ s t, R s (s.print t))
    (detailed : Bool) (bound taken : Nat) (source : Source) (s : Session) :
    R s (c.answerRounds detailed bound taken source s).2 := by
  induction bound generalizing taken source s with
  | zero => exact h.refl s
  | succ bound ih =>
    have hlines := h.answerLines hprint detailed taken (cutLines source.ahead).1 s
    simp only [Checker.answerRounds]
    split
    · next heq => rw [heq] at hlines; exact hlines
    · next s1 heq =>
      rw [heq] at hlines
      split
      · exact h.trans hlines (ih _ _ s1)
      · split
        · exact hlines
        · next taken' _ _ _ =>
          have hlast := h.answerLines hprint detailed taken' [(cutLines source.ahead).2] s1
          split
          · next heq' => rw [heq'] at hlast; exact h.trans hlines hlast
          · next s2 heq' =>
            rw [heq'] at hlast
            split
            · exact h.trans (h.trans hlines hlast) (ih _ _ s2)
            · exact h.trans hlines hlast

/-- **What every check and every print carries on**, an answer does. -/
theorem Checker.Carries.answer (h : c.Carries R) (hprint : ∀ s t, R s (s.print t))
    (detailed : Bool) (job : Job) (input : Octets) (s : Session) :
    R s (c.answer detailed job input s).2 := by
  unfold Checker.answer
  split
  · next draft =>
    have hcheck := h.checkDraft draft s
    unfold Checker.answerDraft
    split
    · next heq => rw [heq] at hcheck; exact hcheck
    · next heq => rw [heq] at hcheck; exact h.trans hcheck (hprint _ _)
  · split
    · exact h.refl s
    · exact h.answerRounds hprint detailed 3 0 _ s

end Carried

/-! ## The stages -/

/-- Between two sessions nothing was printed and the engine was asked about nothing. -/
structure Session.Prepared (s s' : Session) : Prop where
  journal_eq : s'.journal = s.journal
  now_eq : s'.now = s.now
  output_eq : s'.output = s.output
  calls_eq : s'.calls = s.calls
  console_lines : ∃ t, Text.WholeLines t ∧ s'.console = s.console ++ t

theorem Session.Prepared.refl (s : Session) : Prepared s s where
  journal_eq := rfl
  now_eq := rfl
  output_eq := rfl
  calls_eq := rfl
  console_lines := ⟨[], Text.WholeLines.nil, by rw [List.append_nil]⟩

/-- The session of a run once its engine has been built. -/
def Environment.equipped (e : Environment) (o : Options) (sources : List Text) (s : Session) :
    Session :=
  { announce e.runtime sources s with
    built := s.built ++ Engine.buildSteps sources o.verbose o.verbose }

theorem equipped_traced (e : Environment) (o : Options) (sources : List Text) (s : Session) :
    s.Traced (e.equipped o sources s) :=
  (announce_traced e.runtime sources s).1.trans (Session.Traced.of_eq rfl rfl rfl rfl rfl)

/-- Making the metrics file ready changes the disk alone. -/
theorem session_of_openMetrics {path : Option Text} {s s' : Session}
    {result : Except Failure (Option Metrics)} (h : openMetrics path s = (result, s')) :
    ∃ d, s' = { s with disk := d } := by
  unfold openMetrics at h
  split at h
  · cases h; exact ⟨_, rfl⟩
  · cases h; exact ⟨_, rfl⟩
  · split at h <;> cases h <;> exact ⟨_, rfl⟩

theorem prepared_of_openMetrics {e : Environment} {o : Options} {sources : List Text}
    {path : Option Text} {s s' : Session} {result : Except Failure (Option Metrics)}
    (h : openMetrics path (e.equipped o sources s) = (result, s')) : s.Prepared s' := by
  obtain ⟨d, rfl⟩ := session_of_openMetrics h
  have htraced := equipped_traced e o sources s
  exact {
    journal_eq := htraced.journal_eq
    now_eq := htraced.now_eq
    output_eq := htraced.output_eq
    calls_eq := (announce_traced e.runtime sources s).2.1
    console_lines := htraced.console_lines }

theorem Rules.missing_eq_nil_iff (d : Disk) (ps : List Path) :
    missing d ps = .ok [] ↔ ∀ p ∈ ps, d.isFile p.toText = .ok true := by
  induction ps with
  | nil => exact ⟨fun _ p hp => (by cases hp), fun _ => rfl⟩
  | cons p rest ih =>
    rw [List.forall_mem_cons, ← ih, missing]
    constructor
    · intro h
      split at h
      · cases h
      · next there hthere =>
        split at h
        · cases h
        · next others hothers =>
          cases there with
          | true =>
            obtain rfl : others = [] := Except.ok.inj h
            exact ⟨hthere, hothers⟩
          | false => cases h
    · rintro ⟨hthere, hothers⟩
      rw [hthere, hothers]
      rfl

/-- The rules that a run asks for, as a disk holds them. -/
def Environment.load (e : Environment) (o : Options) (d : Disk) : Except Failure (List Text) :=
  Rules.load d (Rules.Config.ofSetting e.project e.dataDirectory) o.rules

def Environment.rulePaths (e : Environment) (o : Options) : List Text :=
  o.rules.getD ((Rules.Config.ofSetting e.project e.dataDirectory).defaultPaths.map Path.toText)

/-- **The stages of a job.** The first one that fails ends it. -/
theorem perform_stages (e : Environment) (o : Options) (job : Job) (input : Octets) (s : Session) :
    perform e o job input s =
      match e.load o s.disk with
      | .error failure => (.error failure, s)
      | .ok sources =>
        match openMetrics o.metricsPath.text? (e.equipped o sources s) with
        | (.error failure, s1) => (.error failure, s1)
        | (.ok metrics, s1) =>
          Checker.answer { engine := e.engine o sources, metrics, runtime := e.runtime } o.verbose
            job input { s1 with anyFailure := false } := by
  unfold perform createChecker createEngine Environment.load
  cases Rules.load s.disk (Rules.Config.ofSetting e.project e.dataDirectory) o.rules with
  | error failure => rfl
  | ok sources =>
    simp only [Environment.equipped, Environment.engine]
    generalize openMetrics o.metricsPath.text? _ = opened
    obtain ⟨made, s1⟩ := opened
    cases made <;> rfl

/-- **A configuration error** comes before anything is printed or asked. -/
theorem perform_configuration {e : Environment} {o : Options} {job : Job} {input : Octets}
    {s s' : Session} {error : ConfigurationError}
    (h : perform e o job input s = (.error (.configuration error), s')) : s.Prepared s' := by
  rw [perform_stages] at h
  split at h
  · cases h
    exact Session.Prepared.refl s
  · split at h
    · next hmetrics =>
      cases h
      exact prepared_of_openMetrics hmetrics
    · next hmetrics =>
      obtain rfl := Checker.answer_configuration h
      have hprepared := prepared_of_openMetrics hmetrics
      exact { hprepared with }

/-! ## Endings -/

/-- What escapes ends a run as it is. -/
theorem conclude_of_escapes {failure : Failure} (h : failure.Escapes) (k : Runtime) (s : Session) :
    conclude k (.error failure) s = (.failed failure, s) := by
  cases failure with
  | configuration error => exact absurd h id
  | line error => exact absurd h id
  | _ => rfl

/-- Arguments that cannot be parsed stop a run, and so do those that ask for no job. -/
theorem run_eq_stop {e : Environment} {arguments : List Text} {why : Options.Stop}
    (hparse : Options.parse arguments = .error why) (input : Octets) (s : Session) :
    run e arguments input s = stop why s := by
  unfold run
  rw [hparse]

theorem run_eq_stop_usage {e : Environment} {arguments : List Text} {o : Options}
    {error : Options.UsageError} (hparse : Options.parse arguments = .ok o)
    (hjob : o.job = .error error) (input : Octets) (s : Session) :
    run e arguments input s = stop (.usage error) s := by
  unfold run
  rw [hparse]
  simp only [hjob]

/-- A run whose arguments ask for a job does it. -/
theorem run_eq_runJob {e : Environment} {arguments : List Text} {o : Options} {job : Job}
    (hparse : Options.parse arguments = .ok o) (hjob : o.job = .ok job) (input : Octets)
    (s : Session) : run e arguments input s = runJob e o job input s := by
  unfold run
  rw [hparse]
  simp only [hjob]

/-- A run that cannot subscribe to the journal ends there. -/
theorem runJob_of_unsubscribed {e : Environment} {o : Options} {s : Session} {error : FileError}
    (job : Job) (input : Octets)
    (h : (s.journal.subscribe o.logFile.text? o.level s.disk).1 = .error error) :
    runJob e o job input s = (.failed (.file error), s.started o) := by
  unfold runJob Session.started
  generalize s.journal.subscribe o.logFile.text? o.level s.disk = started at h ⊢
  obtain ⟨result, journal, disk⟩ := started
  simp only at h
  rw [h]

end RequestCheck
