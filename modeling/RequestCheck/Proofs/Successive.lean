import RequestCheck.Proofs.Endings
import RequestCheck.Proofs.Newsroom

/-!
# One run after another

However a run ends, it takes with it the sinks that it has brought, and leaves those that were there.
A run looks at no more of a journal than at what its sinks write to and from which level on. So a run
behind others does what it would do if none had been before it, and no message is written twice.

    j.Twin j'                   j and j' have the same level, and sinks with the same routes
    c.Lockstep Session.Twin     a check does the same with either                (lockstep_twin)
    run e a i s                 leaves the sinks of s as they are                (sinks_run)
    runAll calls s              so do any number of runs                         (run_behind_others)
-/

namespace RequestCheck

/-! ## Journals that write the same -/

namespace Journal

/-- The journals have the same level, and sinks with the same routes. -/
structure Twin (j j' : Journal) : Prop where
  level_eq : j'.level = j.level
  routes_eq : j'.sinks.map Sink.route = j.sinks.map Sink.route

theorem Twin.write_eq {j j' : Journal} (h : j.Twin j') (now : Int) (level : Level)
    (message : Message) (d : Disk) : j'.write now level message d = j.write now level message d := by
  have hlevel : level.reaches j'.currentLevel = level.reaches j.currentLevel := by
    unfold currentLevel
    rw [h.level_eq]
  obtain ⟨hdisk, hshown⟩ := write_both (R := Eq) hlevel h.routes_eq
    (fun _ _ _ _ _ _ _ heq => by rw [heq]) now message (Eq.refl d)
  exact Prod.ext hdisk hshown

/-- With the same routes a subscription fails in the same way, or the journals are twins behind it,
whatever their levels were. -/
theorem subscribe_twin {j j' : Journal}
    (hroutes : j'.sinks.map Sink.route = j.sinks.map Sink.route) (path : Option Text)
    (level : Level) (d : Disk) :
    (∃ error after after' made, j.subscribe path level d = (.error error, after, made) ∧
        j'.subscribe path level d = (.error error, after', made)) ∨
      ∃ subscription subscription' after after' made,
        j.subscribe path level d = (.ok subscription, after, made) ∧
        j'.subscribe path level d = (.ok subscription', after', made) ∧ after.Twin after' := by
  have hattach : ∀ targets, ({ j with level := some level }.attach targets).2.Twin
      ({ j' with level := some level }.attach targets).2 := by
    intro targets
    refine ⟨rfl, ?_⟩
    unfold attach
    rw [List.map_append, List.map_append, route_numbered, route_numbered, hroutes]
  unfold subscribe
  split
  · exact .inl ⟨_, _, _, _, rfl, rfl⟩
  · simp only
    split
    · exact .inr ⟨_, _, _, _, _, rfl, rfl, hattach _⟩
    · split
      · exact .inl ⟨_, _, _, _, rfl, rfl⟩
      · exact .inr ⟨_, _, _, _, _, rfl, rfl, hattach _⟩

end Journal

/-! ## Sessions with such journals -/

namespace Session

def withJournal (s : Session) (j : Journal) : Session := { s with journal := j }

/-- The sessions differ in their journals alone, and these write the same. -/
def Twin (s s' : Session) : Prop := ∃ j, s.journal.Twin j ∧ s' = s.withJournal j

theorem Twin.print {s s' : Session} (h : s.Twin s') (t : Text) : (s.print t).Twin (s'.print t) := by
  obtain ⟨j, hj, rfl⟩ := h
  exact ⟨j, hj, rfl⟩

theorem Twin.disk_eq {s s' : Session} (h : s.Twin s') : s'.disk = s.disk := by
  obtain ⟨j, -, rfl⟩ := h
  rfl

theorem Twin.log {s s' : Session} (h : s.Twin s') (k : Runtime) (origin : Origin)
    (level : Journal.Level) (message : Text) :
    (s.log k origin level message).Twin (s'.log k origin level message) := by
  obtain ⟨j, hj, rfl⟩ := h
  refine ⟨j, hj, ?_⟩
  unfold Session.log withJournal
  simp only [hj.write_eq]

end Session

namespace Checker

variable {c : Checker} {s s' : Session}

theorem note_twin (h : s.Twin s') (origin : Origin) (r : Request) (v : Verdict) :
    (c.note origin r v s).Twin (c.note origin r v s') := by
  unfold note
  split
  · obtain ⟨j, hj, heq⟩ := h.log c.runtime origin .error (rejection r _)
    exact ⟨j, hj, by rw [heq]; rfl⟩
  · exact h

theorem record_twin (h : s.Twin s') (r : Request) (type : Text) (latency : Int) (v : Verdict) :
    (c.record r type latency v s').1 = (c.record r type latency v s).1 ∧
      (c.record r type latency v s).2.Twin (c.record r type latency v s').2 := by
  obtain ⟨j, hj, rfl⟩ := h
  unfold record
  cases c.metrics with
  | none => exact ⟨rfl, j, hj, rfl⟩
  | some metrics =>
    simp only [Session.withJournal]
    cases metrics.log s.now r type v latency s.disk with
    | mk result disk => cases result <;> exact ⟨rfl, j, hj, rfl⟩

theorem finish_twin (h : s.Twin s') (origin : Origin) (r : Request) (type : Text) (start : Reading)
    (v : Verdict) :
    (c.finish origin r type start v s').1 = (c.finish origin r type start v s).1 ∧
      (c.finish origin r type start v s).2.Twin (c.finish origin r type start v s').2 := by
  have hreading : s'.tick.1 = s.tick.1 := by
    obtain ⟨j, -, rfl⟩ := h
    rfl
  have htick : s.tick.2.Twin s'.tick.2 := by
    obtain ⟨j, hj, rfl⟩ := h
    exact ⟨j, hj, rfl⟩
  unfold finish
  simp only [hreading]
  cases Reading.milliseconds start s.tick.1 with
  | error error => exact ⟨rfl, htick⟩
  | ok latency =>
    exact record_twin (htick.log c.runtime origin .debug (trace r type v)) r type latency v

/-- **A check** does the same in both. -/
theorem lockstep_twin (c : Checker) : c.Lockstep Session.Twin := by
  intro origin q r s s' h
  have hcall : (s.tick.2.call q).Twin (s'.tick.2.call q) := by
    obtain ⟨j, hj, rfl⟩ := h
    exact ⟨j, hj, rfl⟩
  have hreading : s'.tick.1 = s.tick.1 := by
    obtain ⟨j, -, rfl⟩ := h
    rfl
  rw [ask_eq, ask_eq, hreading]
  cases c.engine.verdict? q with
  | none => exact ⟨rfl, hcall⟩
  | some v => exact finish_twin (note_twin hcall origin r v) origin r q.type s.tick.1 v

/-! ## Answers in lockstep -/

section

variable {R : Session → Session → Prop}

theorem Lockstep.answerDraft (h : c.Lockstep R)
    (hprint : ∀ {s s'} t, R s s' → R (s.print t) (s'.print t)) (detailed : Bool) (draft : Draft)
    (hs : R s s') :
    (c.answerDraft detailed draft s').1 = (c.answerDraft detailed draft s).1 ∧
      R (c.answerDraft detailed draft s).2 (c.answerDraft detailed draft s').2 := by
  unfold Checker.answerDraft checkDraft
  cases draft.type with
  | none => exact ⟨rfl, hs⟩
  | some type =>
    obtain ⟨hresult, hrest⟩ := h .request (draft.query type) (draft.shown type) hs
    simp only
    cases hask : c.ask .request (draft.query type) (draft.shown type) s with
    | mk result s1 =>
      cases hask' : c.ask .request (draft.query type) (draft.shown type) s' with
      | mk result' s1' =>
        rw [hask, hask'] at hresult hrest
        obtain rfl : result' = result := hresult
        cases result' with
        | error failure => exact ⟨rfl, hrest⟩
        | ok v => exact ⟨rfl, hprint _ hrest⟩

theorem Lockstep.answerLines (h : c.Lockstep R)
    (hprint : ∀ {s s'} t, R s s' → R (s.print t) (s'.print t)) (detailed : Bool) (taken : Nat)
    (lines : List Octets) (hs : R s s') :
    ∃ ending taken' s1 s1', c.answerLines detailed taken lines s = (ending, taken', s1) ∧
      c.answerLines detailed taken lines s' = (ending, taken', s1') ∧ R s1 s1' := by
  obtain ⟨hitems, hending, hstream, hrest⟩ := h.drainAfter taken (lines.map .octets) hs
  unfold Checker.answerLines
  simp only [hitems, hending, hstream]
  exact ⟨_, _, _, _, rfl, rfl, hprint _ hrest⟩

theorem Lockstep.answerRounds (h : c.Lockstep R)
    (hprint : ∀ {s s'} t, R s s' → R (s.print t) (s'.print t))
    (hdisk : ∀ {s s'}, R s s' → s'.disk = s.disk) (detailed : Bool) (bound taken : Nat)
    (source : Source) (hs : R s s') :
    (c.answerRounds detailed bound taken source s').1 =
        (c.answerRounds detailed bound taken source s).1 ∧
      R (c.answerRounds detailed bound taken source s).2
        (c.answerRounds detailed bound taken source s').2 := by
  induction bound generalizing taken source s s' with
  | zero => exact ⟨rfl, hs⟩
  | succ bound ih =>
    obtain ⟨ending, taken1, s1, s1', hl, hl', hs1⟩ :=
      h.answerLines hprint detailed taken (cutLines source.ahead).1 hs
    simp only [Checker.answerRounds, hl, hl']
    cases ending with
    | some failure => exact ⟨rfl, hs1⟩
    | none =>
      simp only [hdisk hs1]
      cases source.growth? s1.disk with
      | some growth => exact ih _ _ hs1
      | none =>
        simp only
        split
        · exact ⟨rfl, hs1⟩
        · obtain ⟨ending', taken2, s2, s2', hl2, hl2', hs2⟩ :=
            h.answerLines hprint detailed taken1 [(cutLines source.ahead).2] hs1
          simp only [hl2, hl2']
          cases ending' with
          | some failure => exact ⟨rfl, hs2⟩
          | none =>
            simp only [hdisk hs2]
            cases source.growth? s2.disk with
            | some growth => exact ih _ _ hs2
            | none => exact ⟨rfl, hs2⟩

/-- **An answer** is the same from two sessions that every check takes the same way. -/
theorem Lockstep.answer (h : c.Lockstep R)
    (hprint : ∀ {s s'} t, R s s' → R (s.print t) (s'.print t))
    (hdisk : ∀ {s s'}, R s s' → s'.disk = s.disk) (detailed : Bool) (job : Job) (input : Octets)
    (hs : R s s') :
    (c.answer detailed job input s').1 = (c.answer detailed job input s).1 ∧
      R (c.answer detailed job input s).2 (c.answer detailed job input s').2 := by
  unfold Checker.answer
  cases job with
  | single draft => exact h.answerDraft hprint detailed draft hs
  | stream requests =>
    simp only [hdisk hs]
    cases openSource requests input s.disk with
    | error failure => exact ⟨rfl, hs⟩
    | ok source => exact h.answerRounds hprint hdisk detailed 3 0 source hs

end

end Checker

/-! ## Runs in lockstep -/

section

variable {e : Environment} {o : Options} {input : Octets} {s s' : Session}

theorem equipped_twin (h : s.Twin s') (sources : List Text) :
    (e.equipped o sources s).Twin (e.equipped o sources s') := by
  have hannounce : (announce e.runtime sources s).Twin (announce e.runtime sources s') := by
    unfold announce
    split
    · exact (h.log _ _ _ _).log _ _ _ _
    · exact h.log _ _ _ _
  have hbuilt : s'.built = s.built := by
    obtain ⟨j, -, rfl⟩ := h
    rfl
  obtain ⟨j, hj, heq⟩ := hannounce
  refine ⟨j, hj, ?_⟩
  unfold Environment.equipped
  rw [heq, hbuilt]
  rfl

theorem openMetrics_twin (h : s.Twin s') (path : Option Text) :
    (openMetrics path s').1 = (openMetrics path s).1 ∧
      (openMetrics path s).2.Twin (openMetrics path s').2 := by
  obtain ⟨j, hj, rfl⟩ := h
  unfold openMetrics
  split
  · exact ⟨rfl, j, hj, rfl⟩
  · exact ⟨rfl, j, hj, rfl⟩
  · simp only [Session.withJournal]
    split <;> exact ⟨rfl, j, hj, rfl⟩

/-- **A job** is done in the same way in both. -/
theorem perform_twin (h : s.Twin s') (job : Job) :
    (perform e o job input s').1 = (perform e o job input s).1 ∧
      (perform e o job input s).2.Twin (perform e o job input s').2 := by
  rw [perform_stages, perform_stages, h.disk_eq]
  cases e.load o s.disk with
  | error failure => exact ⟨rfl, h⟩
  | ok sources =>
    obtain ⟨hmade, hrest⟩ := openMetrics_twin (@equipped_twin e o s s' h sources) o.metricsPath.text?
    simp only
    cases hopen : openMetrics o.metricsPath.text? (e.equipped o sources s) with
    | mk made s1 =>
      cases hopen' : openMetrics o.metricsPath.text? (e.equipped o sources s') with
      | mk made' s1' =>
        rw [hopen, hopen'] at hmade hrest
        obtain rfl : made' = made := hmade
        cases made' with
        | error failure => exact ⟨rfl, hrest⟩
        | ok metrics =>
          have hmade : Session.Twin { s1 with anyFailure := false }
              { s1' with anyFailure := false } := by
            obtain ⟨j, hj, rfl⟩ := hrest
            exact ⟨j, hj, rfl⟩
          exact (Checker.lockstep_twin _).answer (fun t h => h.print t) Session.Twin.disk_eq
            o.verbose job input hmade

theorem conclude_twin (h : s.Twin s') (k : Runtime) (result : Except Failure Unit) :
    (conclude k result s').1 = (conclude k result s).1 ∧
      (conclude k result s).2.Twin (conclude k result s').2 := by
  have hany : s'.anyFailure = s.anyFailure := by
    obtain ⟨j, -, rfl⟩ := h
    rfl
  unfold conclude
  split
  · exact ⟨by rw [hany], h⟩
  · exact ⟨rfl, h.log _ _ _ _⟩
  · exact ⟨rfl, h.log _ _ _ _⟩
  · exact ⟨rfl, h⟩

/-- **A run** ends in the same way with sinks on the same routes, whatever the level was. -/
theorem run_twin {j : Journal}
    (hroutes : j.sinks.map Journal.Sink.route = s.journal.sinks.map Journal.Sink.route)
    (arguments : List Text) :
    (run e arguments input (s.withJournal j)).1 = (run e arguments input s).1 ∧
      ∃ j', (run e arguments input (s.withJournal j)).2 =
        (run e arguments input s).2.withJournal j' := by
  unfold run
  split
  · exact ⟨rfl, j, rfl⟩
  · next o _ =>
    split
    · exact ⟨rfl, j, rfl⟩
    · next job _ =>
      unfold runJob
      rcases Journal.subscribe_twin hroutes o.logFile.text? o.level s.disk with
        ⟨error, after, after', made, hs, hs'⟩ |
          ⟨_, subscription', after, after', made, hs, hs', htwin⟩
      · simp only [Session.withJournal, hs, hs']
        exact ⟨trivial, after', rfl⟩
      · simp only [Session.withJournal, hs, hs']
        have hstart : Session.Twin { s with journal := after, disk := made }
            { s with journal := after', disk := made } := ⟨after', htwin, rfl⟩
        obtain ⟨hresult, hperform⟩ := @perform_twin e o input _ _ hstart job
        rw [hresult]
        obtain ⟨houtcome, j', -, hconclude⟩ := conclude_twin hperform e.runtime
          (perform e o job input { s with journal := after, disk := made }).1
        refine ⟨houtcome, j'.unsubscribe subscription', ?_⟩
        rw [hconclude]
        rfl

end

/-! ## Sinks -/

section

variable {e : Environment} {o : Options} {input : Octets} {s : Session}

namespace Checker

theorem note_journal (c : Checker) (origin : Origin) (r : Request) (v : Verdict) (s : Session) :
    (c.note origin r v s).journal = s.journal := by
  unfold note
  split <;> rfl

theorem finish_journal (c : Checker) (origin : Origin) (r : Request) (type : Text)
    (start : Reading) (v : Verdict) (s : Session) :
    (c.finish origin r type start v s).2.journal = s.journal := by
  unfold finish
  simp only
  split
  · rfl
  · unfold record
    split
    · rfl
    · split <;> rfl

/-- No check touches the journal itself. -/
theorem carries_journal (c : Checker) : c.Carries fun s s' => s'.journal = s.journal where
  refl := fun _ => rfl
  trans := fun h h' => h'.trans h
  ask := by
    intro origin q r s
    rw [ask_eq]
    split
    · rfl
    · rw [finish_journal, note_journal]
      rfl

end Checker

theorem perform_journal (job : Job) : (perform e o job input s).2.journal = s.journal := by
  rw [perform_stages]
  split
  · rfl
  · next sources _ =>
    have hequipped := (equipped_traced e o sources s).journal_eq
    split
    · next hopen =>
      obtain ⟨d, rfl⟩ := session_of_openMetrics hopen
      exact hequipped
    · next hopen =>
      obtain ⟨d, rfl⟩ := session_of_openMetrics hopen
      exact ((Checker.carries_journal _).answer (fun _ _ => rfl) o.verbose job input _).trans
        hequipped

theorem conclude_journal (k : Runtime) (result : Except Failure Unit) (s : Session) :
    (conclude k result s).2.journal = s.journal := by
  unfold conclude
  split <;> rfl

/-- **A run** leaves the sinks that were there before it, whichever way it ends. -/
theorem sinks_run (e : Environment) (arguments : List Text) (input : Octets) (s : Session) :
    (run e arguments input s).2.journal.sinks = s.journal.sinks := by
  unfold run
  split
  · rfl
  · next o _ =>
    split
    · rfl
    · next job _ =>
      have key := s.journal.subscribe_subscribes o.logFile.text? o.level s.disk
      unfold runJob
      generalize s.journal.subscribe o.logFile.text? o.level s.disk = after at key ⊢
      cases key with
      | failed hsinks => exact hsinks
      | @attached k d subscription hk hsubscription hd hfile =>
        simp only [conclude_journal, perform_journal, hsubscription]
        exact Journal.unsubscribe_attach { s.journal with level := some o.level } _

end

/-! ## Any number of runs -/

/-- One call of the program: what surrounds it, its arguments, and the standard input. -/
structure Call where
  environment : Environment
  arguments : List Text
  input : Octets

/-- The session behind some calls, one after the other. -/
def runAll (calls : List Call) (s : Session) : Session :=
  calls.foldl (fun s call => (run call.environment call.arguments call.input s).2) s

theorem sinks_runAll (calls : List Call) (s : Session) :
    (runAll calls s).journal.sinks = s.journal.sinks := by
  induction calls generalizing s with
  | nil => rfl
  | cons call calls ih =>
    exact (ih _).trans (sinks_run call.environment call.arguments call.input s)

/-- **One run behind others**, whichever way each of them has ended. The sinks are those that were
there before the first run, and they are so again after it. While it does its job, there are these
sinks, and of its own the console once and its log file once. It ends in the same way as with the
journal from before the first run, and leaves the same on the console, on the disk and on the output. -/
theorem run_behind_others (calls : List Call) (e : Environment) (arguments : List Text)
    (input : Octets) (s : Session) :
    let before := runAll calls s
    let after := run e arguments input before
    let alone := run e arguments input (before.withJournal s.journal)
    before.journal.sinks = s.journal.sinks ∧ after.2.journal.sinks = s.journal.sinks ∧
      (∀ path level subscription journal disk,
        before.journal.subscribe path level before.disk = (.ok subscription, journal, disk) →
        journal.sinks.map Journal.Sink.route = s.journal.sinks.map Journal.Sink.route ++
          ({ path, level, subscription } : Subscriber).targets disk) ∧
      after.1 = alone.1 ∧ after.2 = alone.2.withJournal after.2.journal := by
  intro before after alone
  have hbefore : before.journal.sinks = s.journal.sinks := sinks_runAll calls s
  refine ⟨hbefore, (sinks_run e arguments input before).trans hbefore, ?_, ?_⟩
  · intro path level subscription journal disk hsubscribe
    have key := before.journal.subscribe_subscribes path level before.disk
    rw [hsubscribe] at key
    cases key with
    | attached hk =>
      subst hk
      unfold Journal.attach
      rw [List.map_append, Journal.route_numbered, hbefore]
  · obtain ⟨houtcome, j, hsession⟩ := @run_twin e input before s.journal (by rw [hbefore]) arguments
    refine ⟨houtcome.symm, ?_⟩
    show after.2 = (run e arguments input (before.withJournal s.journal)).2.withJournal _
    rw [hsession]
    rfl

/-- Two runs fail, one over its log file and one over its rules. A third one tells of its rules once on
the console and once in its log file; the sink that was there before takes the message as well. -/
theorem run_behind_failed_runs :
    let e : Environment := { project := .ofText "/", matcher := fun _ _ => .answered {} }
    let j : Journal := (({} : Journal).attach [(.console, .error)]).2
    let s : Session := { journal := j, disk := { entries := [(["d"], .directory)] } }
    let calls : List Call := [⟨e, ["--log-file", "d"], []⟩, ⟨e, ["--rules", "r.txt"], []⟩]
    let arguments : List Text := ["--rules", "r.txt", "--log-file", "a.log"]
    let line := Journal.entry 0 .error
      (ConfigurationError.unreadableRules "r.txt" (.refused .notFound "r.txt")).message
    (runAll calls s).journal.sinks = s.journal.sinks ∧
      (run e arguments [] (runAll calls s)).2.journal.sinks = s.journal.sinks ∧
      (run e arguments [] (runAll calls s)).1.status = 2 ∧
      (run e arguments [] (runAll calls s)).2.console =
        (runAll calls s).console ++ line ++ line ∧
      Disk.entry? (run e arguments [] (runAll calls s)).2.disk ["a.log"] =
        some (.file (line.flatMap Utf8.encodePoint)) := by
  intro e j s calls arguments line
  obtain ⟨hbefore, hafter, -, houtcome, hsession⟩ := run_behind_others calls e arguments [] s
  refine ⟨hbefore, hafter, ?_, ?_, ?_⟩
  · refine (congrArg Outcome.status houtcome).trans ?_
    decide +kernel
  · refine (congrArg Session.console hsession).trans ?_
    decide +kernel
  · refine (congrArg (fun s => s.disk.entry? ["a.log"]) hsession).trans ?_
    decide +kernel

end RequestCheck
