import RequestCheck.Proofs.Complaints
import RequestCheck.Proofs.Reports
import RequestCheck.Proofs.Sources

/-!
# Runs over a stream

A run that answers a stream prints a report for every line that is not blank, up to the first line
that is malformed. A malformed line ends the run with the status for input that cannot be used,
whatever came before it, and with a complaint on the console; only a line that is too much for the
reader ends it with a failure. Without a malformed line the status tells whether a report is `null`.

    drain = the answers up to the first malformed line          (Checker.drainAfter_complete)
    perform = that, behind the messages of the preparation      (perform_eq)
    run = that, with its status                                 (run_streaming)
-/

namespace RequestCheck

/-! ## Engines with complete answers -/

namespace Engine

/-- Every answer says whether the request matched, and its other fields hold texts or nothing. -/
def Complete (e : Engine) : Prop :=
  ∀ q answer, e q = .answered answer → answer.matched.isSome = true ∧
    ∀ field ∈ [answer.redirect, answer.rewrittenUrl, answer.exception, answer.filter],
      ∀ v, field = some v → v.IsText

variable {e : Engine}

theorem isText_getD {field : Option Json.Value} (h : ∀ v, field = some v → v.IsText) :
    (field.getD .null).IsText := by
  cases field with
  | none => exact .inl rfl
  | some v => exact h v rfl

/-- The fields of every answer that are not truth values hold texts or nothing, if they are there. -/
def AnswersTexts (e : Engine) : Prop :=
  ∀ q answer, e q = .answered answer →
    ∀ field ∈ [answer.redirect, answer.rewrittenUrl, answer.exception, answer.filter],
      ∀ v, field = some v → v.IsText

theorem hasTexts_failure (message : Text) : (Verdict.failure message).HasTexts := by
  intro field hfield
  simp only [Verdict.failure, List.mem_cons, List.not_mem_nil, or_false, or_self] at hfield
  exact .inl hfield

theorem hasTexts_of_answer {answer : Answer} {v : Verdict}
    (h : ∀ field ∈ [answer.redirect, answer.rewrittenUrl, answer.exception, answer.filter],
      ∀ v, field = some v → v.IsText) (hv : answer.verdict = .ok v) : v.HasTexts := by
  unfold Answer.verdict at hv
  split at hv
  · cases hv
  · split at hv
    · cases hv
    · cases hv
      intro field hfield
      simp only [List.mem_cons, List.not_mem_nil, or_false] at hfield
      rcases hfield with rfl | rfl | rfl | rfl
      · exact isText_getD (h answer.redirect (by simp))
      · exact isText_getD (h answer.rewrittenUrl (by simp))
      · exact isText_getD (h answer.exception (by simp))
      · exact isText_getD (h answer.filter (by simp))

/-- The verdicts of such an engine have texts or nothing in their fields. -/
theorem AnswersTexts.hasTexts (h : e.AnswersTexts) {q : Query} {v : Verdict}
    (hv : e.verdict? q = some v) : v.HasTexts := by
  unfold Engine.verdict? check Reply.verdict at hv
  cases hreply : e q with
  | raised fault =>
    rw [hreply] at hv
    cases hv
    exact hasTexts_failure _
  | answered answer =>
    rw [hreply] at hv
    split at hv
    · next hanswer =>
      cases hv
      exact hasTexts_of_answer (h q answer hreply) hanswer
    · cases hv; exact hasTexts_failure _
    · cases hv

/-- An engine with complete answers comes to a verdict on everything. -/
theorem Complete.verdict? (h : e.Complete) (q : Query) :
    ∃ v, e.verdict? q = some v ∧ v.HasTexts := by
  have hsome : ∃ v, e.verdict? q = some v := by
    unfold Engine.verdict? check Reply.verdict
    cases hreply : e q with
    | raised fault => exact ⟨_, rfl⟩
    | answered answer =>
      obtain ⟨matched, hmatched⟩ := Option.isSome_iff_exists.mp (h q answer hreply).1
      simp only [Answer.verdict, hmatched]
      cases errorText? answer.error <;> exact ⟨_, rfl⟩
  obtain ⟨v, hv⟩ := hsome
  have htexts : e.AnswersTexts := fun q answer hreply => (h q answer hreply).2
  exact ⟨v, hv, htexts.hasTexts hv⟩

/-- With a steady clock, only malformed lines end a stream. -/
theorem Complete.stopAt? (h : e.Complete) (k : Runtime) {clock : Clock} (hclock : clock.Steady)
    (before : List Line) (line : Line) :
    e.stopAt? k clock before line = line.fault? k.nesting (before.length + 1) := by
  unfold Engine.stopAt? Engine.outcome
  cases line.fault? k.nesting (before.length + 1) with
  | some failure => rfl
  | none =>
    cases line.request? k.nesting with
    | none => rfl
    | some r =>
      obtain ⟨v, hv, -⟩ := h.verdict? r.query
      obtain ⟨latency, hlatency⟩ := hclock (2 * (Line.filled before).length)
      simp only [hv, hlatency]

/-- A stream stops at its first malformed line. -/
theorem Complete.firstStop? (h : e.Complete) (k : Runtime) {clock : Clock}
    (hclock : clock.Steady) (lines : List Line) :
    match lines.findIdx? (Line.isMalformed k.nesting) with
    | none => e.firstStop? k clock lines = none
    | some i => ∃ line failure, lines[i]? = some line ∧
        line.fault? k.nesting (i + 1) = some failure ∧
        e.firstStop? k clock lines = some (i, failure) := by
  split
  · next hnone =>
    rw [List.findIdx?_eq_none_iff] at hnone
    apply Engine.firstStop?_eq_none
    rintro before line after rfl
    rw [h.stopAt? k hclock, Line.fault?_eq_none_iff]
    exact hnone line (by simp)
  · next i hsome =>
    obtain ⟨hi, hmalformed, hbefore⟩ := List.findIdx?_eq_some_iff_getElem.mp hsome
    have hsplit : lines = lines.take i ++ lines[i] :: lines.drop (i + 1) := by
      rw [List.getElem_cons_drop, List.take_append_drop]
    have hlen : (lines.take i).length = i := by rw [List.length_take]; omega
    obtain ⟨failure, hfault⟩ := Option.isSome_iff_exists.mp
      ((lines[i].fault?_isSome (i + 1)).trans hmalformed)
    refine ⟨lines[i], failure, List.getElem?_eq_getElem hi, hfault, ?_⟩
    have hstop : e.stopAt? k clock (lines.take i) lines[i] = some failure := by
      rw [h.stopAt? k hclock, hlen, hfault]
    have hnot : ∀ l ∈ lines.take i, l.isMalformed k.nesting = false := by
      intro l hl
      obtain ⟨j, hj, rfl⟩ := List.getElem_of_mem hl
      rw [List.getElem_take]
      exact Bool.eq_false_iff.mpr (hbefore j (by omega))
    have key := @Engine.firstStop?_eq_some e k clock (lines.take i) lines[i] (lines.drop (i + 1))
      failure hstop (by
        intro a l b hab
        rw [h.stopAt? k hclock, Line.fault?_eq_none_iff]
        exact hnot l (by rw [hab]; simp))
    rw [← hsplit, hlen] at key
    exact key

end Engine

/-! ## Streams and their reports -/

namespace Checker

variable {e : Engine} {k : Runtime} {s s' : Session} {lines : List Line} {items : List Answered}
  {ending : Option Failure} {g : RequestStream}

end Checker

namespace Report

/-- The reports of some answers, without their ends. -/
def lines (detailed : Bool) (items : List Answered) : List Text :=
  items.map fun item => (value detailed item.2).write

end Report

/-! ## Stages of a run -/

def Environment.engine (e : Environment) (o : Options) (sources : List Text) : Engine :=
  e.matcher (Engine.buildSteps sources o.verbose o.verbose)

/-- The session behind the subscription that a run starts with. -/
def Session.started (s : Session) (o : Options) : Session :=
  { s with
    journal := (s.journal.subscribe o.logFile.text? o.level s.disk).2.1
    disk := (s.journal.subscribe o.logFile.text? o.level s.disk).2.2 }

/-- Messages about the rules leave traces only. -/
theorem announce_traced (k : Runtime) (sources : List Text) (s : Session) :
    s.Traced (announce k sources s) ∧ (announce k sources s).calls = s.calls ∧
      (announce k sources s).clock = s.clock := by
  unfold announce
  split
  · exact ⟨(Session.Traced.log s k _ _ _).trans (Session.Traced.log _ k _ _ _), rfl, rfl⟩
  · exact ⟨Session.Traced.log s k _ _ _, rfl, rfl⟩

theorem runJob_eq {e : Environment} {o : Options} {s : Session} {subscription : Journal.Subscription}
    (job : Job) (input : Octets)
    (h : (s.journal.subscribe o.logFile.text? o.level s.disk).1 = .ok subscription) :
    runJob e o job input s =
      match perform e o job input (s.started o) with
      | (result, s1) =>
        ((conclude e.runtime result s1).1,
          { (conclude e.runtime result s1).2 with
            journal := (conclude e.runtime result s1).2.journal.unsubscribe subscription }) := by
  unfold runJob Session.started
  generalize s.journal.subscribe o.logFile.text? o.level s.disk = started at h ⊢
  obtain ⟨result, journal, disk⟩ := started
  simp only at h
  rw [h]

/-- A run has a sink on the console that every error reaches. -/
theorem started_console {o : Options} {s : Session} {subscription : Journal.Subscription}
    (h : (s.journal.subscribe o.logFile.text? o.level s.disk).1 = .ok subscription) :
    (s.started o).journal.level = some o.level ∧
      ∃ sink ∈ (s.started o).journal.sinks, sink.target = .console ∧ sink.threshold = o.level :=
  Journal.subscribe_console (Prod.ext h rfl)

/-- An error is shown on the console of a run. -/
theorem log_error_console {s : Session} {o : Options} (k : Runtime) (origin : Origin)
    (message : Text)
    (hlevel : s.journal.level = some o.level)
    (hsink : ∃ sink ∈ s.journal.sinks, sink.target = .console ∧ sink.threshold = o.level) :
    ∃ before rest, Text.WholeLines before ∧
      (s.log k origin .error message).console =
        s.console ++ before ++ Utf8.showSurrogates (Journal.entry s.now .error message) ++ rest := by
  have hreaches : Journal.Level.reaches .error o.level = true := by
    unfold Options.level
    cases o.debugLog <;> rfl
  obtain ⟨before, rest, hbefore, hshown⟩ :=
    Journal.write_shows s.now message (k.notice origin s.calls .error message) s.disk hlevel
      hreaches hsink
  refine ⟨before, rest, hbefore, ?_⟩
  show s.console ++ (s.journal.write s.now .error _ s.disk).2 = _
  rw [hshown]
  simp only [List.append_assoc]

/-- A run answers a stream with some content, without a metrics file: its arguments ask for that, the
journal, the rules and the requests can be opened, the answers of the engine are complete, and the
clock is steady. -/
structure Streams (e : Environment) (arguments : List Text) (input content : Octets) (s : Session)
    (o : Options) (sources : List Text) : Prop where
  options_eq : Options.parse arguments = .ok o
  job_eq : o.job = .ok (.stream o.requests)
  no_metrics : o.metricsPath.text?.getD [] = []
  subscribed : ∃ subscription,
    (s.journal.subscribe o.logFile.text? o.level s.disk).1 = .ok subscription
  rules_eq : Rules.load (s.started o).disk (Rules.Config.ofSetting e.project e.dataDirectory)
    o.rules = .ok sources
  requests : HoldsRequests o.requests input content (s.started o)
  complete : (e.engine o sources).Complete
  steady : s.clock.Steady

section

variable {e : Environment} {arguments : List Text} {input content : Octets} {s : Session}
  {o : Options} {sources : List Text}

end

end RequestCheck
