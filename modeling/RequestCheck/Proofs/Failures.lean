import RequestCheck.Proofs.Recording
import RequestCheck.Proofs.Runs

/-!
# Failed checks and the mark of a failure

Two things make a check fail: the engine raises a fault, or its answer carries an error that is
truthy. The verdict says so, and the checker keeps a mark of it, even of a check that never comes to
its verdict because the clock or the metrics file is in the way. The invariant of a run is

    the mark is set  if and only if  one of the replies so far was a rejection

and it goes with the calls: the replies are those of the oracle to the calls, each behind the calls
before it (`Oracle.transcript`). What has been answered are the verdicts on some of them, in order.

    v.Reports reply                      the verdict v says what became of the reply
    i.Accounts s items s'                what is kept between two sessions     (Checks.accounts)
-/

namespace RequestCheck

/-! ## Replies and verdicts -/

/-- The engine rejects what it was asked: it raises a fault, whatever the wording, or its answer
carries an error that is truthy. -/
def Engine.Reply.Rejects : Engine.Reply → Prop
  | .raised _ => True
  | .answered answer => ∃ error, answer.error = some error ∧ error.isTruthy = true

/-- What a verdict says of the reply that it was made from. -/
structure Verdict.Reports (v : Verdict) (reply : Engine.Reply) : Prop where
  /-- The check failed if and only if the engine rejected what it was asked. -/
  failed_iff : v.failed = true ↔ reply.Rejects
  /-- A failed verdict has an error, and nothing else. -/
  of_failed : v.failed = true →
    v.error ≠ none ∧ v.matched = false ∧ v.important = false ∧ v.redirect = .null ∧
      v.rewrittenUrl = .null ∧ v.exception = .null ∧ v.filter = .null
  /-- Any other verdict has no error, and truth values for what the answer says; a missing
  importance is none. -/
  of_not_failed : v.failed = false →
    v.error = none ∧ ∃ answer matched, reply = .answered answer ∧ answer.matched = some matched ∧
      v.matched = matched.isTruthy ∧ v.important = answer.important.any Json.Value.isTruthy

namespace Engine

theorem errorText?_isSome (error : Option Json.Value) :
    (errorText? error).isSome = true ↔ ∃ v, error = some v ∧ v.isTruthy = true := by
  unfold errorText?
  cases error with
  | none => exact ⟨fun h => (by cases h), fun ⟨_, h, _⟩ => (by cases h)⟩
  | some v =>
    simp only [Option.some.injEq, exists_eq_left']
    cases v.isTruthy <;> simp

theorem isTruthy_getD_null (field : Option Json.Value) :
    (field.getD .null).isTruthy = field.any Json.Value.isTruthy := by
  cases field <;> rfl

theorem failure_reports {reply : Reply} (message : Text) (h : reply.Rejects) :
    (Verdict.failure message).Reports reply where
  failed_iff := ⟨fun _ => h, fun _ => rfl⟩
  of_failed := fun _ => ⟨by rintro ⟨⟩, rfl, rfl, rfl, rfl, rfl, rfl⟩
  of_not_failed := fun hne => by cases hne

/-- **The verdict on a reply** reports it. -/
theorem reports_of_verdict? {e : Engine} {q : Query} {v : Verdict} (h : e.verdict? q = some v) :
    v.Reports (e q) := by
  unfold verdict? check Reply.verdict at h
  cases hreply : e q with
  | raised fault =>
    rw [hreply] at h
    cases h
    exact failure_reports _ trivial
  | answered answer =>
    rw [hreply] at h
    have hrejects : (Reply.answered answer).Rejects ↔ (errorText? answer.error).isSome = true :=
      (errorText?_isSome answer.error).symm
    simp only [Answer.verdict] at h
    cases herror : errorText? answer.error with
    | some message =>
      rw [herror] at h hrejects
      cases h
      exact failure_reports message (hrejects.mpr rfl)
    | none =>
      rw [herror] at h hrejects
      cases hmatched : answer.matched with
      | none => rw [hmatched] at h; cases h
      | some matched =>
        rw [hmatched] at h
        cases h
        exact {
          failed_iff := ⟨fun hf => (by cases hf), fun hr => (by cases hrejects.mp hr)⟩
          of_failed := fun hf => by cases hf
          of_not_failed := fun _ =>
            ⟨rfl, answer, matched, rfl, hmatched, rfl, isTruthy_getD_null answer.important⟩ }

/-- An engine that rejects what it is asked comes to a failed verdict, and no other engine does. -/
theorem any_failed_verdict? (e : Engine) (q : Query) :
    (e.verdict? q).any Verdict.failed = true ↔ (e q).Rejects := by
  cases hv : e.verdict? q with
  | some v => exact (reports_of_verdict? hv).failed_iff
  | none =>
    refine ⟨fun h => (by cases h), fun hrejects => ?_⟩
    exfalso
    unfold verdict? check Reply.verdict at hv
    cases hreply : e q with
    | raised fault => rw [hreply] at hv; cases hv
    | answered answer =>
      rw [hreply] at hv hrejects
      obtain ⟨message, hmessage⟩ :=
        Option.isSome_iff_exists.mp ((errorText?_isSome answer.error).mpr hrejects)
      simp only [Answer.verdict, hmessage] at hv
      cases hv

end Engine

/-! ## Checks -/

namespace Checker

variable {c : Checker} {r : Request} {s s' : Session} {v v' : Verdict}

theorem eq_of_record_ok {type : Text} {latency : Int}
    (h : (c.record r type latency v s).1 = .ok v') : v' = v := by
  unfold record at h
  split at h
  · cases h; rfl
  · split at h
    · cases h
    · cases h; rfl

theorem eq_of_finish_ok {origin : Origin} {type : Text} {start : Reading}
    (h : (c.finish origin r type start v s).1 = .ok v') : v' = v := by
  unfold finish at h
  simp only at h
  split at h
  · cases h
  · exact eq_of_record_ok h

/-- A check that comes to a verdict comes to that of the engine. -/
theorem verdict?_of_ask {origin : Origin} {q : Engine.Query}
    (h : (c.ask origin q r s).1 = .ok v) : c.engine.verdict? q = some v := by
  rw [ask_eq] at h
  cases hv : c.engine.verdict? q with
  | none => rw [hv] at h; cases h
  | some v' => rw [hv] at h; rw [eq_of_finish_ok h]

theorem verdict?_of_check (h : c.check r s = (.ok v, s')) :
    c.engine.verdict? r.query = some v := verdict?_of_ask (congrArg Prod.fst h)

theorem verdict?_of_feed {number : Nat} {line : Line}
    (h : c.feed number line s = (.answered r v, s')) : c.engine.verdict? r.query = some v := by
  rw [feed_eq] at h
  split at h
  · cases h
  · cases h
  · split at h
    · cases h
    · next hcheck => cases h; exact verdict?_of_check hcheck

/-- What a stream answers are verdicts of the engine. -/
theorem verdict?_of_drainAfter {taken : Nat} {lines : List Line} {items : List Answered}
    {ending : Option Failure} {g : RequestStream}
    (h : c.drainAfter taken s lines = (items, ending, g, s')) :
    ∀ item ∈ items, c.engine.verdict? item.1.query = some item.2 := by
  induction lines generalizing taken s items with
  | nil => cases h; exact fun item hitem => by cases hitem
  | cons line lines ih =>
    simp only [drainAfter] at h
    cases hf : c.feed (taken + 1) line s with
    | mk outcome s1 =>
      rw [hf] at h
      cases outcome with
      | blank => exact ih h
      | failed failure => cases h; exact fun item hitem => by cases hitem
      | answered r v =>
        cases hd : c.drainAfter (taken + 1) s1 lines with
        | mk more behind =>
          obtain ⟨ending', g', s2⟩ := behind
          simp only [hd] at h
          cases h
          intro item hitem
          rcases List.mem_cons.mp hitem with rfl | hitem
          · exact verdict?_of_feed hf
          · exact ih hd item hitem

end Checker

/-! ## Runs -/

namespace Oracle

/-- The calls behind some others, each with the reply to it. -/
def transcript (o : Oracle) (before : List Engine.Query) :
    List Engine.Query → List (Engine.Query × Engine.Reply)
  | [] => []
  | q :: rest => (q, o before q) :: o.transcript (before ++ [q]) rest

end Oracle

namespace Inspector

variable {i : Inspector} {P : Request → Prop} {s s' s'' : Session} {items : List Answered}

/-- The request is what was called for, and the verdict on it reports the reply. -/
def Settles (item : Answered) (call : Engine.Query × Engine.Reply) : Prop :=
  call.1 = item.1.query ∧ item.2.Reports call.2

/-- What is kept between two sessions: the mark of a failure goes with the replies, and the answers
are the verdicts on some of the calls, in order. -/
def Accounts (i : Inspector) (s : Session) (items : List Answered) (s' : Session) : Prop :=
  ∃ calls, s'.calls = s.calls ++ calls ∧
    (s'.anyFailure = true ↔
      s.anyFailure = true ∨ ∃ call ∈ i.oracle.transcript s.calls calls, call.2.Rejects) ∧
    ∃ kept, kept.Sublist (i.oracle.transcript s.calls calls) ∧ List.Forall₂ Settles items kept

/-- **One check** is one call; the mark is set if its reply is a rejection. -/
theorem anyFailure_check {r : Request} {result : Except Failure Verdict}
    (h : (i.checker s).check r s = (result, s')) :
    s'.calls = s.calls ++ [r.query] ∧
      (s'.anyFailure = true ↔
        s.anyFailure = true ∨ (i.oracle s.calls r.query).Rejects) := by
  have hcalls := (i.checker s).ask_calls .stream r.query r s
  have hany := (i.checker s).ask_anyFailure .stream r.query r s
  have hs' : s' = ((i.checker s).ask .stream r.query r s).2 := (congrArg Prod.snd h).symm
  rw [hs']
  refine ⟨hcalls, ?_⟩
  rw [hany, Bool.or_eq_true, Engine.any_failed_verdict?]
  rfl

/-- **All checks** keep account of the replies. -/
theorem Checks.accounts (h : i.Checks P s items s') : i.Accounts s items s' := by
  induction h with
  | refl s =>
    refine ⟨[], (List.append_nil _).symm, ?_, [], List.Sublist.refl _, .nil⟩
    exact ⟨.inl, fun h => h.resolve_right fun ⟨_, hmem, _⟩ => by cases hmem⟩
  | @error s s1 s2 r failure items hr hcheck rest ih =>
    obtain ⟨hcalls, hmark⟩ := anyFailure_check hcheck
    obtain ⟨calls, hcalls', hmark', kept, hsub, hall⟩ := ih
    rw [hcalls] at hmark' hsub
    refine ⟨r.query :: calls, ?_, ?_, kept, hsub.cons _, hall⟩
    · rw [hcalls', hcalls, List.append_assoc]; rfl
    · rw [hmark', hmark, Oracle.transcript]
      simp only [List.mem_cons, exists_eq_or_imp, or_assoc]
  | @ok s s1 s2 r v items hr hcheck rest ih =>
    obtain ⟨hcalls, hmark⟩ := anyFailure_check hcheck
    obtain ⟨calls, hcalls', hmark', kept, hsub, hall⟩ := ih
    rw [hcalls] at hmark' hsub
    have hsettles : Settles (r, v) (r.query, i.oracle s.calls r.query) :=
      ⟨rfl, Engine.reports_of_verdict? (Checker.verdict?_of_check hcheck)⟩
    refine ⟨r.query :: calls, ?_, ?_, _ :: kept, hsub.cons_cons _, .cons hsettles hall⟩
    · rw [hcalls', hcalls, List.append_assoc]; rfl
    · rw [hmark', hmark, Oracle.transcript]
      simp only [List.mem_cons, exists_eq_or_imp, or_assoc]

theorem steady_check {r : Request} {result : Except Failure Verdict} (hs : s.clock.Steady)
    (h : (i.checker s).check r s = (result, s')) : s'.clock.Steady := by
  have hclock := (i.checker s).ask_clock .stream r.query r s
  have hs' : s' = ((i.checker s).ask .stream r.query r s).2 := (congrArg Prod.snd h).symm
  rw [hs', hclock]
  exact hs.behind _

/-- Where nothing else can go wrong, every reply that decides gives a verdict. -/
theorem Checks.complete (hmetrics : i.metrics = none)
    (hdecides : ∀ calls q, (i.oracle calls q).Decides) (h : i.Checks P s items s')
    (hs : s.clock.Steady) :
    ∃ calls, s'.calls = s.calls ++ calls ∧
      List.Forall₂ Settles items (i.oracle.transcript s.calls calls) := by
  induction h with
  | refl s => exact ⟨[], (List.append_nil _).symm, .nil⟩
  | @error s s1 s2 r failure items hr hcheck rest ih =>
    exfalso
    obtain ⟨v, hv⟩ := (hdecides s.calls r.query).verdict?
    obtain ⟨latency, hlatency⟩ := hs 0
    have hchecker : i.checker s = { engine := i.oracle s.calls, runtime := i.runtime } := by
      unfold checker
      rw [hmetrics]
    have hresult := Checker.ask_result .stream r.query r s (i.oracle s.calls) i.runtime
    rw [← hchecker, hv] at hresult
    simp only [Nat.zero_add] at hlatency
    simp only [hlatency] at hresult
    rw [show ((i.checker s).ask .stream r.query r s).1 = .error failure from congrArg Prod.fst hcheck]
      at hresult
    cases hresult
  | @ok s s1 s2 r v items hr hcheck rest ih =>
    obtain ⟨hcalls, -⟩ := anyFailure_check hcheck
    obtain ⟨calls, hcalls', hall⟩ := ih (steady_check hs hcheck)
    rw [hcalls] at hall
    refine ⟨r.query :: calls, ?_, .cons ⟨rfl, ?_⟩ hall⟩
    · rw [hcalls', hcalls, List.append_assoc]; rfl
    · exact Engine.reports_of_verdict? (Checker.verdict?_of_check hcheck)

end Inspector

/-! ## Top theorem -/

/-- **The mark of a failure.** Whatever turns are taken, a check that comes to a verdict then reports
the reply to its call. What has been answered are the verdicts on some of the calls, in order, and
each reports the reply to its call; these are all of the calls if every reply decides and nothing
else is in the way. The mark is set if and only if one of the replies was a rejection, and once set
it stays. -/
theorem anyFailure_iff_rejected (i : Inspector) (s : Session) (turns : List Turn) :
    let v := i.serveAll { session := s.renewed } turns
    let calls := i.oracle.transcript [] v.session.calls
    (∀ r verdict s', (i.checker v.session).check r v.session = (.ok verdict, s') →
        verdict.Reports (i.oracle v.session.calls r.query)) ∧
      (∃ kept, kept.Sublist calls ∧ List.Forall₂ Inspector.Settles v.answered kept) ∧
      (i.metrics = none → s.clock.Steady → (∀ calls q, (i.oracle calls q).Decides) →
        List.Forall₂ Inspector.Settles v.answered calls) ∧
      (v.session.anyFailure = true ↔ ∃ call ∈ calls, call.2.Rejects) ∧
      (v.session.anyFailure = true →
        ∀ more, (i.serveAll v more).session.anyFailure = true) := by
  intro v calls
  obtain ⟨⟨items, hchecks, hanswered⟩, -⟩ :=
    Inspector.serveAll_checks (i := i) (Service.within_true _ { session := s.renewed })
      fun turn (_ : turn ∈ turns) => turn.within_true _
  obtain ⟨made, hcalls, hmark, kept, hsub, hall⟩ := hchecks.accounts
  obtain rfl : v.session.calls = made := hcalls
  obtain rfl : v.answered = items := hanswered
  refine ⟨fun r verdict s' hcheck => ?_, ⟨kept, hsub, hall⟩, ?_, ?_, ?_⟩
  · exact Engine.reports_of_verdict? (Checker.verdict?_of_check hcheck)
  · intro hmetrics hs hdecides
    obtain ⟨made, hcalls', hall'⟩ := hchecks.complete hmetrics hdecides hs
    obtain rfl : v.session.calls = made := hcalls'
    exact hall'
  · rw [hmark]
    exact ⟨fun h => h.resolve_left fun hs => (by cases hs), .inr⟩
  · intro hset more
    obtain ⟨⟨others, hmore, -⟩, -⟩ :=
      Inspector.serveAll_checks (i := i) (v.within_true _)
        fun turn (_ : turn ∈ more) => turn.within_true _
    obtain ⟨_, -, hmark', -⟩ := hmore.accounts
    exact hmark'.mpr (.inl hset)

/-- A fault without a wording, and an answer with an error that is empty. -/
theorem anyFailure_of_silent_fault :
    let o : Oracle := fun calls _ =>
      if calls = [] then .raised { kind := .invalidState, detail := "" }
      else .answered { matched := some (.boolean true), error := some (.string "") }
    let i : Inspector := { oracle := o }
    let s : Session := {}
    let r : Request := { url := "u", context := "c", type := "image" }
    let v := i.serveAll { session := s.renewed } [.check r, .check r]
    s.clock.Steady ∧ (∀ calls q, (o calls q).Decides) ∧
      List.Forall₂ Inspector.Settles v.answered (o.transcript [] v.session.calls) ∧
      v.answered.map (·.2.failed) = [true, false] ∧ v.session.anyFailure = true ∧
      ∃ call ∈ o.transcript [] v.session.calls, call.2.Rejects := by
  intro o i s r v
  have hsteady : s.clock.Steady := Clock.steady_whole [0]
  have hdecides : ∀ calls q, (o calls q).Decides := by
    intro calls q
    by_cases h : calls = [] <;> simp [o, h, Engine.Reply.Decides]
  obtain ⟨-, -, hcomplete, hmark, -⟩ := anyFailure_iff_rejected i s [.check r, .check r]
  have hset : v.session.anyFailure = true := by decide +kernel
  exact ⟨hsteady, hdecides, hcomplete rfl hsteady hdecides, by decide +kernel, hset, hmark.mp hset⟩

end RequestCheck
