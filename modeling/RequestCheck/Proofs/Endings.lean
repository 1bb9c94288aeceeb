import RequestCheck.Proofs.Stages

/-!
# Runs that end before the first check

Arguments that cannot be used end a run with a complaint on the console and leave everything else as
it is. A configuration error ends a run before anything is printed and before the engine is asked.

    Misused arguments                 the arguments cannot be used
    failure? e arguments input s      the failure that ends a run, if one does
    run = stopped by a usage error    if and only if the arguments are misused     (run_before_checks)
-/

namespace RequestCheck

/-! ## Arguments that cannot be used -/

/-- How many of url, context and type are given. -/
def Options.partCount (o : Options) : Nat := [o.url, o.context, o.type].countP Setting.isGiven

/-- Arguments cannot be used if they cannot be parsed, if only one or two of url, context and type
are given, or if a requests file is given beside all three. -/
def Misused (arguments : List Text) : Prop :=
  (∃ error, Options.parse arguments = .error (.usage error)) ∨
    ∃ o, Options.parse arguments = .ok o ∧
      (o.partCount = 1 ∨ o.partCount = 2 ∨ (o.partCount = 3 ∧ o.requests.isGiven = true))

/-- There is a job if none of the three parts is given, or all of them and no requests file. -/
theorem job_eq_error_iff (o : Options) :
    (∃ error, o.job = .error error) ↔
      o.partCount = 1 ∨ o.partCount = 2 ∨ (o.partCount = 3 ∧ o.requests.isGiven = true) := by
  unfold Options.job Options.partCount RunMode.select
  simp only [List.countP_cons, List.countP_nil]
  cases o.url.isGiven <;> cases o.context.isGiven <;> cases o.type.isGiven <;>
    cases o.requests.isGiven <;> simp

/-! ## The failure that ends a run -/

def failureIn : Except Failure Unit → Option Failure
  | .error failure => some failure
  | .ok () => none

/-- The failure that ends a run, if one does. -/
def failure? (e : Environment) (arguments : List Text) (input : Octets) (s : Session) :
    Option Failure :=
  match Options.parse arguments with
  | .error _ => none
  | .ok o =>
    match o.job with
    | .error _ => none
    | .ok job =>
      match (s.journal.subscribe o.logFile.text? o.level s.disk).1 with
      | .error error => some (.file error)
      | .ok _ => failureIn (perform e o job input (s.started o)).1

def Session.concluded (s : Session) (subscription : Journal.Subscription) : Session :=
  { s with journal := s.journal.unsubscribe subscription }

/-- The ways in which a run goes, with the failure that ends it and what it comes to: it is stopped by
its arguments, it cannot subscribe to the journal, or its job is done or has failed. -/
inductive Goes (e : Environment) (arguments : List Text) (input : Octets) (s : Session) :
    Option Failure → Outcome × Session → Prop where
  | unparsed {why : Options.Stop} (hparse : Options.parse arguments = .error why) :
      Goes e arguments input s none (stop why s)
  | jobless {o : Options} {error : Options.UsageError} (hparse : Options.parse arguments = .ok o)
      (hjob : o.job = .error error) : Goes e arguments input s none (stop (.usage error) s)
  | unsubscribed {o : Options} {job : Job} {error : FileError}
      (hparse : Options.parse arguments = .ok o) (hjob : o.job = .ok job) :
      Goes e arguments input s (some (.file error)) (.failed (.file error), s.started o)
  | performed {o : Options} {job : Job} {subscription : Journal.Subscription}
      {result : Except Failure Unit} {s1 : Session} (hparse : Options.parse arguments = .ok o)
      (hjob : o.job = .ok job) (hperform : perform e o job input (s.started o) = (result, s1)) :
      Goes e arguments input s (failureIn result)
        ((conclude e.runtime result s1).1, (conclude e.runtime result s1).2.concluded subscription)

/-- **Every run** goes one of these ways. -/
theorem run_goes (e : Environment) (arguments : List Text) (input : Octets) (s : Session) :
    Goes e arguments input s (failure? e arguments input s) (run e arguments input s) := by
  unfold failure?
  cases hparse : Options.parse arguments with
  | error why =>
    rw [run_eq_stop hparse]
    exact .unparsed hparse
  | ok o =>
    simp only
    cases hjob : o.job with
    | error error =>
      rw [run_eq_stop_usage hparse hjob]
      exact .jobless hparse hjob
    | ok job =>
      simp only
      rw [run_eq_runJob hparse hjob]
      cases hsubscribe : (s.journal.subscribe o.logFile.text? o.level s.disk).1 with
      | error error =>
        rw [runJob_of_unsubscribed job input hsubscribe]
        exact .unsubscribed hparse hjob
      | ok subscription =>
        rw [runJob_eq job input hsubscribe]
        exact .performed hparse hjob rfl

variable {e : Environment} {arguments : List Text} {input : Octets} {s : Session}

/-- What the failure says of the outcome: one that escapes ends the run as it is, and any other gives
the status for what cannot be used. Without one the run is stopped by its arguments, or its status
tells whether a check failed. -/
theorem outcome_of_failure? :
    match failure? e arguments input s with
    | some failure => (failure.Escapes → (run e arguments input s).1 = .failed failure) ∧
        (¬ failure.Escapes → (run e arguments input s).1 = .finished 2)
    | none => (∃ why, run e arguments input s = stop why s) ∨
        (run e arguments input s).1 =
          .finished (if (run e arguments input s).2.anyFailure then 1 else 0) := by
  have hgoes := run_goes e arguments input s
  generalize failure? e arguments input s = ended at hgoes ⊢
  generalize run e arguments input s = after at hgoes ⊢
  cases hgoes with
  | unparsed hparse => exact .inl ⟨_, rfl⟩
  | jobless hparse hjob => exact .inl ⟨_, rfl⟩
  | unsubscribed hparse hjob => exact ⟨fun _ => rfl, fun hnot => absurd trivial hnot⟩
  | @performed _ _ _ result s1 hparse hjob hperform =>
    cases result with
    | ok => exact .inr rfl
    | error failure =>
      constructor
      · intro hescapes
        rw [conclude_of_escapes hescapes]
      · intro hnot
        cases failure with
        | configuration error => rfl
        | line error => rfl
        | _ => exact absurd trivial hnot

/-- A failure that does not escape gives the status for what cannot be used. -/
theorem finished_of_failure? {failure : Failure}
    (h : failure? e arguments input s = some failure) (hstays : ¬ failure.Escapes) :
    (run e arguments input s).1 = .finished 2 := by
  have key := @outcome_of_failure? e arguments input s
  rw [h] at key
  exact key.2 hstays

/-- Only arguments that cannot be used stop a run with a usage error. -/
theorem stopped_iff_misused :
    (∃ error, (run e arguments input s).1 = .stopped (.usage error)) ↔ Misused arguments := by
  have hgoes := run_goes e arguments input s
  generalize failure? e arguments input s = ended at hgoes
  generalize run e arguments input s = after at hgoes ⊢
  have hfits : ∀ {o : Options} {job : Job}, Options.parse arguments = .ok o → o.job = .ok job →
      ¬ Misused arguments := by
    rintro o job hparse hjob (⟨error, herror⟩ | ⟨o', hparse', hparts⟩)
    · rw [hparse] at herror
      cases herror
    · rw [hparse] at hparse'
      cases hparse'
      obtain ⟨error, herror⟩ := (job_eq_error_iff o).mpr hparts
      rw [hjob] at herror
      cases herror
  cases hgoes with
  | @unparsed why hparse =>
    constructor
    · rintro ⟨error, hstopped⟩
      obtain rfl : why = .usage error := Outcome.stopped.inj hstopped
      exact .inl ⟨error, hparse⟩
    · rintro (⟨error, herror⟩ | ⟨o, herror, -⟩)
      · rw [hparse] at herror
        cases herror
        exact ⟨error, rfl⟩
      · rw [hparse] at herror
        cases herror
  | @jobless o error hparse hjob =>
    exact ⟨fun _ => .inr ⟨o, hparse, (job_eq_error_iff o).mp ⟨error, hjob⟩⟩, fun _ => ⟨error, rfl⟩⟩
  | unsubscribed hparse hjob =>
    exact ⟨fun ⟨_, h⟩ => (by cases h), fun h => absurd h (hfits hparse hjob)⟩
  | @performed o job subscription result s1 hparse hjob hperform =>
    refine ⟨fun ⟨error, h⟩ => ?_, fun h => absurd h (hfits hparse hjob)⟩
    exfalso
    unfold conclude at h
    split at h <;> cases h

theorem stop_usage (error : Options.UsageError) (s : Session) :
    (stop (.usage error) s).2 =
      { s with console := s.console ++ Utf8.showSurrogates (Options.Stop.usage error).console } := by
  show Session.complain (s.print []) _ = _
  rw [s.print_nil]
  rfl

/-! ## Top theorem -/

/-- **Runs that end early.** A usage error ends a run exactly if the arguments are misused. Then
there is a complaint on the console, and all else is as it was: what was printed, the journal with
its sinks, the files, the calls to the engine and what it was built from. A configuration error ends
a run before anything is printed and before the engine is asked. The exit status of both is 2. -/
theorem run_before_checks (e : Environment) (arguments : List Text) (input : Octets) (s : Session) :
    let after := run e arguments input s
    ((∃ error, after.1 = .stopped (.usage error)) ↔ Misused arguments) ∧
      (∀ error, after.1 = .stopped (.usage error) →
        after.1.status = 2 ∧ after.2 =
          { s with console := s.console ++
                      Utf8.showSurrogates (Options.Stop.usage error).console }) ∧
      (∀ error, failure? e arguments input s = some (.configuration error) →
        after.1 = .finished 2 ∧ after.1.status = 2 ∧ after.2.output = s.output ∧
          after.2.calls = s.calls) := by
  intro after
  have hgoes := run_goes e arguments input s
  refine ⟨stopped_iff_misused, ?_, ?_⟩
  · intro error hstopped
    refine ⟨by rw [hstopped]; rfl, ?_⟩
    show (run e arguments input s).2 = _
    change (run e arguments input s).1 = _ at hstopped
    generalize run e arguments input s = ran at hgoes hstopped ⊢
    generalize failure? e arguments input s = ended at hgoes
    cases hgoes with
    | @unparsed why hparse =>
      obtain rfl : why = .usage error := Outcome.stopped.inj hstopped
      exact stop_usage error s
    | jobless hparse hjob =>
      obtain rfl := Options.Stop.usage.inj (Outcome.stopped.inj hstopped)
      exact stop_usage _ s
    | unsubscribed hparse hjob => cases hstopped
    | performed hparse hjob hperform =>
      exfalso
      unfold conclude at hstopped
      split at hstopped <;> cases hstopped
  · intro error hfailure
    have houtcome : after.1 = .finished 2 := finished_of_failure? hfailure id
    refine ⟨houtcome, by rw [houtcome]; rfl, ?_⟩
    show (run e arguments input s).2.output = _ ∧ (run e arguments input s).2.calls = _
    rw [hfailure] at hgoes
    generalize run e arguments input s = ran at hgoes ⊢
    generalize hended : some (Failure.configuration error) = ended at hgoes
    cases hgoes with
    | unparsed hparse => cases hended
    | jobless hparse hjob => cases hended
    | unsubscribed hparse hjob => cases hended
    | @performed o job subscription result s1 hparse hjob hperform =>
      cases result with
      | ok => cases hended
      | error failure =>
        obtain rfl := Option.some.inj hended
        -- subscribing to the journal has neither printed nor asked anything
        have hprepared := perform_configuration hperform
        exact ⟨hprepared.output_eq, hprepared.calls_eq⟩

/-- A url without the other two parts, and a rule file that is not there. -/
theorem run_before_checks_of_url_or_rules :
    let e : Environment := { project := .ofText "/", matcher := fun _ _ => .answered {} }
    Misused ["--url=u"] ∧
      (run e ["--url=u"] [] {}).1 = .stopped (.usage .partialRequest) ∧
      (run e ["--url=u"] [] {}).2.output = [] ∧
      failure? e ["--rules", "r.txt"] [] {} =
        some (.configuration (.unreadableRules "r.txt" (.refused .notFound "r.txt"))) ∧
      (run e ["--rules", "r.txt"] [] {}).1 = .finished 2 ∧
      (run e ["--rules", "r.txt"] [] {}).2.calls = [] := by
  intro e
  have hparse : Options.parse ["--url=u"] = .ok { url := .value "u" } := by decide +kernel
  have hstopped : (run e ["--url=u"] [] {}).1 = .stopped (.usage .partialRequest) := by
    unfold run
    rw [hparse]
    rfl
  have hfailure : failure? e ["--rules", "r.txt"] [] {} =
      some (.configuration (.unreadableRules "r.txt" (.refused .notFound "r.txt"))) := by
    decide +kernel
  obtain ⟨hmisused, hsession, -⟩ := run_before_checks e ["--url=u"] [] {}
  obtain ⟨-, -, hconfiguration⟩ := run_before_checks e ["--rules", "r.txt"] [] {}
  obtain ⟨houtcome, -, -, hcalls⟩ := hconfiguration _ hfailure
  refine ⟨hmisused.mp ⟨_, hstopped⟩, hstopped, ?_, hfailure, houtcome, hcalls⟩
  rw [(hsession _ hstopped).2]

end RequestCheck
