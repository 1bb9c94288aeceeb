import RequestCheck.Oracle
import RequestCheck.Proofs.Draining

/-!
# Runs as sequences of checks

Streams may take turns in any order, and single requests may come between them: all that ever
happens to the session of an inspector is that requests are checked, one after the other, and what
has been answered are the verdicts of these checks. So what every check carries on, every run does.

    i.Checks P s items s'    some requests with P were checked between s and s', with these answers
    i.Checks P v.session items (serveAll v turns).session                   (serveAll_checks)
    R s (i.serveAll { session := s } turns).session, if each check has R     (serveAll_carries)

Here the requests with P are those that are given in the turns, directly or on the lines of streams.
-/

namespace RequestCheck

def LineOutcome.items : LineOutcome → List Answered
  | .blank => []
  | .answered r v => [(r, v)]
  | .failed _ => []

namespace Inspector

/-! ## Sequences of checks -/

/-- Between two sessions requests with a property were checked, one after the other, which gave some
answers. A check that failed gives none. -/
inductive Checks (i : Inspector) (P : Request → Prop) :
    Session → List Answered → Session → Prop where
  | refl (s : Session) : Checks i P s [] s
  | error {s s' s'' : Session} {r : Request} {failure : Failure} {items : List Answered}
      (hr : P r) (hcheck : (i.checker s).check r s = (.error failure, s'))
      (rest : Checks i P s' items s'') : Checks i P s items s''
  | ok {s s' s'' : Session} {r : Request} {v : Verdict} {items : List Answered}
      (hr : P r) (hcheck : (i.checker s).check r s = (.ok v, s'))
      (rest : Checks i P s' items s'') : Checks i P s ((r, v) :: items) s''

theorem Checks.trans {i : Inspector} {P : Request → Prop} {s s' s'' : Session}
    {items more : List Answered} (h : i.Checks P s items s') (h' : i.Checks P s' more s'') :
    i.Checks P s (items ++ more) s'' := by
  induction h with
  | refl s => exact h'
  | error hr hcheck rest ih => exact .error hr hcheck (ih h')
  | ok hr hcheck rest ih => exact .ok hr hcheck (ih h')

end Inspector

/-! ## Streams -/

/-- A request on the line has the property. -/
def Line.Within (nesting : Nat) (P : Request → Prop) (line : Line) : Prop :=
  ∀ r, line.request? nesting = some r → P r

/-- All requests that are given in the turn have the property. -/
def Turn.Within (nesting : Nat) (P : Request → Prop) : Turn → Prop
  | .start lines => ∀ line ∈ lines, line.Within nesting P
  | .next _ => True
  | .drain _ => True
  | .close _ => True
  | .check r => P r

/-- All requests that are left in the streams have the property. -/
def Service.Within (nesting : Nat) (P : Request → Prop) (v : Service) : Prop :=
  ∀ k ∈ v.courses, ∀ line ∈ k.stream.rest, line.Within nesting P

theorem Turn.within_true (nesting : Nat) (turn : Turn) : turn.Within nesting fun _ => True := by
  cases turn with
  | start lines => exact fun _ _ _ _ => trivial
  | next stream => trivial
  | drain stream => trivial
  | close stream => trivial
  | check r => trivial

theorem Service.within_true (nesting : Nat) (v : Service) : v.Within nesting fun _ => True :=
  fun _ _ _ _ _ _ => trivial

theorem Service.Within.advance {nesting : Nat} {P : Request → Prop} {v : Service}
    {stream : Nat} {k : Course} {g : RequestStream} {items : List Answered} {ending : Option Ending}
    {s : Session} (h : v.Within nesting P) (hg : ∀ line ∈ g.rest, line.Within nesting P) :
    (v.advance stream k g items ending s).Within nesting P := by
  intro k' hk'
  rcases List.mem_or_eq_of_mem_set hk' with hk' | rfl
  · exact h k' hk'
  · exact hg

theorem Checker.session_of_feed_blank {c : Checker} {number : Nat} {line : Line} {s s' : Session}
    (h : c.feed number line s = (.blank, s')) : s' = s := by
  rw [feed_eq] at h
  split at h
  · cases h
  · cases h; rfl
  · split at h <;> cases h

namespace Inspector

variable {i : Inspector} {s s' : Session} {P : Request → Prop} {lines : List Line}

/-- **One line** is one check, or none. -/
theorem feed_checks {line : Line} {number : Nat} {outcome : LineOutcome}
    (hline : line.Within i.runtime.nesting P)
    (h : (i.checker s).feed number line s = (outcome, s')) : i.Checks P s outcome.items s' := by
  rw [Checker.feed_eq] at h
  split at h
  · cases h; exact Checks.refl s
  · cases h; exact Checks.refl s
  · next r _ hr =>
    split at h
    · next hcheck => cases h; exact Checks.error (hline r hr) hcheck (.refl _)
    · next hcheck => cases h; exact Checks.ok (hline r hr) hcheck (.refl _)

/-- The lines that a drained stream has left are some of those that it had. -/
theorem drainAfter_checks {taken : Nat} {items : List Answered} {ending : Option Failure}
    {g : RequestStream} (hlines : ∀ line ∈ lines, line.Within i.runtime.nesting P)
    (h : i.drainAfter taken s lines = (items, ending, g, s')) :
    i.Checks P s items s' ∧ ∀ line ∈ g.rest, line ∈ lines := by
  induction lines generalizing taken s items with
  | nil => cases h; exact ⟨Checks.refl _, fun line hline => hline⟩
  | cons line rest ih =>
    have hrest : ∀ line ∈ rest, line.Within i.runtime.nesting P :=
      fun l hl => hlines l (List.mem_cons_of_mem _ hl)
    simp only [drainAfter] at h
    cases hf : (i.checker s).feed (taken + 1) line s with
    | mk outcome s1 =>
      have hfeed := feed_checks (hlines line List.mem_cons_self) hf
      rw [hf] at h
      cases outcome with
      | blank =>
        obtain ⟨hchecks, hmem⟩ := ih hrest h
        exact ⟨hfeed.trans hchecks, fun l hl => List.mem_cons_of_mem _ (hmem l hl)⟩
      | failed failure =>
        cases h
        exact ⟨hfeed, fun l hl => List.mem_cons_of_mem _ hl⟩
      | answered r v =>
        cases hd : i.drainAfter (taken + 1) s1 rest with
        | mk more behind =>
          obtain ⟨ending', g', s2⟩ := behind
          simp only [hd] at h
          cases h
          obtain ⟨hchecks, hmem⟩ := ih hrest hd
          exact ⟨hfeed.trans hchecks, fun l hl => List.mem_cons_of_mem _ (hmem l hl)⟩

/-- A step to the next answer passes over blank lines, which change nothing. -/
theorem nextAfter_checks {taken : Nat} {step : StreamStep} {g : RequestStream}
    (hlines : ∀ line ∈ lines, line.Within i.runtime.nesting P)
    (h : (i.checker s).nextAfter taken s lines = (step, g, s')) :
    i.Checks P s step.items s' ∧ ∀ line ∈ g.rest, line ∈ lines := by
  induction lines generalizing taken with
  | nil => cases h; exact ⟨Checks.refl s, fun line hline => hline⟩
  | cons line rest ih =>
    have hrest : ∀ line ∈ rest, line.Within i.runtime.nesting P :=
      fun l hl => hlines l (List.mem_cons_of_mem _ hl)
    simp only [Checker.nextAfter] at h
    cases hf : (i.checker s).feed (taken + 1) line s with
    | mk outcome s1 =>
      have hfeed := feed_checks (hlines line List.mem_cons_self) hf
      rw [hf] at h
      cases outcome with
      | blank =>
        rw [Checker.session_of_feed_blank hf] at h
        obtain ⟨hchecks, hmem⟩ := ih hrest h
        exact ⟨hchecks, fun l hl => List.mem_cons_of_mem _ (hmem l hl)⟩
      | failed failure =>
        cases h
        exact ⟨hfeed, fun l hl => List.mem_cons_of_mem _ hl⟩
      | answered r v =>
        cases h
        exact ⟨hfeed, fun l hl => List.mem_cons_of_mem _ hl⟩

variable {g g' : RequestStream}

/-- A step of a stream is one check, or none. -/
theorem next_checks {step : StreamStep} (hg : ∀ line ∈ g.rest, line.Within i.runtime.nesting P)
    (h : (i.checker s).next g s = (step, g', s')) :
    i.Checks P s step.items s' ∧ ∀ line ∈ g'.rest, line.Within i.runtime.nesting P := by
  unfold Checker.next at h
  split at h
  · cases h; exact ⟨Checks.refl _, hg⟩
  · obtain ⟨hchecks, hmem⟩ := nextAfter_checks hg h
    exact ⟨hchecks, fun line hline => hg line (hmem line hline)⟩

/-- Draining a stream is a sequence of checks. -/
theorem drain_checks {items : List Answered} {ending : Option Failure}
    (hg : ∀ line ∈ g.rest, line.Within i.runtime.nesting P)
    (h : i.drain g s = (items, ending, g', s')) :
    i.Checks P s items s' ∧ ∀ line ∈ g'.rest, line.Within i.runtime.nesting P := by
  unfold drain at h
  split at h
  · cases h; exact ⟨Checks.refl _, hg⟩
  · obtain ⟨hchecks, hmem⟩ := drainAfter_checks hg h
    exact ⟨hchecks, fun line hline => hg line (hmem line hline)⟩

/-! ## Turns -/

/-- What a service comes to by checks of requests with a property. -/
structure Leads (i : Inspector) (P : Request → Prop) (v v' : Service) : Prop where
  checks : ∃ items, i.Checks P v.session items v'.session ∧ v'.answered = v.answered ++ items
  within : v'.Within i.runtime.nesting P

variable {v : Service}

/-- **One turn** is a sequence of checks. -/
theorem serve_checks (hv : v.Within i.runtime.nesting P) {turn : Turn}
    (hturn : turn.Within i.runtime.nesting P) :
    i.Leads P v (i.serve v turn) := by
  have same : ∀ v' : Service, v'.session = v.session → v'.answered = v.answered →
      v'.Within i.runtime.nesting P → i.Leads P v v' := by
    intro v' hsession hanswered hwithin
    refine ⟨⟨[], ?_, ?_⟩, hwithin⟩
    · rw [hsession]; exact Checks.refl _
    · rw [hanswered, List.append_nil]
  cases turn with
  | start lines =>
    refine same _ rfl rfl fun k hk => ?_
    rcases List.mem_append.mp hk with hk | hk
    · exact hv k hk
    · rw [List.mem_singleton.mp hk]; exact hturn
  | next stream =>
    cases hk : v.courses[stream]? with
    | none =>
      have hserve : i.serve v (.next stream) = v := by simp only [serve, Checker.serve, hk]
      exact same _ (by rw [hserve]) (by rw [hserve]) (by rw [hserve]; exact hv)
    | some k =>
      cases hn : (i.checker v.session).next k.stream v.session with
      | mk step behind =>
        obtain ⟨g, s1⟩ := behind
        have hserve : i.serve v (.next stream) =
            v.advance stream k g step.items step.ending? s1 := by
          simp only [serve, Checker.serve, hk, hn]
        obtain ⟨hchecks, hg⟩ := next_checks (hv k (List.mem_of_getElem? hk)) hn
        rw [hserve]
        exact ⟨⟨step.items, hchecks, rfl⟩, hv.advance hg⟩
  | drain stream =>
    cases hk : v.courses[stream]? with
    | none =>
      have hserve : i.serve v (.drain stream) = v := by simp only [serve, hk]
      exact same _ (by rw [hserve]) (by rw [hserve]) (by rw [hserve]; exact hv)
    | some k =>
      cases hd : i.drain k.stream v.session with
      | mk items behind =>
        obtain ⟨ending, g, s1⟩ := behind
        have hserve : i.serve v (.drain stream) =
            v.advance stream k g items (some (.ran ending)) s1 := by
          simp only [serve, hk, hd]
        obtain ⟨hchecks, hg⟩ := drain_checks (hv k (List.mem_of_getElem? hk)) hd
        rw [hserve]
        exact ⟨⟨items, hchecks, rfl⟩, hv.advance hg⟩
  | close stream =>
    simp only [serve, Checker.serve]
    cases hk : v.courses[stream]? with
    | none => exact same v rfl rfl hv
    | some k =>
      exact same _ rfl (List.append_nil _) (hv.advance (hv k (List.mem_of_getElem? hk)))
  | check r =>
    simp only [serve, Checker.serve]
    cases hcheck : (i.checker v.session).check r v.session with
    | mk result s1 =>
      cases result with
      | error failure =>
        exact ⟨⟨[], Checks.error hturn hcheck (.refl _), (List.append_nil _).symm⟩, hv⟩
      | ok verdict => exact ⟨⟨[(r, verdict)], Checks.ok hturn hcheck (.refl _), rfl⟩, hv⟩

/-- **All turns** are a sequence of checks. -/
theorem serveAll_checks (hv : v.Within i.runtime.nesting P) {turns : List Turn}
    (hturns : ∀ turn ∈ turns, turn.Within i.runtime.nesting P) : i.Leads P v (i.serveAll v turns) := by
  induction turns generalizing v with
  | nil => exact ⟨⟨[], Checks.refl _, (List.append_nil _).symm⟩, hv⟩
  | cons turn turns ih =>
    obtain ⟨⟨items, hchecks, hanswered⟩, hwithin⟩ :=
      serve_checks (i := i) hv (hturns turn List.mem_cons_self)
    obtain ⟨⟨more, hmore, hanswered'⟩, hwithin'⟩ :=
      ih hwithin fun t ht => hturns t (List.mem_cons_of_mem _ ht)
    refine ⟨⟨items ++ more, hchecks.trans hmore, ?_⟩, hwithin'⟩
    show (i.serveAll (i.serve v turn) turns).answered = _
    rw [hanswered', hanswered, List.append_assoc]

/-- What every check carries on, any number of them do. -/
theorem Checks.carries {items : List Answered} {R : Session → Session → Prop}
    (hR : ∀ c : Checker, c.Carries R) (h : i.Checks P s items s') : R s s' := by
  have hcheck : ∀ r s, R s ((i.checker s).check r s).2 := fun r s =>
    (hR _).ask .stream r.query r s
  induction h with
  | refl s => exact (hR (i.checker s)).refl s
  | @error s _ _ r _ _ _ hresult _ ih =>
    have hfirst := hcheck r s
    rw [hresult] at hfirst
    exact (hR (i.checker s)).trans hfirst ih
  | @ok s _ _ r _ _ _ hresult _ ih =>
    have hfirst := hcheck r s
    rw [hresult] at hfirst
    exact (hR (i.checker s)).trans hfirst ih

/-- **What every check carries on**, any number of turns do. -/
theorem serveAll_carries {R : Session → Session → Prop} (hR : ∀ c : Checker, c.Carries R)
    (i : Inspector) (s : Session) (turns : List Turn) :
    R s (i.serveAll { session := s } turns).session := by
  have hturns : ∀ turn ∈ turns, turn.Within i.runtime.nesting fun _ => True :=
    fun turn _ => turn.within_true _
  obtain ⟨⟨items, hchecks, -⟩, -⟩ :=
    @serveAll_checks i _ { session := s } (Service.within_true _ _) _ hturns
  exact hchecks.carries hR

end Inspector

end RequestCheck
