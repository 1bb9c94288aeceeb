import RequestCheck.Checker

/-!
# What a check comes to

A check reads the clock, asks the engine once, and reads the clock again unless the answer does not
say whether the request matched. Without a metrics file the verdict depends on the engine and on
what it is asked alone, and there is a verdict unless

* the engine's answer does not say whether the request matched, or
* the difference of the two readings is no whole number of milliseconds.

    e.verdict? q                     the verdict on q, if the engine decides
    (ask o q r s).1 = that verdict, or else a failure       (ask_result)
    (ask o q r s).2.calls = s.calls ++ [q]                  (ask_calls)
-/

namespace RequestCheck

/-! ## Readings of a clock -/

namespace Clock

/-- The reading that a clock gives after so many others. -/
def reading (c : Clock) : Nat → Reading
  | 0 => c.next.1
  | n + 1 => reading c.next.2 n

/-- The clock behind so many readings. -/
def behind (c : Clock) : Nat → Clock
  | 0 => c
  | n + 1 => behind c.next.2 n

/-- Between any two readings that follow each other lies a whole number of milliseconds. -/
def Steady (c : Clock) : Prop :=
  ∀ n, ∃ latency, Reading.milliseconds (c.reading n) (c.reading (n + 1)) = .ok latency

theorem reading_add (c : Clock) (m n : Nat) : c.reading (m + n) = (c.behind m).reading n := by
  induction m generalizing c with
  | zero => rw [Nat.zero_add]; rfl
  | succ m ih => rw [Nat.succ_add]; exact ih c.next.2

theorem behind_add (c : Clock) (m n : Nat) : c.behind (m + n) = (c.behind m).behind n := by
  induction m generalizing c with
  | zero => rw [Nat.zero_add]; rfl
  | succ m ih => rw [Nat.succ_add]; exact ih c.next.2

theorem Steady.behind {c : Clock} (h : c.Steady) (n : Nat) : (c.behind n).Steady := by
  intro m
  rw [← reading_add, ← reading_add]
  exact h (n + m)

/-- Whole numbers of seconds are always a whole number of milliseconds apart. -/
theorem steady_whole (seconds : List Int) : Steady (seconds.map .whole) := by
  have key : ∀ (n : Nat) (l : List Int), ∃ a, reading (l.map .whole) n = .whole a := by
    intro n
    induction n with
    | zero =>
      rintro (_ | ⟨a, _ | ⟨b, l⟩⟩)
      · exact ⟨0, rfl⟩
      · exact ⟨a, rfl⟩
      · exact ⟨a, rfl⟩
    | succ n ih =>
      rintro (_ | ⟨a, _ | ⟨b, l⟩⟩)
      · exact ih []
      · exact ih [a]
      · exact ih (b :: l)
  intro n
  obtain ⟨a, ha⟩ := key n seconds
  obtain ⟨b, hb⟩ := key (n + 1) seconds
  exact ⟨(b - a) * 1000, by rw [ha, hb]; rfl⟩

end Clock

/-! ## Verdicts of an engine -/

namespace Engine

/-- The verdict that a check comes to: a failed one if the engine rejects what it is asked. -/
def verdict? (e : Engine) (q : Query) : Option Verdict :=
  match e.check q with
  | .ok v => some v
  | .error (.rejected message _) => some (.failure message)
  | .error .undecided => none

/-- An engine that decides says that there was no error. -/
theorem error_of_check {e : Engine} {q : Query} {v : Verdict} (h : e.check q = .ok v) :
    v.error = none := by
  unfold check Reply.verdict at h
  split at h
  · cases h
  · unfold Answer.verdict at h
    split at h
    · cases h
    · split at h
      · cases h
      · cases h; rfl

end Engine

/-! ## What a check leaves behind -/

namespace Checker

/-- The session with a diagnostic and the mark of a failure, if a verdict is a failed one. -/
def note (c : Checker) (origin : Origin) (r : Request) (v : Verdict) (s : Session) : Session :=
  match v.error with
  | some message =>
    { s.log c.runtime origin .error (rejection r message) with anyFailure := true }
  | none => s

variable (c : Checker) (origin : Origin) (q : Engine.Query) (r : Request) (v : Verdict)
variable (s : Session)

/-- **One check.** Everything that a check can do, by the verdict that it comes to. -/
theorem ask_eq :
    c.ask origin q r s =
      match c.engine.verdict? q with
      | none => (.error .undecided, s.tick.2.call q)
      | some v =>
        c.finish origin r q.type s.tick.1 v (c.note origin r v (s.tick.2.call q)) := by
  unfold ask Engine.verdict?
  cases h : c.engine.check q with
  | ok v => simp only [note, Engine.error_of_check h]
  | error error =>
    cases error with
    | undecided => rfl
    | rejected message cause => rfl

theorem note_calls : (c.note origin r v s).calls = s.calls := by
  unfold note
  split <;> rfl

theorem note_clock : (c.note origin r v s).clock = s.clock := by
  unfold note
  split <;> rfl

theorem note_anyFailure : (c.note origin r v s).anyFailure = (s.anyFailure || v.failed) := by
  unfold note Verdict.failed
  split
  · next message h => rw [h, Option.isSome_some, Bool.or_true]
  · next h => rw [h, Option.isSome_none, Bool.or_false]

/-- A metrics row changes the disk alone. -/
theorem record_session (type : Text) (latency : Int) :
    ∃ d, (c.record r type latency v s).2 = { s with disk := d } := by
  unfold record
  split
  · exact ⟨s.disk, rfl⟩
  · split
    · next d _ => exact ⟨d, rfl⟩
    · next d _ => exact ⟨d, rfl⟩

/-- What follows the engine's answer takes one more reading, and touches neither the calls nor the
mark of a failure. -/
theorem finish_session (type : Text) (start : Reading) :
    (c.finish origin r type start v s).2.calls = s.calls ∧
      (c.finish origin r type start v s).2.clock = s.clock.behind 1 ∧
      (c.finish origin r type start v s).2.anyFailure = s.anyFailure := by
  unfold finish
  simp only []
  split
  · exact ⟨rfl, rfl, rfl⟩
  · next latency _ =>
    obtain ⟨d, hd⟩ :=
      c.record_session r v (s.tick.2.log c.runtime origin .debug (trace r type v)) type latency
    rw [hd]
    exact ⟨rfl, rfl, rfl⟩

/-- Every check is one call to the engine. -/
theorem ask_calls : (c.ask origin q r s).2.calls = s.calls ++ [q] := by
  rw [ask_eq]
  split
  · rfl
  · next v _ => rw [(c.finish_session origin r v _ _ _).1, note_calls]; rfl

theorem ask_clock :
    (c.ask origin q r s).2.clock = s.clock.behind (if (c.engine.verdict? q).isSome then 2 else 1) := by
  rw [ask_eq]
  split
  · next h => rw [h]; rfl
  · next v h => rw [(c.finish_session origin r v _ _ _).2.1, note_clock, h]; rfl

/-- The mark of a failure is set by failed verdicts, and is never taken back. -/
theorem ask_anyFailure :
    (c.ask origin q r s).2.anyFailure =
      (s.anyFailure || (c.engine.verdict? q).any Verdict.failed) := by
  rw [ask_eq]
  split
  · next h => rw [h, Option.any_none, Bool.or_false]; rfl
  · next v h =>
    rw [(c.finish_session origin r v _ _ _).2.2, note_anyFailure, h, Option.any_some]
    rfl

/-- Without a metrics file, a check gives the verdict that the engine comes to, unless something
is wrong with the answer or with the two readings. -/
theorem ask_result (e : Engine) (runtime : Runtime) :
    (ask { engine := e, runtime } origin q r s).1 =
      match e.verdict? q with
      | none => .error .undecided
      | some v =>
        match Reading.milliseconds (s.clock.reading 0) (s.clock.reading 1) with
        | .error error => .error (.latency error)
        | .ok _ => .ok v := by
  rw [ask_eq]
  simp only []
  split
  · rfl
  · next v _ =>
    unfold finish
    have hstop : (note { engine := e, runtime } origin r v (s.tick.2.call q)).tick.1 =
        s.clock.reading 1 := by
      unfold Session.tick
      rw [note_clock]
      rfl
    simp only [hstop]
    show (match Reading.milliseconds (s.clock.reading 0) (s.clock.reading 1) with
      | .error error => _ | .ok latency => _ : Except Failure Verdict × Session).1 = _
    split <;> rfl

end Checker

end RequestCheck
