import RequestCheck.Proofs.Lines
import RequestCheck.RequestStream

/-!
# Draining a stream

A stream is drained line by line, and stops at the first line that is malformed or whose check
fails. The answers are those to the lines before it that are not blank, in order; an answer depends
on the line and the engine alone. Nothing behind the line where the stream stops is taken, and the
engine is asked once for every line with a request up to there.

    e.answer? k l          the request on the line l with its verdict, on the runtime k
    e.outcome k n l a b    what comes of line n, if the clock reads a and b
    e.firstStop? k c ls    the first of the lines ls that ends a stream, and why
    drain (.ofLines ls) s = the answers to the lines before firstStop?   (drain_ofLines)
-/

namespace RequestCheck

/-! ## Where a stream stops -/

namespace Engine

/-- The request on a line with the verdict that a check of it comes to. -/
def answer? (e : Engine) (k : Runtime) (line : Line) : Option Answered :=
  (line.request? k.nesting).bind fun r => (e.verdict? r.query).map fun v => (r, v)

/-- What comes of the line of a number, given the readings before and after its check. -/
def outcome (e : Engine) (k : Runtime) (number : Nat) (line : Line) (start stop : Reading) :
    LineOutcome :=
  match line.fault? k.nesting number, line.request? k.nesting with
  | some failure, _ => .failed failure
  | none, none => .blank
  | none, some r =>
    match e.verdict? r.query with
    | none => .failed .undecided
    | some v =>
      match Reading.milliseconds start stop with
      | .error error => .failed (.latency error)
      | .ok _ => .answered r v

/-- Why a line ends a stream that no line before it has ended. Each of those that is not blank has
taken two readings. -/
def stopAt? (e : Engine) (k : Runtime) (clock : Clock) (before : List Line) (line : Line) :
    Option Failure :=
  let readings := 2 * (Line.filled before).length
  match e.outcome k (before.length + 1) line (clock.reading readings)
      (clock.reading (readings + 1)) with
  | .failed failure => some failure
  | .blank => none
  | .answered _ _ => none

/-- The first line that ends a stream: how many lines are before it, and why it does. -/
def firstStop? (e : Engine) (k : Runtime) (clock : Clock) (lines : List Line) :
    Option (Nat × Failure) :=
  (List.range lines.length).findSome? fun i =>
    (lines[i]?.bind (e.stopAt? k clock (lines.take i))).map fun failure => (i, failure)

end Engine

/-! ## Feeding and draining -/

namespace Checker

/-- What comes of a line is a matter of the line, the engine and the next two readings. -/
theorem feed_outcome (e : Engine) (k : Runtime) (number : Nat) (line : Line) (s : Session) :
    (feed { engine := e, runtime := k } number line s).1 =
      e.outcome k number line (s.clock.reading 0) (s.clock.reading 1) := by
  rw [feed_eq]
  unfold Engine.outcome
  cases line.fault? k.nesting number with
  | some failure => rfl
  | none =>
    cases line.request? k.nesting with
    | none => rfl
    | some r =>
      have key := ask_result .stream r.query r s e k
      simp only [check]
      cases hask : ask { engine := e, runtime := k } .stream r.query r s with
      | mk result s' =>
        rw [hask] at key
        simp only at key
        rw [key]
        cases e.verdict? r.query with
        | none => rfl
        | some v => cases Reading.milliseconds (s.clock.reading 0) (s.clock.reading 1) <;> rfl

variable (c : Checker) (number : Nat) (line : Line) (s : Session)

/-- The session behind a line is the one behind the check of its request, if it holds one. -/
theorem feed_session :
    (c.feed number line s).2 =
      match line.request? c.runtime.nesting with
      | none => s
      | some r => (c.check r s).2 := by
  rw [feed_eq]
  cases hfault : line.fault? c.runtime.nesting number with
  | some failure =>
    have hm : line.isMalformed c.runtime.nesting = true := by
      rw [← line.fault?_isSome number, hfault]
      rfl
    rw [Line.request?_eq_none_of_isMalformed hm]
  | none =>
    cases line.request? c.runtime.nesting with
    | none => rfl
    | some r =>
      simp only []
      split
      · next h => rw [h]
      · next h => rw [h]

/-- The engine is asked about a line that holds a request, and about no other. -/
theorem feed_calls :
    (c.feed number line s).2.calls =
      s.calls ++ ((line.request? c.runtime.nesting).map Request.query).toList := by
  rw [feed_session]
  cases line.request? c.runtime.nesting with
  | none => rw [Option.map_none, Option.toList_none, List.append_nil]
  | some r => rw [Option.map_some, Option.toList_some]; exact c.ask_calls .stream r.query r s

theorem feed_clock :
    (c.feed number line s).2.clock =
      match line.request? c.runtime.nesting with
      | none => s.clock
      | some r => s.clock.behind (if (c.engine.verdict? r.query).isSome then 2 else 1) := by
  rw [feed_session]
  cases line.request? c.runtime.nesting with
  | none => rfl
  | some r => exact c.ask_clock .stream r.query r s

theorem feed_anyFailure :
    (c.feed number line s).2.anyFailure =
      (s.anyFailure || (c.engine.answer? c.runtime line).any fun item => item.2.failed) := by
  rw [feed_session]
  unfold Engine.answer?
  cases line.request? c.runtime.nesting with
  | none => rw [Option.bind_none, Option.any_none, Bool.or_false]
  | some r =>
    have key := c.ask_anyFailure .stream r.query r s
    rw [Option.bind_some]
    cases hv : c.engine.verdict? r.query with
    | none => rw [hv] at key; exact key
    | some v => rw [hv] at key; exact key

theorem drain_start (lines : List Line) : c.drain (.ofLines lines) s = c.drainAfter 0 s lines := rfl

/-- Every check leads to a session that stands in the relation to the one before it; the relation is
passed on from check to check. -/
structure Carries (c : Checker) (R : Session → Session → Prop) : Prop where
  refl : ∀ s, R s s
  trans : ∀ {s s' s''}, R s s' → R s' s'' → R s s''
  ask : ∀ origin q r s, R s (c.ask origin q r s).2

theorem Carries.feed {c : Checker} {R : Session → Session → Prop} (h : c.Carries R) (number : Nat)
    (line : Line) (s : Session) : R s (c.feed number line s).2 := by
  rw [feed_session]
  cases line.request? c.runtime.nesting with
  | none => exact h.refl s
  | some r => exact h.ask .stream r.query r s

/-- **What every check carries on**, all lines of a stream do. -/
theorem Carries.drainAfter {c : Checker} {R : Session → Session → Prop} (h : c.Carries R)
    (taken : Nat) (s : Session) (lines : List Line) :
    R s (c.drainAfter taken s lines).2.2.2 := by
  induction lines generalizing taken s with
  | nil => exact h.refl s
  | cons line lines ih =>
    have hfeed := h.feed (taken + 1) line s
    simp only [Checker.drainAfter]
    cases hf : c.feed (taken + 1) line s with
    | mk outcome s1 =>
      rw [hf] at hfeed
      cases outcome with
      | blank => exact h.trans hfeed (ih (taken + 1) s1)
      | failed failure => exact hfeed
      | answered r v => exact h.trans hfeed (ih (taken + 1) s1)

/-- From two sessions that stand in a relation, every check comes to the same and leads to two sessions
that stand in it. -/
def Lockstep (c : Checker) (R : Session → Session → Prop) : Prop :=
  ∀ origin q r {s s'}, R s s' → (c.ask origin q r s').1 = (c.ask origin q r s).1 ∧
    R (c.ask origin q r s).2 (c.ask origin q r s').2

theorem Lockstep.feed {c : Checker} {R : Session → Session → Prop} (h : c.Lockstep R)
    (number : Nat) (line : Line) {s s' : Session} (hs : R s s') :
    (c.feed number line s').1 = (c.feed number line s).1 ∧
      R (c.feed number line s).2 (c.feed number line s').2 := by
  rw [feed_eq, feed_eq]
  cases line.fault? c.runtime.nesting number with
  | some failure => exact ⟨rfl, hs⟩
  | none =>
    cases line.request? c.runtime.nesting with
    | none => exact ⟨rfl, hs⟩
    | some r =>
      obtain ⟨hresult, hrest⟩ := h .stream r.query r hs
      simp only [check]
      cases hask : c.ask .stream r.query r s with
      | mk result s1 =>
        cases hask' : c.ask .stream r.query r s' with
        | mk result' s1' =>
          rw [hask, hask'] at hresult hrest
          obtain rfl : result' = result := hresult
          cases result' <;> exact ⟨rfl, hrest⟩

/-- **What comes of all lines** is the same from two sessions that every check takes the same way. -/
theorem Lockstep.drainAfter {c : Checker} {R : Session → Session → Prop} (h : c.Lockstep R)
    (taken : Nat) (lines : List Line) {s s' : Session} (hs : R s s') :
    (c.drainAfter taken s' lines).1 = (c.drainAfter taken s lines).1 ∧
      (c.drainAfter taken s' lines).2.1 = (c.drainAfter taken s lines).2.1 ∧
      (c.drainAfter taken s' lines).2.2.1 = (c.drainAfter taken s lines).2.2.1 ∧
      R (c.drainAfter taken s lines).2.2.2 (c.drainAfter taken s' lines).2.2.2 := by
  induction lines generalizing taken s s' with
  | nil => exact ⟨rfl, rfl, rfl, hs⟩
  | cons line lines ih =>
    obtain ⟨houtcome, hrest⟩ := h.feed (taken + 1) line hs
    simp only [Checker.drainAfter]
    cases hf : c.feed (taken + 1) line s with
    | mk outcome s1 =>
      cases hf' : c.feed (taken + 1) line s' with
      | mk outcome' s1' =>
        rw [hf, hf'] at houtcome hrest
        obtain rfl : outcome' = outcome := houtcome
        cases outcome' with
        | blank => exact ih (taken + 1) hrest
        | failed failure => exact ⟨rfl, rfl, rfl, hrest⟩
        | answered r v =>
          obtain ⟨hitems, hend⟩ := ih (taken + 1) hrest
          exact ⟨congrArg ((r, v) :: ·) hitems, hend⟩

/-- Draining goes on behind lines that it has taken to their end. -/
theorem drainAfter_append (taken : Nat) (a b : List Line) :
    c.drainAfter taken s (a ++ b) =
      match c.drainAfter taken s a with
      | (items, some failure, g, s) => (items, some failure, { g with rest := g.rest ++ b }, s)
      | (items, none, g, s) =>
        let (more, ending, g, s) := c.drainAfter g.taken s b
        (items ++ more, ending, g, s) := by
  induction a generalizing taken s with
  | nil => rfl
  | cons line a ih =>
    simp only [List.cons_append, drainAfter]
    cases hfeed : c.feed (taken + 1) line s with
    | mk outcome s' =>
      cases outcome with
      | blank => exact ih s' (taken + 1)
      | failed failure => rfl
      | answered r v =>
        simp only [ih s' (taken + 1)]
        cases hd : c.drainAfter (taken + 1) s' a with
        | mk items rest =>
          obtain ⟨ending, g, s''⟩ := rest
          cases ending <;> rfl

/-- A stream that is drained to its end without a failure has taken all its lines. -/
theorem drainAfter_ended {taken : Nat} {lines : List Line} {items : List Answered}
    {g : RequestStream} {s s' : Session} (h : c.drainAfter taken s lines = (items, none, g, s')) :
    g = { rest := [], taken := taken + lines.length, isOver := true } := by
  induction lines generalizing taken s items with
  | nil => cases h; rfl
  | cons line lines ih =>
    have hlen : taken + (line :: lines).length = taken + 1 + lines.length := by
      rw [List.length_cons]; omega
    rw [hlen]
    simp only [drainAfter] at h
    cases hfeed : c.feed (taken + 1) line s with
    | mk outcome s1 =>
      rw [hfeed] at h
      cases outcome with
      | blank => exact ih h
      | failed failure => cases h
      | answered r v =>
        cases hd : c.drainAfter (taken + 1) s1 lines with
        | mk more rest =>
          obtain ⟨ending, g', s2⟩ := rest
          simp only [hd] at h
          cases h
          exact ih hd

end Checker

/-! ## What has been answered -/

/-- Between two sessions lines were answered with some items: one for each line that is not blank,
each with one call to the engine and two readings of the clock. -/
structure Answers (e : Engine) (k : Runtime) (lines : List Line) (s : Session) (items : List Answered)
    (s' : Session) : Prop where
  items_eq : (Line.filled lines).map (e.answer? k) = items.map some
  calls_eq : s'.calls = s.calls ++ items.map fun item => item.1.query
  clock_eq : s'.clock = s.clock.behind (2 * items.length)
  anyFailure_eq : s'.anyFailure = (s.anyFailure || items.any fun item => item.2.failed)

namespace Answers

variable {e : Engine} {k : Runtime} {lines : List Line} {s s' : Session} {items : List Answered}

theorem nil (s : Session) : Answers e k [] s [] s :=
  { items_eq := rfl
    calls_eq := by rw [List.map_nil, List.append_nil]
    clock_eq := rfl
    anyFailure_eq := by rw [List.any_nil, Bool.or_false] }

theorem length_filled (h : Answers e k lines s items s') :
    (Line.filled lines).length = items.length := by
  have key := congrArg List.length h.items_eq
  rw [List.length_map, List.length_map] at key
  exact key

/-- The readings behind the answers follow those that the answers have taken. -/
theorem reading_eq (h : Answers e k lines s items s') (n : Nat) :
    s'.clock.reading n = s.clock.reading (2 * (Line.filled lines).length + n) := by
  rw [h.length_filled, Clock.reading_add, h.clock_eq]

/-- Lines that are answered one after the other are answered together. -/
theorem append {more : List Line} {others : List Answered} {s'' : Session}
    (h : Answers e k lines s items s') (h' : Answers e k more s' others s'') :
    Answers e k (lines ++ more) s (items ++ others) s'' where
  items_eq := by
    unfold Line.filled at *
    rw [List.filter_append, List.map_append, List.map_append, ← h.items_eq, ← h'.items_eq]
    rfl
  calls_eq := by rw [h'.calls_eq, h.calls_eq, List.map_append, List.append_assoc]
  clock_eq := by
    rw [h'.clock_eq, h.clock_eq, ← Clock.behind_add, List.length_append, Nat.mul_add]
  anyFailure_eq := by rw [h'.anyFailure_eq, h.anyFailure_eq, List.any_append, Bool.or_assoc]

end Answers

namespace Checker

variable {e : Engine} {k : Runtime} {line : Line} {number : Nat} {s : Session}

/-- A line that does not end the stream is answered, unless it is blank. -/
theorem feed_answers
    (h : ∀ failure, (feed { engine := e, runtime := k } number line s).1 ≠ .failed failure) :
    Answers e k [line] s (e.answer? k line).toList
        (feed { engine := e, runtime := k } number line s).2 ∧
      (feed { engine := e, runtime := k } number line s).1 =
        match e.answer? k line with
        | none => .blank
        | some (r, v) => .answered r v := by
  have hout := feed_outcome e k number line s
  have hcalls := feed_calls { engine := e, runtime := k } number line s
  have hclock := feed_clock { engine := e, runtime := k } number line s
  have hany := feed_anyFailure { engine := e, runtime := k } number line s
  unfold Engine.outcome at hout
  cases hfault : line.fault? k.nesting number with
  | some failure => rw [hfault] at hout; exact absurd hout (h failure)
  | none =>
    have hm := (line.fault?_eq_none_iff number).mp hfault
    rw [hfault] at hout
    cases hrequest : line.request? k.nesting with
    | none =>
      have hblank : line.isBlank = true := Line.isBlank_of_request? hm hrequest
      have hanswer : e.answer? k line = none := by unfold Engine.answer?; rw [hrequest]; rfl
      rw [hrequest] at hout hcalls hclock
      rw [hanswer] at hany ⊢
      refine ⟨⟨?_, hcalls, hclock, hany⟩, hout⟩
      rw [Line.filled_singleton, hblank]
      rfl
    | some r =>
      have hblank : line.isBlank = false := Line.isBlank_eq_false_of_request? hrequest
      rw [hrequest] at hout hcalls hclock
      simp only at hout
      cases hv : e.verdict? r.query with
      | none => rw [hv] at hout; exact absurd hout (h .undecided)
      | some v =>
        have hanswer : e.answer? k line = some (r, v) := by
          unfold Engine.answer?
          rw [hrequest, Option.bind_some, hv]
          rfl
        rw [hanswer] at hany ⊢
        simp only [hv] at hclock hout
        refine ⟨⟨?_, hcalls, hclock, ?_⟩, ?_⟩
        · rw [Line.filled_singleton, hblank]
          show [e.answer? k line] = _
          rw [hanswer]
          rfl
        · rw [hany, Option.any_some, Option.toList_some, List.any_cons, List.any_nil, Bool.or_false]
        · split at hout
          · next error _ => exact absurd hout (h _)
          · exact hout

/-- What stops a stream behind lines that were answered. -/
theorem stopAt?_of_answers {lines : List Line} {items : List Answered} {s s' : Session}
    (h : Answers e k lines s items s') (line : Line) :
    e.stopAt? k s.clock lines line =
      match (feed { engine := e, runtime := k } (lines.length + 1) line s').1 with
      | .failed failure => some failure
      | .blank => none
      | .answered _ _ => none := by
  rw [feed_outcome, h.reading_eq, h.reading_eq]
  rfl

/-- Lines that are drained without a failure have been answered. -/
theorem drainAfter_answers {taken : Nat} {lines : List Line} {items : List Answered}
    {g : RequestStream} {s s' : Session}
    (h : drainAfter { engine := e, runtime := k } taken s lines = (items, none, g, s')) :
    Answers e k lines s items s' := by
  induction lines generalizing taken s items with
  | nil => cases h; exact Answers.nil _
  | cons line lines ih =>
    have hfeed := @feed_answers e k line (taken + 1) s
    simp only [drainAfter] at h
    cases hf : feed { engine := e, runtime := k } (taken + 1) line s with
    | mk outcome s1 =>
      rw [hf] at h hfeed
      cases outcome with
      | failed failure => cases h
      | blank =>
        obtain ⟨hanswers, hout⟩ := hfeed fun failure hne => by cases hne
        have hnone : e.answer? k line = none := by
          cases hanswer : e.answer? k line with
          | none => rfl
          | some item => rw [hanswer] at hout; cases hout
        rw [hnone] at hanswers
        exact hanswers.append (ih h)
      | answered r v =>
        obtain ⟨hanswers, hout⟩ := hfeed fun failure hne => by cases hne
        have hsome : e.answer? k line = some (r, v) := by
          cases hanswer : e.answer? k line with
          | none => rw [hanswer] at hout; cases hout
          | some item => rw [hanswer] at hout; cases hout; rfl
        rw [hsome] at hanswers
        cases hd : drainAfter { engine := e, runtime := k } (taken + 1) s1 lines with
        | mk more rest =>
          obtain ⟨ending, g', s2⟩ := rest
          simp only [hd] at h
          cases h
          exact hanswers.append (ih hd)

/-- A failure comes of one line; those before it are drained without one, and those behind it are
left. -/
theorem drainAfter_failed {c : Checker} {taken : Nat} {lines : List Line} {items : List Answered}
    {failure : Failure} {g : RequestStream} {s s' : Session}
    (h : c.drainAfter taken s lines = (items, some failure, g, s')) :
    ∃ before line after g' s1, lines = before ++ line :: after ∧
      c.drainAfter taken s before = (items, none, g', s1) ∧
      c.feed (taken + before.length + 1) line s1 = (.failed failure, s') ∧
      g = { rest := after, taken := taken + before.length + 1, isOver := true } := by
  induction lines generalizing taken s items with
  | nil => cases h
  | cons line lines ih =>
    simp only [drainAfter] at h
    cases hf : c.feed (taken + 1) line s with
    | mk outcome s1 =>
      rw [hf] at h
      cases outcome with
      | failed failure' =>
        cases h
        exact ⟨[], line, lines, _, s, rfl, rfl, hf, rfl⟩
      | blank =>
        obtain ⟨before, line', after, g', s2, rfl, hd, hfail, hg⟩ := ih h
        refine ⟨line :: before, line', after, g', s2, rfl, ?_, ?_, ?_⟩
        · simp only [drainAfter, hf]; exact hd
        · rw [List.length_cons, show taken + (before.length + 1) = taken + 1 + before.length by omega]
          exact hfail
        · rw [hg, List.length_cons]; congr 1; omega
      | answered r v =>
        cases hd : c.drainAfter (taken + 1) s1 lines with
        | mk more rest =>
          obtain ⟨ending, g', s2⟩ := rest
          simp only [hd] at h
          cases h
          obtain ⟨before, line', after, g'', s3, rfl, hd', hfail, hg⟩ := ih hd
          refine ⟨line :: before, line', after, g'', s3, rfl, ?_, ?_, ?_⟩
          · simp only [drainAfter, hf, hd']
          · rw [List.length_cons, show taken + (before.length + 1) = taken + 1 + before.length by omega]
            exact hfail
          · rw [hg, List.length_cons]; congr 1; omega

theorem drainAfter_isOver (c : Checker) {taken : Nat} {lines : List Line} {items : List Answered}
    {ending : Option Failure} {g : RequestStream} {s s' : Session}
    (h : c.drainAfter taken s lines = (items, ending, g, s')) : g.isOver = true := by
  cases ending with
  | none => rw [c.drainAfter_ended h]
  | some failure =>
    obtain ⟨_, _, _, _, _, _, _, _, hg⟩ := drainAfter_failed h
    rw [hg]

/-- No line ends a stream that is drained without a failure. -/
theorem stopAt?_of_drainAfter {before : List Line} {line : Line} {after : List Line}
    {items : List Answered} {g : RequestStream} {s s' : Session}
    (h : drainAfter { engine := e, runtime := k } 0 s (before ++ line :: after) =
      (items, none, g, s')) :
    e.stopAt? k s.clock before line = none := by
  rw [drainAfter_append] at h
  cases hd : drainAfter { engine := e, runtime := k } 0 s before with
  | mk items' rest =>
    obtain ⟨ending, g', s1⟩ := rest
    rw [hd] at h
    cases ending with
    | some failure => cases h
    | none =>
      have htaken := drainAfter_ended _ hd
      rw [stopAt?_of_answers (drainAfter_answers hd)]
      simp only [htaken, Nat.zero_add, drainAfter] at h
      cases hf : feed { engine := e, runtime := k } (before.length + 1) line s1 with
      | mk outcome s2 =>
        rw [hf] at h
        cases outcome with
        | blank => rfl
        | answered r v => rfl
        | failed failure => cases h

end Checker

namespace Engine

variable {e : Engine} {k : Runtime} {clock : Clock} {before : List Line} {line : Line}
  {after : List Line}

theorem findSome?_range {α : Type} (f : Nat → Option α) (n i : Nat) (b : α) (hi : i < n)
    (hf : f i = some b) (hbefore : ∀ j, j < i → f j = none) :
    (List.range n).findSome? f = some b := by
  induction n with
  | zero => omega
  | succ n ih =>
    rw [List.range_succ, List.findSome?_append]
    by_cases hin : i = n
    · have hnone : (List.range n).findSome? f = none :=
        List.findSome?_eq_none_iff.mpr fun j hj => hbefore j (by rw [hin]; exact List.mem_range.mp hj)
      rw [hnone, Option.none_or, List.findSome?_singleton, ← hin]
      exact hf
    · rw [ih (by omega), Option.some_or]

/-- The line at a place, seen by what is before it and what is behind it. -/
theorem stopAt?_at :
    (((before ++ line :: after)[before.length]?.bind
      (e.stopAt? k clock ((before ++ line :: after).take before.length))).map
        fun failure => (before.length, failure)) =
      (e.stopAt? k clock before line).map fun failure => (before.length, failure) := by
  rw [List.take_left, List.getElem?_append_right (Nat.le_refl _), Nat.sub_self]
  rfl

/-- The first stop is at the line that stops, if none before it does. -/
theorem firstStop?_eq_some {failure : Failure} (hstop : e.stopAt? k clock before line = some failure)
    (hbefore : ∀ a l b, before = a ++ l :: b → e.stopAt? k clock a l = none) :
    e.firstStop? k clock (before ++ line :: after) = some (before.length, failure) := by
  unfold firstStop?
  apply findSome?_range _ _ before.length
  · rw [List.length_append, List.length_cons]; omega
  · rw [stopAt?_at, hstop]; rfl
  · intro j hj
    have hsplit : before = before.take j ++ before[j] :: before.drop (j + 1) := by
      rw [List.getElem_cons_drop, List.take_append_drop]
    have hlen : (before.take j).length = j := by rw [List.length_take]; omega
    have key := @stopAt?_at e k clock (before.take j) before[j]
      (before.drop (j + 1) ++ line :: after)
    rw [← List.cons_append, ← List.append_assoc, ← hsplit, hlen,
      hbefore _ _ _ hsplit] at key
    exact key

theorem firstStop?_eq_none {lines : List Line}
    (h : ∀ before line after, lines = before ++ line :: after →
      e.stopAt? k clock before line = none) : e.firstStop? k clock lines = none := by
  unfold firstStop?
  rw [List.findSome?_eq_none_iff]
  intro i hi
  have hi' := List.mem_range.mp hi
  rw [List.getElem?_eq_getElem hi', Option.bind_some,
    h (lines.take i) lines[i] (lines.drop (i + 1))
      (by rw [List.getElem_cons_drop, List.take_append_drop])]
  rfl

/-- A malformed line stops the stream with a complaint that carries its number. -/
theorem number_of_stopAt? {error : Request.LineError}
    (h : e.stopAt? k clock before line = some (.line error)) :
    error.number = before.length + 1 := by
  unfold stopAt? outcome at h
  cases hfault : line.fault? k.nesting (before.length + 1) with
  | some failure =>
    rw [hfault] at h
    simp only [Option.some.injEq] at h
    rw [h] at hfault
    exact Line.number_of_fault? hfault
  | none =>
    rw [hfault] at h
    cases hr : line.request? k.nesting with
    | none => rw [hr] at h; cases h
    | some r =>
      rw [hr] at h
      cases hv : e.verdict? r.query with
      | none => simp only [hv] at h; cases h
      | some v =>
        simp only [hv] at h
        split at h
        · next failure hout =>
          split at hout
          · cases hout; cases h
          · cases hout
        · cases h
        · cases h

end Engine

/-- **The stop of a stream.** A stream that is drained without a failure has no line that stops it;
one that fails does so at its first stop, behind lines that were answered. -/
theorem Checker.firstStop?_of_drainAfter {e : Engine} {k : Runtime} {lines : List Line}
    {items : List Answered} {ending : Option Failure} {g : RequestStream} {s s' : Session}
    (h : drainAfter { engine := e, runtime := k } 0 s lines = (items, ending, g, s')) :
    match ending with
    | none =>
      e.firstStop? k s.clock lines = none ∧
        g = { rest := [], taken := lines.length, isOver := true } ∧ Answers e k lines s items s'
    | some failure =>
      ∃ i s1, e.firstStop? k s.clock lines = some (i, failure) ∧
        g = { rest := lines.drop (i + 1), taken := i + 1, isOver := true } ∧
        Answers e k (lines.take i) s items s1 ∧
        s'.calls = s1.calls ++ ((lines[i]?.bind (Line.request? k.nesting)).map Request.query).toList ∧
        ∀ error, failure = .line error → error.number = i + 1 := by
  cases ending with
  | none =>
    refine ⟨?_, ?_, drainAfter_answers h⟩
    · apply Engine.firstStop?_eq_none
      rintro before line after rfl
      exact stopAt?_of_drainAfter h
    · rw [drainAfter_ended _ h, Nat.zero_add]
  | some failure =>
    obtain ⟨before, line, after, g', s1, rfl, hd, hfail, rfl⟩ := drainAfter_failed h
    rw [Nat.zero_add] at hfail
    have hanswers := drainAfter_answers hd
    have hstop : e.stopAt? k s.clock before line = some failure := by
      rw [stopAt?_of_answers hanswers, hfail]
    refine ⟨before.length, s1, ?_, ?_, ?_, ?_, ?_⟩
    · apply Engine.firstStop?_eq_some hstop
      rintro a l b rfl
      exact stopAt?_of_drainAfter hd
    · rw [List.drop_append, List.drop_of_length_le (by omega), Nat.add_sub_cancel_left, Nat.zero_add]
      rfl
    · rw [List.take_left]; exact hanswers
    · have hcalls := feed_calls { engine := e, runtime := k } (before.length + 1) line s1
      rw [hfail] at hcalls
      rw [hcalls, List.getElem?_append_right (Nat.le_refl _), Nat.sub_self]
      rfl
    · rintro error rfl
      exact Engine.number_of_stopAt? hstop

/-! ## Top theorem -/

/-- **Draining a stream.** A stream gives one answer for every line that is not blank, up to the
first line that stops it; it takes no line behind that one, and asks the engine about no other
requests. -/
theorem drain_ofLines (e : Engine) (k : Runtime) (lines : List Line) (s : Session) :
    match e.firstStop? k s.clock lines with
    | none =>
      ∃ items s', Checker.drain { engine := e, runtime := k } (.ofLines lines) s =
          (items, none, { rest := [], taken := lines.length, isOver := true }, s') ∧
        (Line.filled lines).map (e.answer? k) = items.map some ∧
        s'.calls = s.calls ++ items.map fun item => item.1.query
    | some (i, failure) =>
      ∃ items s', Checker.drain { engine := e, runtime := k } (.ofLines lines) s =
          (items, some failure,
            { rest := lines.drop (i + 1), taken := i + 1, isOver := true }, s') ∧
        (Line.filled (lines.take i)).map (e.answer? k) = items.map some ∧
        s'.calls = s.calls ++ (items.map fun item => item.1.query) ++
          ((lines[i]?.bind (Line.request? k.nesting)).map Request.query).toList ∧
        ∀ error, failure = .line error → error.number = i + 1 := by
  rw [Checker.drain_start]
  cases hd : Checker.drainAfter { engine := e, runtime := k } 0 s lines with
  | mk items rest =>
    obtain ⟨ending, g, s'⟩ := rest
    have key := Checker.firstStop?_of_drainAfter hd
    cases ending with
    | none =>
      obtain ⟨hstop, rfl, hanswers⟩ := key
      rw [hstop]
      exact ⟨items, s', rfl, hanswers.items_eq, hanswers.calls_eq⟩
    | some failure =>
      obtain ⟨i, s1, hstop, rfl, hanswers, hcalls, hnumber⟩ := key
      rw [hstop]
      refine ⟨items, s', rfl, hanswers.items_eq, ?_, hnumber⟩
      rw [hcalls, hanswers.calls_eq]

end RequestCheck
