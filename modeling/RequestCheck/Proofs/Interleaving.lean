import RequestCheck.Proofs.Draining
import RequestCheck.Service

/-!
# Streams that take turns

Streams that share a checker do not notice each other. As long as the clock is steady, what comes of
a line is a matter of the line and the engine, so a stream that has been advanced now and then has
given what it would have given on its own. The invariant (`Course.Sound`) says of a stream that has
not run to its end

    drainAfter 0 s₀ (the lines that it has taken) = (the answers that it has given, no failure)

and of one that has, that it came out as it would have on its own. One turn keeps it (`serve_sound`),
and so do all turns together (`serveAll_sound`).
-/

namespace RequestCheck

/-! ## Steady clocks -/

namespace Checker

variable {e : Engine} {runtime : Runtime} {s s' : Session}

/-- With steady clocks, what comes of a line is the same in every session. -/
theorem feed_steady (number : Nat) (line : Line) (hs : s.clock.Steady) (hs' : s'.clock.Steady) :
    ∃ outcome s1 s1', feed { engine := e, runtime } number line s = (outcome, s1) ∧
      feed { engine := e, runtime } number line s' = (outcome, s1') ∧
      s1.clock.Steady ∧ s1'.clock.Steady := by
  have hout : (feed { engine := e, runtime } number line s).1 =
      (feed { engine := e, runtime } number line s').1 := by
    obtain ⟨latency, h⟩ := hs 0
    obtain ⟨latency', h'⟩ := hs' 0
    rw [Nat.zero_add] at h h'
    rw [feed_outcome, feed_outcome]
    unfold Engine.outcome
    rw [h, h']
  have steady : ∀ t : Session, t.clock.Steady →
      (feed { engine := e, runtime } number line t).2.clock.Steady := by
    intro t ht
    rw [feed_clock]
    cases line.request? runtime.nesting with
    | none => exact ht
    | some r => exact ht.behind _
  exact ⟨(feed { engine := e, runtime } number line s).1,
    (feed { engine := e, runtime } number line s).2, (feed { engine := e, runtime } number line s').2,
    rfl, Prod.ext hout.symm rfl, steady s hs, steady s' hs'⟩

/-- With steady clocks, lines are drained in the same way in every session. -/
theorem drainAfter_steady (taken : Nat) (lines : List Line) (hs : s.clock.Steady)
    (hs' : s'.clock.Steady) :
    ∃ items ending g s1 s1',
      drainAfter { engine := e, runtime } taken s lines = (items, ending, g, s1) ∧
      drainAfter { engine := e, runtime } taken s' lines = (items, ending, g, s1') ∧
      s1.clock.Steady ∧ s1'.clock.Steady := by
  induction lines generalizing taken s s' with
  | nil => exact ⟨[], none, _, s, s', rfl, rfl, hs, hs'⟩
  | cons line lines ih =>
    obtain ⟨outcome, s1, s1', hf, hf', h1, h1'⟩ :=
      @feed_steady e runtime s s' (taken + 1) line hs hs'
    simp only [drainAfter, hf, hf']
    cases outcome with
    | blank => exact ih (taken + 1) h1 h1'
    | failed failure => exact ⟨[], some failure, _, s1, s1', rfl, rfl, h1, h1'⟩
    | answered r v =>
      obtain ⟨items, ending, g, s2, s2', hd, hd', h2, h2'⟩ := ih (taken + 1) h1 h1'
      simp only [hd, hd']
      exact ⟨(r, v) :: items, ending, g, s2, s2', rfl, rfl, h2, h2'⟩

/-- Behind lines that were answered, a stream goes on in any session as it would have on its own. -/
theorem drainAfter_behind {s₀ s1 : Session} {before : List Line} {answers : List Answered}
    {g : RequestStream} (more : List Line) (hs₀ : s₀.clock.Steady) (hs : s.clock.Steady)
    (h : drainAfter { engine := e, runtime } 0 s₀ before = (answers, none, g, s1)) :
    ∃ items ending g' s2 s2',
      drainAfter { engine := e, runtime } before.length s more = (items, ending, g', s2) ∧
      s2.clock.Steady ∧
      drainAfter { engine := e, runtime } 0 s₀ (before ++ more) =
        (answers ++ items, ending, g', s2') := by
  have h1 : s1.clock.Steady := by
    obtain ⟨_, _, _, _, s1', hd, _, _, hsteady⟩ :=
      @drainAfter_steady e runtime s₀ s₀ 0 before hs₀ hs₀
    rw [h] at hd
    cases hd
    assumption
  obtain ⟨items, ending, g', s2, s2', hd, hd', h2, _⟩ :=
    @drainAfter_steady e runtime s s1 before.length more hs h1
  refine ⟨items, ending, g', s2, s2', hd, h2, ?_⟩
  rw [drainAfter_append, h]
  simp only [drainAfter_ended _ h, Nat.zero_add, hd']

/-! ## One step of a stream -/

theorem isBlank_of_feed {c : Checker} {number : Nat} {line : Line}
    (h : c.feed number line s = (.blank, s')) : line.isBlank = true := by
  rw [feed_eq] at h
  split at h
  · cases h
  · next hfault hr =>
    exact Line.isBlank_of_request? ((line.fault?_eq_none_iff number).mp hfault) hr
  · split at h <;> cases h

theorem not_isBlank_of_feed {c : Checker} {number : Nat} {line : Line} {r : Request} {v : Verdict}
    (h : c.feed number line s = (.answered r v, s')) : line.isBlank = false := by
  rw [feed_eq] at h
  split at h
  · cases h
  · cases h
  · next hr => exact Line.isBlank_eq_false_of_request? hr

/-- A step to the next answer drains blank lines and the one that is answered; a step that gives no
answer drains all. -/
theorem nextAfter_eq (c : Checker) (taken : Nat) (s : Session) (lines : List Line) :
    match c.nextAfter taken s lines with
    | (.answer item, g, s') =>
      ∃ blanks line after, lines = blanks ++ line :: after ∧ Line.filled blanks = [] ∧
        line.isBlank = false ∧ g = { rest := after, taken := taken + blanks.length + 1 } ∧
        ∃ g', c.drainAfter taken s (blanks ++ [line]) = ([item], none, g', s')
    | (.ended, g, s') => c.drainAfter taken s lines = ([], none, g, s')
    | (.failed failure, g, s') => c.drainAfter taken s lines = ([], some failure, g, s') := by
  induction lines generalizing taken s with
  | nil => rfl
  | cons line lines ih =>
    simp only [nextAfter, drainAfter]
    cases hf : c.feed (taken + 1) line s with
    | mk outcome s1 =>
      cases outcome with
      | failed failure => rfl
      | answered r v =>
        refine ⟨[], line, lines, rfl, rfl, not_isBlank_of_feed hf, rfl,
          { rest := [], taken := taken + 1, isOver := true }, ?_⟩
        simp only [List.nil_append, drainAfter, hf]
      | blank =>
        have key := ih (taken + 1) s1
        simp only
        cases hn : c.nextAfter (taken + 1) s1 lines with
        | mk step rest =>
          obtain ⟨g, s2⟩ := rest
          rw [hn] at key
          cases step with
          | ended => exact key
          | failed failure => exact key
          | answer item =>
            obtain ⟨blanks, line', after, rfl, hblanks, hline, rfl, g', hd⟩ := key
            refine ⟨line :: blanks, line', after, rfl, ?_, hline, ?_, g', ?_⟩
            · unfold Line.filled at hblanks ⊢
              rw [List.filter_cons, isBlank_of_feed hf, hblanks]
              rfl
            · rw [List.length_cons]; congr 1; omega
            · simp only [List.cons_append, drainAfter, hf]; exact hd

end Checker

/-! ## Positions -/

/-- The number of the n-th line that is not blank, and zero for none. -/
def Line.position : List Line → Nat → Nat
  | _, 0 => 0
  | [], _ + 1 => 0
  | line :: lines, n + 1 =>
    (if line.isBlank then position lines (n + 1) else position lines n) + 1

theorem Line.position_zero (lines : List Line) : position lines 0 = 0 := by
  cases lines <;> rfl

theorem Line.position_eq {before : List Line} {line : Line} (after : List Line)
    (h : line.isBlank = false) :
    position (before ++ line :: after) ((filled before).length + 1) = before.length + 1 := by
  induction before with
  | nil => simp only [filled, List.nil_append, List.filter_nil, List.length_nil, position, h]; rfl
  | cons first before ih =>
    unfold filled at ih ⊢
    rw [List.filter_cons, List.cons_append, position, List.length_cons]
    cases hb : first.isBlank with
    | true => simp only [Bool.not_true, Bool.false_eq_true, if_false, if_true, ih]
    | false =>
      simp only [Bool.not_false, Bool.false_eq_true, if_false, if_true, List.length_cons, ih]

/-! ## The invariant -/

namespace Course

/-- A stream that has not run to its end has answered the lines that it has taken, the last of which
is the one of its last answer. -/
def Suspended (e : Engine) (runtime : Runtime) (s₀ : Session) (k : Course) : Prop :=
  ∃ before g s1, k.lines = before ++ k.stream.rest ∧ before.length = k.stream.taken ∧
    Line.position k.lines k.answers.length = k.stream.taken ∧
    Checker.drainAfter { engine := e, runtime } 0 s₀ before = (k.answers, none, g, s1)

/-- A stream that has run to its end came out as it would have on its own. -/
def Ran (e : Engine) (runtime : Runtime) (s₀ : Session) (k : Course)
    (ending : Option Failure) : Prop :=
  ∃ s1, Checker.drainAfter { engine := e, runtime } 0 s₀ k.lines = (k.answers, ending, k.stream, s1)

/-- What holds of a stream at any time, if it is compared with one on its own. -/
def Sound (e : Engine) (runtime : Runtime) (s₀ : Session) (k : Course) : Prop :=
  k.stream.isOver = k.ending.isSome ∧
    match k.ending with
    | none => k.Suspended e runtime s₀
    | some .closed => k.Suspended e runtime s₀
    | some (.ran ending) => k.Ran e runtime s₀ ending

variable {e : Engine} {runtime : Runtime} {s₀ s : Session} {k : Course}

theorem advance_self {ending : Option Ending} (h : k.ending.isSome = true) :
    k.advance k.stream [] ending = k := by
  unfold advance
  rw [List.append_nil, Option.or_of_isSome h]

theorem sound_ofLines (lines : List Line) : (ofLines lines).Sound e runtime s₀ :=
  ⟨rfl, [], _, s₀, rfl, rfl, Line.position_zero lines, rfl⟩

/-- A suspended stream that is drained comes out as it would have on its own. -/
theorem Suspended.ran {items : List Answered} {ending : Option Failure} {g : RequestStream}
    {s' : Session} (h : k.Suspended e runtime s₀) (hending : k.ending = none)
    (hs₀ : s₀.clock.Steady) (hs : s.clock.Steady)
    (hd : Checker.drainAfter { engine := e, runtime } k.stream.taken s k.stream.rest =
      (items, ending, g, s')) :
    s'.clock.Steady ∧ (k.advance g items (some (.ran ending))).Sound e runtime s₀ := by
  obtain ⟨before, g₀, s1, hlines, hlen, -, hdrained⟩ := h
  obtain ⟨items', ending', g', s2, s2', hd', h2, halone⟩ :=
    Checker.drainAfter_behind k.stream.rest hs₀ hs hdrained
  rw [hlen, hd] at hd'
  cases hd'
  rw [← hlines] at halone
  refine ⟨h2, ?_, ?_⟩
  · unfold advance
    rw [hending, Option.none_or]
    exact Checker.drainAfter_isOver _ hd
  · unfold advance
    simp only [hending, Option.none_or]
    exact ⟨s2', halone⟩

/-- A step keeps the invariant, and leaves the clock steady. -/
theorem Sound.next (h : k.Sound e runtime s₀) (hs₀ : s₀.clock.Steady) (hs : s.clock.Steady) :
    ∃ step g s', Checker.next { engine := e, runtime } k.stream s = (step, g, s') ∧
      s'.clock.Steady ∧ (k.advance g step.items step.ending?).Sound e runtime s₀ := by
  obtain ⟨hover, hcase⟩ := h
  cases hending : k.ending with
  | some ending =>
    have hsome : k.ending.isSome = true := by rw [hending]; rfl
    refine ⟨.ended, k.stream, s, ?_, hs, ?_⟩
    · unfold Checker.next; rw [hover, hsome]; rfl
    · rw [StreamStep.items, advance_self hsome]; exact ⟨hover, hcase⟩
  | none =>
    rw [hending] at hover hcase
    have hnext : Checker.next { engine := e, runtime } k.stream s =
        Checker.nextAfter { engine := e, runtime } k.stream.taken s k.stream.rest := by
      unfold Checker.next
      rw [hover]
      rfl
    have key := Checker.nextAfter_eq { engine := e, runtime } k.stream.taken s k.stream.rest
    rw [hnext]
    cases hn : Checker.nextAfter { engine := e, runtime } k.stream.taken s k.stream.rest with
    | mk step rest =>
      obtain ⟨g, s'⟩ := rest
      rw [hn] at key
      refine ⟨step, g, s', rfl, ?_⟩
      cases step with
      | ended => exact Suspended.ran hcase hending hs₀ hs key
      | failed failure => exact Suspended.ran hcase hending hs₀ hs key
      | answer item =>
        obtain ⟨before, g₀, s1, hlines, hlen, hposition, hdrained⟩ := hcase
        obtain ⟨blanks, line, after, hrest, hblanks, hline, rfl, g', hd⟩ := key
        obtain ⟨items, ending, g'', s2, s2', hd', h2, halone⟩ :=
          Checker.drainAfter_behind (blanks ++ [line]) hs₀ hs hdrained
        rw [hlen, hd] at hd'
        cases hd'
        refine ⟨h2, by unfold advance; rw [hending]; rfl, ?_⟩
        unfold advance
        simp only [hending, Option.none_or, StreamStep.ending?, StreamStep.items]
        refine ⟨before ++ (blanks ++ [line]), g', s2', ?_, ?_, ?_, halone⟩
        · rw [hlines, hrest, List.append_assoc, List.append_assoc]; rfl
        · rw [List.length_append, List.length_append, hlen]; rfl
        · have hcount : (Line.filled (before ++ blanks)).length = k.answers.length := by
            rw [← (Checker.drainAfter_answers hdrained).length_filled]
            unfold Line.filled at hblanks ⊢
            rw [List.filter_append, hblanks, List.append_nil]
          rw [List.length_append, List.length_singleton, ← hcount, hlines, hrest,
            ← List.append_assoc, Line.position_eq after hline, List.length_append, hlen]

/-- Draining keeps the invariant, and leaves the clock steady. -/
theorem Sound.drain (h : k.Sound e runtime s₀) (hs₀ : s₀.clock.Steady) (hs : s.clock.Steady) :
    ∃ items ending g s',
      Checker.drain { engine := e, runtime } k.stream s = (items, ending, g, s') ∧
        s'.clock.Steady ∧ (k.advance g items (some (.ran ending))).Sound e runtime s₀ := by
  obtain ⟨hover, hcase⟩ := h
  cases hending : k.ending with
  | some ending =>
    have hsome : k.ending.isSome = true := by rw [hending]; rfl
    refine ⟨[], none, k.stream, s, ?_, hs, ?_⟩
    · unfold Checker.drain; rw [hover, hsome]; rfl
    · rw [advance_self hsome]; exact ⟨hover, hcase⟩
  | none =>
    rw [hending] at hover hcase
    have hdrain : Checker.drain { engine := e, runtime } k.stream s =
        Checker.drainAfter { engine := e, runtime } k.stream.taken s k.stream.rest := by
      unfold Checker.drain
      rw [hover]
      rfl
    rw [hdrain]
    cases hd : Checker.drainAfter { engine := e, runtime } k.stream.taken s k.stream.rest with
    | mk items rest =>
      obtain ⟨ending, g, s'⟩ := rest
      exact ⟨items, ending, g, s', rfl, Suspended.ran hcase hending hs₀ hs hd⟩

/-- Closing keeps the invariant. -/
theorem Sound.close (h : k.Sound e runtime s₀) :
    (k.advance k.stream.close [] (some .closed)).Sound e runtime s₀ := by
  obtain ⟨hover, hcase⟩ := h
  cases hending : k.ending with
  | some ending =>
    have hsome : k.ending.isSome = true := by rw [hending]; rfl
    have hclose : k.stream.close = k.stream := by
      unfold RequestStream.close
      rw [← hsome, ← hover]
    rw [hclose, advance_self hsome]
    exact ⟨hover, hcase⟩
  | none =>
    rw [hending] at hcase
    refine ⟨by unfold advance; rw [hending]; rfl, ?_⟩
    unfold advance
    simp only [hending, Option.none_or, List.append_nil]
    exact hcase

end Course

namespace Service

/-- The clock of the session is steady, and every stream is sound. -/
structure Sound (e : Engine) (runtime : Runtime) (s₀ : Session) (v : Service) : Prop where
  steady : v.session.clock.Steady
  courses : ∀ k ∈ v.courses, k.Sound e runtime s₀

theorem Sound.advance {e : Engine} {runtime : Runtime} {s₀ s : Session} {v : Service}
    {stream : Nat} {k : Course} {g : RequestStream} {items : List Answered} {ending : Option Ending}
    (h : v.Sound e runtime s₀) (hs : s.clock.Steady) (hk : (k.advance g items ending).Sound e runtime s₀) :
    (v.advance stream k g items ending s).Sound e runtime s₀ := by
  refine ⟨hs, fun k' hk' => ?_⟩
  rcases List.mem_or_eq_of_mem_set hk' with hk' | rfl
  · exact h.courses k' hk'
  · exact hk

end Service

namespace Checker

variable {e : Engine} {runtime : Runtime} {s₀ : Session} {v : Service}

/-- **One turn** keeps every stream sound. -/
theorem serve_sound (hs₀ : s₀.clock.Steady) (h : v.Sound e runtime s₀) (turn : Turn) :
    (serve { engine := e, runtime } v turn).Sound e runtime s₀ := by
  cases turn with
  | start lines =>
    refine ⟨h.steady, fun k hk => ?_⟩
    rcases List.mem_append.mp hk with hk | hk
    · exact h.courses k hk
    · rw [List.mem_singleton.mp hk]; exact Course.sound_ofLines lines
  | next stream =>
    rw [serve]
    split
    · exact h
    · next k hk =>
      have hsound := h.courses k (List.mem_of_getElem? hk)
      obtain ⟨step, g, s, hnext, hs, hadvance⟩ := hsound.next hs₀ h.steady
      rw [hnext]
      exact h.advance hs hadvance
  | drain stream =>
    rw [serve]
    split
    · exact h
    · next k hk =>
      have hsound := h.courses k (List.mem_of_getElem? hk)
      obtain ⟨items, ending, g, s, hdrain, hs, hadvance⟩ := hsound.drain hs₀ h.steady
      rw [hdrain]
      exact h.advance hs hadvance
  | close stream =>
    rw [serve]
    split
    · exact h
    · next k hk => exact h.advance h.steady (h.courses k (List.mem_of_getElem? hk)).close
  | check r =>
    have hclock := ask_clock { engine := e, runtime } .stream r.query r v.session
    rw [serve, check]
    split
    · next failure s hask =>
      rw [hask] at hclock
      exact ⟨by rw [hclock]; exact h.steady.behind _, h.courses⟩
    · next verdict s hask =>
      rw [hask] at hclock
      exact ⟨by rw [hclock]; exact h.steady.behind _, h.courses⟩

/-- **All turns** keep every stream sound. -/
theorem serveAll_sound (hs₀ : s₀.clock.Steady) (h : v.Sound e runtime s₀) (turns : List Turn) :
    (serveAll { engine := e, runtime } v turns).Sound e runtime s₀ := by
  induction turns generalizing v with
  | nil => exact h
  | cons turn turns ih => exact ih (serve_sound hs₀ h turn)

/-! ## Streams that are over -/

variable {c : Checker} {stream : Nat} {k : Course}

theorem serve_next_over (hk : v.courses[stream]? = some k) (hover : k.stream.isOver = true)
    (hending : k.ending.isSome = true) :
    (c.serve v (.next stream)).session = v.session ∧
      (c.serve v (.next stream)).courses = v.courses.set stream k := by
  have hnext : c.next k.stream v.session = (.ended, k.stream, v.session) := by
    unfold next
    rw [hover]
    rfl
  have hserve : c.serve v (.next stream) =
      v.advance stream k k.stream [] (some (.ran none)) v.session := by
    simp only [serve, hk, hnext]
    rfl
  rw [hserve, Service.advance, Course.advance_self hending]
  exact ⟨rfl, rfl⟩

theorem serve_drain_over (hk : v.courses[stream]? = some k) (hover : k.stream.isOver = true)
    (hending : k.ending.isSome = true) :
    (c.serve v (.drain stream)).session = v.session ∧
      (c.serve v (.drain stream)).courses = v.courses.set stream k := by
  have hdrain : c.drain k.stream v.session = ([], none, k.stream, v.session) := by
    unfold drain
    rw [hover]
    rfl
  have hserve : c.serve v (.drain stream) =
      v.advance stream k k.stream [] (some (.ran none)) v.session := by
    simp only [serve, hk, hdrain]
  rw [hserve, Service.advance, Course.advance_self hending]
  exact ⟨rfl, rfl⟩

theorem serve_close_over (hk : v.courses[stream]? = some k) (hover : k.stream.isOver = true)
    (hending : k.ending.isSome = true) :
    (c.serve v (.close stream)).courses = v.courses.set stream k := by
  have hclose : k.stream.close = k.stream := by
    unfold RequestStream.close
    rw [← hover]
  simp only [serve, hk, hclose, Service.advance]
  rw [Course.advance_self hending]

/-- A turn of one stream is none of another's. -/
theorem getElem?_set_of_eq {courses : List Course} {other : Nat} {k' : Course}
    (hk : courses[stream]? = some k) (h : other = stream → k' = k) :
    (courses.set other k')[stream]? = some k := by
  rw [List.getElem?_set]
  split
  · next heq =>
    obtain ⟨hlt, -⟩ := List.getElem?_eq_some_iff.mp hk
    rw [if_pos (by omega), h heq]
  · exact hk

/-- No turn touches a stream that is over. -/
theorem serve_over (hk : v.courses[stream]? = some k) (hover : k.stream.isOver = true)
    (hending : k.ending.isSome = true) (turn : Turn) :
    (c.serve v turn).courses[stream]? = some k := by
  have same : (v.courses.set stream k)[stream]? = some k := getElem?_set_of_eq hk fun _ => rfl
  cases turn with
  | start lines =>
    obtain ⟨hlt, -⟩ := List.getElem?_eq_some_iff.mp hk
    rw [serve, List.getElem?_append_left hlt]
    exact hk
  | next other =>
    by_cases heq : other = stream
    · rw [heq, (serve_next_over hk hover hending).2]; exact same
    · rw [serve]
      split
      · exact hk
      · exact getElem?_set_of_eq hk fun h => absurd h heq
  | drain other =>
    by_cases heq : other = stream
    · rw [heq, (serve_drain_over hk hover hending).2]; exact same
    · rw [serve]
      split
      · exact hk
      · exact getElem?_set_of_eq hk fun h => absurd h heq
  | close other =>
    by_cases heq : other = stream
    · rw [heq, serve_close_over hk hover hending]; exact same
    · rw [serve]
      split
      · exact hk
      · exact getElem?_set_of_eq hk fun h => absurd h heq
  | check r =>
    rw [serve]
    split <;> exact hk

theorem serveAll_over (hk : v.courses[stream]? = some k) (hover : k.stream.isOver = true)
    (hending : k.ending.isSome = true) (turns : List Turn) :
    (c.serveAll v turns).courses[stream]? = some k := by
  induction turns generalizing v with
  | nil => exact hk
  | cons turn turns ih => exact ih (serve_over hk hover hending turn)

theorem serve_close (stream : Nat) :
    (c.serve v (.close stream)).session = v.session ∧
      (c.serve v (.close stream)).courses.map (·.stream.taken) =
        v.courses.map (·.stream.taken) := by
  rw [serve]
  split
  · exact ⟨rfl, rfl⟩
  · next k hk =>
    refine ⟨rfl, ?_⟩
    obtain ⟨hlt, hget⟩ := List.getElem?_eq_some_iff.mp hk
    apply List.ext_getElem?
    intro i
    unfold Service.advance
    rw [List.getElem?_map, List.getElem?_map, List.getElem?_set]
    split
    · next heq =>
      rw [← heq, hk]
      rfl
    · rfl

end Checker

/-! ## Top theorem -/

/-- What holds of streams that share a checker, if they are compared with streams that are each
drained alone in a session `s₀`. -/
structure Service.Independent (e : Engine) (runtime : Runtime) (s₀ : Session) (v : Service) :
    Prop where
  /-- A stream has given the first of the answers that it would give alone. -/
  answers_alone : ∀ k ∈ v.courses,
    k.answers <+: (Checker.drain { engine := e, runtime } (.ofLines k.lines) s₀).1
  /-- A stream that ran to its end has given all of them, and ended in the same way. -/
  ran_alone : ∀ k ∈ v.courses, ∀ ending, k.ending = some (.ran ending) →
    k.answers = (Checker.drain { engine := e, runtime } (.ofLines k.lines) s₀).1 ∧
      ending = (Checker.drain { engine := e, runtime } (.ofLines k.lines) s₀).2.1
  /-- A stream has taken all its lines if it ran out of them, those up to the one that failed, or
  those up to the one of its last answer. -/
  taken_eq : ∀ k ∈ v.courses,
    match k.ending with
    | some (.ran none) => k.stream.taken = k.lines.length
    | some (.ran (some failure)) =>
      ∃ i, e.firstStop? runtime s₀.clock k.lines = some (i, failure) ∧ k.stream.taken = i + 1
    | _ =>
      k.stream.taken = Line.position k.lines k.answers.length ∧
        (Line.filled (k.lines.take k.stream.taken)).map (e.answer? runtime) = k.answers.map some
  /-- Opening a stream takes no line, and does nothing to the session or to another stream. -/
  start_eq : ∀ lines,
    (Checker.serve { engine := e, runtime } v (.start lines)).session = v.session ∧
      (Checker.serve { engine := e, runtime } v (.start lines)).courses = v.courses ++ [.ofLines lines]
  /-- Closing a stream takes no line, and does nothing to the session. -/
  close_eq : ∀ stream,
    (Checker.serve { engine := e, runtime } v (.close stream)).session = v.session ∧
      (Checker.serve { engine := e, runtime } v (.close stream)).courses.map (·.stream.taken) =
        v.courses.map (·.stream.taken)
  /-- A stream that was closed or ran to its end stays as it is whatever turns follow, and its own
  turns do nothing to the session. -/
  over_eq : ∀ stream k, v.courses[stream]? = some k → k.ending.isSome = true → ∀ turns,
    let later := Checker.serveAll { engine := e, runtime } v turns
    later.courses[stream]? = some k ∧
      (Checker.serve { engine := e, runtime } later (.next stream)).session = later.session ∧
      (Checker.serve { engine := e, runtime } later (.drain stream)).session = later.session

theorem Course.Suspended.alone {e : Engine} {runtime : Runtime} {s₀ : Session} {k : Course}
    (h : k.Suspended e runtime s₀) (hs₀ : s₀.clock.Steady) :
    k.answers <+: (Checker.drain { engine := e, runtime } (.ofLines k.lines) s₀).1 ∧
      k.stream.taken = Line.position k.lines k.answers.length ∧
      (Line.filled (k.lines.take k.stream.taken)).map (e.answer? runtime) = k.answers.map some := by
  obtain ⟨before, g, s1, hlines, hlen, hposition, hd⟩ := h
  obtain ⟨items, ending, g', s2, s2', -, -, halone⟩ :=
    Checker.drainAfter_behind k.stream.rest hs₀ hs₀ hd
  refine ⟨?_, hposition.symm, ?_⟩
  · rw [Checker.drain_start, hlines, halone]
    exact List.prefix_append _ _
  · rw [hlines, ← hlen, List.take_left]
    exact (Checker.drainAfter_answers hd).items_eq

/-- **Streams that take turns.** Whatever turns streams take on one checker, each of them gives what
it would give alone, and takes no more lines than it has to. -/
theorem serveAll_independent (e : Engine) (runtime : Runtime) (turns : List Turn)
    (s s₀ : Session) (hs : s.clock.Steady) (hs₀ : s₀.clock.Steady) :
    (Checker.serveAll { engine := e, runtime } { session := s } turns).Independent e runtime s₀ := by
  have hsound :
      (Checker.serveAll { engine := e, runtime } { session := s } turns).Sound e runtime s₀ :=
    Checker.serveAll_sound hs₀ ⟨hs, fun k hk => by cases hk⟩ turns
  generalize Checker.serveAll { engine := e, runtime } { session := s } turns = v at hsound
  constructor
  case start_eq => intro lines; exact ⟨rfl, rfl⟩
  case close_eq => exact Checker.serve_close
  case over_eq =>
    intro stream k hk hending more
    have hover : k.stream.isOver = true := by
      rw [(hsound.courses k (List.mem_of_getElem? hk)).1]; exact hending
    have hlater := Checker.serveAll_over (c := { engine := e, runtime }) hk hover hending more
    exact ⟨hlater, (Checker.serve_next_over hlater hover hending).1,
      (Checker.serve_drain_over hlater hover hending).1⟩
  case answers_alone =>
    intro k hk
    obtain ⟨-, hcase⟩ := hsound.courses k hk
    split at hcase
    · exact (hcase.alone hs₀).1
    · exact (hcase.alone hs₀).1
    · obtain ⟨s1, hd⟩ := hcase
      have halone : k.answers = (Checker.drain { engine := e, runtime } (.ofLines k.lines) s₀).1 := by
        rw [Checker.drain_start, hd]
      exact halone ▸ List.prefix_rfl
  case ran_alone =>
    intro k hk ending hending
    obtain ⟨-, hcase⟩ := hsound.courses k hk
    rw [hending] at hcase
    obtain ⟨s1, hd⟩ := hcase
    rw [Checker.drain_start, hd]
    exact ⟨rfl, rfl⟩
  case taken_eq =>
    intro k hk
    obtain ⟨-, hcase⟩ := hsound.courses k hk
    cases hending : k.ending with
    | none => rw [hending] at hcase; exact (hcase.alone hs₀).2
    | some ending =>
      rw [hending] at hcase
      cases ending with
      | closed => exact (hcase.alone hs₀).2
      | ran failure? =>
        obtain ⟨s1, hd⟩ := hcase
        have key := Checker.firstStop?_of_drainAfter hd
        cases failure? with
        | none => rw [key.2.1]
        | some failure =>
          obtain ⟨i, s2, hstop, hg, -⟩ := key
          exact ⟨i, hstop, by rw [hg]⟩

/-- Two streams, the second of which fails while the first is suspended. -/
theorem two_streams_independent :
    ∃ s s₀ : Session, s.clock = [.whole 0, .whole 2] ∧ s.clock.Steady ∧
      s₀.clock = [.whole 5] ∧ s₀.clock.Steady ∧
      (Checker.serveAll { engine := fun _ => .answered { matched := some (.boolean true) } }
        { session := s }
        [.start [.text " ",
            .text "\x7b\"url\": \"u\", \"context\": \"\", \"type\": \"image\"\x7d", .text "7"],
          .start [.octets [0x0A], .octets [0xFF]], .next 0, .drain 1,
          .check { url := "u", context := "", type := "font" }, .close 0, .next 0]).Independent
        (fun _ => .answered { matched := some (.boolean true) }) {} s₀ :=
  have hs : Clock.Steady [.whole 0, .whole 2] := Clock.steady_whole [0, 2]
  have hs₀ : Clock.Steady [.whole 5] := Clock.steady_whole [5]
  ⟨{ clock := [.whole 0, .whole 2] }, { clock := [.whole 5] }, rfl, hs, rfl, hs₀,
    serveAll_independent _ _ _ _ _ hs hs₀⟩

end RequestCheck
