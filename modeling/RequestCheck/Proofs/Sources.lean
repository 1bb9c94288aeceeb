import RequestCheck.Proofs.Traces
import RequestCheck.Run

/-!
# Sources of lines

Octets are cut behind each line feed and nowhere else. A source whose file does not grow is answered
like a stream of these lines: the reports of complete lines are printed before an unfinished last
line is looked at, but what is printed has no part in what comes of a line.

    octetLines b                           the lines of the octets b
    answerSource d source s = drainAfter 0 s (octetLines source.ahead), with the reports printed
-/

namespace RequestCheck

/-! ## Lines of octets -/

/-- The lines of octets, each with its end; the last one may go without. -/
def octetLines : Octets → List Octets
  | [] => []
  | b :: rest =>
    if b = lineFeed then [b] :: octetLines rest
    else match octetLines rest with
      | [] => [[b]]
      | line :: lines => (b :: line) :: lines

/-- The lines that an unfinished line adds to complete ones: none if there is nothing on it. -/
def unfinishedLines (unfinished : Octets) : List Octets :=
  if unfinished.isEmpty then [] else [unfinished]

/-- Lines behind the start of a line, which is given backwards. -/
def linesBehind (start : Octets) : List Octets → List Octets
  | [] => unfinishedLines start.reverse
  | line :: lines => (start.reverse ++ line) :: lines

theorem linesBehind_nil (lines : List Octets) : linesBehind [] lines = lines := by
  cases lines <;> rfl

theorem linesBehind_cons (start : Octets) {b : UInt8} (rest : Octets) (h : b ≠ lineFeed) :
    linesBehind (b :: start) (octetLines rest) = linesBehind start (octetLines (b :: rest)) := by
  rw [octetLines, if_neg h]
  cases octetLines rest with
  | nil =>
    unfold linesBehind unfinishedLines
    rw [List.reverse_cons, if_neg (by simp)]
  | cons line lines =>
    simp only [linesBehind, List.reverse_cons, List.append_assoc, List.cons_append, List.nil_append]

theorem cutLinesAfter_eq (start b : Octets) :
    (cutLinesAfter start b).1 ++ unfinishedLines (cutLinesAfter start b).2 =
      linesBehind start (octetLines b) := by
  induction b generalizing start with
  | nil => rfl
  | cons b rest ih =>
    rw [cutLinesAfter]
    split
    · next hb =>
      have key := ih []
      rw [linesBehind_nil] at key
      rw [List.cons_append, key, octetLines, if_pos hb, List.reverse_cons]
      rfl
    · next hb => rw [ih, linesBehind_cons start rest hb]

/-- Complete lines and what an unfinished one adds are all the lines. -/
theorem cutLines_eq (b : Octets) :
    (cutLines b).1 ++ unfinishedLines (cutLines b).2 = octetLines b := by
  unfold cutLines
  rw [cutLinesAfter_eq, linesBehind_nil]

def Session.mapAside (f : Text → Text) (g : List Engine.BuildStep → List Engine.BuildStep)
    (s : Session) : Session :=
  { s with output := f s.output, built := g s.built }

theorem Session.print_eq_mapAside (s : Session) (t : Text) :
    s.print t = s.mapAside (· ++ t) id := rfl

theorem Session.print_nil (s : Session) : s.print [] = s := by
  unfold print
  rw [List.append_nil]

theorem Session.print_print (s : Session) (a b : Text) : (s.print a).print b = s.print (a ++ b) := by
  unfold print
  rw [List.append_assoc]

theorem Report.text_append (detailed : Bool) (vs ws : List Verdict) :
    text detailed (vs ++ ws) = text detailed vs ++ text detailed ws := List.flatMap_append

namespace Checker

variable (f : Text → Text) (g : List Engine.BuildStep → List Engine.BuildStep) (c : Checker)
  (s : Session) (origin : Origin)

theorem note_mapAside (r : Request) (v : Verdict) :
    c.note origin r v (s.mapAside f g) = (c.note origin r v s).mapAside f g := by
  unfold note
  cases v.error <;> rfl

theorem record_mapAside (r : Request) (type : Text) (latency : Int) (v : Verdict) :
    c.record r type latency v (s.mapAside f g) =
      ((c.record r type latency v s).1, (c.record r type latency v s).2.mapAside f g) := by
  unfold record
  cases c.metrics with
  | none => rfl
  | some metrics =>
    have hlog : metrics.log (s.mapAside f g).now r type v latency (s.mapAside f g).disk =
        metrics.log s.now r type v latency s.disk := rfl
    simp only [hlog]
    cases metrics.log s.now r type v latency s.disk with
    | mk result disk => cases result <;> rfl

theorem finish_mapAside (r : Request) (type : Text) (start : Reading) (v : Verdict) :
    c.finish origin r type start v (s.mapAside f g) =
      ((c.finish origin r type start v s).1,
        (c.finish origin r type start v s).2.mapAside f g) := by
  have htick : (s.mapAside f g).tick = (s.tick.1, s.tick.2.mapAside f g) := rfl
  unfold finish
  rw [htick]
  simp only
  cases Reading.milliseconds start s.tick.1 with
  | error error => rfl
  | ok latency =>
    exact record_mapAside f g c (s.tick.2.log c.runtime origin .debug (trace r type v)) r type
      latency v

/-- **A check** looks neither at what is printed nor at what was built. -/
theorem ask_mapAside (q : Engine.Query) (r : Request) :
    c.ask origin q r (s.mapAside f g) =
      ((c.ask origin q r s).1, (c.ask origin q r s).2.mapAside f g) := by
  have hcall : (s.mapAside f g).tick.2.call q = (s.tick.2.call q).mapAside f g := rfl
  have hstart : (s.mapAside f g).tick.1 = s.tick.1 := rfl
  rw [ask_eq, ask_eq]
  cases c.engine.verdict? q with
  | none => rfl
  | some v =>
    simp only
    rw [hcall, hstart, note_mapAside, finish_mapAside]

/-- Draining looks at neither. -/
theorem drainAfter_mapAside (taken : Nat) (lines : List Line) :
    c.drainAfter taken (s.mapAside f g) lines =
      match c.drainAfter taken s lines with
      | (items, ending, stream, s') => (items, ending, stream, s'.mapAside f g) := by
  have hlockstep : c.Lockstep fun s s' => s' = s.mapAside f g := by
    rintro origin q r s _ rfl
    rw [ask_mapAside]
    exact ⟨rfl, rfl⟩
  obtain ⟨hitems, hending, hstream, hsession⟩ :=
    @Lockstep.drainAfter c _ hlockstep taken lines s (s.mapAside f g) rfl
  exact Prod.ext hitems (Prod.ext hending (Prod.ext hstream hsession))

/-! ## Answering a source -/

/-- **A source that does not grow**, whatever lines are drained, is answered like a stream of its
lines. -/
theorem answerSource_eq (detailed : Bool) (source : Source)
    (h : ∀ lines, source.growth? (c.drainAfter 0 s lines).2.2.2.disk = none) :
    c.answerSource detailed source s =
      match c.drainAfter 0 s ((octetLines source.ahead).map .octets) with
      | (items, ending, _, s') =>
        (ending.elim (.ok ()) .error, s'.print (Report.text detailed (items.map (·.2)))) := by
  have hcut := cutLines_eq source.ahead
  unfold answerSource
  simp only [answerRounds]
  generalize cutLines source.ahead = cut at hcut ⊢
  obtain ⟨lines, unfinished⟩ := cut
  simp only at hcut ⊢
  have hlines := h (lines.map .octets)
  have hall := h (lines.map .octets ++ [.octets unfinished])
  rw [drainAfter_append] at hall
  rw [← hcut, List.map_append, drainAfter_append]
  unfold answerLines
  cases hd : c.drainAfter 0 s (lines.map .octets) with
  | mk items rest =>
    obtain ⟨ending, stream, s1⟩ := rest
    rw [hd] at hlines hall
    cases ending with
    | some failure => rfl
    | none =>
      have hprinted : (s1.print (Report.text detailed (items.map (·.2)))).disk = s1.disk := rfl
      simp only [hprinted, hlines]
      unfold unfinishedLines
      cases hunfinished : unfinished.isEmpty with
      | true =>
        simp only [if_true, List.map_nil, drainAfter, List.append_nil, Option.elim_none]
      | false =>
        simp only [Bool.false_eq_true, if_false, List.map_cons, List.map_nil,
          Session.print_eq_mapAside, drainAfter_mapAside]
        cases hd' : c.drainAfter stream.taken s1 [.octets unfinished] with
        | mk items' rest' =>
          obtain ⟨ending', stream', s2⟩ := rest'
          simp only [hd'] at hall
          cases ending' with
          | some failure =>
            simp only [← Session.print_eq_mapAside, Session.print_print, List.map_append,
              Report.text_append, Option.elim_some]
          | none =>
            have hprinted' : ∀ t, (s2.print t).disk = s2.disk := fun _ => rfl
            simp only [← Session.print_eq_mapAside, Session.print_print, hprinted', hall,
              List.map_append, Report.text_append, Option.elim_none]

end Checker

/-! ## Opening a source -/

/-- The source of the requests, the standard input or a file, holds some octets; a file is none that
the journal writes to. -/
def HoldsRequests (requests : Setting) (input content : Octets) (s : Session) : Prop :=
  match requests with
  | .absent => content = input
  | .blank => False
  | .value path =>
    if path = "-" then content = input
    else s.disk.read path = .ok content ∧
      ∀ location, s.disk.locate path = .ok location → ¬ s.journal.Writes location

theorem locate_of_read {d : Disk} {path : Text} {content : Octets} (h : d.read path = .ok content) :
    ∃ location, d.locate path = .ok location ∧
      (d.entry? location = some .void ∨ d.entry? location = some (.file content)) := by
  unfold Disk.read at h
  cases hlocate : d.locate path with
  | error error => rw [hlocate] at h; cases h
  | ok location =>
    rw [hlocate] at h
    refine ⟨location, rfl, ?_⟩
    simp only at h
    split at h
    · cases h
    · cases h
    · next hentry => exact .inl hentry
    · next content' hentry => cases h; exact .inr hentry

end RequestCheck
