import RequestCheck.Oracle
import RequestCheck.Proofs.Utf8

/-!
# Lines as texts and as octets

A line may be handed over as a text or as its octets in UTF-8. Octets that can be decoded are never
told apart from their text, so nothing that a checker does depends on the choice, line by line: not
the answers, not how a stream ends, and not the session. Decoding all lines goes through every step:

    i.drainAfter n s (lines decoded) = i.drainAfter n s lines, decoded    (drainAfter_decoded)
    i.serve (v decoded) (t decoded) = (i.serve v t) decoded                  (serve_decoded)
    the choice is lost                                                    (serveAll_spelled)
-/

namespace RequestCheck

/-! ## Decoding ahead -/

/-- The line as a text, if it can be decoded. -/
def Line.decoded : Line → Line
  | .text t => .text t
  | .octets b =>
    match Utf8.decode b with
    | .ok t => .text t
    | .error _ => .octets b

def RequestStream.decoded (g : RequestStream) : RequestStream :=
  { g with rest := g.rest.map Line.decoded }

def Course.decoded (k : Course) : Course :=
  { k with lines := k.lines.map Line.decoded, stream := k.stream.decoded }

def Turn.decoded : Turn → Turn
  | .start lines => .start (lines.map Line.decoded)
  | .next stream => .next stream
  | .drain stream => .drain stream
  | .close stream => .close stream
  | .check r => .check r

def Service.decoded (v : Service) : Service := { v with courses := v.courses.map Course.decoded }

/-! ## One line -/

namespace Checker

variable (c : Checker)

theorem lineText_decoded (number : Nat) (line : Line) :
    lineText number line.decoded = lineText number line := by
  cases line with
  | text t => rfl
  | octets b =>
    cases h : Utf8.decode b with
    | ok t => simp only [Line.decoded, lineText, Request.decodeLine, h]
    | error e => simp only [Line.decoded, h]

/-- **One line** comes to the same. -/
theorem feed_decoded (number : Nat) (line : Line) (s : Session) :
    c.feed number line.decoded s = c.feed number line s := by
  unfold feed
  rw [lineText_decoded]

/-! ## Streams -/

theorem nextAfter_decoded (taken : Nat) (s : Session) (lines : List Line) :
    c.nextAfter taken s (lines.map Line.decoded) =
      ((c.nextAfter taken s lines).1, (c.nextAfter taken s lines).2.1.decoded,
        (c.nextAfter taken s lines).2.2) := by
  induction lines generalizing taken s with
  | nil => rfl
  | cons line rest ih =>
    simp only [List.map_cons, nextAfter, feed_decoded]
    cases hf : c.feed (taken + 1) line s with
    | mk outcome s' =>
      cases outcome with
      | blank => exact ih (taken + 1) s'
      | answered r v => rfl
      | failed failure => rfl

theorem next_decoded (g : RequestStream) (s : Session) :
    c.next g.decoded s = ((c.next g s).1, (c.next g s).2.1.decoded, (c.next g s).2.2) := by
  unfold next
  by_cases hover : g.isOver = true
  · rw [if_pos hover, if_pos (show g.decoded.isOver = true from hover)]
  · rw [if_neg hover, if_neg (show ¬ g.decoded.isOver = true from hover)]
    exact c.nextAfter_decoded g.taken s g.rest

end Checker

namespace Inspector

variable (i : Inspector)

theorem drainAfter_decoded (taken : Nat) (s : Session) (lines : List Line) :
    i.drainAfter taken s (lines.map Line.decoded) =
      ((i.drainAfter taken s lines).1, (i.drainAfter taken s lines).2.1,
        (i.drainAfter taken s lines).2.2.1.decoded, (i.drainAfter taken s lines).2.2.2) := by
  induction lines generalizing taken s with
  | nil => rfl
  | cons line rest ih =>
    simp only [List.map_cons, drainAfter, Checker.feed_decoded]
    cases hf : (i.checker s).feed (taken + 1) line s with
    | mk outcome s' =>
      cases outcome with
      | blank => exact ih (taken + 1) s'
      | failed failure => rfl
      | answered r v => simp only [ih (taken + 1) s']

theorem drain_decoded (g : RequestStream) (s : Session) :
    i.drain g.decoded s =
      ((i.drain g s).1, (i.drain g s).2.1, (i.drain g s).2.2.1.decoded, (i.drain g s).2.2.2) := by
  unfold drain
  by_cases hover : g.isOver = true
  · rw [if_pos hover, if_pos (show g.decoded.isOver = true from hover)]
  · rw [if_neg hover, if_neg (show ¬ g.decoded.isOver = true from hover)]
    exact i.drainAfter_decoded g.taken s g.rest

/-! ## Turns -/

theorem advance_decoded (v : Service) (stream : Nat) (k : Course) (g : RequestStream)
    (items : List Answered) (ending : Option Ending) (s : Session) :
    v.decoded.advance stream k.decoded g.decoded items ending s =
      (v.advance stream k g items ending s).decoded := by
  unfold Service.advance Service.decoded
  rw [List.map_set]
  rfl

/-- **One turn** comes to the same. -/
theorem serve_decoded (v : Service) (turn : Turn) :
    i.serve v.decoded turn.decoded = (i.serve v turn).decoded := by
  have hsession : v.decoded.session = v.session := rfl
  have hcourse : ∀ stream : Nat,
      v.decoded.courses[stream]? = v.courses[stream]?.map Course.decoded :=
    fun stream => List.getElem?_map
  cases turn with
  | start lines =>
    simp only [Turn.decoded, serve, Checker.serve, Service.decoded, List.map_append]
    rfl
  | next stream =>
    simp only [Turn.decoded, serve, Checker.serve, hcourse, hsession]
    cases v.courses[stream]? with
    | none => rfl
    | some k =>
      have hnext : (i.checker v.session).next k.decoded.stream v.session = _ :=
        (i.checker v.session).next_decoded k.stream v.session
      simp only [Option.map_some, hnext]
      exact advance_decoded v stream k _ _ _ _
  | drain stream =>
    simp only [Turn.decoded, serve, hcourse, hsession]
    cases v.courses[stream]? with
    | none => rfl
    | some k =>
      have hdrain : i.drain k.decoded.stream v.session = _ := i.drain_decoded k.stream v.session
      simp only [Option.map_some, hdrain]
      exact advance_decoded v stream k _ _ _ _
  | close stream =>
    simp only [Turn.decoded, serve, Checker.serve, hcourse, hsession]
    cases v.courses[stream]? with
    | none => rfl
    | some k => exact advance_decoded v stream k k.stream.close _ _ _
  | check r =>
    simp only [Turn.decoded, serve, Checker.serve, hsession]
    cases (i.checker v.session).check r v.session with
    | mk result s =>
      cases result with
      | error failure => rfl
      | ok verdict => rfl

/-- **All turns** come to the same. -/
theorem serveAll_decoded (v : Service) (turns : List Turn) :
    i.serveAll v.decoded (turns.map Turn.decoded) = (i.serveAll v turns).decoded := by
  induction turns generalizing v with
  | nil => rfl
  | cons turn turns ih =>
    show i.serveAll (i.serve v.decoded turn.decoded) (turns.map Turn.decoded) = _
    rw [serve_decoded]
    exact ih (i.serve v turn)

end Inspector

/-! ## Choices -/

/-- The text as a line, handed over as octets or as it is. -/
def Line.ofText (asOctets : Bool) (t : Text) : Line :=
  if asOctets then .octets (t.flatMap Utf8.encodePoint) else .text t

theorem Line.decoded_ofText {t : Text} (h : Utf8.Encodable t) (asOctets : Bool) :
    (ofText asOctets t).decoded = .text t := by
  cases asOctets with
  | false => rfl
  | true => simp only [ofText, if_true, decoded, Utf8.decode_encodePoints h]

/-- What a course shows: its answers, how it came to its end, how many lines it has taken, and
whether it is over. -/
def Course.shown (k : Course) : List Answered × Option Ending × Nat × Bool :=
  (k.answers, k.ending, k.stream.taken, k.stream.isOver)

theorem Service.shown_decoded (v : Service) :
    v.decoded.courses.map Course.shown = v.courses.map Course.shown := by
  show (v.courses.map Course.decoded).map Course.shown = _
  rw [List.map_map]
  rfl

/-! ## Top theorem -/

/-- **Texts and octets.** Whichever of the lines are handed over as octets, a stream of them gives the
same answers, comes to the same end with the same error, takes as many lines, and leaves the same
session, when it is drained and also when it is taken step by step between other turns. -/
theorem spelling_of_lines (i : Inspector) (lines : List (Text × Bool))
    (hlines : ∀ line ∈ lines, Utf8.Encodable line.1) :
    let mixed := lines.map fun line => Line.ofText line.2 line.1
    let plain := lines.map fun line => Line.text line.1
    (∀ s, let a := i.drain (.ofLines mixed) s
      let b := i.drain (.ofLines plain) s
      a.1 = b.1 ∧ a.2.1 = b.2.1 ∧ a.2.2.1.taken = b.2.2.1.taken ∧ a.2.2.2 = b.2.2.2) ∧
      ∀ v turns, let a := i.serveAll v (.start mixed :: turns)
        let b := i.serveAll v (.start plain :: turns)
        a.session = b.session ∧ a.answered = b.answered ∧
          a.courses.map Course.shown = b.courses.map Course.shown := by
  intro mixed plain
  have hmixed : mixed.map Line.decoded = plain := by
    simp only [mixed, plain, List.map_map]
    exact List.map_congr_left fun line hline => Line.decoded_ofText (hlines line hline) line.2
  have hplain : plain.map Line.decoded = plain := by
    simp only [plain, List.map_map]
    rfl
  refine ⟨fun s => ?_, fun v turns => ?_⟩
  · have hdrain := i.drain_decoded (.ofLines mixed) s
    rw [show (RequestStream.ofLines mixed).decoded = .ofLines plain from
      congrArg RequestStream.ofLines hmixed] at hdrain
    simp only [hdrain]
    exact ⟨trivial, trivial, rfl, trivial⟩
  · intro a b
    have hboth : a.decoded = b.decoded := by
      rw [← i.serveAll_decoded, ← i.serveAll_decoded]
      simp only [List.map_cons, Turn.decoded, hmixed, hplain]
    refine ⟨?_, ?_, ?_⟩
    · show a.decoded.session = b.decoded.session
      rw [hboth]
    · show a.decoded.answered = b.decoded.answered
      rw [hboth]
    · rw [← a.shown_decoded, ← b.shown_decoded, hboth]

/-- A no-break space as octets, a request as octets, and a line as octets that is no JSON. -/
theorem spelling_of_malformed :
    let request : Text := "\x7b\"url\": \"\u00fc\", \"context\": \"\", \"type\": \"image\"\x7d"
    let lines : List (Text × Bool) := [("\u00a0", true), (request, true), ("\u00fc", true)]
    let mixed := lines.map fun line => Line.ofText line.2 line.1
    let plain := lines.map fun line => Line.text line.1
    let i : Inspector := { oracle := fun _ _ => .answered { matched := some (.boolean true) } }
    (∀ line ∈ lines, Utf8.Encodable line.1) ∧ mixed ≠ plain ∧
      (i.drain (.ofLines mixed) {}).1.length = 1 ∧
      (i.drain (.ofLines mixed) {}).2.2.1.taken = 3 ∧
      (i.drain (.ofLines mixed) {}).2.1.isSome = true ∧
      (i.drain (.ofLines mixed) {}).2.1 = (i.drain (.ofLines plain) {}).2.1 := by
  intro request lines mixed plain i
  have hlines : ∀ line ∈ lines, Utf8.Encodable line.1 := by decide +kernel
  obtain ⟨hdrain, -⟩ := spelling_of_lines i lines hlines
  obtain ⟨-, hending, -⟩ := hdrain {}
  refine ⟨hlines, by decide +kernel, by decide +kernel, by decide +kernel, by decide +kernel, ?_⟩
  simp only [mixed, plain]
  exact hending

end RequestCheck
