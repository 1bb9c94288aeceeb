import Mathlib
import RequestCheck.Proofs.Draining
import RequestCheck.Proofs.Growth
import RequestCheck.Proofs.MetricsFile
import RequestCheck.Proofs.Splitting

/-!
# Checks that are recorded

With a metrics file a check comes to a verdict only if its row can be written down, and a row cannot
be written down if the request has a surrogate in it, as a JSON escape may put there. Such a request
is accepted, and the engine is asked about it; then the check fails with an encoding error, and the
stream ends. No other request ends a stream, unless something is wrong with the file or the clock.

    writeRow row is encodable  if and only if  every field is               (encodable_writeRow_iff)
    c.Records s                c has a metrics file, and the clock and the date give no trouble
    (check r s).1 = verdict    if and only if  r is encodable               (check_recording)
    drainAfter stops at the first line that is malformed or not encodable
-/

namespace RequestCheck

/-! ## Rows without surrogates -/

namespace Csv

theorem mem_writeField {field : Text} {c : CodePoint} (h : c ∈ field) : c ∈ writeField field := by
  unfold writeField
  split
  · refine List.mem_cons_of_mem _ (List.mem_append_left _ (List.mem_flatMap.mpr ⟨c, h, ?_⟩))
    split
    · next hc => rw [hc]; exact List.mem_cons_self
    · exact List.mem_singleton_self c
  · exact h

theorem mem_of_mem_writeField {field : Text} {c : CodePoint} (h : c ∈ writeField field) :
    c = quote ∨ c ∈ field := by
  unfold writeField at h
  split at h
  · rcases List.mem_cons.mp h with h | h
    · exact .inl h
    · rcases List.mem_append.mp h with h | h
      · obtain ⟨x, hx, h⟩ := List.mem_flatMap.mp h
        split at h
        · simp only [List.mem_cons, List.not_mem_nil, or_false, or_self] at h
          exact .inl h
        · rw [List.mem_singleton.mp h]
          exact .inr hx
      · exact .inl (List.mem_singleton.mp h)
  · exact .inr h

/-- **A row** has a surrogate in it if and only if one of its fields has. -/
theorem encodable_writeRow_iff (row : Row) :
    Utf8.Encodable (writeRow row) ↔ ∀ field ∈ row, Utf8.Encodable field := by
  constructor
  · intro h field hfield c hc
    refine h c (List.mem_append_left _ ?_)
    exact Text.mem_joinWith (List.mem_map.mpr ⟨field, hfield, rfl⟩) (mem_writeField hc)
  · intro h
    refine Utf8.Encodable.append (fun c hc => ?_) (fun c hc => ?_)
    · rcases Text.mem_of_mem_joinWith hc with hc | ⟨t, ht, hc⟩
      · rw [List.mem_singleton.mp hc]
        rfl
      · obtain ⟨field, hfield, rfl⟩ := List.mem_map.mp ht
        rcases mem_of_mem_writeField hc with rfl | hc
        · rfl
        · exact h field hfield c hc
    · simp only [List.mem_cons, List.not_mem_nil, or_false] at hc
      rcases hc with rfl | rfl <;> rfl

end Csv

/-- **The row for a check** can be written down if and only if the request has no surrogates. -/
theorem Metrics.encodable_row_iff (now : Int) (r : Request) (v : Verdict) (latency : Int) :
    Utf8.Encodable (Csv.writeRow (row now r (RequestType.normalize r.type) v latency)) ↔
      r.IsEncodable := by
  have hflag : ∀ b, Utf8.Encodable (flag b) := by
    intro b
    cases b <;> exact Utf8.encodable_ofString _
  rw [Csv.encodable_writeRow_iff]
  simp only [row, List.mem_cons, List.not_mem_nil, or_false, forall_eq_or_imp, forall_eq]
  constructor
  · rintro ⟨-, hurl, hcontext, htype, -⟩
    exact ⟨hurl, hcontext, htype⟩
  · rintro ⟨hurl, hcontext, htype⟩
    exact ⟨Calendar.encodable_timestamp now, hurl, hcontext, htype,
      RequestType.encodable_normalize htype, Utf8.encodable_ofInt latency, hflag _, hflag _⟩

/-! ## Latencies -/

/-- A finite double has a mantissa of at most 53 bits, and its exponent has a bound. -/
theorem Double.bounds_of_ofFloat {x : Float} {negative : Bool} {mantissa : Nat} {exponent : Int}
    (h : ofFloat x = .finite negative mantissa exponent) : mantissa < 2 ^ 53 ∧ exponent ≤ 971 := by
  have hfraction : x.toBits.toNat % hiddenBit < hiddenBit := Nat.mod_lt _ (by decide)
  have hhidden : hiddenBit = 2 ^ 52 := by rfl
  unfold ofFloat at h
  simp only at h
  split at h
  · split at h <;> cases h
  · split at h
    · cases h
      omega
    · cases h
      omega

/-- Cut towards zero, a mantissa times a power of two has no more bits than the two together. -/
theorem Double.natAbs_truncated_lt {negative : Bool} {mantissa bits power : Nat} {exponent : Int}
    (hmantissa : mantissa < 2 ^ bits) (hexponent : exponent ≤ power) :
    (truncated negative mantissa exponent).natAbs < 2 ^ (bits + power) := by
  have habs : (truncated negative mantissa exponent).natAbs =
      numerator mantissa exponent / denominator exponent := by
    unfold truncated
    cases negative
    · rfl
    · exact Int.natAbs_neg _
  have hpower : 2 ^ exponent.toNat ≤ 2 ^ power := Nat.pow_le_pow_right (by decide) (by omega)
  rw [habs]
  calc numerator mantissa exponent / denominator exponent
      ≤ numerator mantissa exponent := Nat.div_le_self _ _
    _ = mantissa * 2 ^ exponent.toNat := Nat.shiftLeft_eq _ _
    _ < 2 ^ bits * 2 ^ power :=
      Nat.mul_lt_mul_of_lt_of_le hmantissa hpower (Nat.pow_pos (by decide))
    _ = 2 ^ (bits + power) := (Nat.pow_add 2 bits power).symm

theorem Text.length_ofNat_le {n bits : Nat} (h : n < 2 ^ bits) (hbits : bits ≤ maxIntegerDigits) :
    (ofNat n).length ≤ maxIntegerDigits := by
  unfold ofNat
  rw [List.length_map, Nat.length_toDigits_le_iff (by decide) (by decide)]
  calc n < 2 ^ bits := h
    _ ≤ 2 ^ maxIntegerDigits := Nat.pow_le_pow_right (by decide) hbits
    _ ≤ 10 ^ maxIntegerDigits := Nat.pow_le_pow_left (by decide) _

namespace Reading

variable {first second : Reading} {latency : Int}

/-- The latency between two whole numbers of seconds has not too many digits to be written down.
Doubles are never so far apart. -/
def IsShort : Reading → Reading → Prop
  | .whole a, .whole b => (Text.ofNat ((b - a) * 1000).natAbs).length ≤ Text.maxIntegerDigits
  | _, _ => True

theorem length_truncate_le {x : Float} (h : truncate x = .ok latency) :
    (Text.ofNat latency.natAbs).length ≤ Text.maxIntegerDigits := by
  unfold truncate at h
  split at h
  · cases h
  · cases h
  · next hfinite =>
    cases h
    obtain ⟨hmantissa, hexponent⟩ := Double.bounds_of_ofFloat hfinite
    exact Text.length_ofNat_le (Double.natAbs_truncated_lt hmantissa hexponent) (by decide)

/-- **A latency** that there is can be written down. -/
theorem length_milliseconds_le (h : milliseconds first second = .ok latency)
    (hshort : IsShort first second) :
    (Text.ofNat latency.natAbs).length ≤ Text.maxIntegerDigits := by
  unfold milliseconds at h
  split at h
  · cases h
    exact hshort
  · split at h
    · exact length_truncate_le h
    · cases h
    · cases h

end Reading

/-- No two readings that follow each other are too far apart. -/
def Clock.Short (c : Clock) : Prop := ∀ n, Reading.IsShort (c.reading n) (c.reading (n + 1))

theorem Clock.Short.behind {c : Clock} (h : c.Short) (n : Nat) : (c.behind n).Short := by
  intro m
  rw [← reading_add, ← reading_add]
  exact h (n + m)

/-! ## Rows that are added -/

namespace Metrics

def IsFile (m : Metrics) (d : Disk) : Prop :=
  ∃ content, d.status m.path.toText = .ok (some (.file content))

variable {m : Metrics} {d d' : Disk} {now latency : Int}

theorem IsFile.mono (h : m.IsFile d) (hgrows : d.Grows d') : m.IsFile d' := by
  obtain ⟨content, hstatus⟩ := h
  obtain ⟨content', hstatus', -⟩ := hgrows.status hstatus
  exact ⟨content', hstatus'⟩

/-- **A row** is added to a file if it can be written down at all, and nothing is added otherwise. -/
theorem log_of_file {content : Octets} (hfile : d.status m.path.toText = .ok (some (.file content)))
    (hnow : Calendar.rangeError? now = none) (r : Request) (type : Text) (v : Verdict)
    (latency : Int) :
    match checkOctets now r type v latency with
    | .error failure => ∃ d', m.log now r type v latency d = (.error failure, d') ∧
        d'.status m.path.toText = .ok (some (.file content))
    | .ok octets => ∃ d', m.log now r type v latency d = (.ok (), d') ∧
        d'.status m.path.toText = .ok (some (.file (content ++ octets))) := by
  obtain ⟨opened, hopened, hstatus⟩ := Disk.append_status hfile []
  rw [List.append_nil] at hstatus
  unfold log
  simp only [hnow, hopened]
  cases checkOctets now r type v latency with
  | error failure => exact ⟨opened, rfl, hstatus⟩
  | ok octets =>
    obtain ⟨added, hadded, hstatus'⟩ := Disk.append_status hstatus octets
    simp only [hadded]
    exact ⟨added, rfl, hstatus'⟩

/-- The row for a request can be written down if the request has no surrogates; otherwise they are
what is wrong with it. -/
theorem checkOctets_normalize (now : Int) (r : Request) (v : Verdict)
    (hlatency : (Text.ofNat latency.natAbs).length ≤ Text.maxIntegerDigits) :
    (r.IsEncodable →
        ∃ octets, checkOctets now r (RequestType.normalize r.type) v latency = .ok octets) ∧
      (¬ r.IsEncodable → ∃ error,
        checkOctets now r (RequestType.normalize r.type) v latency =
          .error (.unencodable error)) := by
  have hrow := encodable_row_iff now r v latency
  constructor
  · intro hencodable
    exact ⟨_, checkOctets_eq_ok_iff.mpr
      ⟨hlatency, rowOctets_eq_ok_iff.mpr ⟨hrow.mpr hencodable, rfl⟩⟩⟩
  · intro hnot
    unfold checkOctets
    rw [if_neg (Nat.not_lt.mpr hlatency)]
    cases hoctets : rowOctets (row now r (RequestType.normalize r.type) v latency) with
    | error error => exact ⟨error, rfl⟩
    | ok octets => exact absurd (hrow.mp (rowOctets_eq_ok_iff.mp hoctets).1) hnot

end Metrics

/-! ## Checkers with a metrics file -/

/-- The reply is a fault, or it says whether the request matched. -/
def Engine.Reply.Decides : Engine.Reply → Prop
  | .raised _ => True
  | .answered answer => answer.matched.isSome

theorem Engine.Reply.Decides.verdict? {e : Engine} {q : Engine.Query} (h : (e q).Decides) :
    ∃ v, e.verdict? q = some v := by
  unfold Engine.verdict? Engine.check Engine.Reply.verdict
  cases hreply : e q with
  | raised fault => exact ⟨_, rfl⟩
  | answered answer =>
    rw [hreply] at h
    obtain ⟨matched, hmatched⟩ := Option.isSome_iff_exists.mp h
    simp only [Engine.Answer.verdict, hmatched]
    cases Engine.errorText? answer.error with
    | none => exact ⟨_, rfl⟩
    | some message => exact ⟨_, rfl⟩

/-- The result is the verdict if the request has no surrogates, and else a complaint about them. -/
structure Request.Settles (r : Request) (result : Except Failure Verdict) (v : Verdict) : Prop where
  ok : r.IsEncodable → result = .ok v
  error : ¬ r.IsEncodable → ∃ error, result = .error (.unencodable error)

namespace Checker

variable {c : Checker} {s s' : Session} {r : Request} {v : Verdict}

/-- There is a metrics file, the system can tell the date, and the clock gives latencies that can be
written down. -/
structure Records (c : Checker) (s : Session) : Prop where
  metrics : ∃ m, c.metrics = some m ∧ m.IsFile s.disk
  now : Calendar.rangeError? s.now = none
  steady : s.clock.Steady
  short : s.clock.Short

/-- Files that grow and readings that are taken are no hindrance. -/
theorem Records.mono (h : c.Records s) (hdisk : s.disk.Grows s'.disk) (hnow : s'.now = s.now)
    {n : Nat} (hclock : s'.clock = s.clock.behind n) : c.Records s' := by
  obtain ⟨m, hm, hfile⟩ := h.metrics
  exact ⟨⟨m, hm, hfile.mono hdisk⟩, hnow ▸ h.now, hclock ▸ h.steady.behind n,
    hclock ▸ h.short.behind n⟩

theorem note_now (c : Checker) (origin : Origin) (r : Request) (v : Verdict) (s : Session) :
    (c.note origin r v s).now = s.now := by
  unfold note
  split <;> rfl

theorem finish_now (c : Checker) (origin : Origin) (r : Request) (type : Text) (start : Reading)
    (v : Verdict) (s : Session) : (c.finish origin r type start v s).2.now = s.now := by
  unfold finish
  simp only
  split
  · rfl
  · obtain ⟨d, hd⟩ :=
      c.record_session r v (s.tick.2.log c.runtime origin .debug (trace r type v)) type _
    rw [hd]
    rfl

theorem check_now (c : Checker) (r : Request) (s : Session) : (c.check r s).2.now = s.now := by
  unfold check
  rw [ask_eq]
  split
  · rfl
  · rw [finish_now, note_now]
    rfl

/-- **A check** leaves a checker that records. -/
theorem Records.check (h : c.Records s) (r : Request) : c.Records (c.check r s).2 :=
  h.mono (Disk.additive_grows.ask c .stream r.query r s) (c.check_now r s)
    (c.ask_clock .stream r.query r s)

/-- The verdict stands if the row for it can be written down. -/
theorem Records.record (h : c.Records s) (r : Request) (v : Verdict) {latency : Int}
    (hlatency : (Text.ofNat latency.natAbs).length ≤ Text.maxIntegerDigits) :
    r.Settles (c.record r (RequestType.normalize r.type) latency v s).1 v := by
  obtain ⟨m, hm, content, hfile⟩ := h.metrics
  have hlog := Metrics.log_of_file hfile h.now r (RequestType.normalize r.type) v latency
  obtain ⟨hencodable, hnot⟩ := Metrics.checkOctets_normalize s.now r v hlatency
  unfold Checker.record
  simp only [hm]
  constructor
  · intro hr
    obtain ⟨octets, hoctets⟩ := hencodable hr
    rw [hoctets] at hlog
    obtain ⟨d', hlogged, -⟩ := hlog
    rw [hlogged]
  · intro hr
    obtain ⟨error, herror⟩ := hnot hr
    rw [herror] at hlog
    obtain ⟨d', hlogged, -⟩ := hlog
    rw [hlogged]
    exact ⟨error, rfl⟩

/-- Where there is a latency, the verdict stands or falls with the row. -/
theorem Records.finish (h : c.Records s) (origin : Origin) (r : Request) (v : Verdict)
    {start : Reading}
    {latency : Int} (hlatency : start.milliseconds (s.clock.reading 0) = .ok latency)
    (hshort : start.IsShort (s.clock.reading 0)) :
    r.Settles (c.finish origin r (RequestType.normalize r.type) start v s).1 v := by
  have hstop : start.milliseconds s.tick.1 = .ok latency := hlatency
  have hclock : s.tick.2.clock = s.clock.behind 1 := rfl
  have hlogged : c.Records
      (s.tick.2.log c.runtime origin .debug (trace r (RequestType.normalize r.type) v)) :=
    h.mono (Disk.additive_grows.write s.journal s.now .debug _ s.disk) rfl hclock
  unfold Checker.finish
  simp only [hstop]
  exact hlogged.record r v (Reading.length_milliseconds_le hlatency hshort)

/-- Whether the verdict of the engine stands depends on the request. -/
theorem Records.check_result (h : c.Records s) (r : Request)
    (hv : c.engine.verdict? r.query = some v) : r.Settles (c.check r s).1 v := by
  have hclock : (c.note .stream r v (s.tick.2.call r.query)).clock = s.clock.behind 1 :=
    c.note_clock .stream r v _
  have hnoted : c.Records (c.note .stream r v (s.tick.2.call r.query)) :=
    h.mono (Disk.additive_grows.note c .stream r v (s.tick.2.call r.query))
      (c.note_now .stream r v _) hclock
  obtain ⟨latency, hlatency⟩ := h.steady 0
  have hshort := h.short 0
  have hnext : s.clock.reading 1 = (c.note .stream r v (s.tick.2.call r.query)).clock.reading 0 := by
    rw [hclock]
    rfl
  rw [hnext] at hlatency hshort
  unfold Checker.check
  rw [ask_eq, hv]
  exact hnoted.finish .stream r v hlatency hshort

end Checker

/-! ## Streams -/

/-- The line is blank, or holds a request without surrogates. -/
structure Line.IsRecordable (nesting : Nat) (line : Line) : Prop where
  wellFormed : line.isMalformed nesting = false
  encodable : ∀ r, line.request? nesting = some r → r.IsEncodable

namespace Checker

variable {c : Checker} {s : Session} {line : Line}

/-- **One line** is passed over or answered if it can be recorded. -/
theorem feed_of_isRecordable (h : c.Records s) (hdecides : ∀ q, (c.engine q).Decides)
    (number : Nat) (hline : line.IsRecordable c.runtime.nesting) :
    ∃ s', c.Records s' ∧ c.feed number line s =
      (match c.engine.answer? c.runtime line with
        | none => .blank
        | some (r, v) => .answered r v, s') := by
  unfold Engine.answer?
  rw [feed_eq, (line.fault?_eq_none_iff number).mpr hline.wellFormed]
  cases hr : line.request? c.runtime.nesting with
  | none => exact ⟨s, h, rfl⟩
  | some r =>
    obtain ⟨v, hv⟩ := (hdecides r.query).verdict?
    have hcheck := (h.check_result r hv).ok (hline.encodable r hr)
    have hrecords := h.check r
    cases hchecked : c.check r s with
    | mk result s' =>
      rw [hchecked] at hcheck hrecords
      cases hcheck
      refine ⟨s', hrecords, ?_⟩
      simp only [hchecked, hv, Option.bind_some, Option.map_some]

/-- Any other line fails: it is malformed, or the row for it cannot be written down. -/
theorem feed_of_not_isRecordable (h : c.Records s) (hdecides : ∀ q, (c.engine q).Decides)
    (number : Nat) (hline : ¬ line.IsRecordable c.runtime.nesting) :
    ∃ failure s', c.Records s' ∧ c.feed number line s = (.failed failure, s') ∧
      (line.fault? c.runtime.nesting number = some failure ∨
        ∃ error, failure = .unencodable error) := by
  rw [feed_eq]
  cases hfault : line.fault? c.runtime.nesting number with
  | some failure => exact ⟨failure, s, h, rfl, .inl rfl⟩
  | none =>
    have hwellFormed := (line.fault?_eq_none_iff number).mp hfault
    cases hr : line.request? c.runtime.nesting with
    | none => exact absurd ⟨hwellFormed, fun r h => by rw [hr] at h; cases h⟩ hline
    | some r =>
      have hnot : ¬ r.IsEncodable := fun hencodable =>
        hline ⟨hwellFormed, fun r' h => by rw [hr] at h; cases h; exact hencodable⟩
      obtain ⟨v, hv⟩ := (hdecides r.query).verdict?
      obtain ⟨error, hcheck⟩ := (h.check_result r hv).error hnot
      have hrecords := h.check r
      cases hchecked : c.check r s with
      | mk result s' =>
        rw [hchecked] at hcheck hrecords
        cases hcheck
        exact ⟨.unencodable error, s', hrecords, by simp only [hchecked], .inr ⟨error, rfl⟩⟩

/-- **Lines that can be recorded** are all answered. -/
theorem drainAfter_of_isRecordable (h : c.Records s)
    (hdecides : ∀ q, (c.engine q).Decides) (taken : Nat) {lines : List Line}
    (hlines : ∀ line ∈ lines, line.IsRecordable c.runtime.nesting) :
    ∃ g s', c.Records s' ∧
      c.drainAfter taken s lines = (lines.filterMap (c.engine.answer? c.runtime), none, g, s') := by
  induction lines generalizing taken s with
  | nil => exact ⟨_, s, h, rfl⟩
  | cons line rest ih =>
    obtain ⟨s', hrecords, hfeed⟩ :=
      feed_of_isRecordable h hdecides (taken + 1) (hlines line List.mem_cons_self)
    obtain ⟨g, s'', hrecords', hrest⟩ :=
      ih hrecords (taken + 1) fun line hline => hlines line (List.mem_cons_of_mem _ hline)
    refine ⟨g, s'', hrecords', ?_⟩
    rw [drainAfter, hfeed]
    cases hanswer : c.engine.answer? c.runtime line with
    | none => rw [List.filterMap_cons_none hanswer]; exact hrest
    | some item =>
      simp only [hrest]
      rw [List.filterMap_cons_some hanswer]

/-- The first line that cannot be recorded ends the stream. -/
theorem drainAfter_of_not_isRecordable (h : c.Records s)
    (hdecides : ∀ q, (c.engine q).Decides) (taken : Nat) {before after : List Line}
    (hbefore : ∀ line ∈ before, line.IsRecordable c.runtime.nesting)
    (hline : ¬ line.IsRecordable c.runtime.nesting) :
    ∃ failure s', c.Records s' ∧
      c.drainAfter taken s (before ++ line :: after) =
        (before.filterMap (c.engine.answer? c.runtime), some failure,
          { rest := after, taken := taken + before.length + 1, isOver := true }, s') ∧
      (line.fault? c.runtime.nesting (taken + before.length + 1) = some failure ∨
        ∃ error, failure = .unencodable error) := by
  obtain ⟨g, s', hrecords, hdrain⟩ := drainAfter_of_isRecordable h hdecides taken hbefore
  obtain ⟨failure, s'', hrecords', hfeed, hfailure⟩ :=
    feed_of_not_isRecordable hrecords hdecides (taken + before.length + 1) hline
  have htaken : g.taken = taken + before.length := by rw [drainAfter_ended c hdrain]
  refine ⟨failure, s'', hrecords', ?_, hfailure⟩
  rw [drainAfter_append, hdrain]
  simp only [drainAfter, htaken, hfeed, List.append_nil]

end Checker

/-! ## Top theorem -/

/-- **Checks that are recorded.** A check comes to the verdict of the engine if and only if the request
has no surrogates; otherwise it fails, because the row for it cannot be written down. Lines that are
blank or hold requests without surrogates are all answered; the first other line ends the stream, by
what is wrong with it or because the row for its request cannot be written down. Either way the checker
can go on. -/
theorem check_recording {c : Checker} {s : Session} (h : c.Records s) :
    (∀ r, (c.engine r.query).Decides → ∃ v, c.engine.verdict? r.query = some v ∧
      ((c.check r s).1 = .ok v ↔ r.IsEncodable) ∧
      ((∃ error, (c.check r s).1 = .error (.unencodable error)) ↔ ¬ r.IsEncodable) ∧
      c.Records (c.check r s).2) ∧
    ((∀ q, (c.engine q).Decides) → ∀ (taken : Nat) (before : List Line),
      (∀ line ∈ before, line.IsRecordable c.runtime.nesting) →
      (∃ g s', c.Records s' ∧ c.drainAfter taken s before =
        (before.filterMap (c.engine.answer? c.runtime), none, g, s')) ∧
      ∀ (line : Line) (after : List Line), ¬ line.IsRecordable c.runtime.nesting →
        ∃ failure s', c.Records s' ∧ c.drainAfter taken s (before ++ line :: after) =
          (before.filterMap (c.engine.answer? c.runtime), some failure,
            { rest := after, taken := taken + before.length + 1, isOver := true }, s') ∧
          (line.fault? c.runtime.nesting (taken + before.length + 1) = some failure ∨
            ∃ error, failure = .unencodable error)) := by
  refine ⟨fun r hdecides => ?_, fun hdecides taken before hbefore =>
    ⟨Checker.drainAfter_of_isRecordable h hdecides taken hbefore, fun line after hline =>
      Checker.drainAfter_of_not_isRecordable h hdecides taken hbefore hline⟩⟩
  obtain ⟨v, hv⟩ := hdecides.verdict?
  obtain ⟨hencodable, hnot⟩ := h.check_result r hv
  refine ⟨v, hv, ⟨fun hok => ?_, hencodable⟩, ⟨fun herror hr => ?_, hnot⟩, h.check r⟩
  · refine Decidable.byContradiction fun hr => ?_
    obtain ⟨error, herror⟩ := hnot hr
    rw [hok] at herror
    cases herror
  · obtain ⟨error, herror⟩ := herror
    rw [hencodable hr] at herror
    cases herror

/-- A clock that stands still gives latencies that can be written down. -/
theorem Clock.short_still : Clock.Short [.whole 0] := by
  have hreading : ∀ n, reading [.whole 0] n = .whole 0 := by
    intro n
    induction n with
    | zero => rfl
    | succ n ih => exact ih
  intro n
  rw [hreading, hreading]
  show (Text.ofNat 0).length ≤ Text.maxIntegerDigits
  decide

/-- A request that the engine rejects. -/
theorem check_recording_rejected :
    let c : Checker :=
      { engine := fun _ => .raised { kind := .invalidValue, detail := "empty host" }
        metrics := some { path := .ofText "m.csv" } }
    let s : Session := { disk := { entries := [(["m.csv"], .file Metrics.headerOctets)] } }
    let r : Request := { url := "u", context := "\u00fc", type := "Image" }
    c.Records s ∧ (c.engine r.query).Decides ∧
      (c.check r s).1 = .ok (.failure "empty host") := by
  intro c s r
  have hrecords : c.Records s :=
    { metrics := ⟨_, rfl, Metrics.headerOctets, rfl⟩
      now := by decide
      steady := Clock.steady_whole [0]
      short := Clock.short_still }
  have hencodable : r.IsEncodable := by decide
  obtain ⟨v, hv, hok, -⟩ := (check_recording hrecords).1 r trivial
  cases hv
  exact ⟨hrecords, trivial, hok.mpr hencodable⟩

/-- A line with a lone surrogate holds a request; the check of it fails, and so the stream ends
before the request on the next line. -/
theorem check_of_surrogate :
    let c : Checker :=
      { engine := fun _ => .answered { matched := some (.boolean false) }
        metrics := some { path := .ofText "m.csv" } }
    let s : Session := { disk := { entries := [(["m.csv"], .file Metrics.headerOctets)] } }
    let line : Text :=
      "\x7b\"url\": \"\\ud800\", \"context\": \"c\", \"type\": \"image\"\x7d"
    let next : Text := "\x7b\"url\": \"u\", \"context\": \"c\", \"type\": \"image\"\x7d"
    c.Records s ∧
      (∃ r, Request.parse c.runtime.nesting 1 line = .ok r ∧ (c.engine r.query).Decides ∧
        ∃ error, (c.check r s).1 = .error (.unencodable error)) ∧
      (c.drain (.ofLines [.text line, .text next]) s).1 = [] ∧
      (c.drain (.ofLines [.text line, .text next]) s).2.1 =
        some (.unencodable { position := 20, first := 0xD800, count := 1 }) := by
  intro c s line next
  have hrecords : c.Records s :=
    { metrics := ⟨_, rfl, Metrics.headerOctets, rfl⟩
      now := by decide
      steady := Clock.steady_whole [0]
      short := Clock.short_still }
  refine ⟨hrecords, ⟨{ url := [0xD800], context := "c", type := "image" }, ?_, rfl, ?_⟩, ?_, ?_⟩
  · decide +kernel
  · exact (hrecords.check_result _ rfl).error (by decide)
  · exact List.isEmpty_iff.mp (by decide +kernel)
  · decide +kernel

end RequestCheck
