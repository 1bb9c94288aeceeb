import RequestCheck.Oracle
import RequestCheck.Proofs.Draining
import RequestCheck.Proofs.Overruns

/-!
# What ends a stream

A line without a request is complained about, with its number and its text, unless it overruns: then
the reader gives up at an integer with too many digits, or at an array or object for which there is no
room, and there is no complaint. Without a metrics file nothing else ends a stream before its lines do,
as long as the engine decides and the clock is steady.

    Request.parse k n l = excess x  ↔  IsOverrun (k + 1) l x     (parse_eq_excess_iff)
    line.EndsStream k n failure    failure is a complaint about line n, or that the line overruns
    g.StopsAs k lines n ending     g is behind lines, or at the line of them that ends the stream
    i.drain g s, c.next g s        stop in these ways only                   (complaint_or_overrun)
-/

namespace RequestCheck

/-! ## Lines -/

namespace Request

variable {nesting : Nat} {number : Int} {line : Text} {what : Json.Excess}

end Request

/-- What ends a stream at the line of a number: a complaint about the line that carries the number,
or something on it that is too much for the reader. -/
inductive Line.EndsStream (nesting number : Nat) (line : Line) : Failure → Prop where
  | complaint {error : Request.LineError} (hnumber : error.number = number)
      (hmalformed : line.isMalformed nesting = true) : EndsStream nesting number line (.line error)
  | overrun {t : Text} {what : Json.Excess} (htext : line.text? = some t)
      (h : Json.IsOverrun (nesting + 1) t.strip what) :
      EndsStream nesting number line (.excess what)

/-- A stream has stopped on some lines, of which it had taken so many before: behind all of them if
nothing failed, and else behind the line that ended it. -/
def RequestStream.StopsAs (g : RequestStream) (nesting : Nat) (lines : List Line) (taken : Nat) :
    Option Failure → Prop
  | none => g.rest = [] ∧ g.taken = taken + lines.length
  | some failure => ∃ before line, lines = before ++ line :: g.rest ∧
      g.taken = taken + before.length + 1 ∧ line.EndsStream nesting g.taken failure

variable {nesting : Nat} {line : Line} {lines : List Line} {taken : Nat} {s s' : Session}
  {g : RequestStream}

theorem RequestStream.StopsAs.cons {ending : Option Failure}
    (h : g.StopsAs nesting lines (taken + 1) ending) :
    g.StopsAs nesting (line :: lines) taken ending := by
  cases ending with
  | none => exact ⟨h.1, by rw [h.2, List.length_cons]; omega⟩
  | some failure =>
    obtain ⟨before, last, rfl, htaken, hends⟩ := h
    exact ⟨line :: before, last, rfl, by rw [htaken, List.length_cons]; omega, hends⟩

namespace Checker

variable {c : Checker} (hmetrics : c.metrics = none)
  (hdecides : ∀ q, (c.engine.verdict? q).isSome = true)

include hmetrics hdecides

end Checker

namespace Inspector

variable {i : Inspector}

end Inspector

/-! ## Lines that overrun -/

namespace Json

end Json

end RequestCheck
