import RequestCheck.Checker

/-!
# Streams of requests

A stream takes its lines one by one, only as far as it has to for the next answer. It is over when
the lines are, when a line fails, or when it is closed; a stream that is over takes no line.

    c.next g s      the next answer of the stream g
    c.drain g s     all answers that are left, and how the stream ended
-/

namespace RequestCheck

/-- The lines that are left, how many were taken, and whether the stream is over. -/
structure RequestStream where
  rest : List Line
  taken : Nat := 0
  isOver : Bool := false

abbrev Answered := Request × Verdict

/-- What the next step of a stream gives. -/
inductive StreamStep where
  | answer (item : Answered)
  | ended
  | failed (failure : Failure)

namespace RequestStream

/-- A stream that has taken no line yet. -/
def ofLines (lines : List Line) : RequestStream := { rest := lines }

def close (g : RequestStream) : RequestStream := { g with isOver := true }

end RequestStream

namespace Checker

/-- Takes lines up to the next answer. -/
def nextAfter (c : Checker) (taken : Nat) (s : Session) :
    List Line → StreamStep × RequestStream × Session
  | [] => (.ended, { rest := [], taken, isOver := true }, s)
  | line :: rest =>
    match c.feed (taken + 1) line s with
    | (.blank, s) => c.nextAfter (taken + 1) s rest
    | (.answered r v, s) => (.answer (r, v), { rest, taken := taken + 1 }, s)
    | (.failed failure, s) => (.failed failure, { rest, taken := taken + 1, isOver := true }, s)

def next (c : Checker) (g : RequestStream) (s : Session) : StreamStep × RequestStream × Session :=
  if g.isOver then (.ended, g, s) else c.nextAfter g.taken s g.rest

/-- Takes all the lines: the answers, the failure that ended the stream if there was one, and the
stream behind it. -/
def drainAfter (c : Checker) (taken : Nat) (s : Session) :
    List Line → List Answered × Option Failure × RequestStream × Session
  | [] => ([], none, { rest := [], taken, isOver := true }, s)
  | line :: rest =>
    match c.feed (taken + 1) line s with
    | (.blank, s) => c.drainAfter (taken + 1) s rest
    | (.failed failure, s) => ([], some failure, { rest, taken := taken + 1, isOver := true }, s)
    | (.answered r v, s) =>
      let (items, ending, g, s) := c.drainAfter (taken + 1) s rest
      ((r, v) :: items, ending, g, s)

/-- The answers that are left in a stream, and how it ended. -/
def drain (c : Checker) (g : RequestStream) (s : Session) :
    List Answered × Option Failure × RequestStream × Session :=
  if g.isOver then ([], none, g, s) else c.drainAfter g.taken s g.rest

end Checker

end RequestCheck
