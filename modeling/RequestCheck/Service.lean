import RequestCheck.RequestStream

/-!
# Streams that share a checker

A checker can serve many streams at a time, and single requests between them. Streams are opened,
advanced, drained and closed in any order; all of them work on the one session of the checker.

    c.serve v t         the service v after the turn t
    c.serveAll v ts     the service v after the turns ts
-/

namespace RequestCheck

/-- How a stream came to its end: it was closed, or it ran until there were no more lines or one
failed. -/
inductive Ending where
  | closed
  | ran (failure : Option Failure)

/-- A stream with its history: the lines that it was opened with, the answers that it has given, and
how it came to its end, if it has. -/
structure Course where
  lines : List Line
  stream : RequestStream
  answers : List Answered := []
  ending : Option Ending := none

/-- What is done next. A stream is known by the number of streams that were opened before it. -/
inductive Turn where
  | start (lines : List Line)
  | next (stream : Nat)
  | drain (stream : Nat)
  | close (stream : Nat)
  | check (request : Request)

/-- The session of a checker, the streams that it serves, and all that has been answered so far. -/
structure Service where
  session : Session
  courses : List Course := []
  answered : List Answered := []

namespace Course

/-- A stream that has just been opened. -/
def ofLines (lines : List Line) : Course := { lines, stream := .ofLines lines }

/-- The course of a stream that has given answers; its first ending is the one that counts. -/
def advance (k : Course) (stream : RequestStream) (items : List Answered)
    (ending : Option Ending) : Course :=
  { k with stream, answers := k.answers ++ items, ending := k.ending.or ending }

end Course

namespace StreamStep

def items : StreamStep → List Answered
  | .answer item => [item]
  | .ended => []
  | .failed _ => []

/-- The end of the stream, if a step tells of it. -/
def ending? : StreamStep → Option Ending
  | .answer _ => none
  | .ended => some (.ran none)
  | .failed failure => some (.ran (some failure))

end StreamStep

namespace Service

/-- The service after a stream has gone on. -/
def advance (v : Service) (stream : Nat) (k : Course) (g : RequestStream) (items : List Answered)
    (ending : Option Ending) (s : Session) : Service :=
  { session := s
    courses := v.courses.set stream (k.advance g items ending)
    answered := v.answered ++ items }

end Service

namespace Checker

/-- Takes a turn. There is nothing to do for a stream that was never opened. -/
def serve (c : Checker) (v : Service) : Turn → Service
  | .start lines => { v with courses := v.courses ++ [.ofLines lines] }
  | .next stream =>
    match v.courses[stream]? with
    | none => v
    | some k =>
      let (step, g, s) := c.next k.stream v.session
      v.advance stream k g step.items step.ending? s
  | .drain stream =>
    match v.courses[stream]? with
    | none => v
    | some k =>
      let (items, ending, g, s) := c.drain k.stream v.session
      v.advance stream k g items (some (.ran ending)) s
  | .close stream =>
    match v.courses[stream]? with
    | none => v
    | some k => v.advance stream k k.stream.close [] (some .closed) v.session
  | .check r =>
    match c.check r v.session with
    | (.error _, s) => { v with session := s }
    | (.ok verdict, s) => { v with session := s, answered := v.answered ++ [(r, verdict)] }

def serveAll (c : Checker) (v : Service) (turns : List Turn) : Service := turns.foldl c.serve v

end Checker

end RequestCheck
