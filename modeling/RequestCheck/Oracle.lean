import RequestCheck.Service

/-!
# Engines that remember

A blocking engine need not be a function of what it is asked: it may reply to the same question in
another way each time. An oracle is such an engine, one that may remember all that it was asked. An
inspector is a checker with an oracle; it does what a checker does whose engine is the oracle as it
is at that moment.

    i.checker s        the checker that i is behind the calls of the session s
    i.drain g s        all answers that are left in the stream g, and how it ended
    i.serve v t        the service v after the turn t
    i.serveAll v ts    the service v after the turns ts
-/

namespace RequestCheck

/-- An engine that may remember what it was asked: the engine that it is behind some calls. -/
abbrev Oracle := List Engine.Query → Engine

/-- An oracle, a metrics file if there is one, and what the inspector runs on. -/
structure Inspector where
  oracle : Oracle
  metrics : Option Metrics := none
  runtime : Runtime := {}

/-- The session as a new checker finds it: its engine has not been asked, and no check has failed. -/
def Session.renewed (s : Session) : Session := { s with calls := [], anyFailure := false }

namespace Inspector

/-- The checker that an inspector is, behind the calls of a session. -/
def checker (i : Inspector) (s : Session) : Checker :=
  { engine := i.oracle s.calls, metrics := i.metrics, runtime := i.runtime }

/-- Takes all the lines, each with the oracle as it is by then. -/
def drainAfter (i : Inspector) (taken : Nat) (s : Session) :
    List Line → List Answered × Option Failure × RequestStream × Session
  | [] => ([], none, { rest := [], taken, isOver := true }, s)
  | line :: rest =>
    match (i.checker s).feed (taken + 1) line s with
    | (.blank, s) => i.drainAfter (taken + 1) s rest
    | (.failed failure, s) => ([], some failure, { rest, taken := taken + 1, isOver := true }, s)
    | (.answered r v, s) =>
      let (items, ending, g, s) := i.drainAfter (taken + 1) s rest
      ((r, v) :: items, ending, g, s)

def drain (i : Inspector) (g : RequestStream) (s : Session) :
    List Answered × Option Failure × RequestStream × Session :=
  if g.isOver then ([], none, g, s) else i.drainAfter g.taken s g.rest

/-- Takes a turn. Only a turn that drains a stream asks the oracle more than once. -/
def serve (i : Inspector) (v : Service) : Turn → Service
  | .start lines => (i.checker v.session).serve v (.start lines)
  | .next stream => (i.checker v.session).serve v (.next stream)
  | .drain stream =>
    match v.courses[stream]? with
    | none => v
    | some k =>
      let (items, ending, g, s) := i.drain k.stream v.session
      v.advance stream k g items (some (.ran ending)) s
  | .close stream => (i.checker v.session).serve v (.close stream)
  | .check r => (i.checker v.session).serve v (.check r)

def serveAll (i : Inspector) (v : Service) (turns : List Turn) : Service := turns.foldl i.serve v

end Inspector

end RequestCheck
