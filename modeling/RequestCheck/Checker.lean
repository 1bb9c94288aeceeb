import RequestCheck.Metrics
import RequestCheck.RequestType
import RequestCheck.Session

/-!
# Checking requests

A checker asks its engine about requests. A request that the engine rejects gets a failed verdict
and a diagnostic, and the stream goes on; a line without a request ends the stream.

    c.check r s          the verdict on the request r
    c.checkDraft d s     the verdict on the draft d
    c.feed n l s         what comes of line n
-/

namespace RequestCheck

/-- An engine, a metrics file if there is one, and what the checker runs on. -/
structure Checker where
  engine : Engine
  metrics : Option Metrics := none
  runtime : Runtime := {}

/-- A line of a stream: a text, or octets that are still to be decoded. -/
inductive Line where
  | text (t : Text)
  | octets (b : Octets)
  deriving DecidableEq

/-- What comes of a line. -/
inductive LineOutcome where
  | blank
  | answered (request : Request) (verdict : Verdict)
  | failed (failure : Failure)

/-- What the engine is asked about a draft with a type. -/
def Draft.query (draft : Draft) (type : Text) : Engine.Query :=
  { url := draft.url, context := draft.context, type := RequestType.normalize type }

def Request.query (r : Request) : Engine.Query :=
  { url := some r.url, context := some r.context, type := RequestType.normalize r.type }

namespace Checker

/-- The diagnostic of a check that the engine rejected. -/
def rejection (r : Request) (message : Text) : Text :=
  "Failed to check url=" ++ r.url ++ " context=" ++ r.context ++
    " type=" ++ r.type ++ ": " ++ message

def trace (r : Request) (type : Text) (v : Verdict) : Text :=
  "Checked " ++ r.url ++ " (type " ++ r.type ++ " -> " ++ type ++ "): matched=" ++
    (if v.matched then "True" else "False" : Text)

/-- Writes the metrics row for a verdict, if there is a metrics file. -/
def record (c : Checker) (r : Request) (type : Text) (latency : Int) (v : Verdict) (s : Session) :
    Except Failure Verdict × Session :=
  match c.metrics with
  | none => (.ok v, s)
  | some metrics =>
    match metrics.log s.now r type v latency s.disk with
    | (.error failure, disk) => (.error failure, { s with disk })
    | (.ok (), disk) => (.ok v, { s with disk })

/-- Takes the time, leaves a trace and writes the metrics row. -/
def finish (c : Checker) (origin : Origin) (r : Request) (type : Text) (start : Reading)
    (v : Verdict) (s : Session) : Except Failure Verdict × Session :=
  let (stop, s) := s.tick
  match Reading.milliseconds start stop with
  | .error error => (.error (.latency error), s)
  | .ok latency => c.record r type latency v (s.log c.runtime origin .debug (trace r type v))

/-- The verdict on what the engine is asked; messages and metrics show it as a request. -/
def ask (c : Checker) (origin : Origin) (query : Engine.Query) (r : Request) (s : Session) :
    Except Failure Verdict × Session :=
  let (start, s) := s.tick
  let s := s.call query
  match c.engine.check query with
  | .error .undecided => (.error .undecided, s)
  | .error (.rejected message _) =>
    let s := { s.log c.runtime origin .error (rejection r message) with anyFailure := true }
    c.finish origin r query.type start (Verdict.failure message) s
  | .ok v => c.finish origin r query.type start v s

def check (c : Checker) (r : Request) (s : Session) : Except Failure Verdict × Session :=
  c.ask .stream r.query r s

/-- The verdict on a draft, which has to have a type. -/
def checkDraft (c : Checker) (draft : Draft) (s : Session) : Except Failure Verdict × Session :=
  match draft.type with
  | none => (.error .blankType, s)
  | some type => c.ask .request (draft.query type) (draft.shown type) s

def lineText (number : Nat) : Line → Except Request.LineError Text
  | .text t => .ok t
  | .octets b => Request.decodeLine number b

/-- What comes of a line: blank lines are passed over, and the request on any other is checked. -/
def feed (c : Checker) (number : Nat) (line : Line) (s : Session) : LineOutcome × Session :=
  match lineText number line with
  | .error error => (.failed (.line error), s)
  | .ok t =>
    if t.strip.isEmpty then (.blank, s)
    else match Request.parse c.runtime.nesting number t.strip with
      | .error error => (.failed (.ofParseError error), s)
      | .ok r =>
        match c.check r s with
        | (.error failure, s) => (.failed failure, s)
        | (.ok v, s) => (.answered r v, s)

end Checker

end RequestCheck
