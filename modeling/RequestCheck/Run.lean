import RequestCheck.Options.Parse
import RequestCheck.Options.Usage
import RequestCheck.Report
import RequestCheck.RequestStream
import RequestCheck.Rules

/-!
# Runs

A run reads its arguments, subscribes to the journal, loads the rules and builds the engine, makes
the metrics file ready, and then answers a single request or a stream of them, one line of output
for each. It ends with an exit status, or with a failure that is no fault of the user's.

    run e a i s     the run with the arguments a and the standard input i
-/

namespace RequestCheck

/-- What surrounds a run: the directory of the project, the setting for the directory of the
default rule files, the matcher that engines are built with, and what the program runs on. -/
structure Environment where
  project : Path
  dataDirectory : Option Text := none
  matcher : Engine.Matcher
  runtime : Runtime := {}

inductive Outcome where
  | finished (status : Nat)
  | stopped (stop : Options.Stop)
  | failed (failure : Failure)

/-- The exit status of a run; that of a failure is 1. -/
def Outcome.status : Outcome → UInt32
  | .finished status => status.toUInt32
  | .stopped why => why.status.toUInt32
  | .failed _ => 1

/-- What a run has to do. -/
inductive Job where
  | single (draft : Draft)
  | stream (requests : Setting)

/-- What the options ask to do. -/
def Options.job (o : Options) : Except Options.UsageError Job :=
  match RunMode.select o.url.isGiven o.context.isGiven o.type.isGiven with
  | none => .error .partialRequest
  | some .streaming => .ok (.stream o.requests)
  | some .singleRequest =>
    if o.requests.isGiven then .error .requestsBesideRequest
    else .ok (.single { url := o.url.text?, context := o.context.text?, type := o.type.text? })

/-! ## Sources of lines -/

def lineFeed : UInt8 := 0x0A

/-- The complete lines of octets with their ends, and the unfinished line behind them; the start of
the first line is given backwards. -/
def cutLinesAfter (start : Octets) : Octets → List Octets × Octets
  | [] => ([], start.reverse)
  | b :: rest =>
    if b = lineFeed then
      let (lines, unfinished) := cutLinesAfter [] rest
      ((b :: start).reverse :: lines, unfinished)
    else cutLinesAfter (b :: start) rest

/-- The complete lines of octets with their ends, and the unfinished line behind them. -/
def cutLines (b : Octets) : List Octets × Octets := cutLinesAfter [] b

/-- Octets that are still to be cut into lines. A file may grow while it is read: its location is
known, and how many of its octets have been taken in. -/
structure Source where
  ahead : Octets
  file : Option (Location × Nat) := none

/-- The source with what its file has grown by instead of the octets taken in, if it has grown. -/
def Source.growth? (source : Source) (d : Disk) : Option Source :=
  match source.file with
  | none => none
  | some (location, size) =>
    match d.entry? location with
    | some (.file content) =>
      if content.length ≤ size then none
      else some { ahead := content.drop size, file := some (location, content.length) }
    | _ => none

/-- The source of the requests of a stream: the file at a path, or the standard input if there is no
path or it is a dash. -/
def openSource (requests : Setting) (input : Octets) (d : Disk) : Except Failure Source :=
  match requests with
  | .absent => .ok { ahead := input }
  | .blank => .error .blankRequests
  | .value path =>
    if path = "-" then .ok { ahead := input }
    else match d.read path, d.locate path with
      | .error (.unencodable error), _ => .error (.file (.unencodable error))
      | .error .nullByte, _ => .error (.file .nullByte)
      | .error (.refused why at'), _ =>
        .error (.configuration (.unreadableRequests path (.refused why at')))
      | .ok content, .ok location =>
        .ok { ahead := content, file := some (location, content.length) }
      | .ok content, .error _ => .ok { ahead := content }

/-! ## Answering -/

namespace Checker

/-- Answers lines: the failure that ended the stream if there was one, how many lines were taken,
and the session behind them. -/
def answerLines (c : Checker) (detailed : Bool) (taken : Nat) (lines : List Octets)
    (s : Session) : Option Failure × Nat × Session :=
  let (items, ending, stream, s) := c.drainAfter taken s (lines.map .octets)
  (ending, stream.taken, s.print (Report.text detailed (items.map (·.2))))

/-- Answers what a source holds, and then what its file has grown by meanwhile, for at most as many
rounds as the bound says. An unfinished line is the last one, unless the growth goes on with it. -/
def answerRounds (c : Checker) (detailed : Bool) :
    Nat → Nat → Source → Session → Except Failure Unit × Session
  | 0, _, _, s => (.ok (), s)
  | bound + 1, taken, source, s =>
    let (lines, unfinished) := cutLines source.ahead
    match c.answerLines detailed taken lines s with
    | (some failure, _, s) => (.error failure, s)
    | (none, taken, s) =>
      match source.growth? s.disk with
      | some growth =>
        let source := { growth with ahead := unfinished ++ growth.ahead }
        c.answerRounds detailed bound taken source s
      | none =>
        if unfinished.isEmpty then (.ok (), s)
        else match c.answerLines detailed taken [unfinished] s with
          | (some failure, _, s) => (.error failure, s)
          | (none, taken, s) =>
            match source.growth? s.disk with
            | some growth => c.answerRounds detailed bound taken growth s
            | none => (.ok (), s)

/-- Answers a source. A file that is both read and logged to grows while it is read, by lines of
the journal, each message on a line of its own that starts with a date and so is no request. Only
the first message of a round can go on with an unfinished line and be read to its end; then the
next round ends at its first line. So three rounds are enough. -/
def answerSource (c : Checker) (detailed : Bool) (source : Source) (s : Session) :
    Except Failure Unit × Session :=
  c.answerRounds detailed 3 0 source s

def answerDraft (c : Checker) (detailed : Bool) (draft : Draft) (s : Session) :
    Except Failure Unit × Session :=
  match c.checkDraft draft s with
  | (.error failure, s) => (.error failure, s)
  | (.ok v, s) => (.ok (), s.print (Report.line detailed v))

def answer (c : Checker) (detailed : Bool) (job : Job) (input : Octets) (s : Session) :
    Except Failure Unit × Session :=
  match job with
  | .single draft => c.answerDraft detailed draft s
  | .stream requests =>
    match openSource requests input s.disk with
    | .error failure => (.error failure, s)
    | .ok source => c.answerSource detailed source s

end Checker

/-! ## Preparing -/

/-- Tells the journal about the rules that were loaded. -/
def announce (runtime : Runtime) (sources : List Text) (s : Session) : Session :=
  let s :=
    if sources.isEmpty then
      s.log runtime .outside .warning "No filter rules loaded; no request will match"
    else s
  s.log runtime .outside .debug
    ("Building engine from " ++ Text.ofNat sources.length ++ " rule source(s)")

/-- Loads the rules and builds the engine. A debug engine can tell which rule matched. -/
def createEngine (e : Environment) (rules : Option (List Text)) (debug : Bool) (s : Session) :
    Except Failure Engine × Session :=
  match Rules.load s.disk (Rules.Config.ofSetting e.project e.dataDirectory) rules with
  | .error failure => (.error failure, s)
  | .ok sources =>
    let steps := Engine.buildSteps sources debug debug
    (.ok (e.matcher steps), { announce e.runtime sources s with built := s.built ++ steps })

/-- Makes the metrics file ready, if there is to be one. -/
def openMetrics (path : Option Text) (s : Session) : Except Failure (Option Metrics) × Session :=
  match path with
  | none => (.ok none, s)
  | some [] => (.ok none, s)
  | some path =>
    match Metrics.prepare path s.disk with
    | (.error failure, disk) => (.error failure, { s with disk })
    | (.ok metrics, disk) => (.ok (some metrics), { s with disk })

/-- Builds the checker that the options ask for. No check of it has failed. -/
def createChecker (e : Environment) (o : Options) (s : Session) :
    Except Failure Checker × Session :=
  match createEngine e o.rules o.verbose s with
  | (.error failure, s) => (.error failure, s)
  | (.ok engine, s) =>
    match openMetrics o.metricsPath.text? s with
    | (.error failure, s) => (.error failure, s)
    | (.ok metrics, s) =>
      (.ok { engine, metrics, runtime := e.runtime }, { s with anyFailure := false })

/-! ## Running -/

/-- Prepares and does a job. -/
def perform (e : Environment) (o : Options) (job : Job) (input : Octets) (s : Session) :
    Except Failure Unit × Session :=
  match createChecker e o s with
  | (.error failure, s) => (.error failure, s)
  | (.ok checker, s) => checker.answer o.verbose job input s

/-- The exit status of a run whose configuration or input cannot be used. -/
def unusableStatus : Nat := 2

/-- How a run ends whose job is done or has failed: what is the user's to mend goes into the
journal. -/
def conclude (runtime : Runtime) (result : Except Failure Unit) (s : Session) :
    Outcome × Session :=
  match result with
  | .ok () => (.finished (Report.exitStatus s.anyFailure), s)
  | .error (.configuration error) =>
    (.finished unusableStatus, s.log runtime .outside .error error.message)
  | .error (.line error) =>
    (.finished unusableStatus, s.log runtime .outside .error error.message)
  | .error failure => (.failed failure, s)

def Options.level (o : Options) : Journal.Level := if o.debugLog then .debug else .info

/-- Does a job between subscribing to the journal and unsubscribing from it. -/
def runJob (e : Environment) (o : Options) (job : Job) (input : Octets) (s : Session) :
    Outcome × Session :=
  match s.journal.subscribe o.logFile.text? o.level s.disk with
  | (.error error, journal, disk) => (.failed (.file error), { s with journal, disk })
  | (.ok subscription, journal, disk) =>
    let (result, s) := perform e o job input { s with journal, disk }
    let (outcome, s) := conclude e.runtime result s
    (outcome, { s with journal := s.journal.unsubscribe subscription })

def stop (why : Options.Stop) (s : Session) : Outcome × Session :=
  (.stopped why, (s.print why.output).complain why.console)

def run (e : Environment) (arguments : List Text) (input : Octets) (s : Session) :
    Outcome × Session :=
  match Options.parse arguments with
  | .error why => stop why s
  | .ok o =>
    match o.job with
    | .error error => stop (.usage error) s
    | .ok job => runJob e o job input s

end RequestCheck
