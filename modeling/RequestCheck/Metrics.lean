import RequestCheck.Failure
import RequestCheck.Verdict

/-!
# Metrics

A metrics file has a header row and one row for each check. An existing file is only ever added to,
and only if its first row is the header.

    prepare p d           makes the file at p ready
    m.log n r t v l d     adds the row for the verdict v on the request r
-/

namespace RequestCheck

/-- A metrics file that is ready to take rows. -/
structure Metrics where
  path : Path
  deriving DecidableEq

namespace Metrics

def columns : Csv.Row :=
  ["timestamp", "url", "context", "type", "request_type", "latency_ms", "matched", "failed"]

/-- The size of the chunks in which a file is read. -/
def chunkSize : Nat := 8192

/-- The first row of a file that is not empty. No more of the file is decoded than the chunks up to
the one in which the row ends. -/
def firstRow (octets : Octets) : Except Failure Csv.Row :=
  let (text, error) := Utf8.decodeChunks chunkSize octets
  match Csv.firstRow {} (if error.isNone then text.lines else text.completeLines) with
  | .complete row => .ok row
  | .fieldTooLong => .error .fieldTooLong
  | .unfinished reader =>
    match error with
    | some error => .error (.undecodable error)
    | none => .ok (reader.lastRow?.getD [])

def checkHeader (p : Path) (octets : Octets) : Except Failure Unit :=
  match firstRow octets with
  | .error failure => .error failure
  | .ok row =>
    if row = columns then .ok ()
    else .error (.configuration (.unexpectedHeader p row))

/-- The octets of a row, if it holds no surrogate. -/
def rowOctets (row : Csv.Row) : Except Utf8.EncodeError Octets := Utf8.encode (Csv.writeRow row)

def writeHeader (p : Path) (d : Disk) : Except Failure Unit × Disk :=
  match rowOctets columns with
  | .error error => (.error (.unencodable error), d)
  | .ok octets =>
    match d.overwrite p.toText octets with
    | .error error => (.error (.file error), d)
    | .ok d => (.ok (), d)

/-- Makes sure that the file at a path has its header: it is written into a file that is missing or
empty or a void, and any other file must start with it. -/
def ensureHeader (p : Path) (d : Disk) : Except Failure Unit × Disk :=
  match d.status p.toText with
  | .error error => (.error (.file error), d)
  | .ok none => writeHeader p d
  | .ok (some (.file [])) => writeHeader p d
  | .ok (some (.file octets)) => (checkHeader p octets, d)
  | .ok (some .void) => writeHeader p d
  | .ok (some .directory) => (.error (.file (.refused .isDirectory p.toText)), d)

/-- Makes the file at a path ready, with the directories it lies in. -/
def prepare (path : Text) (d : Disk) : Except Failure Metrics × Disk :=
  let p := Path.ofText path
  match d.makeParents p.parent with
  | (.error error, d) => (.error (.file error), d)
  | (.ok (), d) =>
    match ensureHeader p d with
    | (.error failure, d) => (.error failure, d)
    | (.ok (), d) => (.ok { path := p }, d)

def flag (b : Bool) : Text := if b then "1" else "0"

def row (now : Int) (request : Request) (type : Text) (verdict : Verdict) (latency : Int) :
    Csv.Row :=
  [Calendar.timestamp now, request.url, request.context, request.type, type,
    Text.ofInt latency, flag verdict.matched, flag verdict.failed]

/-- The octets of the row for a check. That the latency has too many digits comes before that the
row cannot be encoded. -/
def checkOctets (now : Int) (request : Request) (type : Text) (verdict : Verdict) (latency : Int) :
    Except Failure Octets :=
  if Text.maxIntegerDigits < (Text.ofNat latency.natAbs).length then .error .latencyTooLong
  else match rowOctets (row now request type verdict latency) with
    | .error error => .error (.unencodable error)
    | .ok octets => .ok octets

/-- Adds the row for a check. A row that cannot be written leaves the file as it is. -/
def log (m : Metrics) (now : Int) (request : Request) (type : Text) (verdict : Verdict)
    (latency : Int) (d : Disk) : Except Failure Unit × Disk :=
  match Calendar.rangeError? now with
  | some error => (.error (.moment error), d)
  | none =>
    match d.append m.path.toText [] with
    | .error error => (.error (.file error), d)
    | .ok opened =>
      match checkOctets now request type verdict latency with
      | .error failure => (.error failure, opened)
      | .ok octets =>
        match opened.append m.path.toText octets with
        | .error error => (.error (.file error), opened)
        | .ok d => (.ok (), d)

end Metrics

end RequestCheck
