import RequestCheck.Calendar
import RequestCheck.Clock
import RequestCheck.Csv
import RequestCheck.Files.Disk
import RequestCheck.Request

/-!
# Failures

Everything that can end a run before its time. Configuration errors and lines without a request are
complaints to the user; the other failures escape.

    Failure.message f     the wording of f
-/

namespace RequestCheck

/-- Why a file gives no text. -/
inductive ReadError where
  | refused (why : Refusal) (path : Text)
  | undecodable (error : Utf8.DecodeError)
  deriving DecidableEq

def ReadError.message : ReadError → Text
  | .refused why path => (FileError.refused why path).message
  | .undecodable error => error.message

/-- Options or files that cannot be used. -/
inductive ConfigurationError where
  | unreadableRules (path : Text) (why : ReadError)
  | missingDefaults (paths : List Path)
  | unreadableRequests (path : Text) (why : ReadError)
  | unexpectedHeader (path : Path) (header : Csv.Row)
  deriving DecidableEq

namespace ConfigurationError

def dataDirectoryVariable : Text := "ADBLOCK_CHECK_DATA_DIR"

def quotedList (ts : List Text) : Text :=
  "[" ++ Text.joinWith ", " (ts.map Text.quoted) ++ "]"

def message : ConfigurationError → Text
  | .unreadableRules path why => "Cannot read rules file " ++ path ++ ": " ++ why.message
  | .missingDefaults paths =>
    "Default rules file(s) not found: " ++ Text.joinWith ", " (paths.map Path.toText) ++
      " (pass --rules or set " ++ dataDirectoryVariable ++ ")"
  | .unreadableRequests path why => "Cannot read requests file " ++ path ++ ": " ++ why.message
  | .unexpectedHeader path header =>
    path.toText ++ " has an unexpected header: " ++ quotedList header

end ConfigurationError

/-- What can end a run before its time. -/
inductive Failure where
  | configuration (error : ConfigurationError)
  | line (error : Request.LineError)
  | excess (what : Json.Excess)
  | undecided
  | latency (error : Reading.LatencyError)
  | latencyTooLong
  | moment (error : Calendar.RangeError)
  | file (error : FileError)
  | undecodable (error : Utf8.DecodeError)
  | unencodable (error : Utf8.EncodeError)
  | fieldTooLong
  | blankType
  | blankRequests
  deriving DecidableEq

namespace Failure

/-- The complaint about a whole number with too many digits, with a remark on it. -/
def digitLimit (remark : Text) : Text :=
  "Exceeds the limit (" ++ Text.ofNat Text.maxIntegerDigits ++
    " digits) for integer string conversion" ++ remark ++
    "; use sys.set_int_max_str_digits() to increase the limit"

/-- The complaint about one more array or object inside others. -/
def depthLimit (kind : Text) : Text :=
  "maximum recursion depth exceeded while decoding a JSON " ++ kind ++ " from a unicode string"

def message : Failure → Text
  | .configuration error => error.message
  | .line error => error.message
  | .excess (.integer digits) => digitLimit (": value has " ++ Text.ofNat digits ++ " digits")
  | .excess .array => depthLimit "array"
  | .excess .object => depthLimit "object"
  | .undecided => "'BlockerResult' object has no attribute 'matched'"
  | .latency .tooLarge => "int too large to convert to float"
  | .latency .infinite => "cannot convert float infinity to integer"
  | .latency .notANumber => "cannot convert float NaN to integer"
  | .latencyTooLong => digitLimit []
  | .moment error => error.message
  | .file error => error.message
  | .undecodable error => error.message
  | .unencodable error => error.message
  | .fieldTooLong => "field larger than field limit (" ++ Text.ofNat Csv.maxFieldSize ++ ")"
  | .blankType => "unhashable type: 'list'"
  | .blankRequests => "expected str, bytes or os.PathLike object, not list"

/-- The failure of a line that gives no request. -/
def ofParseError : Request.ParseError → Failure
  | .line error => .line error
  | .excess what => .excess what

end Failure

end RequestCheck
