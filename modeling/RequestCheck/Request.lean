import RequestCheck.Json.Reader
import RequestCheck.Text.Blank
import RequestCheck.Text.Quoted
import RequestCheck.Utf8

/-!
# Requests and the lines that hold them

A request names what is fetched, the page it comes from and its type. A stream holds one request
a line, as a JSON object with those three strings; further members are of no account.

    Request.parse k n l     the request on line n with text l, with arrays and objects k deep in it
    decodeLine n b          the text of line n with octets b
    diagnostic n m l        the one-line complaint m about line n, with the line itself quoted

The command line drafts a request from options, some of which may be there without a value.
-/

namespace RequestCheck

structure Request where
  url : Text
  context : Text
  type : Text
  deriving DecidableEq

/-- A request whose parts may lack their values. -/
structure Draft where
  url : Option Text
  context : Option Text
  type : Option Text
  deriving DecidableEq

namespace Draft

/-- What is shown for a part without a value. -/
def blank : Text := "[]"

/-- A draft with a type as the request that messages and metrics show. -/
def shown (draft : Draft) (type : Text) : Request :=
  { url := draft.url.getD blank, context := draft.context.getD blank, type }

end Draft

namespace Request

/-- The members that a request is made of. -/
inductive Key where
  | url
  | type
  | context
  deriving DecidableEq

def Key.name : Key → Text
  | .url => "url"
  | .type => "type"
  | .context => "context"

/-- The order in which the members are looked at. -/
def keys : List Key := [.url, .type, .context]

inductive LineFault where
  | notUtf8 (fault : Utf8.Fault)
  | notJson (fault : Json.Malformation)
  | missingKeys
  | notString (key : Key)
  deriving DecidableEq

def LineFault.message : LineFault → Text
  | .notUtf8 fault => "invalid UTF-8 (" ++ fault.reason ++ ")"
  | .notJson fault => "invalid JSON (" ++ fault.message ++ ")"
  | .missingKeys => "records must have \"url\", \"type\", and \"context\" keys"
  | .notString key => "\"" ++ key.name ++ "\" must be a string"

/-- The complaint about a line: its number, what is wrong, and the line between quotes. -/
def diagnostic (number : Int) (message line : Text) : Text :=
  "line " ++ Text.ofInt number ++ ": " ++ message ++ ": " ++ line.quoted

/-- A line that holds no request. -/
structure LineError where
  number : Int
  line : Text
  fault : LineFault
  deriving DecidableEq

/-- The complaint about a line that holds no request. -/
def LineError.message (e : LineError) : Text := diagnostic e.number e.fault.message e.line

/-- Why a line gives no request: it holds none, or something in it is too much for the reader. -/
inductive ParseError where
  | line (error : LineError)
  | excess (what : Json.Excess)
  deriving DecidableEq

def text? (key : Key) (v : Json.Value) : Except LineFault Text :=
  match v.member? key.name with
  | some (.string s) => .ok s
  | some _ => .error (.notString key)
  | none => .error .missingKeys

/-- The request that a JSON value stands for. That a member is missing comes before that one is no
string. -/
def ofValue (v : Json.Value) : Except LineFault Request :=
  if keys.any fun key => (v.member? key.name).isNone then .error .missingKeys
  else match text? .url v, text? .type v, text? .context v with
    | .ok url, .ok type, .ok context => .ok { url, context, type }
    | .error fault, _, _ => .error fault
    | _, .error fault, _ => .error fault
    | _, _, .error fault => .error fault

/-- The request on a line. So many arrays and objects may be nested in the object on it. -/
def parse (nesting : Nat) (number : Int) (line : Text) : Except ParseError Request :=
  match Json.Value.read (nesting + 1) line with
  | .error (.malformed fault) => .error (.line { number, line, fault := .notJson fault })
  | .error (.excess what) => .error (.excess what)
  | .ok v =>
    match ofValue v with
    | .error fault => .error (.line { number, line, fault })
    | .ok request => .ok request

/-- The text of a line that came as octets. A line that is not UTF-8 is shown with replacement
characters. -/
def decodeLine (number : Int) (octets : Octets) : Except LineError Text :=
  match Utf8.decode octets with
  | .ok text => .ok text
  | .error e =>
    .error { number, line := Utf8.decodeLossy octets, fault := .notUtf8 e.fault }

end Request

end RequestCheck
