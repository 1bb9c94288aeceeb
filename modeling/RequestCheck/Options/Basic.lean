import RequestCheck.RequestType
import RequestCheck.RunMode
import RequestCheck.Text.Quoted

/-!
# Options

The options of the command line, the switches that set them, and the reasons for which the
arguments end a run before it starts.

    Setting.text?     the value of an option, if it has one
    Switch.names      every spelling of a switch, with the switch
    s.arity           how many arguments the switch s takes
-/

namespace RequestCheck

/-- What the arguments say of an option: nothing, that it is there without a value, or its value,
which may be empty. -/
inductive Setting where
  | absent
  | blank
  | value (text : Text)
  deriving DecidableEq

namespace Setting

/-- The option is there, with or without a value. -/
def isGiven : Setting → Bool
  | .absent => false
  | .blank => true
  | .value _ => true

def text? : Setting → Option Text
  | .absent => none
  | .blank => none
  | .value text => some text

/-- The setting of an option that is there with these values, of which the first counts. -/
def ofValues : List Text → Setting
  | [] => .blank
  | text :: _ => .value text

end Setting

structure Options where
  requests : Setting := .absent
  url : Setting := .absent
  context : Setting := .absent
  type : Setting := .absent
  rules : Option (List Text) := none
  verbose : Bool := false
  metricsPath : Setting := .absent
  logFile : Setting := .absent
  debugLog : Bool := false
  deriving DecidableEq

namespace Options

inductive Switch where
  | help
  | version
  | requests
  | url
  | context
  | type
  | rules
  | verbose
  | metricsPath
  | logFile
  | debugLog
  deriving DecidableEq

/-- How many arguments a switch takes. -/
inductive Arity where
  | none
  | one
  | any
  deriving DecidableEq

namespace Switch

/-- How many arguments a switch takes. -/
def arity : Switch → Arity
  | .help => .none
  | .version => .none
  | .requests => .one
  | .url => .one
  | .context => .one
  | .type => .one
  | .rules => .any
  | .verbose => .none
  | .metricsPath => .one
  | .logFile => .one
  | .debugLog => .none

def names : List (Text × Switch) :=
  [("-h", .help), ("--help", .help), ("-v", .version), ("--version", .version),
    ("--requests", .requests), ("--url", .url), ("--context", .context), ("--type", .type),
    ("--rules", .rules), ("--verbose", .verbose), ("--metrics-path", .metricsPath),
    ("--log-file", .logFile), ("--debug-log", .debugLog)]

/-- The switch as complaints name it: all its spellings. -/
def title (switch : Switch) : Text :=
  Text.joinWith "/" ((names.filter fun entry => entry.2 == switch).map (·.1))

end Switch

inductive UsageError where
  | ambiguous (argument : Text) (candidates : List Text)
  | expectedOne (switch : Switch)
  | ignoredValue (switch : Switch) (value : Text)
  | invalidChoice (switch : Switch) (value : Text) (choices : List Text)
  | unrecognized (arguments : List Text)
  | partialRequest
  | requestsBesideRequest
  deriving DecidableEq

/-- The reasons for which the arguments end a run before it starts. -/
inductive Stop where
  | help
  | version
  | usage (error : UsageError)
  deriving DecidableEq

end Options

end RequestCheck
