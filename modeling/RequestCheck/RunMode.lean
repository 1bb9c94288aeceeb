import RequestCheck.Text.Basic

/-!
# Run modes

A run checks a single request when its url, context and type are all given on the command line, and
a stream of requests when none of them is.

    RunMode.select u c t     the mode, if all or none of the three are given
-/

namespace RequestCheck

/-- How requests reach the checker. -/
inductive RunMode where
  | streaming
  | singleRequest
  deriving DecidableEq

namespace RunMode

def name : RunMode → Text
  | .streaming => "streaming"
  | .singleRequest => "single_request"

/-- The complaint about a request that is given in part. -/
def partialRequest : Text :=
  "url, context, and type must be either all provided or none provided"

/-- The mode, from which parts of a request are given: none or all. -/
def select (url context type : Bool) : Option RunMode :=
  if url && context && type then some .singleRequest
  else if url || context || type then none
  else some .streaming

end RunMode

end RequestCheck
