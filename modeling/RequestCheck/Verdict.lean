import RequestCheck.Json.Writer

/-!
# Verdicts

The outcome of one check. A verdict with an error says that the engine could not judge the request
at all, which is something other than no match; an error without words is an error too.

    Verdict.failure m     the verdict of a failed check
    v.fields              the fields that a detailed report shows
-/

namespace RequestCheck

/-- The outcome of one check. -/
structure Verdict where
  matched : Bool := false
  important : Bool := false
  redirect : Json.Value := .null
  rewrittenUrl : Json.Value := .null
  exception : Json.Value := .null
  filter : Json.Value := .null
  error : Option Text := none
  deriving Inhabited

namespace Verdict

def failure (message : Text) : Verdict := { error := some message }

def failed (v : Verdict) : Bool := v.error.isSome

/-- The fields of a verdict that is no failure, in the order of a detailed report. -/
def fields (v : Verdict) : Json.Value :=
  .object [("matched", .boolean v.matched),
    ("important", .boolean v.important),
    ("redirect", v.redirect),
    ("rewritten_url", v.rewrittenUrl),
    ("exception", v.exception),
    ("filter", v.filter)]

end Verdict

end RequestCheck
