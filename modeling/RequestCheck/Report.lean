import RequestCheck.Verdict

/-!
# Reports

One line of JSON for each verdict: `null` for a failure, else whether the request matched or, in a
detailed report, all the fields.

    line detailed v         the line for v, with its end
    text detailed vs        the lines for vs
    exitStatus anyFailure   1 if a check failed, else 0
-/

namespace RequestCheck.Report

/-- The JSON that stands for a verdict. -/
def value (detailed : Bool) (v : Verdict) : Json.Value :=
  if v.failed then .null else if detailed then v.fields else .boolean v.matched

def line (detailed : Bool) (v : Verdict) : Text := (value detailed v).write ++ "\n"

def text (detailed : Bool) (vs : List Verdict) : Text := vs.flatMap (line detailed)

/-- The exit status that tells whether a check failed. -/
def exitStatus (anyFailure : Bool) : Nat := if anyFailure then 1 else 0

end RequestCheck.Report
