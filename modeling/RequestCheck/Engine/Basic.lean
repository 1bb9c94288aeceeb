import RequestCheck.Json.Display
import RequestCheck.Verdict

/-!
# Blocking engines

An engine is a function of what it is asked: a url, a context and a request type. It replies with
an answer, whose fields may be missing and may hold any JSON value, or it raises a fault. A check
turns the reply into a verdict, or into the reason why there is none.

    Engine.check e q     the verdict of e on q
-/

namespace RequestCheck

namespace Engine

/-- What an engine is asked. A url or a context without a value is not an empty one; the type is
normalized. -/
structure Query where
  url : Option Text
  context : Option Text
  type : Text
  deriving DecidableEq

inductive FaultKind where
  | invalidValue
  | missingKey
  | invalidState
  | invalidType
  deriving DecidableEq

structure Fault where
  kind : FaultKind
  detail : Text
  deriving DecidableEq

/-- The wording of a fault: its detail, which is quoted if it names a missing key. -/
def Fault.message (fault : Fault) : Text :=
  match fault.kind with
  | .missingKey => fault.detail.quoted
  | _ => fault.detail

/-- The fields of an engine's answer, as far as it has them. -/
structure Answer where
  matched : Option Json.Value := none
  important : Option Json.Value := none
  redirect : Option Json.Value := none
  rewrittenUrl : Option Json.Value := none
  exception : Option Json.Value := none
  filter : Option Json.Value := none
  error : Option Json.Value := none
  deriving Inhabited

/-- What an engine does with a request. -/
inductive Reply where
  | answered (answer : Answer)
  | raised (fault : Fault)

end Engine

/-- An engine: the reply to what it is asked. -/
abbrev Engine := Engine.Query → Engine.Reply

namespace Engine

/-- Why a check gave no verdict: the engine rejected the request, by a fault of some kind or in its
answer, or the answer does not say whether the request matched. -/
inductive CheckError where
  | rejected (message : Text) (cause : Option FaultKind)
  | undecided
  deriving DecidableEq

/-- The text of an error field: there is none if the field is missing or not truthy. -/
def errorText? : Option Json.Value → Option Text
  | none => none
  | some v => if v.isTruthy then some v.display else none

def Answer.verdict (answer : Answer) : Except CheckError Verdict :=
  match errorText? answer.error with
  | some message => .error (.rejected message none)
  | none =>
    match answer.matched with
    | none => .error .undecided
    | some matched =>
      .ok { matched := matched.isTruthy
            important := (answer.important.getD .null).isTruthy
            redirect := answer.redirect.getD .null
            rewrittenUrl := answer.rewrittenUrl.getD .null
            exception := answer.exception.getD .null
            filter := answer.filter.getD .null }

def Reply.verdict : Reply → Except CheckError Verdict
  | .raised fault => .error (.rejected fault.message (some fault.kind))
  | .answered answer => answer.verdict

/-- The verdict of an engine on what it is asked. -/
def check (engine : Engine) (query : Query) : Except CheckError Verdict := (engine query).verdict

end Engine

end RequestCheck
