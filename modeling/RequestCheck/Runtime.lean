import RequestCheck.Engine.Basic
import RequestCheck.Journal.Basic

/-!
# What the program runs on

Two things are decided by what the program runs on, and by how deep in calls it stands there: how
many arrays and objects may be nested in a line before it is given up, and what the console shows of a
message that is lost, which tells of all the calls that led to the message. Nothing is assumed about
either. Elsewhere the depth of calls is left out: an answer of the engine is shown and written however
deep it is nested.
-/

namespace RequestCheck

/-- Where in the program a message is written: in a check of the request that the arguments give, in
any other check, or outside of all checks. -/
inductive Origin where
  | request
  | stream
  | outside
  deriving DecidableEq

/-- What the program runs on: how many arrays and objects may be nested in the object on a line, and the
notice of a message that is lost, by its origin and by what the engine was asked before it. -/
structure Runtime where
  nesting : Nat := 980
  notice : Origin → List Engine.Query → Journal.Level → Text → Journal.Notice := fun _ _ _ _ => {}

end RequestCheck
