import RequestCheck.Clock
import RequestCheck.Engine.Build
import RequestCheck.Runtime

/-!
# Sessions

What a run reads from and leaves traces in: the disk, the journal, the console, the output, the
clock, the calls to the engine, and whether a check has failed.

    s.log k o l m     s with the message m in the journal
    s.tick            the next reading of the clock
-/

namespace RequestCheck

/-- What a run reads from and leaves traces in. -/
structure Session where
  disk : Disk := {}
  journal : Journal := {}
  console : Text := []
  output : Text := []
  clock : Clock := [.whole 0]
  now : Int := 0
  calls : List Engine.Query := []
  built : List Engine.BuildStep := []
  anyFailure : Bool := false

namespace Session

def log (s : Session) (runtime : Runtime) (origin : Origin) (level : Journal.Level)
    (message : Text) : Session :=
  let notice := runtime.notice origin s.calls level message
  let (disk, shown) := s.journal.write s.now level { text := message, notice } s.disk
  { s with disk, console := s.console ++ shown }

/-- The next reading of the clock, and the session behind it. -/
def tick (s : Session) : Reading × Session :=
  let (reading, clock) := s.clock.next
  (reading, { s with clock })

/-- The session with one more call to the engine. -/
def call (s : Session) (query : Engine.Query) : Session :=
  { s with calls := s.calls ++ [query] }

/-- The session with more text on the output. -/
def print (s : Session) (text : Text) : Session := { s with output := s.output ++ text }

/-- The session with more text on the console. -/
def complain (s : Session) (text : Text) : Session :=
  { s with console := s.console ++ Utf8.showSurrogates text }

end Session

end RequestCheck
