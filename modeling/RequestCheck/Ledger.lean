import RequestCheck.Metrics

/-!
# Ledgers

A metrics file may be made ready any number of times, and each time gives a logger that adds rows to
it. A ledger is such a file with the loggers that there are and the notes that they have taken.

    l.act p a          the ledger l after the action a with the file at p
    l.actAll p as      the ledger l after the actions as
-/

namespace RequestCheck

/-- A check as it is handed to a logger; the type is the one that the engine was asked about. -/
structure Note where
  now : Int
  request : Request
  type : Text
  verdict : Verdict
  latency : Int

def Note.row (note : Note) : Csv.Row :=
  Metrics.row note.now note.request note.type note.verdict note.latency

/-- The disk with a metrics file, the loggers that there are, and the notes that they have taken. -/
structure Ledger where
  disk : Disk
  loggers : List Metrics := []
  notes : List Note := []

namespace Ledger

/-- What is done with a metrics file: it is made ready for another logger, or a note is handed to the
logger with a number. -/
inductive Action where
  | prepare
  | log (logger : Nat) (note : Note)

def Action.isPrepare : Action → Bool
  | .prepare => true
  | .log _ _ => false

/-- The ledger after an action. A note for a logger that there is not is dropped. -/
def act (l : Ledger) (path : Text) : Action → Ledger
  | .prepare =>
    match Metrics.prepare path l.disk with
    | (.error _, disk) => { l with disk }
    | (.ok logger, disk) => { l with disk, loggers := l.loggers ++ [logger] }
  | .log logger note =>
    match l.loggers[logger]? with
    | none => l
    | some m =>
      match m.log note.now note.request note.type note.verdict note.latency l.disk with
      | (.error _, disk) => { l with disk }
      | (.ok (), disk) => { l with disk, notes := l.notes ++ [note] }

def actAll (l : Ledger) (path : Text) (actions : List Action) : Ledger :=
  actions.foldl (fun l action => l.act path action) l

end Ledger

end RequestCheck
