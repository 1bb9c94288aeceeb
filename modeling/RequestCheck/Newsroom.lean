import RequestCheck.Journal.Basic

/-!
# Newsrooms

All who write to a journal share it, and each may come and go while the others stay. A newsroom is a
journal with its subscribers: what each of them has asked for, and whether it has left.

    n.act a          the newsroom n after the action a
    n.actAll as      the newsroom n after the actions as
    k.sinks d        the sinks that are there for the subscriber k
-/

namespace RequestCheck

/-- One who has subscribed to a journal: the path of its log file, if it asked for one, its level,
the sinks that it holds, and whether it has not left yet. -/
structure Subscriber where
  path : Option Text
  level : Journal.Level
  subscription : Journal.Subscription
  isOpen : Bool := true
  deriving DecidableEq

def Subscriber.left (k : Subscriber) : Subscriber := { k with subscription := [], isOpen := false }

/-- A journal with its subscribers in the order in which they came, the disk that the log files are
on, and what the console has shown. -/
structure Newsroom where
  journal : Journal := {}
  disk : Disk := {}
  console : Text := []
  subscribers : List Subscriber := []

namespace Newsroom

/-- What is done in a newsroom. A subscriber is known by the number of those who came before it. -/
inductive Action where
  | subscribe (path : Option Text) (level : Journal.Level)
  | write (subscriber : Nat) (now : Int) (level : Journal.Level) (message : Journal.Message)
  | unsubscribe (subscriber : Nat)
  deriving DecidableEq

/-- The newsroom after an action. Nothing is done for a subscriber that there is not; one that has
left may still write. -/
def act (n : Newsroom) : Action → Newsroom
  | .subscribe path level =>
    match n.journal.subscribe path level n.disk with
    | (.error _, journal, disk) => { n with journal, disk }
    | (.ok subscription, journal, disk) =>
      { n with journal, disk, subscribers := n.subscribers ++ [{ path, level, subscription }] }
  | .write subscriber now level message =>
    match n.subscribers[subscriber]? with
    | none => n
    | some _ =>
      let (disk, shown) := n.journal.write now level message n.disk
      { n with disk, console := n.console ++ shown }
  | .unsubscribe subscriber =>
    match n.subscribers[subscriber]? with
    | none => n
    | some k =>
      { n with
        journal := n.journal.unsubscribe k.subscription
        subscribers := n.subscribers.set subscriber k.left }

def actAll (n : Newsroom) (actions : List Action) : Newsroom := actions.foldl act n

end Newsroom

/-! ## What there is for a subscriber -/

namespace Subscriber

/-- Where the log file of a subscriber lies, if it asked for one. -/
def logFile? (k : Subscriber) (d : Disk) : Option Location :=
  (Journal.filePath? k.path).bind fun p => (d.locate (p.absolute d.home).toText).toOption

/-- The targets of a subscriber: the console with its own level, and its log file, which takes every
message. -/
def targets (k : Subscriber) (d : Disk) : List (Journal.Target × Journal.Level) :=
  (.console, k.level) :: (k.logFile? d).toList.map fun location => (.file location, .debug)

/-- The sinks that are there for a subscriber: one for each of its targets until it leaves. -/
def sinks (d : Disk) (k : Subscriber) : List Journal.Sink :=
  if k.isOpen then Journal.numbered (k.subscription.headD 0) (k.targets d) else []

end Subscriber

end RequestCheck
