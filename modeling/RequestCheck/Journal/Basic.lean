import RequestCheck.Calendar
import RequestCheck.Files.Disk

/-!
# The journal

The journal takes diagnostics and hands them to the sinks that are attached to it, in the order in
which they came. A sink is the console or a file, and lets through what reaches its own level. All
who write share one journal: a subscription sets its level and attaches further sinks, and its end
detaches only the sinks that came with it.

    j.subscribe p l d     attaches the console and, if p names one, a file; sets the level to l
    j.unsubscribe s       detaches the sinks of s
    j.write n l m d       hands the message m of level l to the sinks

A message that a sink cannot take is lost there, and the console shows a notice in its place. What a
notice says is not up to the journal: it comes with the message.

Sinks are told apart by serial numbers, and every sink that is attached has a smaller one than the
next to come (`serial_lt`). So the end of a subscription cannot touch a sink that was there before.
-/

namespace RequestCheck

namespace Journal

/-- How severe a message is. -/
inductive Level where
  | debug
  | info
  | warning
  | error
  | critical
  deriving DecidableEq

namespace Level

def rank : Level → Nat
  | .debug => 10
  | .info => 20
  | .warning => 30
  | .error => 40
  | .critical => 50

def name : Level → Text
  | .debug => "DEBUG"
  | .info => "INFO"
  | .warning => "WARNING"
  | .error => "ERROR"
  | .critical => "CRITICAL"

/-- A message of the first level gets past the second one. -/
def reaches (level threshold : Level) : Bool := threshold.rank ≤ level.rank

end Level

/-- Where a sink writes to. -/
inductive Target where
  | console
  | file (location : Location)
  deriving DecidableEq

/-- A sink: its number, where it writes to, and the level that a message has to reach. -/
structure Sink where
  serial : Nat
  target : Target
  threshold : Level
  deriving DecidableEq

/-- The serial numbers of the sinks that came with one subscription. -/
abbrev Subscription := List Nat

/-- What the console shows of a message that a sink cannot take, line by line. -/
structure Notice where
  lines : List Text := ["--- Logging error ---"]
  deriving DecidableEq

def Notice.text (notice : Notice) : Text := notice.lines.flatMap fun line => line ++ "\n"

/-- A message: a text, or none if it is a template that its arguments do not fit, and the notice that
comes with it. -/
structure Message where
  text : Option Text
  notice : Notice := {}
  deriving DecidableEq

end Journal

/-- The level and the sinks that are attached, in order; the serial number is the next one. -/
structure Journal where
  level : Option Journal.Level := none
  sinks : List Journal.Sink := []
  serial : Nat := 0
  serial_lt : ∀ sink ∈ sinks, sink.serial < serial := by intro _ h; cases h
  deriving DecidableEq

namespace Journal

/-! ## Subscriptions -/

/-- The path of the log file: an empty text names none. -/
def filePath? (path : Option Text) : Option Path :=
  match path with
  | none => none
  | some [] => none
  | some text => some (Path.ofText text)

def makeDirectory (path : Option Path) (d : Disk) : Except FileError Unit × Disk :=
  match path with
  | none => (.ok (), d)
  | some p => d.makeParents p.parent

/-- Opens the file at a path for writing at its end; the location is where it lies. -/
def openFile (p : Path) (d : Disk) : Except FileError (Location × Disk) :=
  let path := (p.absolute d.home).toText
  match d.append path [] with
  | .error error => .error error
  | .ok opened =>
    match opened.locate path with
    | .error error => .error error
    | .ok location => .ok (location, opened)

/-- Sinks with serial numbers that follow one another. -/
def numbered (serial : Nat) : List (Target × Level) → List Sink
  | [] => []
  | (target, threshold) :: rest => { serial, target, threshold } :: numbered (serial + 1) rest

theorem serial_of_mem_numbered {sink : Sink} {serial : Nat} {targets : List (Target × Level)}
    (h : sink ∈ numbered serial targets) :
    serial ≤ sink.serial ∧ sink.serial < serial + targets.length := by
  induction targets generalizing serial with
  | nil => simp [numbered] at h
  | cons target rest ih =>
    simp only [numbered, List.mem_cons] at h
    rcases h with rfl | h
    · simp
    · have := ih h
      simp only [List.length_cons]
      omega

/-- Attaches sinks with the serial numbers that come next. -/
def attach (j : Journal) (targets : List (Target × Level)) : Subscription × Journal :=
  let added := numbered j.serial targets
  (added.map (·.serial),
    { j with
      sinks := j.sinks ++ added
      serial := j.serial + targets.length
      serial_lt := by
        intro sink h
        rcases List.mem_append.mp h with h | h
        · exact Nat.lt_add_right _ (j.serial_lt sink h)
        · exact (serial_of_mem_numbered h).2 })

/-- Subscribes to the journal: the directory of the log file is made, the level is set, and then the
console and the file are attached, or nothing if the file cannot be opened. -/
def subscribe (j : Journal) (path : Option Text) (level : Level) (d : Disk) :
    Except FileError Subscription × Journal × Disk :=
  match makeDirectory (filePath? path) d with
  | (.error error, d) => (.error error, j, d)
  | (.ok (), d) =>
    let j := { j with level := some level }
    match filePath? path with
    | none =>
      let (subscription, j) := j.attach [(.console, level)]
      (.ok subscription, j, d)
    | some p =>
      match openFile p d with
      | .error error => (.error error, j, d)
      | .ok (location, d) =>
        let (subscription, j) := j.attach [(.console, level), (.file location, .debug)]
        (.ok subscription, j, d)

/-- Detaches the sinks of a subscription. -/
def unsubscribe (j : Journal) (subscription : Subscription) : Journal :=
  { j with
    sinks := j.sinks.filter fun sink => !subscription.contains sink.serial
    serial_lt := fun sink h => j.serial_lt sink (List.mem_filter.mp h).1 }

/-! ## Writing -/

def entry (now : Int) (level : Level) (message : Text) : Text :=
  Calendar.timestamp now ++ " - " ++ level.name ++ " - " ++ message ++ "\n"

/-- Adds octets to the file at a location. -/
def extend (d : Disk) (location : Location) (octets : Octets) : Disk :=
  match d.entry? location with
  | some (.file content) => d.put location (.file (content ++ octets))
  | _ => d

/-- Hands a line to one sink, with the notice of its message: the disk behind it, and what the
console shows. -/
def deliver (line : Option Text) (notice : Notice) (sink : Sink) (d : Disk) : Disk × Text :=
  match line, sink.target with
  | none, _ => (d, notice.text)
  | some line, .console => (d, Utf8.showSurrogates line)
  | some line, .file location =>
    match Utf8.encode line with
    | .ok octets => (extend d location octets, [])
    | .error _ => (d, notice.text)

/-- Hands a line to sinks, one after the other. -/
def deliverAll (line : Option Text) (notice : Notice) (level : Level) :
    List Sink → Disk → Disk × Text
  | [], d => (d, [])
  | sink :: rest, d =>
    if level.reaches sink.threshold then
      let (d, shown) := deliver line notice sink d
      let (d, more) := deliverAll line notice level rest d
      (d, shown ++ more)
    else deliverAll line notice level rest d

/-- What the console shows of a message when no sink is attached: the bare message, if it is at
least a warning. -/
def lastResort (level : Level) (message : Message) : Text :=
  if level.reaches .warning then
    match message.text with
    | some text => Utf8.showSurrogates (text ++ "\n")
    | none => message.notice.text
  else []

/-- Writes a message: the disk behind it, and what the console shows. Before the first
subscription the journal takes warnings and what is more severe. -/
def write (j : Journal) (now : Int) (level : Level) (message : Message) (d : Disk) : Disk × Text :=
  if level.reaches (j.level.getD .warning) then
    match j.sinks with
    | [] => (d, lastResort level message)
    | sinks => deliverAll (message.text.map (entry now level)) message.notice level sinks d
  else (d, [])

end Journal

end RequestCheck
