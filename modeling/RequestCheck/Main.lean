import RequestCheck.Engine.Script
import RequestCheck.Run
import Std.Time.DateTime.Timestamp

/-!
# The command line

The program as an executable: it takes in the files that the arguments name and the standard input,
runs, and then writes what the run has left behind. The rules are handed to a matcher; the one this
executable is linked with matches nothing, and its checks take no time.

    main arguments     the run with these arguments; the result is the exit status
-/

namespace RequestCheck.Main

/-- The string for a text in which no surrogate is left. -/
def string (t : Text) : String := String.ofList (t.filterMap CodePoint.toChar?)

def pathOf (location : Location) : String := string (Path.mk .slash location).toText

/-- The paths that a run may look at. -/
def pathsOf (e : Environment) (o : Options) : List Text :=
  let defaults := (Rules.Config.ofSetting e.project e.dataDirectory).defaultPaths.map Path.toText
  o.rules.getD defaults ++
    [o.requests, o.metricsPath, o.logFile].filterMap Setting.text?

/-- The locations that a path may lead through, from any part of it onwards. -/
def locationsOf (home : Location) (path : Text) : List Location :=
  let p := Path.ofText path
  let start := if p.root = .relative then home else []
  let steps := p.parts.foldl (fun done part => Path.follow (done.headD start) part :: done) [start]
  steps ++ [(p.absolute home).parts]

/-- Takes in what lies at a location. -/
def takeIn (d : Disk) (location : Location) : IO Disk := do
  let path := (← IO.currentDir) / pathOf location
  if location.isEmpty then return d
  if ← path.isDir then return d.put location .directory
  if ← path.pathExists then
    return d.put location (.file (← IO.FS.readBinFile path).toList)
  return d

/-- Takes in what the locations hold, with the directories that they lie in. -/
def takeInAll (d : Disk) (locations : List Location) : IO Disk :=
  locations.foldlM (fun d location => takeIn d location) d

/-- Reads a stream to its end. -/
partial def readAll (input : IO.FS.Stream) (done : ByteArray) : IO ByteArray := do
  let more ← input.read 65536
  if more.isEmpty then return done else readAll input (done ++ more)

def writeBack (before after : Disk) : IO Unit := do
  for (location, entry) in after.entries do
    if before.entry? location != some entry then
      let path := (← IO.currentDir) / pathOf location
      match entry with
      | .directory => IO.FS.createDirAll path
      | .void => pure ()
      | .file content => IO.FS.writeBinFile path ⟨content.toArray⟩

/-- The standard input as far as the arguments ask for it. -/
def inputFor (o : Options) : IO Octets := do
  match o.job with
  | .ok (.stream .absent) => return (← readAll (← IO.getStdin) .empty).toList
  | .ok (.stream (.value path)) =>
    if path = "-" then return (← readAll (← IO.getStdin) .empty).toList
    return []
  | _ => return []

/-- The current time in seconds since the start of 1970. -/
def now : IO Int := do
  return (← Std.Time.Timestamp.now).toSecondsSinceUnixEpoch.val

/-- What the console shows of a failure that the run could not deal with. -/
def lastWords : Outcome → Text
  | .failed failure => Utf8.showSurrogates (failure.message ++ "\n")
  | _ => []

def runIn (e : Environment) (arguments : List Text) (home : Location) : IO UInt32 := do
  let options := (Options.parse arguments).toOption.getD {}
  let locations := ((List.range home.length).map fun n => home.take (n + 1)) ++
    (pathsOf e options).flatMap (locationsOf home)
  let disk ← takeInAll { home } locations
  let (outcome, after) := run e arguments (← inputFor options) { disk, now := ← now }
  writeBack disk after.disk
  (← IO.getStdout).putStr (string after.output)
  (← IO.getStderr).putStr (string (after.console ++ lastWords outcome))
  return outcome.status

end RequestCheck.Main

def main (arguments : List String) : IO UInt32 := do
  let pathFrom (path : String) : RequestCheck.Path := .ofText (.ofString path)
  let home := (pathFrom (← IO.currentDir).toString).parts
  let project := pathFrom (← IO.appDir).toString
  let dataDirectory := (← IO.getEnv "ADBLOCK_CHECK_DATA_DIR").map RequestCheck.Text.ofString
  let environment : RequestCheck.Environment :=
    { project, dataDirectory, matcher := fun _ => RequestCheck.Engine.Script.engine {} }
  RequestCheck.Main.runIn environment (arguments.map RequestCheck.Text.ofString) home
