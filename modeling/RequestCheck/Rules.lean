import RequestCheck.Failure
import RequestCheck.Text.Lines

/-!
# Rule files

The rules of a run come from the files that the user names, in that order, or from two default
files, of which none may be missing. Their line ends are unified.

    load d c rules     the rule texts that d holds
-/

namespace RequestCheck.Rules

/-- Where the default rule files are. -/
structure Config where
  directory : Path
  deriving DecidableEq

/-- The names of the default rule files. -/
def defaultNames : List Text := ["easylist.txt", "easyprivacy.txt"]

/-- The default rule files. -/
def Config.defaultPaths (config : Config) : List Path := defaultNames.map config.directory.child

/-- The directory that a setting names, or else the one below the project. An empty setting names
none. -/
def Config.ofSetting (project : Path) (setting : Option Text) : Config :=
  match setting with
  | none | some [] =>
    { directory := ((project.child "data").child "easylist.to").child "easylist" }
  | some text => { directory := Path.ofText text }

/-- The text of a rule file. -/
def readFile (d : Disk) (path : Text) : Except Failure Text :=
  match d.read (Path.ofText path).toText with
  | .error (.unencodable error) => .error (.file (.unencodable error))
  | .error .nullByte => .error (.file .nullByte)
  | .error (.refused why at') =>
    .error (.configuration (.unreadableRules path (.refused why at')))
  | .ok octets =>
    match Utf8.decode octets with
    | .error error => .error (.configuration (.unreadableRules path (.undecodable error)))
    | .ok text => .ok text.unifyLineEnds

/-- The texts of rule files, or the failure of the first that cannot be read. -/
def readFiles (d : Disk) : List Text → Except Failure (List Text)
  | [] => .ok []
  | path :: rest =>
    match readFile d path with
    | .error failure => .error failure
    | .ok text =>
      match readFiles d rest with
      | .error failure => .error failure
      | .ok texts => .ok (text :: texts)

/-- The paths at which no file lies. -/
def missing (d : Disk) : List Path → Except FileError (List Path)
  | [] => .ok []
  | p :: rest =>
    match d.isFile p.toText with
    | .error error => .error error
    | .ok there =>
      match missing d rest with
      | .error error => .error error
      | .ok others => .ok (if there then others else p :: others)

/-- The rule texts of a run: those of the named files, or else those of the default files. -/
def load (d : Disk) (config : Config) (rules : Option (List Text)) :
    Except Failure (List Text) :=
  match rules with
  | some paths => readFiles d paths
  | none =>
    match missing d config.defaultPaths with
    | .error error => .error (.file error)
    | .ok [] => readFiles d (config.defaultPaths.map Path.toText)
    | .ok paths => .error (.configuration (.missingDefaults paths))

end RequestCheck.Rules
