import RequestCheck.Files.Path
import RequestCheck.Text.Quoted

/-!
# Files and directories

A disk holds files and directories at locations, the parts from the root down, and has a working
directory that relative paths start from. A path leads to a location only through directories. What
is written to a void is lost, and it is read as empty. Links, permissions and other devices are left
out, and so are disks that run full: a file that has been opened takes all that is written to it.

    d.read p            the content of the file at p
    d.append p c        d with c at the end of the file at p, which is made if it is missing
    d.overwrite p c     d with c as the content of the file at p
    d.makeParents p     makes a directory at p and at all that p leads through
-/

namespace RequestCheck

/-- The parts from the root down. -/
abbrev Location := List Text

/-- What lies at a location. -/
inductive Entry where
  | file (content : Octets)
  | directory
  | void
  deriving DecidableEq

/-- The reasons for which the system refuses an operation. -/
inductive Refusal where
  | notFound
  | alreadyThere
  | notDirectory
  | isDirectory
  | nameTooLong
  deriving DecidableEq

def Refusal.number : Refusal → Nat
  | .notFound => 2
  | .alreadyThere => 17
  | .notDirectory => 20
  | .isDirectory => 21
  | .nameTooLong => 36

def Refusal.wording : Refusal → Text
  | .notFound => "No such file or directory"
  | .alreadyThere => "File exists"
  | .notDirectory => "Not a directory"
  | .isDirectory => "Is a directory"
  | .nameTooLong => "File name too long"

/-- Why an operation on files failed: the path has a surrogate that it cannot have, or a NUL, or the
system refused it. -/
inductive FileError where
  | unencodable (error : Utf8.EncodeError)
  | nullByte
  | refused (why : Refusal) (path : Text)
  deriving DecidableEq

def FileError.message : FileError → Text
  | .unencodable error => error.message
  | .nullByte => "embedded null byte"
  | .refused why path =>
    "[Errno " ++ Text.ofNat why.number ++ "] " ++ why.wording ++ ": " ++ path.quoted

/-- Files and directories, and the working directory. -/
structure Disk where
  entries : List (Location × Entry) := []
  home : Location := []

namespace Disk

/-! ## Entries -/

/-- Replaces the entry at a location, or adds it at the end. -/
def putEntry (location : Location) (entry : Entry) :
    List (Location × Entry) → List (Location × Entry)
  | [] => [(location, entry)]
  | (other, old) :: rest =>
    if other = location then (location, entry) :: rest
    else (other, old) :: putEntry location entry rest

/-- What lies at a location; the root is a directory. -/
def entry? (d : Disk) (location : Location) : Option Entry :=
  if location = [] then some .directory else d.entries.lookup location

def put (d : Disk) (location : Location) (entry : Entry) : Disk :=
  { d with entries := putEntry location entry d.entries }

/-- The disk without the entry at a location. -/
def remove (d : Disk) (location : Location) : Disk :=
  { d with entries := d.entries.filter fun entry => entry.1 != location }

/-! ## Following paths -/

def maxPartSize : Nat := 255

def maxPathSize : Nat := 4095

/-- Goes from a location, which has to be a directory, to a part of it. -/
def enter (d : Disk) (location : Location) (part : Text) : Except Refusal Location :=
  match d.entry? location with
  | none => .error .notFound
  | some (.file _) => .error .notDirectory
  | some .void => .error .notDirectory
  | some .directory =>
    if Path.isIdle part then .ok location
    else if part = ".." then .ok location.dropLast
    else if maxPartSize < (Utf8.fileOctets part).length then .error .nameTooLong
    else .ok (location ++ [Utf8.fileName part])

def walk (d : Disk) (location : Location) : List Text → Except Refusal Location
  | [] => .ok location
  | part :: rest =>
    match d.enter location part with
    | .error why => .error why
    | .ok next => d.walk next rest

/-- The location that a path leads to; whether anything lies there is another matter. -/
def locate (d : Disk) (path : Text) : Except FileError Location :=
  match Utf8.firstBadSurrogates Utf8.isUnnameable path with
  | some error => .error (.unencodable error)
  | none =>
    if path.contains '\x00' then .error .nullByte
    else if path = [] then .error (.refused .notFound path)
    else if maxPathSize < (Utf8.fileOctets path).length then .error (.refused .nameTooLong path)
    else match d.walk (if Path.rootOf path = .relative then d.home else [])
        (path.splitAt Path.separator) with
      | .error why => .error (.refused why path)
      | .ok location => .ok location

/-- What lies at a path; there is nothing where the way leads through no directory. -/
def status (d : Disk) (path : Text) : Except FileError (Option Entry) :=
  match d.locate path with
  | .ok location => .ok (d.entry? location)
  | .error (.unencodable _) => .ok none
  | .error .nullByte => .ok none
  | .error (.refused .notFound _) => .ok none
  | .error (.refused .notDirectory _) => .ok none
  | .error error => .error error

def isFile (d : Disk) (path : Text) : Except FileError Bool :=
  match d.status path with
  | .ok (some (.file _)) => .ok true
  | .ok _ => .ok false
  | .error error => .error error

def isDirectory (d : Disk) (path : Text) : Except FileError Bool :=
  match d.status path with
  | .ok (some .directory) => .ok true
  | .ok _ => .ok false
  | .error error => .error error

/-! ## Files -/

def read (d : Disk) (path : Text) : Except FileError Octets :=
  match d.locate path with
  | .error error => .error error
  | .ok location =>
    match d.entry? location with
    | none => .error (.refused .notFound path)
    | some .directory => .error (.refused .isDirectory path)
    | some .void => .ok []
    | some (.file content) => .ok content

/-- Changes the content of the file at a path; a missing file counts as empty and is made. -/
def modify (d : Disk) (path : Text) (change : Octets → Octets) : Except FileError Disk :=
  match d.locate path with
  | .error error => .error error
  | .ok location =>
    match d.entry? location with
    | none => .ok (d.put location (.file (change [])))
    | some .directory => .error (.refused .isDirectory path)
    | some .void => .ok d
    | some (.file content) => .ok (d.put location (.file (change content)))

/-- The disk with octets at the end of the file at a path. -/
def append (d : Disk) (path : Text) (octets : Octets) : Except FileError Disk :=
  d.modify path (· ++ octets)

/-- The disk with octets as the content of the file at a path. -/
def overwrite (d : Disk) (path : Text) (octets : Octets) : Except FileError Disk :=
  d.modify path fun _ => octets

/-! ## Directories -/

/-- The disk with a new directory at a path. -/
def makeDirectory (d : Disk) (path : Text) : Except FileError Disk :=
  match d.locate path with
  | .error error => .error error
  | .ok location =>
    match d.entry? location with
    | none => .ok (d.put location .directory)
    | some _ => .error (.refused .alreadyThere path)

/-- Takes a refusal as success where a directory is there all the same. -/
def unlessDirectory (d : Disk) (path : Text) (error : FileError) : Except FileError Unit :=
  match error with
  | .unencodable _ => .error error
  | .nullByte => .error error
  | .refused _ _ =>
    match d.isDirectory path with
    | .ok true => .ok ()
    | .ok false => .error error
    | .error other => .error other

/-- Makes a directory at a path given by its parts from the last to the first, and before it those
on the way that are missing. What has been made stays when a later one fails. -/
def makeAll (d : Disk) (root : PathRoot) : List Text → Except FileError Unit × Disk
  | [] =>
    let path := (Path.mk root []).toText
    match d.makeDirectory path with
    | .ok made => (.ok (), made)
    | .error error => (d.unlessDirectory path error, d)
  | part :: above =>
    let path := (Path.mk root (part :: above).reverse).toText
    match d.makeDirectory path with
    | .ok made => (.ok (), made)
    | .error (.refused .notFound _) =>
      match d.makeAll root above with
      | (.error error, made) => (.error error, made)
      | (.ok (), made) =>
        match made.makeDirectory path with
        | .ok all => (.ok (), all)
        | .error error => (made.unlessDirectory path error, made)
    | .error error => (d.unlessDirectory path error, d)

/-- Makes a directory at a path and at all that it leads through. -/
def makeParents (d : Disk) (p : Path) : Except FileError Unit × Disk :=
  d.makeAll p.root p.parts.reverse

/-! ## Views -/

def files (d : Disk) : List (Location × Octets) :=
  d.entries.filterMap fun
    | (location, .file content) => some (location, content)
    | _ => none

/-- The files that are new or have a new content. -/
def changes (before after : Disk) : List (Location × Octets) :=
  after.files.filter fun (location, content) => before.entry? location != some (.file content)

end Disk

end RequestCheck
