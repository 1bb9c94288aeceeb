import RequestCheck.Utf8

/-!
# Paths

A path is a root and the parts below it. Empty parts and single dots are dropped when a text is
read as a path; double dots stay, because what they lead to depends on the files.

    Path.ofText t      the path that t names
    p.toText           the text of p: `.` for the path without parts
    p.absolute h       p below the directory h, with double dots resolved
-/

namespace RequestCheck

/-- What the parts of a path start from. Exactly two slashes in front are a root of their own. -/
inductive PathRoot where
  | relative
  | slash
  | doubleSlash
  deriving DecidableEq

/-- A root and the parts below it. -/
structure Path where
  root : PathRoot
  parts : List Text
  deriving DecidableEq

namespace Path

def separator : CodePoint := '/'

def rootText : PathRoot → Text
  | .relative => []
  | .slash => [separator]
  | .doubleSlash => [separator, separator]

/-- The root of a path, told by the number of slashes in front. -/
def rootOf (t : Text) : PathRoot :=
  match (t.takeWhile (· == separator)).length with
  | 0 => .relative
  | 2 => .doubleSlash
  | _ => .slash

/-- A part that leads nowhere else. -/
def isIdle (part : Text) : Bool := part.isEmpty || part == "."

def ofText (t : Text) : Path :=
  { root := rootOf t, parts := (t.splitAt separator).filter fun part => !isIdle part }

def toText (p : Path) : Text :=
  match p.root, p.parts with
  | .relative, [] => "."
  | root, parts => rootText root ++ Text.joinWith [separator] parts

def parent (p : Path) : Path := { p with parts := p.parts.dropLast }

/-- The path with one more part. -/
def child (p : Path) (part : Text) : Path := { p with parts := p.parts ++ [part] }

/-- Takes one more part, or goes back by one for a double dot. -/
def follow (parts : List Text) (part : Text) : List Text :=
  if part = ".." then parts.dropLast else parts ++ [part]

/-- The path from the root, for a path that starts below a directory; double dots are resolved by
the parts alone. -/
def absolute (home : List Text) (p : Path) : Path :=
  match p.root with
  | .relative => { root := .slash, parts := p.parts.foldl follow home }
  | root => { root, parts := p.parts.foldl follow [] }

end Path

end RequestCheck
