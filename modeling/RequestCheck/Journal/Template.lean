import RequestCheck.Journal.Format

/-!
# Message templates

A template is a message with places for arguments. A place is a percent sign, a key between
parentheses, flags (`-` to the left, `0` zeros in front, `+` or a space for a sign, `#` for a mark),
a width, a precision behind a point, one letter of size, which is of no account, and the letter of
a conversion; all but the first and the last may be left out. A star stands for a width or a
precision that is taken from the arguments. Two percent signs stand for one.

    fill t args     t with its places filled, if they fit the arguments

An object with members that is the only argument fills the places with keys, each by the member of
that name.
-/

namespace RequestCheck.Journal.Template

/-! ## Reading templates -/

/-- A place for an argument, and what it takes from the arguments besides. -/
structure Place where
  key : Option Text := none
  format : Format := {}
  takesWidth : Bool := false
  takesPrecision : Bool := false

inductive Piece where
  | literal (c : CodePoint)
  | place (place : Place) (conversion : Conversion)

/-- Where the reader of a template is: in plain text, behind a percent sign, in a key (given
backwards, with the number of parentheses open in it), or in or before a part of a place. -/
inductive State where
  | plain
  | opened
  | key (depth : Nat) (name : Text)
  | flags (place : Place)
  | width (place : Place)
  | point (place : Place)
  | precision (place : Place)
  | digits (place : Place) (digits : Nat)
  | size (place : Place)
  | letter (place : Place)

/-- The state behind a code point, and the piece that it completes. -/
abbrev Step := State × Option Piece

/-- A state without a piece. -/
def goTo (state : State) : Option Step := some (state, none)

def flagged? (format : Format) (c : CodePoint) : Option Format :=
  if c = '-' then some { format with left := true }
  else if c = '0' then some { format with zeros := true }
  else if c = '+' then some { format with plus := true }
  else if c = ' ' then some { format with blank := true }
  else if c = '#' then some { format with marked := true }
  else none

def withDigit (n : Nat) (c : CodePoint) : Nat := n * 10 + (c.val - 48)

/-- Closes a place with the letter of its conversion. -/
def stepLetter (place : Place) (c : CodePoint) : Option Step :=
  (Conversion.ofLetter? c).map fun conversion => (.plain, some (.place place conversion))

def stepSize (place : Place) (c : CodePoint) : Option Step :=
  if c = 'h' ∨ c = 'l' ∨ c = 'L' then goTo (.letter place) else stepLetter place c

/-- Reads the point in front of a precision. -/
def stepPoint (place : Place) (c : CodePoint) : Option Step :=
  if c = '.' then goTo (.precision place) else stepSize place c

def stepWidth (place : Place) (c : CodePoint) : Option Step :=
  if c = '*' then goTo (.point { place with takesWidth := true })
  else if Text.isDecimalDigit c then
    goTo (.width { place with format := { place.format with width := withDigit 0 c } })
  else stepPoint place c

def stepFlag (place : Place) (c : CodePoint) : Option Step :=
  match flagged? place.format c with
  | some format => goTo (.flags { place with format })
  | none => stepWidth place c

/-- The state behind a code point and the piece that it completes, if it fits. -/
def step (state : State) (c : CodePoint) : Option Step :=
  match state with
  | .plain => if c = '%' then goTo .opened else some (.plain, some (.literal c))
  | .opened =>
    if c = '%' then some (.plain, some (.literal c))
    else if c = '(' then goTo (.key 0 [])
    else stepFlag {} c
  | .key depth name =>
    if c = '(' then goTo (.key (depth + 1) (c :: name))
    else if c ≠ ')' then goTo (.key depth (c :: name))
    else match depth with
      | 0 => goTo (.flags { key := some name.reverse })
      | depth + 1 => goTo (.key depth (c :: name))
  | .flags place => stepFlag place c
  | .width place =>
    if Text.isDecimalDigit c then
      let width := withDigit place.format.width c
      goTo (.width { place with format := { place.format with width } })
    else stepPoint place c
  | .point place => stepPoint place c
  | .precision place =>
    if c = '*' then goTo (.size { place with takesPrecision := true })
    else if Text.isDecimalDigit c then goTo (.digits place (withDigit 0 c))
    else stepSize { place with format := { place.format with precision := some 0 } } c
  | .digits place digits =>
    if Text.isDecimalDigit c then goTo (.digits place (withDigit digits c))
    else stepSize { place with format := { place.format with precision := some digits } } c
  | .size place => stepSize place c
  | .letter place => stepLetter place c

/-- The pieces of a template, if its last place is closed. -/
def pieces? (state : State) : Text → Option (List Piece)
  | [] =>
    match state with
    | .plain => some []
    | _ => none
  | c :: rest =>
    match step state c with
    | none => none
    | some (state, piece) => (pieces? state rest).map (piece.toList ++ ·)

/-! ## Filling templates -/

/-- The arguments that are left: some in order, or an object with members, of which one value is at
hand: the object itself at first, and behind a key the member of that name. -/
inductive Arguments where
  | inOrder (rest : List Json.Value)
  | named (members : List (Text × Json.Value)) (atHand : Option Json.Value)

namespace Arguments

def ofList : List Json.Value → Arguments
  | [.object (m :: members)] => .named (m :: members) (some (.object (m :: members)))
  | args => .inOrder args

def next? : Arguments → Option (Json.Value × Arguments)
  | .inOrder [] => none
  | .inOrder (v :: rest) => some (v, .inOrder rest)
  | .named _ none => none
  | .named members (some v) => some (v, .named members none)

/-- The arguments with the member of a name at hand, for a place with a key. -/
def lookUp? (args : Arguments) : Option Text → Option Arguments
  | none => some args
  | some key =>
    match args with
    | .inOrder _ => none
    | .named members _ => (Json.lastNamed key members).map fun v => .named members (some v)

/-- The next argument as a whole number, and those behind it. -/
def nextWhole? (args : Arguments) : Option (Int × Arguments) :=
  match args.next? with
  | none => none
  | some (v, args) => (wholeNumber? v).map fun n => (n, args)

/-- No argument is left that a place should have taken. -/
def isSpent : Arguments → Bool
  | .inOrder rest => rest.isEmpty
  | .named _ _ => true

end Arguments

/-- The format of a place once its width is known: a negative one puts the text to the left. -/
def withWidth? (place : Place) (args : Arguments) : Option (Format × Arguments) :=
  if place.takesWidth then
    args.nextWhole?.map fun (n, args) =>
      ({ place.format with width := n.natAbs, left := place.format.left || n < 0 }, args)
  else some (place.format, args)

/-- The format of a place once its precision is known: a negative one counts as zero. -/
def withPrecision? (place : Place) (format : Format) (args : Arguments) :
    Option (Format × Arguments) :=
  if place.takesPrecision then
    args.nextWhole?.map fun (n, args) => ({ format with precision := some n.toNat }, args)
  else some (format, args)

/-- The text in a place, and the arguments that are left behind it. -/
def fillPlace? (place : Place) (conversion : Conversion) (args : Arguments) :
    Option (Text × Arguments) := do
  let args ← args.lookUp? place.key
  let (format, args) ← withWidth? place args
  let (format, args) ← withPrecision? place format args
  let (v, args) ← args.next?
  let t ← format.show? conversion v
  return (t, args)

/-- The text of pieces with the arguments in their places, if there are as many of each. -/
def fillPieces? (args : Arguments) : List Piece → Option Text
  | [] => if args.isSpent then some [] else none
  | .literal c :: rest => (fillPieces? args rest).map (c :: ·)
  | .place place conversion :: rest =>
    match fillPlace? place conversion args with
    | none => none
    | some (t, args) => (fillPieces? args rest).map (t ++ ·)

/-- The message of a template. Without arguments the template is the message. -/
def fill (template : Text) (args : List Json.Value) : Option Text :=
  match args with
  | [] => some template
  | args =>
    match pieces? .plain template with
    | some pieces => fillPieces? (.ofList args) pieces
    | none => none

end RequestCheck.Journal.Template
