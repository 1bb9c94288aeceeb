import RequestCheck.Text.Lines

/-!
# Comma-separated rows

A row is written with commas between its fields and ends in a carriage return and a line feed. A
field with a comma, a quote or a line end in it is put between quotes, and quotes inside are
doubled. Rows are read a line at a time: a quoted field may go over several lines, a quote inside a
field that does not start with one is an ordinary character, and what follows a closing quote is
added to the field.

    writeRow r     the text of r
    rows t         the rows of t
-/

namespace RequestCheck.Csv

/-- The fields of one row. -/
abbrev Row := List Text

def comma : CodePoint := ','

def quote : CodePoint := '"'

/-! ## Writing -/

/-- A code point for which a field has to be quoted. -/
def isSpecial (c : CodePoint) : Bool :=
  c == comma || c == quote || c == Text.carriageReturn || c == Text.lineFeed

/-- The code points of a quoted field: quotes are doubled. -/
def doubleQuotes (field : Text) : Text :=
  field.flatMap fun c => if c = quote then [quote, quote] else [c]

def writeField (field : Text) : Text :=
  if field.any isSpecial then quote :: (doubleQuotes field ++ [quote]) else field

/-- The text of a row of at least two fields, with its end. -/
def writeRow (row : Row) : Text :=
  Text.joinWith [comma] (row.map writeField) ++ [Text.carriageReturn, Text.lineFeed]

/-! ## Reading -/

/-- Where in a row the reader is. -/
inductive State where
  | rowStart
  | fieldStart
  | inField
  | inQuotes
  | afterQuote
  | lineEnd
  deriving DecidableEq

/-- The state of the reader, with the field it is in and the fields before it, both backwards. -/
structure Reader where
  state : State := .rowStart
  field : Text := []
  fields : List Text := []
  deriving DecidableEq

namespace Reader

def isLineEnd (c : CodePoint) : Bool := c == Text.carriageReturn || c == Text.lineFeed

/-- Puts the field in progress behind the others. -/
def closeField (r : Reader) (state : State) : Reader :=
  { state, field := [], fields := r.field.reverse :: r.fields }

def addPoint (r : Reader) (state : State) (c : CodePoint) : Reader :=
  { r with state, field := c :: r.field }

def startField (r : Reader) (c : CodePoint) : Reader :=
  if isLineEnd c then r.closeField .lineEnd
  else if c = quote then { r with state := .inQuotes }
  else if c = comma then r.closeField .fieldStart
  else r.addPoint .inField c

/-- Reads a code point of a line. -/
def step (r : Reader) (c : CodePoint) : Reader :=
  match r.state with
  | .rowStart => if isLineEnd c then { r with state := .lineEnd } else r.startField c
  | .fieldStart => r.startField c
  | .inField =>
    if isLineEnd c then r.closeField .lineEnd
    else if c = comma then r.closeField .fieldStart
    else r.addPoint .inField c
  | .inQuotes => if c = quote then { r with state := .afterQuote } else r.addPoint .inQuotes c
  | .afterQuote =>
    if c = quote then r.addPoint .inQuotes c
    else if c = comma then r.closeField .fieldStart
    else if isLineEnd c then r.closeField .lineEnd
    else r.addPoint .inField c
  | .lineEnd => r

/-- Takes note that a line is over: the row is complete unless a quote is open. -/
def endLine (r : Reader) : Reader :=
  match r.state with
  | .rowStart => r
  | .fieldStart => r.closeField .rowStart
  | .inField => r.closeField .rowStart
  | .inQuotes => r
  | .afterQuote => r.closeField .rowStart
  | .lineEnd => { r with state := .rowStart }

/-- Reads a line with its end. -/
def line (r : Reader) (t : Text) : Reader := (t.foldl step r).endLine

def row (r : Reader) : Row := r.fields.reverse

/-- The row that the end of the text completes: there is one only if a quote is open. -/
def lastRow? (r : Reader) : Option Row :=
  match r.state with
  | .inQuotes => some (r.closeField .rowStart).row
  | _ => none

end Reader

/-- The rows of the lines behind a reader. -/
def rowsAfter (r : Reader) : List Text → List Row
  | [] => r.lastRow?.toList
  | t :: rest =>
    let r' := r.line t
    match r'.state with
    | .rowStart => r'.row :: rowsAfter {} rest
    | _ => rowsAfter r' rest

def rows (t : Text) : List Row := rowsAfter {} (Text.lines t)

/-! ## The first row -/

/-- The most code points that a field of the first row may have. -/
def maxFieldSize : Nat := 131072

/-- Where the reading of the first row got to. -/
inductive Progress where
  | complete (row : Row)
  | fieldTooLong
  | unfinished (reader : Reader)

/-- A field that was read or is being read is too long. -/
def Reader.isOverfull (r : Reader) : Bool :=
  (r.field :: r.fields).any fun field => maxFieldSize < field.length

def firstRow (r : Reader) : List Text → Progress
  | [] => .unfinished r
  | t :: rest =>
    let r' := r.line t
    if r'.isOverfull then .fieldTooLong
    else match r'.state with
      | .rowStart => .complete r'.row
      | _ => firstRow r' rest

end RequestCheck.Csv
