import RequestCheck.Text.Basic

/-!
# Lines

A line ends in a line feed, a carriage return, or the two in this order; the last line of a text
may go without.

    lines t             the lines of t with their ends
    completeLines t     those that nothing behind t can make longer
    unifyLineEnds t     t with a line feed as the end of every line
-/

namespace RequestCheck.Text

def lineFeed : CodePoint := '\n'

def carriageReturn : CodePoint := '\r'

/-- The lines of a text behind the start of a line, which is given backwards. A carriage return at
the end of that start ends the line, unless a line feed comes to it. -/
def linesAfter (start : Text) : Text → List Text
  | [] => if start.isEmpty then [] else [start.reverse]
  | c :: rest =>
    if c = lineFeed then (c :: start).reverse :: linesAfter [] rest
    else if start.head? = some carriageReturn then start.reverse :: linesAfter [c] rest
    else linesAfter (c :: start) rest

def lines (t : Text) : List Text := linesAfter [] t

/-- The lines of a text that are complete whatever follows it: a last line has to end in a line
feed, since a line feed behind a carriage return would belong to the same end. -/
def completeLines (t : Text) : List Text :=
  if t.getLast? = some lineFeed then lines t else (lines t).dropLast

/-- The text with every line end as a line feed: a line feed behind a carriage return is dropped,
and each carriage return becomes a line feed. -/
def unifyLineEnds (t : Text) : Text :=
  (t.zip (lineFeed :: t)).filterMap fun (c, before) =>
    if c = lineFeed ∧ before = carriageReturn then none
    else some (if c = carriageReturn then lineFeed else c)

end RequestCheck.Text
