import RequestCheck.Text.Printable

/-!
# Quoted texts

A text between quotes, on one line and in printable code points only, whatever it holds. The
quotes are single unless the text has single quotes and no double ones; the quote in use and the
backslash are escaped, line feed, carriage return and tab have letters, and every other
unprintable code point is written in two, four or eight hexadecimal digits.

    quoted t     the quoted form of t
    escaped t    t with hexadecimal digits for what is not ASCII
-/

namespace RequestCheck.Text

/-- The quote that surrounds a text: double only where that saves an escape. -/
def quoteFor (t : Text) : CodePoint :=
  if t.contains '\'' && !t.contains '"' then '"' else '\''

/-- A code point in two, four or eight hexadecimal digits. -/
def hexEscape (c : CodePoint) : Text :=
  if c.val < 0x100 then "\\x" ++ ofHex 2 c.val
  else if c.val < 0x10000 then "\\u" ++ ofHex 4 c.val
  else "\\U" ++ ofHex 8 c.val

/-- A code point between quotes. -/
def quotedPoint (quote c : CodePoint) : Text :=
  if c = quote ∨ c = '\\' then ['\\', c]
  else if c = '\n' then "\\n"
  else if c = '\r' then "\\r"
  else if c = '\t' then "\\t"
  else if isPrintable c then [c]
  else hexEscape c

/-- The text between quotes, on one line of printable code points. -/
def quoted (t : Text) : Text :=
  quoteFor t :: (t.flatMap (quotedPoint (quoteFor t)) ++ [quoteFor t])

/-- The text with hexadecimal digits for every code point that is not ASCII. -/
def escaped (t : Text) : Text := t.flatMap fun c => if c.val < 0x80 then [c] else hexEscape c

end RequestCheck.Text
