import RequestCheck.Text.Basic

/-!
# Blank code points

The white space of Unicode together with the four information separators U+001C to U+001F.
U+200B, U+FEFF and U+180E are not blank.

    strip t    t without the blanks at its two ends
-/

namespace RequestCheck.Text

/-- White space, or one of the separators U+001C to U+001F. -/
def isBlank (c : CodePoint) : Bool :=
  (0x09 ≤ c.val && c.val ≤ 0x0D) || (0x1C ≤ c.val && c.val ≤ 0x20) || c.val == 0x85 ||
  c.val == 0xA0 || c.val == 0x1680 || (0x2000 ≤ c.val && c.val ≤ 0x200A) || c.val == 0x2028 ||
  c.val == 0x2029 || c.val == 0x202F || c.val == 0x205F || c.val == 0x3000

def strip (t : Text) : Text :=
  ((t.dropWhile isBlank).reverse.dropWhile isBlank).reverse

end RequestCheck.Text
