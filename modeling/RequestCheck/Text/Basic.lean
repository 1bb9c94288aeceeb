/-!
# Code points and texts

A text is a list of code points, surrogates included: a JSON escape such as `\ud800` stands for
a surrogate that no well-formed octet sequence can hold, so `Char` is too small for the strings
of a request.

    Text.ofString s         the code points of s
    Text.toString? t        the string with these code points, if none is a surrogate
    Text.ofNat n            decimal digits, no leading zero
-/

namespace RequestCheck

/-- A code point, surrogates included. -/
abbrev CodePoint := Fin 0x110000

abbrev Text := List CodePoint

namespace CodePoint

theorem toNat_lt_bound (c : Char) : c.toNat < 0x110000 := by
  have h : c.toNat.isValidChar := c.valid
  unfold Nat.isValidChar at h
  omega

def ofChar (c : Char) : CodePoint := ⟨c.toNat, toNat_lt_bound c⟩

def replacement : CodePoint := ⟨0xFFFD, by decide⟩

/-- The code point with a number; a number that is too large gives the replacement character. -/
def ofNat (n : Nat) : CodePoint := if h : n < 0x110000 then ⟨n, h⟩ else replacement

/-- The first half of a surrogate pair. -/
def isHighSurrogate (c : CodePoint) : Bool := 0xD800 ≤ c.val && c.val ≤ 0xDBFF

/-- The second half of a surrogate pair. -/
def isLowSurrogate (c : CodePoint) : Bool := 0xDC00 ≤ c.val && c.val ≤ 0xDFFF

def isSurrogate (c : CodePoint) : Bool := 0xD800 ≤ c.val && c.val ≤ 0xDFFF

/-- The character with this code point; a surrogate has none. -/
def toChar? (c : CodePoint) : Option Char :=
  if h : c.val.isValidChar then some (Char.ofNatAux c.val h) else none

end CodePoint

/-- The code points of a string. -/
def Text.ofString (s : String) : Text := s.toList.map CodePoint.ofChar

instance : Coe String Text := ⟨Text.ofString⟩

instance : Coe Char CodePoint := ⟨CodePoint.ofChar⟩

namespace Text

/-- The string with these code points; there is none if one of them is a surrogate. -/
def toString? (t : Text) : Option String := (t.mapM CodePoint.toChar?).map String.ofList

/-- The decimal digits of a natural number, without leading zeros. -/
def ofNat (n : Nat) : Text := (Nat.toDigits 10 n).map CodePoint.ofChar

/-- A decimal number, with a minus sign in front if it is negative. -/
def ofInt : Int → Text
  | .ofNat n => ofNat n
  | .negSucc n => '-' :: ofNat (n + 1)

/-- The most digits with which a whole number is read from a text or written into one. -/
def maxIntegerDigits : Nat := 4300

/-- Fills up on the left to at least this many code points. -/
def padLeft (width : Nat) (filler : CodePoint) (t : Text) : Text :=
  List.replicate (width - t.length) filler ++ t

/-- The value of a hexadecimal digit of either case. -/
def hexValue? (c : CodePoint) : Option (Fin 16) :=
  if h : 48 ≤ c.val ∧ c.val ≤ 57 then some ⟨c.val - 48, by omega⟩
  else if h : 97 ≤ c.val ∧ c.val ≤ 102 then some ⟨c.val - 87, by omega⟩
  else if h : 65 ≤ c.val ∧ c.val ≤ 70 then some ⟨c.val - 55, by omega⟩
  else none

/-- The lower-case hexadecimal digits of a number, at least this many. -/
def ofHex (width n : Nat) : Text :=
  padLeft width '0' ((Nat.toDigits 16 n).map CodePoint.ofChar)

def isDecimalDigit (c : CodePoint) : Bool := 48 ≤ c.val && c.val ≤ 57

def occursIn (part : Text) : Text → Bool
  | [] => part.isEmpty
  | c :: rest => part.isPrefixOf (c :: rest) || occursIn part rest

/-- The texts one after the other, with a separator between neighbours. -/
def joinWith (separator : Text) : List Text → Text
  | [] => []
  | [t] => t
  | t :: rest => t ++ separator ++ joinWith separator rest

/-- The parts between separators, at least one. -/
def splitAt (separator : CodePoint) : Text → List Text
  | [] => [[]]
  | c :: rest =>
    if c = separator then [] :: splitAt separator rest
    else match splitAt separator rest with
      | [] => [[c]]
      | part :: parts => (c :: part) :: parts

end Text

end RequestCheck
