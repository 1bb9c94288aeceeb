import RequestCheck.Json.Value

/-!
# Numbers behind numerals

A numeral with neither a point nor an exponent is an integer; any other one stands for a double.

    integer? n     the integer that n writes, if it is one
    double n       the double next to what n writes
-/

namespace RequestCheck.Json.Numeral

/-- The number that a run of digits writes, from a number in front of it. -/
def digitsValue (front : Nat) (digits : Text) : Nat :=
  digits.foldl (fun n c => n * 10 + (c.val - 48)) front

/-- The sign of a numeral, negative as true, and the text behind it. -/
def splitSign : Text → Bool × Text
  | [] => (false, [])
  | c :: rest =>
    if c = '-' then (true, rest)
    else if c = '+' then (false, rest)
    else (false, c :: rest)

def signed (negative : Bool) (n : Nat) : Int := if negative then -(n : Int) else n

/-- The integer that a numeral writes, if it is digits only behind its sign. -/
def integer? (numeral : Text) : Option Int :=
  let (negative, digits) := splitSign numeral
  if !digits.isEmpty && digits.all Text.isDecimalDigit then
    some (signed negative (digitsValue 0 digits))
  else none

/-- The double next to what a numeral writes. -/
def double (numeral : Text) : Float :=
  let (negative, body) := splitSign numeral
  let magnitude : Float :=
    if body = "Infinity" then 1.0 / 0.0
    else if body = "NaN" then 0.0 / 0.0
    else
      let whole := body.takeWhile Text.isDecimalDigit
      let rest := body.dropWhile Text.isDecimalDigit
      let fraction :=
        if rest.head? = some '.' then rest.tail.takeWhile Text.isDecimalDigit else []
      let exponent := (body.dropWhile fun c => !isExponentMark c).tail
      let (down, power) := splitSign exponent
      let mantissa := digitsValue (digitsValue 0 whole) fraction
      let scale := signed down (digitsValue 0 power) - fraction.length
      if 0 ≤ scale then Float.ofScientific (mantissa * Nat.pow 10 (min scale.toNat 400)) false 0
      else Float.ofScientific mantissa true (-scale).toNat
  if negative then -magnitude else magnitude

end RequestCheck.Json.Numeral
