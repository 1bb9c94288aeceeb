import RequestCheck.Text.Basic

/-!
# Decimal fractions

The text of a fraction of two natural numbers, rounded to the nearest number that the text can hold
and to the even one of two that are equally near. A text has its digits before and behind the point
and, in scientific form, a power of ten.

    fixed k n d          n / d with k digits behind the point
    scientific k n d     n / d with one digit before the point and k behind it
    general k n d        n / d with k digits, in the form that suits its size
-/

namespace RequestCheck.Decimal

/-- The whole number next to a fraction, the even one if two are. -/
def roundEven (n d : Nat) : Nat :=
  let whole := n / d
  let twice := 2 * (n % d)
  if twice < d then whole else if d < twice then whole + 1 else whole + whole % 2

/-- The digits before and behind the point, and the power of ten if the form has one. -/
structure Digits where
  whole : Text
  fraction : Text
  power : Option Int := none
  deriving DecidableEq

/-- The digits of a number with a point before the last ones. -/
def pointed (places n : Nat) : Digits :=
  let digits := Text.padLeft (places + 1) '0' (Text.ofNat n)
  { whole := digits.take (digits.length - places),
    fraction := digits.drop (digits.length - places) }

/-- A fraction with this many digits behind the point. -/
def fixed (places n d : Nat) : Digits := pointed places (roundEven (n * Nat.pow 10 places) d)

/-- The power of ten of the first digit of a fraction that is not zero. -/
def leadingPower (n d : Nat) : Int :=
  if n = 0 then 0
  else if d ≤ n then (Text.ofNat (n / d)).length - 1
  else -(Text.ofNat ((d - 1) / n)).length

/-- A fraction in units of a power of ten, rounded. -/
def inUnits (power : Int) (n d : Nat) : Nat :=
  roundEven (n * Nat.pow 10 (-power).toNat) (d * Nat.pow 10 power.toNat)

/-- The power of ten of the first digit, once a fraction is rounded to one digit and some places. -/
def roundedPower (places n d : Nat) : Int :=
  let power := leadingPower n d
  if inUnits (power - places) n d = Nat.pow 10 (places + 1) then power + 1 else power

/-- A fraction with one digit before the point and this many behind it. -/
def scientific (places n d : Nat) : Digits :=
  let power := roundedPower places n d
  { pointed places (inUnits (power - places) n d) with power := some power }

/-- A fraction with this many digits, at least one: in scientific form if it is below a ten
thousandth or has more digits before the point. -/
def general (count n d : Nat) : Digits :=
  let places := count - 1
  let power := roundedPower places n d
  if power < -4 ∨ (places : Int) < power then scientific places n d
  else fixed (places - power).toNat n d

namespace Digits

def trimmed (digits : Digits) : Digits :=
  { digits with
    fraction := (digits.fraction.reverse.dropWhile fun c : CodePoint => c == '0').reverse }

/-- The text of a power of ten, with a sign and at least two digits. -/
def powerText (power : Int) : Text :=
  "e" ++ (if power < 0 then "-" else "+" : Text) ++
    Text.padLeft 2 '0' (Text.ofNat power.natAbs)

/-- The text of digits. A point that nothing follows is left out unless it is to be kept. -/
def text (keepPoint : Bool) (digits : Digits) : Text :=
  let point : Text := if digits.fraction.isEmpty && !keepPoint then [] else "."
  digits.whole ++ point ++ digits.fraction ++ (digits.power.map powerText).getD []

end Digits

end RequestCheck.Decimal
