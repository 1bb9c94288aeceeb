/-!
# Doubles as exact numbers

A finite double is a whole number times a power of two, which its bits tell: sign, exponent and
mantissa.

    Double.ofFloat x          what x stands for
    Double.truncated n m e    the whole number next to a finite double on the side of zero
-/

namespace RequestCheck

/-- What a double stands for; a finite one is its mantissa times two to the exponent. -/
inductive Double where
  | finite (negative : Bool) (mantissa : Nat) (exponent : Int)
  | infinite (negative : Bool)
  | notANumber
  deriving DecidableEq

namespace Double

/-- The weight of the bit that a double leaves out of its mantissa. -/
def hiddenBit : Nat := 1 <<< 52

/-- What a double stands for, from its bits. -/
def ofFloat (x : Float) : Double :=
  let bits := x.toBits.toNat
  let negative : Bool := 2048 ≤ bits / hiddenBit
  let exponent := bits / hiddenBit % 2048
  let mantissa := bits % hiddenBit
  if exponent = 2047 then
    if mantissa = 0 then .infinite negative else .notANumber
  else if exponent = 0 then .finite negative mantissa (-1074)
  else .finite negative (hiddenBit + mantissa) ((exponent : Int) - 1075)

def numerator (mantissa : Nat) (exponent : Int) : Nat := mantissa <<< exponent.toNat

def denominator (exponent : Int) : Nat := 1 <<< (-exponent).toNat

/-- The whole number next to a finite double on the side of zero. -/
def truncated (negative : Bool) (mantissa : Nat) (exponent : Int) : Int :=
  let magnitude : Int := (numerator mantissa exponent / denominator exponent : Nat)
  if negative then -magnitude else magnitude

end Double

end RequestCheck
