import RequestCheck.Double

/-!
# Clocks

A clock gives one reading after the other and repeats its last one. A reading is a whole number of
seconds or a double. The latency between two readings is in milliseconds, cut towards zero; whole
numbers are subtracted exactly, otherwise the arithmetic is that of doubles.

    Clock.next c          the next reading of c, and the clock behind it
    milliseconds a b      the latency from a to b
-/

namespace RequestCheck

/-- A point in time, in seconds. -/
inductive Reading where
  | whole (seconds : Int)
  | real (seconds : Float)

/-- The readings that a clock will give; the last one is given forever. -/
abbrev Clock := List Reading

/-- The next reading of a clock, and the clock behind it. -/
def Clock.next : Clock → Reading × Clock
  | [] => (.whole 0, [])
  | [r] => (r, [r])
  | r :: rest => (r, rest)

namespace Reading

/-- Why there is no latency in whole milliseconds: a reading is too large for a double, or the
difference is not finite. -/
inductive LatencyError where
  | tooLarge
  | infinite
  | notANumber
  deriving DecidableEq

/-- A reading as a double; a whole number that is next to no finite double is too large. -/
def toFloat : Reading → Except LatencyError Float
  | .real x => .ok x
  | .whole n => if (Float.ofInt n).isInf then .error .tooLarge else .ok (Float.ofInt n)

/-- The whole number next to a double on the side of zero. -/
def truncate (x : Float) : Except LatencyError Int :=
  match Double.ofFloat x with
  | .infinite _ => .error .infinite
  | .notANumber => .error .notANumber
  | .finite negative mantissa exponent =>
    .ok (Double.truncated negative mantissa exponent)

/-- The latency between two readings, in milliseconds. -/
def milliseconds (first second : Reading) : Except LatencyError Int :=
  match first, second with
  | .whole a, .whole b => .ok ((b - a) * 1000)
  | _, _ =>
    match first.toFloat, second.toFloat with
    | .ok a, .ok b => truncate ((b - a) * 1000)
    | .error error, _ => .error error
    | _, .error error => .error error

end Reading

end RequestCheck
