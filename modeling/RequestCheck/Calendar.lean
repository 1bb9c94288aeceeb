import RequestCheck.Text.Basic

/-!
# Calendar dates

The date and the time of day of a moment, given in seconds since the start of 1970, in universal
time and the Gregorian calendar. Time zones are left out: the local time is taken to be universal.

    timestamp s       the moment s as YYYY-MM-DD hh:mm:ss
    rangeError? s     why the system cannot tell the date of s, if it cannot
-/

namespace RequestCheck.Calendar

/-- A day of the Gregorian calendar. -/
structure Date where
  year : Int
  month : Nat
  day : Nat
  deriving DecidableEq

/-- The date of a day, counted from the first of January 1970. Years are taken to start in March, so
that a leap day ends one; four hundred years have 146097 days. -/
def dateOf (days : Int) : Date :=
  let shifted := days + 719468
  let era := shifted / 146097
  let dayOfEra := (shifted % 146097).toNat
  let yearOfEra := (dayOfEra - dayOfEra / 1460 + dayOfEra / 36524 - dayOfEra / 146096) / 365
  let dayOfYear := dayOfEra - (365 * yearOfEra + yearOfEra / 4 - yearOfEra / 100)
  let shiftedMonth := (5 * dayOfYear + 2) / 153
  let month := if shiftedMonth < 10 then shiftedMonth + 3 else shiftedMonth - 9
  { year := era * 400 + yearOfEra + if month ≤ 2 then 1 else 0
    month
    day := dayOfYear - (153 * shiftedMonth + 2) / 5 + 1 }

/-- A number in at least two digits. -/
def twoDigits (n : Nat) : Text := Text.padLeft 2 '0' (Text.ofNat n)

def timestamp (seconds : Int) : Text :=
  let date := dateOf (seconds / 86400)
  let second := (seconds % 86400).toNat
  Text.ofInt date.year ++ "-" ++ twoDigits date.month ++ "-" ++
    twoDigits date.day ++ " " ++ twoDigits (second / 3600) ++ ":" ++
    twoDigits (second / 60 % 60) ++ ":" ++ twoDigits (second % 60)

/-! ## The range of the system -/

/-- Why the system cannot tell the date of a moment: the seconds do not fit into 64 bits, or the
year does not fit into 32, counted from 1900 or as it is. -/
inductive RangeError where
  | seconds
  | yearSince1900
  | year
  deriving DecidableEq

def RangeError.message : RangeError → Text
  | .seconds => "timestamp out of range for platform time_t"
  | .yearSince1900 => "[Errno 75] Value too large for defined data type"
  | .year => "signed integer is greater than maximum"

/-- The number fits into this many bits, one of them for the sign. -/
def fits (bits : Nat) (n : Int) : Bool :=
  let bound : Int := (1 <<< (bits - 1) : Nat)
  n < bound && -bound ≤ n

/-- Why the system cannot tell the date of a moment, if it cannot. -/
def rangeError? (seconds : Int) : Option RangeError :=
  let year := (dateOf (seconds / 86400)).year
  if !fits 64 seconds then some .seconds
  else if !fits 32 (year - 1900) then some .yearSince1900
  else if !fits 32 year then some .year
  else none

end RequestCheck.Calendar
