import RequestCheck.Decimal
import RequestCheck.Double
import RequestCheck.Json.Display
import RequestCheck.Json.Numeral

/-!
# Formats of message arguments

A format says how a message shows an argument: the conversion, flags, a width and a precision. A
conversion takes only the arguments that it has a use for: any argument can be shown or quoted, the
whole numbers and truth values are numbers in every base, and all numbers have decimal digits.

    Conversion.ofLetter? c     the conversion with the letter c
    f.show? k v                the text of v in the conversion k, if v fits it
-/

namespace RequestCheck.Journal

/-- How an argument is shown, conversion apart. -/
structure Format where
  left : Bool := false
  zeros : Bool := false
  plus : Bool := false
  blank : Bool := false
  marked : Bool := false
  width : Nat := 0
  precision : Option Nat := none
  deriving DecidableEq

inductive Form where
  | fixed
  | scientific
  | general
  deriving DecidableEq

/-- What is shown of an argument. -/
inductive Conversion where
  | shown
  | quoted
  | escaped
  | character
  | whole
  | inBase (base : Nat) (mark : Text) (capital : Bool)
  | decimal (form : Form) (capital : Bool)
  deriving DecidableEq

namespace Conversion

def letters : List (CodePoint × Conversion) :=
  [('s', .shown), ('r', .quoted), ('a', .escaped), ('c', .character), ('d', .whole), ('i', .whole),
    ('u', .whole), ('x', .inBase 16 "0x" false), ('X', .inBase 16 "0X" true),
    ('o', .inBase 8 "0o" false), ('f', .decimal .fixed false), ('F', .decimal .fixed true),
    ('e', .decimal .scientific false), ('E', .decimal .scientific true),
    ('g', .decimal .general false), ('G', .decimal .general true)]

def ofLetter? (c : CodePoint) : Option Conversion := letters.lookup c

end Conversion

/-! ## Arguments as numbers -/

/-- The whole number that an argument stands for. A truth value counts as one or zero. -/
def wholeNumber? : Json.Value → Option Int
  | .boolean b => some (if b then 1 else 0)
  | .number numeral => Json.Numeral.integer? numeral
  | _ => none

/-- The double that an argument stands for; a whole number that is too large has none. -/
def double? (v : Json.Value) : Option Double :=
  match v, wholeNumber? v with
  | _, some n => if (Float.ofInt n).isInf then none else some (Double.ofFloat (Float.ofInt n))
  | .number numeral, none => some (Double.ofFloat (Json.Numeral.double numeral))
  | _, none => none

/-- The whole number on the side of zero of the number that an argument stands for. -/
def truncated? (v : Json.Value) : Option Int :=
  match wholeNumber? v, double? v with
  | some n, _ => some n
  | none, some (.finite negative mantissa exponent) =>
    some (Double.truncated negative mantissa exponent)
  | none, _ => none

/-- The character that an argument stands for: a string of one, or the number of one. -/
def character? (v : Json.Value) : Option Text :=
  match v, wholeNumber? v with
  | .string [c], _ => some [c]
  | _, some n => if h : 0 ≤ n ∧ n < 0x110000 then some [⟨n.toNat, by omega⟩] else none
  | _, none => none

/-! ## Showing -/

/-- Capital letters in place of small ones. -/
def capitals (t : Text) : Text :=
  t.map fun c => if 97 ≤ c.val ∧ c.val ≤ 122 then CodePoint.ofNat (c.val - 32) else c

/-- Capital letters in place of small ones, if they are wanted. -/
def capitalsIf (capital : Bool) (t : Text) : Text := if capital then capitals t else t

def digitsIn (base : Nat) (n : Int) : Text := (Nat.toDigits base n.natAbs).map CodePoint.ofChar

namespace Format

/-- Fills up to a width with spaces, on the left unless the format says otherwise. -/
def pad (format : Format) (t : Text) : Text :=
  let space : Text := List.replicate (format.width - t.length) ' '
  if format.left then t ++ space else space ++ t

/-- Cuts a text to the precision. -/
def cut (format : Format) (t : Text) : Text :=
  match format.precision with
  | some n => t.take n
  | none => t

/-- The text of a number: its sign, the mark of its base, and its digits, which zeros in front fill
up to the width if the format says so. -/
def number (format : Format) (negative : Bool) (mark digits : Text) : Text :=
  let sign : Text :=
    if negative then "-"
    else if format.plus then "+"
    else if format.blank then " "
    else []
  let front := sign ++ (if format.marked then mark else [])
  if format.zeros && !format.left then
    front ++ Text.padLeft (format.width - front.length) '0' digits
  else format.pad (front ++ digits)

/-- The text of a whole number with its digits, of which there are at least as many as the precision
says. -/
def whole (format : Format) (n : Int) (mark digits : Text) : Text :=
  format.number (n < 0) mark (Text.padLeft (format.precision.getD 0) '0' digits)

/-- The digits of a fraction in a form. Six is the precision where none is given; a general form
keeps the zeros at its end only if it is marked. -/
def digits (format : Format) (form : Form) (n d : Nat) : Decimal.Digits :=
  let precision := format.precision.getD 6
  match form with
  | .fixed => Decimal.fixed precision n d
  | .scientific => Decimal.scientific precision n d
  | .general =>
    let digits := Decimal.general precision n d
    if format.marked then digits else digits.trimmed

def double (format : Format) (form : Form) (capital : Bool) : Double → Text
  | .notANumber => format.number false [] (capitalsIf capital "nan")
  | .infinite negative => format.number negative [] (capitalsIf capital "inf")
  | .finite negative mantissa exponent =>
    let digits :=
      format.digits form (Double.numerator mantissa exponent) (Double.denominator exponent)
    format.number negative [] (capitalsIf capital (digits.text format.marked))

/-- The text of an argument in a conversion, if it fits. -/
def show? (format : Format) (conversion : Conversion) (v : Json.Value) : Option Text :=
  match conversion with
  | .shown => some (format.pad (format.cut v.display))
  | .quoted => some (format.pad (format.cut v.displayNested))
  | .escaped => some (format.pad (format.cut v.displayNested.escaped))
  | .character => (character? v).map format.pad
  | .whole => (truncated? v).map fun n => format.whole n [] (digitsIn 10 n)
  | .inBase base mark capital =>
    (wholeNumber? v).map fun n => format.whole n mark (capitalsIf capital (digitsIn base n))
  | .decimal form capital => (double? v).map (format.double form capital)

end Format

end RequestCheck.Journal
