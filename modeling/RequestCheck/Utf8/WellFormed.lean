import RequestCheck.Utf8

/-!
# Well-formed octets

Which octets are UTF-8, and what becomes of those that are not, without a word on how they are read.
The octets of a code point have one of nine forms, each a range for every octet. What stands where no
such octets stand is a bad part: the longest start of a form that is there, or else one octet alone.

    IsSequence s       s are the octets of a code point, by their form
    WellFormed b       b is made of such sequences
    IsBad part rest    part is the bad part in front of rest
    Repairs b t        t is b with a replacement character for each bad part
-/

namespace RequestCheck.Utf8

structure Range where
  low : UInt8
  high : UInt8
  deriving DecidableEq

/-- A range for each of some octets. -/
abbrev Form := List Range

/-- The octets that continue a code point. -/
def continuation : Range := ⟨0x80, 0xBF⟩

/-- The forms that the octets of a code point have. The second range is narrower where the full one
would give overlong octets, surrogates, or numbers above U+10FFFF. -/
def forms : List Form :=
  [[⟨0x00, 0x7F⟩],
   [⟨0xC2, 0xDF⟩, continuation],
   [⟨0xE0, 0xE0⟩, ⟨0xA0, 0xBF⟩, continuation],
   [⟨0xE1, 0xEC⟩, continuation, continuation],
   [⟨0xED, 0xED⟩, ⟨0x80, 0x9F⟩, continuation],
   [⟨0xEE, 0xEF⟩, continuation, continuation],
   [⟨0xF0, 0xF0⟩, ⟨0x90, 0xBF⟩, continuation, continuation],
   [⟨0xF1, 0xF3⟩, continuation, continuation, continuation],
   [⟨0xF4, 0xF4⟩, ⟨0x80, 0x8F⟩, continuation, continuation]]

/-- There are as many octets as ranges, and each lies in its own. -/
def Fits : Form → Octets → Prop
  | [], [] => True
  | range :: form, b :: rest => (range.low ≤ b ∧ b ≤ range.high) ∧ Fits form rest
  | [], _ :: _ => False
  | _ :: _, [] => False

def IsSequence (s : Octets) : Prop := ∃ form ∈ forms, Fits form s

/-- Octets made of those of code points. -/
inductive WellFormed : Octets → Prop where
  | nil : WellFormed []
  | append {s rest : Octets} (hs : IsSequence s) (h : WellFormed rest) : WellFormed (s ++ rest)

/-! ## Bad parts -/

/-- The start of the octets of a code point, or all of them. -/
def IsStart (part : Octets) : Prop := part ≠ [] ∧ ∃ tail, IsSequence (part ++ tail)

/-- The bad part that stands in front of the rest: no octets of a code point stand there, and the part
is the longest start of some, or a single octet. -/
structure IsBad (part rest : Octets) : Prop where
  noSequence : ∀ s, IsSequence s → ¬ s <+: part ++ rest
  isStart : IsStart part ∨ ∃ b, part = [b]
  longest : ∀ longer, longer <+: part ++ rest → part.length < longer.length → ¬ IsStart longer

/-- Why a part is bad: it starts nothing, or the octets end behind it, or the next one does not go on
with it. -/
def Fault.Tells (part rest : Octets) : Fault → Prop
  | .badStart => ¬ IsStart part
  | .endOfData => IsStart part ∧ rest = []
  | .badContinuation => IsStart part ∧ rest ≠ []

/-- The text of octets in which each bad part is shown as one replacement character. -/
inductive Repairs : Octets → Text → Prop where
  | nil : Repairs [] []
  | point {rest : Octets} {c : CodePoint} {t : Text} (hc : c.isSurrogate = false)
      (h : Repairs rest t) : Repairs (encodePoint c ++ rest) (c :: t)
  | bad {part rest : Octets} {t : Text} (hpart : IsBad part rest) (h : Repairs rest t) :
      Repairs (part ++ rest) (CodePoint.replacement :: t)

end RequestCheck.Utf8
