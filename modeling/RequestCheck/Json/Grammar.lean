import RequestCheck.Json.Reader

/-!
# The grammar of JSON

Which texts are JSON, and which value each of them writes, without a word on how they are read. White
space may stand around every value, name, comma and colon. What goes beyond the standard: the words
`NaN`, `Infinity` and `-Infinity` are values, and a string may hold an escape of a lone surrogate. What
falls short of it: an integer has at most 4300 digits. A text that starts to write a value overruns
where it comes to an integer with more, or to an array or object for which there is no room.

    Spells b s           b, between quotes, writes the string s
    IsNumeral t          t is a numeral
    Writes t v           t, from its first code point to its last one, writes the value v
    IsText t v           so does t, with white space around it
    Overruns room t x    t starts to write a value, and comes to x, which is too much
    IsOverrun room t x   so does t, with white space in front
-/

namespace RequestCheck.Json

/-- Nothing but white space. -/
def IsBlank (t : Text) : Prop := ∀ c ∈ t, isSpace c = true

/-! ## Strings -/

/-- An escape of four hexadecimal digits, and the UTF-16 unit that they write. -/
def IsUnitEscape (e : Text) (unit : CodePoint) : Prop :=
  ∃ a b c d, e = (['\\', 'u', a, b, c, d] : Text) ∧ unit? a b c d = some unit

/-- The text starts with an escape of a low surrogate. -/
def StartsLow (t : Text) : Prop :=
  ∃ e low rest, IsUnitEscape e low ∧ low.isLowSurrogate = true ∧ t = e ++ rest

/-- What stands between the quotes of a string. A code point from the space on may stand for itself,
if it is neither quote nor backslash. The escapes of a high surrogate and of a low one behind it
write one code point together; every other escape writes a code point of its own. -/
inductive Spells : Text → Text → Prop where
  | nil : Spells [] []
  | plain {c : CodePoint} {b s : Text} (hquote : c ≠ '"') (hslash : c ≠ '\\')
      (hmin : 0x20 ≤ c.val) (h : Spells b s) : Spells (c :: b) (c :: s)
  | letter {letter c : CodePoint} {b s : Text} (hletter : simpleEscape? letter = some c)
      (h : Spells b s) : Spells ('\\' :: letter :: b) (c :: s)
  | pair {e e' : Text} {high low : CodePoint} {b s : Text} (he : IsUnitEscape e high)
      (hhigh : high.isHighSurrogate = true) (he' : IsUnitEscape e' low)
      (hlow : low.isLowSurrogate = true) (h : Spells b s) :
      Spells (e ++ (e' ++ b)) (joinSurrogates high low :: s)
  | unit {e : Text} {c : CodePoint} {b s : Text} (he : IsUnitEscape e c)
      (hsingle : c.isHighSurrogate = true → ¬ StartsLow b) (h : Spells b s) :
      Spells (e ++ b) (c :: s)

/-! ## Numerals -/

def IsDigits (t : Text) : Prop := t ≠ [] ∧ ∀ c ∈ t, Text.isDecimalDigit c = true

/-- A zero alone, or digits that do not start with one. -/
def IsInteger (t : Text) : Prop := t = "0" ∨ IsDigits t ∧ t.head? ≠ some '0'

/-- Nothing, or a point with digits behind it. -/
def IsFraction (t : Text) : Prop := t = [] ∨ ∃ digits : Text, IsDigits digits ∧ t = "." ++ digits

/-- Nothing, or an exponent mark with digits behind it, and a sign between them if there is one. -/
def IsExponent (t : Text) : Prop :=
  t = [] ∨ ∃ mark sign digits : Text, (mark = "e" ∨ mark = "E") ∧
    (sign = [] ∨ sign = "+" ∨ sign = "-") ∧ IsDigits digits ∧ t = mark ++ sign ++ digits

/-- A numeral: a minus sign if there is one, an integer, a fraction and an exponent. With neither of
the last two it is an integer, and has at most 4300 digits. -/
def IsNumeral (t : Text) : Prop :=
  ∃ sign digits fraction exponent : Text, (sign = [] ∨ sign = "-") ∧ IsInteger digits ∧
    IsFraction fraction ∧ IsExponent exponent ∧
    (fraction = [] → exponent = [] → digits.length ≤ Text.maxIntegerDigits) ∧
    t = sign ++ digits ++ fraction ++ exponent

/-! ## Values -/

/-- An element: a text for a value, and what stands around it. -/
structure Element where
  before : Text
  text : Text
  after : Text
  value : Value

namespace Element

def written (e : Element) : Text := e.before ++ e.text ++ e.after

/-- White space stands around the text. -/
def IsSpaced (e : Element) : Prop := IsBlank e.before ∧ IsBlank e.after

end Element

/-- A member: a name, how it is spelled between its quotes, what stands around them, and behind a
colon an element. -/
structure Member where
  before : Text
  spelling : Text
  after : Text
  name : Text
  element : Element

namespace Member

def written (m : Member) : Text :=
  m.before ++ "\"" ++ m.spelling ++ "\"" ++ m.after ++ ":" ++ m.element.written

/-- White space stands around the name and around the value. -/
def IsSpaced (m : Member) : Prop := IsBlank m.before ∧ IsBlank m.after ∧ m.element.IsSpaced

def entry (m : Member) : Text × Value := (m.name, m.element.value)

end Member

/-- The text of a value, with no white space around it. -/
inductive Writes : Text → Value → Prop where
  | word {word : Text} {v : Value} (h : (word, v) ∈ words) : Writes word v
  | numeral {t : Text} (h : IsNumeral t) : Writes t (.number t)
  | string {b s : Text} (h : Spells b s) : Writes ("\"" ++ b ++ "\"") (.string s)
  | emptyArray {blank : Text} (h : IsBlank blank) : Writes ("[" ++ blank ++ "]") (.array [])
  | array {elements : List Element} (hne : elements ≠ [])
      (hspaced : ∀ e ∈ elements, e.IsSpaced) (h : ∀ e ∈ elements, Writes e.text e.value) :
      Writes ("[" ++ Text.joinWith "," (elements.map Element.written) ++ "]")
        (.array (elements.map Element.value))
  | emptyObject {blank : Text} (h : IsBlank blank) :
      Writes ("\x7b" ++ blank ++ "\x7d") (.object [])
  | object {members : List Member} (hne : members ≠ []) (hspaced : ∀ m ∈ members, m.IsSpaced)
      (hnames : ∀ m ∈ members, Spells m.spelling m.name)
      (h : ∀ m ∈ members, Writes m.element.text m.element.value) :
      Writes ("\x7b" ++ Text.joinWith "," (members.map Member.written) ++ "\x7d")
        (.object (members.map Member.entry))

/-- The text of a value, with white space around it. -/
def IsText (t : Text) (v : Value) : Prop :=
  ∃ before text after, IsBlank before ∧ Writes text v ∧ IsBlank after ∧
    t = before ++ text ++ after

/-! ## What is too much -/

/-- Nothing goes on with an integer: no digit, no fraction and no exponent. -/
structure EndsInteger (t : Text) : Prop where
  digit : ∀ c ∈ t.head?, Text.isDecimalDigit c = false
  fraction : ∀ part rest, IsFraction part → t = part ++ rest → part = []
  exponent : ∀ part rest, IsExponent part → t = part ++ rest → part = []

/-- A name with its colon, and white space around both. -/
def IsLabel (t : Text) : Prop :=
  ∃ before spelling name after front, IsBlank before ∧ Spells spelling name ∧ IsBlank after ∧
    IsBlank front ∧ t = before ++ "\"" ++ spelling ++ "\"" ++ after ++ ":" ++ front

/-- Texts with a comma behind each of them. -/
def withCommas (texts : List Text) : Text := texts.flatMap fun t => (t ++ "," : Text)

/-- The text starts to write a value and comes to something that is too much: an integer with too
many digits, or the opening bracket of an array or object for which no room is left. Everything in
front of it is complete and has room, and open are only the brackets around it; what stands behind
it is of no account. -/
inductive Overruns : Nat → Text → Excess → Prop where
  | integer {room : Nat} {sign digits rest : Text} (hsign : sign = [] ∨ sign = "-")
      (hdigits : IsDigits digits) (hzero : digits.head? ≠ some '0')
      (hlong : Text.maxIntegerDigits < digits.length) (hrest : EndsInteger rest) :
      Overruns room (sign ++ digits ++ rest) (.integer digits.length)
  | deepArray (rest : Text) : Overruns 0 ("[" ++ rest) .array
  | deepObject (rest : Text) : Overruns 0 ("\x7b" ++ rest) .object
  | array {room : Nat} {elements : List Element} {blank rest : Text} {what : Excess}
      (hspaced : ∀ e ∈ elements, e.IsSpaced) (h : ∀ e ∈ elements, Writes e.text e.value)
      (hdepth : ∀ e ∈ elements, e.value.depth ≤ room) (hblank : IsBlank blank)
      (hrest : Overruns room rest what) :
      Overruns (room + 1) ("[" ++ (withCommas (elements.map Element.written) ++ (blank ++ rest)))
        what
  | object {room : Nat} {members : List Member} {label rest : Text} {what : Excess}
      (hspaced : ∀ m ∈ members, m.IsSpaced) (hnames : ∀ m ∈ members, Spells m.spelling m.name)
      (h : ∀ m ∈ members, Writes m.element.text m.element.value)
      (hdepth : ∀ m ∈ members, m.element.value.depth ≤ room) (hlabel : IsLabel label)
      (hrest : Overruns room rest what) :
      Overruns (room + 1)
        ("\x7b" ++ (withCommas (members.map Member.written) ++ (label ++ rest))) what

/-- The text does so behind white space. -/
def IsOverrun (room : Nat) (t : Text) (what : Excess) : Prop :=
  ∃ blank rest, IsBlank blank ∧ Overruns room rest what ∧ t = blank ++ rest

end RequestCheck.Json
