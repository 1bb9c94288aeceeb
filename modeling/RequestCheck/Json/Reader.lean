import RequestCheck.Json.Value

/-!
# Reading JSON

A text is read from the left; each reader returns what it has read and the text behind it. White
space is the space, the tab, the line feed and the carriage return. Numbers may be `NaN`,
`Infinity` or `-Infinity`, strings may hold escaped lone surrogates but no raw control characters,
and an integer may have 4300 digits. Arrays and objects may be nested as far as there is room.

    Value.read room t     the value that t writes, or the first fault from the left
-/

namespace RequestCheck.Json

/-- What makes a text something other than JSON. -/
inductive Malformation where
  | byteOrderMark
  | expectedValue
  | expectedName
  | expectedColon
  | expectedComma
  | unterminatedString
  | controlCharacter
  | badEscape
  | badUnitEscape
  | extraData
  deriving DecidableEq

def Malformation.message : Malformation → Text
  | .byteOrderMark => "Unexpected UTF-8 BOM (decode using utf-8-sig)"
  | .expectedValue => "Expecting value"
  | .expectedName => "Expecting property name enclosed in double quotes"
  | .expectedColon => "Expecting ':' delimiter"
  | .expectedComma => "Expecting ',' delimiter"
  | .unterminatedString => "Unterminated string starting at"
  | .controlCharacter => "Invalid control character at"
  | .badEscape => "Invalid \\escape"
  | .badUnitEscape => "Invalid \\uXXXX escape"
  | .extraData => "Extra data"

/-- What can be too much for the reader: an integer of so many digits, or one more array or object
inside others. -/
inductive Excess where
  | integer (digits : Nat)
  | array
  | object
  deriving DecidableEq

/-- Why a text could not be read: it is not JSON, or something in it is too much. -/
inductive Fault where
  | malformed (what : Malformation)
  | excess (what : Excess)
  deriving DecidableEq

/-- White space between tokens. -/
def isSpace (c : CodePoint) : Bool :=
  c.val == 0x20 || c.val == 0x09 || c.val == 0x0A || c.val == 0x0D

/-- The text behind its leading white space. -/
def skipSpace (t : Text) : Text := t.dropWhile isSpace

/-! ## Strings -/

/-- What a letter behind a backslash stands for. -/
def simpleEscape? (c : CodePoint) : Option CodePoint :=
  if c = '"' then some '"'
  else if c = '\\' then some '\\'
  else if c = '/' then some '/'
  else if c = 'b' then some '\x08'
  else if c = 'f' then some '\x0c'
  else if c = 'n' then some '\n'
  else if c = 'r' then some '\r'
  else if c = 't' then some '\t'
  else none

/-- The UTF-16 unit that four hexadecimal digits write. -/
def unit? (a b c d : CodePoint) : Option CodePoint :=
  match Text.hexValue? a, Text.hexValue? b, Text.hexValue? c, Text.hexValue? d with
  | some a, some b, some c, some d =>
    some ⟨((a.val * 16 + b.val) * 16 + c.val) * 16 + d.val, by omega⟩
  | _, _, _, _ => none

/-- The code point of a surrogate pair. -/
def joinSurrogates (high low : CodePoint) : CodePoint :=
  CodePoint.ofNat (0x10000 + (high.val - 0xD800) * 0x400 + (low.val - 0xDC00))

/-- Puts code points in front of the string that a reader found. -/
def pushFront (front : Text) (result : Except Malformation (Text × Text)) :
    Except Malformation (Text × Text) :=
  match result with
  | .error fault => .error fault
  | .ok (s, rest) => .ok (front ++ s, rest)

/-- A string from behind its opening quote. An escaped high surrogate is held back until the next
code point shows whether an escaped low one completes it. -/
def readString (held : Option CodePoint) : Text → Except Malformation (Text × Text)
  | [] => .error .unterminatedString
  | c :: rest =>
    if c = '"' then .ok (held.toList, rest)
    else if c = '\\' then
      match rest with
      | [] => .error .unterminatedString
      | e :: more =>
        if e = 'u' then
          match more with
          | a :: b :: x :: y :: tail =>
            if tail.isEmpty then .error .badUnitEscape
            else match unit? a b x y, held with
              | none, _ => .error .badUnitEscape
              | some unit, some high =>
                if unit.isLowSurrogate then
                  pushFront [joinSurrogates high unit] (readString none tail)
                else if unit.isHighSurrogate then pushFront [high] (readString (some unit) tail)
                else pushFront [high, unit] (readString none tail)
              | some unit, none =>
                if unit.isHighSurrogate then readString (some unit) tail
                else pushFront [unit] (readString none tail)
          | _ => .error .badUnitEscape
        else match simpleEscape? e with
          | none => .error .badEscape
          | some point => pushFront (held.toList ++ [point]) (readString none more)
    else if c.val ≤ 0x1F then .error .controlCharacter
    else pushFront (held.toList ++ [c]) (readString none rest)

/-! ## Numbers and words -/

def spanDigits (t : Text) : Text × Text :=
  (t.takeWhile Text.isDecimalDigit, t.dropWhile Text.isDecimalDigit)

def startsWithDigit (t : Text) : Bool := t.head?.any Text.isDecimalDigit

/-- The digits of an integer: a zero alone, or a run that does not start with one. -/
def readInteger? : Text → Option (Text × Text)
  | [] => none
  | c :: rest =>
    if c = '0' then some ([c], rest)
    else if Text.isDecimalDigit c then some (spanDigits (c :: rest))
    else none

/-- A point with digits behind it, or nothing. -/
def readFraction : Text → Text × Text
  | [] => ([], [])
  | c :: rest =>
    if c = '.' ∧ startsWithDigit rest then (c :: (spanDigits rest).1, (spanDigits rest).2)
    else ([], c :: rest)

/-- An exponent mark, a sign if there is one, and digits; or nothing. -/
def readExponent : Text → Text × Text
  | [] => ([], [])
  | c :: rest =>
    if c = 'e' ∨ c = 'E' then
      match rest with
      | [] => ([], [c])
      | s :: more =>
        if s = '+' ∨ s = '-' then
          if startsWithDigit more then (c :: s :: (spanDigits more).1, (spanDigits more).2)
          else ([], c :: rest)
        else if Text.isDecimalDigit s then (c :: (spanDigits rest).1, (spanDigits rest).2)
        else ([], c :: rest)
    else ([], c :: rest)

/-- A numeral: sign, integer digits, fraction, exponent. -/
def readNumeral (sign t : Text) : Except Fault (Value × Text) :=
  match readInteger? t with
  | none => .error (.malformed .expectedValue)
  | some (digits, rest) =>
    let (fraction, rest') := readFraction rest
    let (exponent, rest'') := readExponent rest'
    if fraction.isEmpty && exponent.isEmpty && Text.maxIntegerDigits < digits.length then
      .error (.excess (.integer digits.length))
    else .ok (.number (sign ++ digits ++ fraction ++ exponent), rest'')

/-- The text behind a word that it starts with. -/
def behind? (word t : Text) : Option Text :=
  if word.isPrefixOf t then some (t.drop word.length) else none

def words : List (Text × Value) :=
  [("null", .null), ("true", .boolean true), ("false", .boolean false), ("NaN", .number "NaN"),
    ("Infinity", .number "Infinity"), ("-Infinity", .number "-Infinity")]

/-- The value of the word that a text starts with. -/
def readWord? (t : Text) : List (Text × Value) → Option (Value × Text)
  | [] => none
  | (word, value) :: rest =>
    match behind? word t with
    | some more => some (value, more)
    | none => readWord? t rest

def readAtom (t : Text) : Except Fault (Value × Text) :=
  match readWord? t words with
  | some found => .ok found
  | none =>
    match t with
    | [] => .error (.malformed .expectedValue)
    | c :: rest =>
      if c = '-' then readNumeral [c] rest else readNumeral [] (c :: rest)

/-! ## Values -/

def readName (t : Text) : Except Fault (Text × Text) :=
  match t with
  | [] => .error (.malformed .expectedName)
  | c :: rest =>
    if c = '"' then
      match readString none rest with
      | .error fault => .error (.malformed fault)
      | .ok (key, more) =>
        match skipSpace more with
        | [] => .error (.malformed .expectedColon)
        | d :: tail =>
          if d = ':' then .ok (key, tail) else .error (.malformed .expectedColon)
    else .error (.malformed .expectedName)

/-- What stands behind an item: the closing bracket, or a comma. -/
inductive Separator where
  | closing
  | comma

/-- Reads the closing bracket or the comma behind an item, with the white space in front. -/
def readSeparator (bracket : CodePoint) (t : Text) : Except Fault (Separator × Text) :=
  match skipSpace t with
  | [] => .error (.malformed .expectedComma)
  | c :: rest =>
    if c = bracket then .ok (.closing, rest)
    else if c = ',' then .ok (.comma, rest)
    else .error (.malformed .expectedComma)

mutual

/-- A value at the start of a text. The room is for the arrays and objects that may be open at the
same time. The bound is on the depth of the calls; twice the length of the text is always enough,
because every second call starts further on in the text. -/
def readValue (room : Nat) : Nat → Text → Except Fault (Value × Text)
  | 0, _ => .error (.malformed .expectedValue)
  | bound + 1, t =>
    match t with
    | [] => .error (.malformed .expectedValue)
    | c :: rest =>
      if c = '"' then
        match readString none rest with
        | .error fault => .error (.malformed fault)
        | .ok (s, more) => .ok (.string s, more)
      else if c = '[' then
        if room = 0 then .error (.excess .array)
        else match skipSpace rest with
        | [] => .error (.malformed .expectedValue)
        | d :: more =>
          if d = ']' then .ok (.array [], more)
          else match readItems (room - 1) bound (d :: more) with
            | .error fault => .error fault
            | .ok (items, tail) => .ok (.array items, tail)
      else if c = '\x7b' then
        if room = 0 then .error (.excess .object)
        else match skipSpace rest with
        | [] => .error (.malformed .expectedName)
        | d :: more =>
          if d = '\x7d' then .ok (.object [], more)
          else match readMembers (room - 1) bound (d :: more) with
            | .error fault => .error fault
            | .ok (members, tail) => .ok (.object members, tail)
      else readAtom (c :: rest)

/-- The items of an array that is not empty, with its closing bracket. -/
def readItems (room : Nat) : Nat → Text → Except Fault (List Value × Text)
  | 0, _ => .error (.malformed .expectedValue)
  | bound + 1, t =>
    match readValue room bound t with
    | .error fault => .error fault
    | .ok (v, more) =>
      match readSeparator ']' more with
      | .error fault => .error fault
      | .ok (.closing, tail) => .ok ([v], tail)
      | .ok (.comma, tail) =>
        match readItems room bound (skipSpace tail) with
        | .error fault => .error fault
        | .ok (items, tail') => .ok (v :: items, tail')

/-- The members of an object that is not empty, with its closing brace. -/
def readMembers (room : Nat) : Nat → Text → Except Fault (List (Text × Value) × Text)
  | 0, _ => .error (.malformed .expectedValue)
  | bound + 1, t =>
    match readName t with
    | .error fault => .error fault
    | .ok (key, colonRest) =>
      match readValue room bound (skipSpace colonRest) with
      | .error fault => .error fault
      | .ok (v, more) =>
        match readSeparator '\x7d' more with
        | .error fault => .error fault
        | .ok (.closing, tail) => .ok ([(key, v)], tail)
        | .ok (.comma, tail) =>
          match readMembers room bound (skipSpace tail) with
          | .error fault => .error fault
          | .ok (members, tail') => .ok ((key, v) :: members, tail')

end

def byteOrderMark : CodePoint := '\uFEFF'

/-- The value that a text writes, with nothing but white space around it. -/
def Value.read (room : Nat) (t : Text) : Except Fault Value :=
  if t.head? = some byteOrderMark then .error (.malformed .byteOrderMark)
  else match readValue room (2 * t.length + 1) (skipSpace t) with
    | .error fault => .error fault
    | .ok (v, rest) =>
      if (skipSpace rest).isEmpty then .ok v else .error (.malformed .extraData)

end RequestCheck.Json
