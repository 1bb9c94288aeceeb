import RequestCheck.Text.Basic

/-!
# UTF-8

Octets are read by a machine that is either between two code points or within one. The lead octet
fixes how many octets follow and the range of the first of them, so overlong forms, surrogates and
numbers above U+10FFFF never complete. An octet that does not continue a code point ends a bad
part, the longest start of a code point that was there, and is read again as a lead octet.

    scan b            the code points and bad parts of b, in order
    decode b          the text of b, or where its first bad part lies
    decodeLossy b     the text of b with one U+FFFD for each bad part
    decodeChunks n b  the text of b as far as it is known before the chunk with the first bad part
    encode t          the octets of t, or where its first surrogates lie
    fileOctets t      the octets that t stands for as the name of a file
-/

namespace RequestCheck

/-- The content of a file or of a line. -/
abbrev Octets := List UInt8

namespace Utf8

/-- Why a part of the octets is bad. -/
inductive Fault where
  | badStart
  | badContinuation
  | endOfData
  deriving DecidableEq

def Fault.reason : Fault → Text
  | .badStart => "invalid start byte"
  | .badContinuation => "invalid continuation byte"
  | .endOfData => "unexpected end of data"

/-- What a stretch of octets holds: a code point, or so many octets that are none. -/
inductive Piece where
  | point (c : CodePoint)
  | bad (size : Nat) (fault : Fault)
  deriving DecidableEq

/-- How far the machine is: within a code point it knows how many octets are missing, the range of
the next one, the bits so far and how many octets it has taken. -/
inductive State where
  | between
  | within (missing : Nat) (low high : UInt8) (bits taken : Nat)
  deriving DecidableEq

/-! ## Decoding -/

/-- The state behind a lead octet of a longer code point. -/
def lead? (b : UInt8) : Option State :=
  if 0xC2 ≤ b ∧ b ≤ 0xDF then some (.within 1 0x80 0xBF (b.toNat - 0xC0) 1)
  else if b = 0xE0 then some (.within 2 0xA0 0xBF 0 1)
  else if b = 0xED then some (.within 2 0x80 0x9F 0xD 1)
  else if 0xE1 ≤ b ∧ b ≤ 0xEF then some (.within 2 0x80 0xBF (b.toNat - 0xE0) 1)
  else if b = 0xF0 then some (.within 3 0x90 0xBF 0 1)
  else if 0xF1 ≤ b ∧ b ≤ 0xF3 then some (.within 3 0x80 0xBF (b.toNat - 0xF0) 1)
  else if b = 0xF4 then some (.within 3 0x80 0x8F 4 1)
  else none

/-- Reads an octet between two code points: the next state, and what is complete. -/
def start (b : UInt8) : State × List Piece :=
  if b < 0x80 then (.between, [.point (CodePoint.ofNat b.toNat)])
  else match lead? b with
    | some state => (state, [])
    | none => (.between, [.bad 1 .badStart])

/-- Reads an octet: the next state, and what is complete with it, the latest first. -/
def step : State → UInt8 → State × List Piece
  | .between, b => start b
  | .within missing low high bits taken, b =>
    if low ≤ b ∧ b ≤ high then
      let bits' := bits * 64 + (b.toNat - 0x80)
      if missing ≤ 1 then (.between, [.point (CodePoint.ofNat bits')])
      else (.within (missing - 1) 0x80 0xBF bits' (taken + 1), [])
    else ((start b).1, (start b).2 ++ [.bad taken .badContinuation])

/-- Reads octets from a state: the state behind them and the pieces, the latest first. -/
def run (state : State) (done : List Piece) : Octets → State × List Piece
  | [] => (state, done)
  | b :: rest => run (step state b).1 ((step state b).2 ++ done) rest

/-- The piece that the end of the octets cuts off. -/
def cutOff : State → List Piece
  | .between => []
  | .within _ _ _ _ taken => [.bad taken .endOfData]

/-- The pieces of the octets, in order. -/
def scan (b : Octets) : List Piece :=
  let (state, done) := run .between [] b
  (cutOff state ++ done).reverse

/-- The octets of a code point; a surrogate gets the three that its number would have. -/
def encodePoint (c : CodePoint) : Octets :=
  if c.val < 0x80 then [c.val.toUInt8]
  else if c.val < 0x800 then [(0xC0 + c.val / 64).toUInt8, (0x80 + c.val % 64).toUInt8]
  else if c.val < 0x10000 then
    [(0xE0 + c.val / 4096).toUInt8, (0x80 + c.val / 64 % 64).toUInt8, (0x80 + c.val % 64).toUInt8]
  else
    [(0xF0 + c.val / 262144).toUInt8, (0x80 + c.val / 4096 % 64).toUInt8,
      (0x80 + c.val / 64 % 64).toUInt8, (0x80 + c.val % 64).toUInt8]

/-- The code point of a piece, or the replacement character. -/
def Piece.shown : Piece → CodePoint
  | .point c => c
  | .bad _ _ => .replacement

/-- A bad part of some octets: where it starts, its own octets, and why it is bad. -/
structure DecodeError where
  position : Nat
  part : Octets
  fault : Fault
  deriving DecidableEq

/-- The position, size and fault of the first bad piece. -/
def firstBad (position : Nat) : List Piece → Option (Nat × Nat × Fault)
  | [] => none
  | .bad size fault :: _ => some (position, size, fault)
  | .point c :: rest => firstBad (position + (encodePoint c).length) rest

/-- The first bad part among the pieces of some octets. -/
def errorIn (b : Octets) (pieces : List Piece) : Option DecodeError :=
  (firstBad 0 pieces).map fun (position, size, fault) =>
    { position, part := (b.drop position).take size, fault }

/-- The text of the octets, or their first bad part. -/
def decode (b : Octets) : Except DecodeError Text :=
  match errorIn b (scan b) with
  | some error => .error error
  | none => .ok ((scan b).map Piece.shown)

/-- The text of the octets, with a replacement character for each bad part. -/
def decodeLossy (b : Octets) : Text := (scan b).map Piece.shown

def DecodeError.message (e : DecodeError) : Text :=
  match e.part with
  | [b] =>
    "'utf-8' codec can't decode byte 0x" ++ Text.ofHex 2 b.toNat ++
      " in position " ++ Text.ofNat e.position ++ ": " ++ e.fault.reason
  | part =>
    "'utf-8' codec can't decode bytes in position " ++ Text.ofNat e.position ++
      "-" ++ Text.ofNat (e.position + part.length - 1) ++ ": " ++ e.fault.reason

/-! ## Decoding in chunks -/

def State.taken : State → Nat
  | .between => 0
  | .within _ _ _ _ taken => taken

/-- Where the octets stop that are decoded before those that show an error, if they come in chunks
of a size: at the start of the chunk with the octet that shows it, or at the end. -/
def DecodeError.boundary (e : DecodeError) (size total : Nat) : Nat :=
  match e.fault with
  | .badStart => e.position / size * size
  | .badContinuation => (e.position + e.part.length) / size * size
  | .endOfData => total

/-- The text of octets that come in chunks of a size, up to the chunk that shows the first error.
The position of the error counts from the start of what that chunk is decoded with: the octets of
a code point that the chunk before it left over, and the chunk. -/
def decodeChunks (size : Nat) (b : Octets) : Text × Option DecodeError :=
  match errorIn b (scan b) with
  | none => ((scan b).map Piece.shown, none)
  | some e =>
    let boundary := e.boundary size b.length
    let (state, done) := run .between [] (b.take boundary)
    (done.reverse.map Piece.shown,
      some { e with position := e.position - (boundary - state.taken) })

/-! ## Encoding -/

/-- The first run of surrogates in a text. -/
structure EncodeError where
  position : Nat
  first : CodePoint
  count : Nat
  deriving DecidableEq

/-- The first surrogate that cannot be encoded, with the surrogates that follow it, if there is one. -/
def firstBadSurrogates (bad : CodePoint → Bool) (t : Text) : Option EncodeError :=
  match t.dropWhile fun c => !bad c with
  | [] => none
  | c :: rest =>
    some { position := (t.takeWhile fun c => !bad c).length, first := c,
           count := ((c :: rest).takeWhile CodePoint.isSurrogate).length }

/-- The first run of surrogates, if there is one. -/
def firstSurrogates (t : Text) : Option EncodeError := firstBadSurrogates CodePoint.isSurrogate t

/-- The octets of a text, or its first surrogates. -/
def encode (t : Text) : Except EncodeError Octets :=
  match firstSurrogates t with
  | some error => .error error
  | none => .ok (t.flatMap encodePoint)

/-- The text with every surrogate written as a backslash escape, as on a terminal that shows what
it cannot encode. -/
def showSurrogates (t : Text) : Text :=
  t.flatMap fun c => if c.isSurrogate then "\\u" ++ Text.ofHex 4 c.val else [c]

def EncodeError.message (e : EncodeError) : Text :=
  if e.count ≤ 1 then
    "'utf-8' codec can't encode character '\\u" ++ Text.ofHex 4 e.first.val ++
      "' in position " ++ Text.ofNat e.position ++ ": surrogates not allowed"
  else
    "'utf-8' codec can't encode characters in position " ++ Text.ofNat e.position ++
      "-" ++ Text.ofNat (e.position + e.count - 1) ++ ": surrogates not allowed"

/-! ## Names of files -/

/-- A surrogate that stands for an octet from 80 on, for one that is no part of a code point. -/
def isStray (c : CodePoint) : Bool := 0xDC80 ≤ c.val && c.val ≤ 0xDCFF

/-- A surrogate that no file can have in its name. -/
def isUnnameable (c : CodePoint) : Bool := c.isSurrogate && !isStray c

/-- The octets of a code point in the name of a file. -/
def filePoint (c : CodePoint) : Octets :=
  if isStray c then [(c.val - 0xDC00).toUInt8] else encodePoint c

def fileOctets (t : Text) : Octets := t.flatMap filePoint

/-- The text of octets that hold some pieces; each octet of a bad one has a surrogate of its own. -/
def strayText : Octets → List Piece → Text
  | _, [] => []
  | b, .point c :: rest => c :: strayText (b.drop (encodePoint c).length) rest
  | b, .bad size _ :: rest =>
    (b.take size).map (fun octet => CodePoint.ofNat (0xDC00 + octet.toNat)) ++
      strayText (b.drop size) rest

/-- The text by which the name of a file goes. The same octets may have been written in another way,
if some of them stand for themselves. -/
def fileName (t : Text) : Text :=
  if t.any isStray then strayText (fileOctets t) (scan (fileOctets t)) else t

end Utf8

end RequestCheck
