import RequestCheck.Json.Value

/-!
# Writing JSON

One line per value, in printable ASCII: items and members are separated by a comma and a space, a
name and its value by a colon and a space. Beyond printable ASCII a string is written in escapes of
UTF-16 units, so a code point above U+FFFF becomes a surrogate pair and a lone surrogate stays one
escape.

    v.write              the line for v, without its end
    writeString s        the quoted form of s
-/

namespace RequestCheck.Json

/-- An escape for one UTF-16 unit: four lower-case hexadecimal digits. -/
def unitEscape (unit : Nat) : Text := "\\u" ++ Text.ofHex 4 unit

/-- A code point between the quotes of a string. -/
def escaped (c : CodePoint) : Text :=
  if c = '"' then "\\\""
  else if c = '\\' then "\\\\"
  else if c = '\n' then "\\n"
  else if c = '\r' then "\\r"
  else if c = '\t' then "\\t"
  else if c.val = 0x0C then "\\f"
  else if c.val = 0x08 then "\\b"
  else if 0x20 ≤ c.val ∧ c.val ≤ 0x7E then [c]
  else if c.val < 0x10000 then unitEscape c.val
  else unitEscape (0xD800 + (c.val - 0x10000) / 0x400) ++
    unitEscape (0xDC00 + (c.val - 0x10000) % 0x400)

def writeString (s : Text) : Text := '"' :: (s.flatMap escaped ++ "\"")

mutual

def Value.write : Value → Text
  | .null => "null"
  | .boolean true => "true"
  | .boolean false => "false"
  | .number numeral => numeral
  | .string s => writeString s
  | .array items => '[' :: (writeItems items ++ "]")
  | .object members => '\x7b' :: (writeMembers members ++ "\x7d")

/-- The items of an array, without the brackets. -/
def writeItems : List Value → Text
  | [] => []
  | [v] => v.write
  | v :: rest => v.write ++ ", " ++ writeItems rest

/-- The members of an object, without the braces. -/
def writeMembers : List (Text × Value) → Text
  | [] => []
  | [(key, v)] => writeString key ++ ": " ++ v.write
  | (key, v) :: rest => writeString key ++ ": " ++ v.write ++ ", " ++ writeMembers rest

end

end RequestCheck.Json
