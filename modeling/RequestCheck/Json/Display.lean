import RequestCheck.Json.Value
import RequestCheck.Text.Quoted

/-!
# Showing JSON values in messages

In a message a string stands for itself, the words are `None`, `True` and `False`, and strings
inside an array or an object are quoted. A number is shown as its numeral, apart from the four that
have no digits or a sign without effect.

    v.display     the text for v
-/

namespace RequestCheck.Json

def displayNumeral (numeral : Text) : Text :=
  if numeral = "-0" then "0"
  else if numeral = "NaN" then "nan"
  else if numeral = "Infinity" then "inf"
  else if numeral = "-Infinity" then "-inf"
  else numeral

mutual

/-- The text for a value inside another one. -/
def Value.displayNested : Value → Text
  | .null => "None"
  | .boolean true => "True"
  | .boolean false => "False"
  | .number numeral => displayNumeral numeral
  | .string s => s.quoted
  | .array items => '[' :: (displayItems items ++ "]")
  | .object members => '\x7b' :: (displayMembers members ++ "\x7d")

def displayItems : List Value → Text
  | [] => []
  | [v] => v.displayNested
  | v :: rest => v.displayNested ++ ", " ++ displayItems rest

def displayMembers : List (Text × Value) → Text
  | [] => []
  | [(key, v)] => key.quoted ++ ": " ++ v.displayNested
  | (key, v) :: rest => key.quoted ++ ": " ++ v.displayNested ++ ", " ++ displayMembers rest

end

def Value.display : Value → Text
  | .string s => s
  | v => v.displayNested

end RequestCheck.Json
