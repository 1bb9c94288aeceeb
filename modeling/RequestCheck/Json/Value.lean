import RequestCheck.Text.Basic

/-!
# JSON values

A number is kept as the numeral it was written with, so nothing is rounded and `1` and `1.0` stay
apart; `NaN`, `Infinity` and `-Infinity` count as numerals. The members of an object stand in
written order, with repetitions; the last member of a name is the one that counts.

    v.member? k     the last member named k of an object
    v.isTruthy      v is not null, false, zero, or empty
    v.depth         how many arrays and objects stand inside one another in v, v included
-/

namespace RequestCheck.Json

/-- A JSON value; an object keeps all its members in written order. -/
inductive Value where
  | null
  | boolean (value : Bool)
  | number (numeral : Text)
  | string (value : Text)
  | array (items : List Value)
  | object (members : List (Text × Value))
  deriving Inhabited

/-- The value of the last member with this name. -/
def lastNamed (name : Text) : List (Text × Value) → Option Value
  | [] => none
  | (key, value) :: rest =>
    match lastNamed name rest with
    | some later => some later
    | none => if key = name then some value else none

def isExponentMark (c : CodePoint) : Bool := c == 'e' || c == 'E'

/-- A numeral for zero: every digit before the exponent is a zero. -/
def isZeroNumeral (numeral : Text) : Bool :=
  (numeral.takeWhile fun c => !isExponentMark c).all fun c => c == '0' || c == '.' || c == '-'

namespace Value

/-- The last member of an object with this name; no other value has members. -/
def member? (name : Text) : Value → Option Value
  | .object members => lastNamed name members
  | _ => none

/-- Null, false, zero and the empty string, array and object are not truthy; all else is. -/
def isTruthy : Value → Bool
  | .null => false
  | .boolean b => b
  | .number numeral => !isZeroNumeral numeral
  | .string s => !s.isEmpty
  | .array items => !items.isEmpty
  | .object members => !members.isEmpty

mutual

/-- The arrays and objects that stand inside one another, at the deepest place. -/
def depth : Value → Nat
  | .array items => itemDepth items + 1
  | .object members => memberDepth members + 1
  | _ => 0

/-- The greatest depth of the items of an array. -/
def itemDepth : List Value → Nat
  | [] => 0
  | v :: rest => max v.depth (itemDepth rest)

/-- The greatest depth of the members of an object. -/
def memberDepth : List (Text × Value) → Nat
  | [] => 0
  | (_, v) :: rest => max v.depth (memberDepth rest)

end

theorem depth_array_le_iff {items : List Value} {n : Nat} :
    (array items).depth ≤ n ↔ n ≠ 0 ∧ ∀ v ∈ items, v.depth ≤ n - 1 := by
  have hitems : ∀ {k}, itemDepth items ≤ k ↔ ∀ v ∈ items, v.depth ≤ k := by
    intro k
    induction items with
    | nil => simp [itemDepth]
    | cons v rest ih => rw [itemDepth, Nat.max_le, ih, List.forall_mem_cons]
  rw [depth, ← hitems]
  omega

theorem depth_object_le_iff {members : List (Text × Value)} {n : Nat} :
    (object members).depth ≤ n ↔ n ≠ 0 ∧ ∀ m ∈ members, m.2.depth ≤ n - 1 := by
  have hmembers : ∀ {k}, memberDepth members ≤ k ↔ ∀ m ∈ members, m.2.depth ≤ k := by
    intro k
    induction members with
    | nil => simp [memberDepth]
    | cons m rest ih => rw [memberDepth, Nat.max_le, ih, List.forall_mem_cons]
  rw [depth, ← hmembers]
  omega

end Value

end RequestCheck.Json
