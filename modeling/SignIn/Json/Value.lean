import SignIn.Number.Shortest

/-!
# JSON values

A value keeps the members of an object in the order in which their names first
occurred, each name once; a repeated name has the value given last.

## Main definitions

* `Value` — the values, with whole numbers apart from floating-point ones.
* `put` — setting a member.
* `Value.get?` — the value of a member of an object.
-/

namespace SignIn.Json

open SignIn.Number

/-- A number: whole as long as it fits 64 bits, else a double. -/
inductive Numeral where
  /-- A number written without fraction and exponent. -/
  | integer (n : Int)
  /-- Any other number. -/
  | float (x : Binary64)
  deriving DecidableEq, Repr, Inhabited

/-- A JSON value. -/
inductive Value where
  /-- The value `null`. -/
  | null
  /-- A truth value. -/
  | bool (b : Bool)
  /-- A number. -/
  | number (n : Numeral)
  /-- A text. -/
  | string (s : String)
  /-- A list of values. -/
  | array (items : List Value)
  /-- Named members. -/
  | object (members : List (String × Value))
  deriving Repr, Inhabited

/-- Sets a member: a new name goes to the end, a known one keeps its place. -/
def put {α : Type} (name : String) (v : α) : List (String × α) → List (String × α)
  | [] => [(name, v)]
  | (n, w) :: rest => if n = name then (n, v) :: rest else (n, w) :: put name v rest

namespace Value

/-- A whole number as a value. -/
def ofNat (n : Nat) : Value := .number (.integer n)

/-- A text, or `null` for none. -/
def ofOption : Option String → Value
  | none => .null
  | some s => .string s

/-- The value of a member; `none` when there is none or the value is no object. -/
def get? (name : String) : Value → Option Value
  | .object ms => ms.lookup name
  | _ => none

end Value

end SignIn.Json
