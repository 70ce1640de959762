import Receipt.Number.Decimal

/-!
# JSON values

A value keeps what its text says: the members of an object in order, repeated names included, and
whether a number is written as an integer. Text that is well formed may still name something that
does not exist, half of a surrogate pair or a number out of range; such a part is `none`. It can
be skipped but not used.

Values are those of `serde_json`, before a type is asked for.
-/

namespace Receipt

namespace Json

inductive Numeral where
  /-- An integer of 64 bits, signed or unsigned -/
  | integer (i : Int)
  | real (x : Option Number.Binary)
  deriving DecidableEq, Repr

end Json

inductive Json where
  | null
  | bool (b : Bool)
  | numeral (n : Json.Numeral)
  | text (s : Option (List Char))
  | array (items : List Json)
  | object (members : List (Option (List Char) × Json))

namespace Json

def nat (n : Nat) : Json := .numeral (.integer n)

def int (i : Int) : Json := .numeral (.integer i)

def real (x : Number.Binary) : Json := .numeral (.real (some x))

def string (s : List Char) : Json := .text (some s)

/-- An object with these members. -/
def record (members : List (String × Json)) : Json :=
  .object (members.map fun (name, value) => (some name.toList, value))

/-- A list of values. -/
def list {α : Type} (f : α → Json) (xs : List α) : Json := .array (xs.map f)

/-- A value that may be absent. -/
def maybe {α : Type} (f : α → Json) : Option α → Json
  | none => .null
  | some a => f a

end Json

end Receipt
