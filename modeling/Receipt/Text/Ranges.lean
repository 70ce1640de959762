/-!
# Ranges of code points

The tables of Unicode properties are lists of ranges; a character has the property when one of
them covers it.
-/

namespace Receipt.Text

/-- First and last code points of the characters of a table. -/
abbrev Ranges := List (Nat × Nat)

/-- Whether the table covers `c`. -/
def Ranges.has (t : Ranges) (c : Char) : Bool :=
  t.any fun (first, last) => first ≤ c.toNat && c.toNat ≤ last

end Receipt.Text
