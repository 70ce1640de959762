/-!
# Binary numbers of 53 digits

Offsets are finite binary64 numbers. Such a number is kept as its sign and its exact size, so
that zero has two signs; arithmetic is exact and then rounded to the nearest binary64 number, a
tie to the even neighbour.

This is the arithmetic of the margins in `finish` of `layout/wrap`.
-/

namespace Receipt.Number

/-- The largest `e` with `base ^ e ≤ x`, for positive `x`. -/
def order (base : Nat) (x : Rat) : Int :=
  let e : Int := (Nat.toDigits base x.num.natAbs).length - (Nat.toDigits base x.den).length
  if (base : Rat) ^ e ≤ x then e else e - 1

/-- The distance between binary64 numbers at `x`: 53 binary digits, none of them below the
1074th place. -/
def spacing (x : Rat) : Rat := (2 : Rat) ^ max (order 2 x - 52) (-1074)

/-- The integer nearest to `x`, which is not negative; the even one of two. -/
def roundEven (x : Rat) : Nat :=
  let n := x.floor.toNat
  let part := x - n
  if part < 1 / 2 || (part = 1 / 2 && n % 2 = 0) then n else n + 1

/-- The binary64 number nearest to `x`, which is not negative. -/
def nearest (x : Rat) : Rat := if x = 0 then 0 else roundEven (x / spacing x) * spacing x

/-- Sizes from here on are out of range. -/
def outOfRange : Rat := (2 : Rat) ^ (1024 : Int)

/-- A finite binary64 number. -/
structure Binary where
  negative : Bool
  size : Rat
  deriving DecidableEq, Repr

namespace Binary

def ofNat (n : Nat) : Binary := ⟨false, nearest n⟩

def ofInt (i : Int) : Binary := ⟨decide (i < 0), nearest i.natAbs⟩

/-- Half of `a * n`, both the factor and the product rounded. -/
def half (a : Binary) (n : Nat) : Binary := ⟨a.negative, nearest (nearest (a.size * n) / 2)⟩

end Binary

end Receipt.Number
