import Receipt.Number.Binary

/-!
# Shortest decimals

A binary64 number is written with the fewest decimal digits that read back as the same number, and
among those with the digits nearest to it. What is up to the reader's taste is a `Style`: where
the point goes, when an exponent is used, which of two digits equally near is taken.

Styles are chosen where numbers are shown: by `Op::fmt` of `ir/ops`, and by the writer of
`serde_json`.
-/

namespace Receipt.Number

/-- Decimal digits and the power of ten of the last one. -/
structure Decimal where
  digits : Nat
  exponent : Int
  deriving DecidableEq, Repr

namespace Decimal

def value (d : Decimal) : Rat := d.digits * (10 : Rat) ^ d.exponent

/-- Whether `y` rounds to `x`: it lies between the midpoints to the neighbours of `x`, or on one
if the significand of `x` is even. Below a power of two the neighbour is half as far. -/
def reads (x y : Rat) : Bool :=
  let gap := spacing x
  let significand := (x / gap).floor.toNat
  let below := if significand = Nat.pow 2 52 && gap ≠ (2 : Rat) ^ (-1074 : Int) then gap / 2 else gap
  if significand % 2 = 0 then x - below / 2 ≤ y && y ≤ x + gap / 2
  else x - below / 2 < y && y < x + gap / 2

/-- Which of two decimals is taken that are equally near. -/
inductive Tie where
  /-- The one with the even digit -/
  | even
  /-- The larger one -/
  | up
  deriving DecidableEq, Repr

/-- Whether `n + 1` steps are taken rather than `n`, where both would do. -/
def roundsUp (tie : Tie) (x step : Rat) (n : Nat) : Bool :=
  let below := x - n * step
  let above := (n + 1 : Nat) * step - x
  above < below || (above = below && (tie = .up || n % 2 = 1))

/-- The nearest decimal of `places` digits that reads back as `x`, if there is one. Where it has a
digit more it is a power of ten. -/
def ofPlaces? (tie : Tie) (x : Rat) (places : Nat) : Option Decimal :=
  let e := order 10 x - places + 1
  let step := (10 : Rat) ^ e
  let n := (x / step).floor.toNat
  let decimal (n : Nat) : Decimal := if n = Nat.pow 10 places then ⟨1, e + places⟩ else ⟨n, e⟩
  match reads x (n * step), reads x ((n + 1 : Nat) * step) with
  | true, true => some (decimal (if roundsUp tie x step n then n + 1 else n))
  | true, false => some (decimal n)
  | false, true => some (decimal (n + 1))
  | false, false => none

/-- The shortest decimal that reads back as `x`, a positive binary64 number; seventeen digits
always do. -/
def shortest (tie : Tie) (x : Rat) : Decimal :=
  ((List.range' 1 17).findSome? (ofPlaces? tie x)).getD ⟨0, 0⟩

end Decimal

/-- How the digits of a number are laid out. -/
structure Style where
  /-- Most digits in front of the point without an exponent; unlimited if absent -/
  whole? : Option Nat
  /-- Most zeros between the point and the first digit without an exponent -/
  zeros? : Option Nat
  /-- What follows a whole number -/
  wholeEnd : List Char
  tie : Decimal.Tie
  /-- The sign of an exponent that is not negative -/
  plus : List Char := []
  /-- Least digits of an exponent -/
  powerDigits : Nat := 1

namespace Style

def withinLimit : Option Nat → Nat → Bool
  | none, _ => true
  | some limit, n => n ≤ limit

/-- The digits `ds`, the point after the first `point` of them. -/
def write (l : Style) (ds : List Char) (point : Int) : List Char :=
  if 0 < point then
    let n := point.toNat
    if withinLimit l.whole? n then
      if ds.length ≤ n then ds ++ List.replicate (n - ds.length) '0' ++ l.wholeEnd
      else ds.take n ++ '.' :: ds.drop n
    else scientific ds point
  else if withinLimit l.zeros? (-point).toNat then
    '0' :: '.' :: List.replicate (-point).toNat '0' ++ ds
  else scientific ds point
where
  scientific (ds : List Char) (point : Int) : List Char :=
    ds.take 1 ++ (if ds.length ≤ 1 then [] else '.' :: ds.drop 1) ++ 'e' :: power (point - 1)
  power (e : Int) : List Char :=
    let ds := Nat.toDigits 10 e.natAbs
    (if e < 0 then ['-'] else l.plus) ++ List.replicate (l.powerDigits - ds.length) '0' ++ ds

/-- A number in this style. -/
def render (l : Style) (b : Binary) : List Char :=
  (if b.negative then ['-'] else []) ++
    if b.size = 0 then '0' :: l.wholeEnd
    else
      let d := Decimal.shortest l.tie b.size
      let ds := Nat.toDigits 10 d.digits
      l.write ds (ds.length + d.exponent)

end Style

end Receipt.Number
