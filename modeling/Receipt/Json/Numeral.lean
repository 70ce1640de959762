import Receipt.Json.Value
import Receipt.Text.Digits

/-!
# Reading numerals

An integer that fits 64 bits stays an integer. Any other numeral is read from its leading digits,
as many as fit 64 bits, and then scaled by powers of ten, rounding at each step.

This is how `from_str` of `serde_json` reads a number in its usual, faster way.
-/

namespace Receipt.Json.Numeral

/-- Appends digits to `n` as long as 64 bits hold the result; also the count of digits left. -/
def gather (n : Nat) : List Char → Nat × Nat
  | [] => (n, 0)
  | d :: r =>
    let m := Text.readDigits n [d]
    if m < UInt64.size then gather m r else (n, (d :: r).length)

/-- The power of ten, as the nearest binary64 number. -/
def power (e : Nat) : Rat := Number.nearest ((10 : Rat) ^ e)

/-- `x` times ten to the `e`, if in range. Powers beyond the 308th are divided out in two steps. -/
def scale (x : Rat) (e : Int) : Option Rat :=
  if x = 0 then some 0
  else if 0 ≤ e then
    if e ≤ 308 then
      let y := Number.nearest (x * power e.toNat)
      if y < Number.outOfRange then some y else none
    else none
  else if -308 ≤ e then some (Number.nearest (x / power (-e).toNat))
  else if -616 ≤ e then
    some (Number.nearest (Number.nearest (x / power 308) / power (-e - 308).toNat))
  else some 0

/-- The parts of a numeral. -/
structure Parts where
  negative : Bool
  whole : List Char
  fraction : Option (List Char)
  exponent : Option Int

/-- The exponent after the letter: an optional sign and digits. -/
def exponent? (s : List Char) : Option Int :=
  let (negative, ds) := match s with
    | '-' :: r => (true, r)
    | '+' :: r => (false, r)
    | _ => (false, s)
  (Text.decimal? ds).map fun n => if negative then -(n : Int) else n

/-- Takes a numeral apart. There is no superfluous zero in front, and a point or an exponent has
digits after it. -/
def parts? (s : List Char) : Option Parts := do
  let (negative, s) := match s with
    | '-' :: r => (true, r)
    | _ => (false, s)
  let whole := s.takeWhile Char.isDigit
  let s := s.dropWhile Char.isDigit
  if whole.isEmpty || (whole.head? = some '0' && whole.length ≠ 1) then none
  let (fraction, s) := match s with
    | '.' :: r => (some (r.takeWhile Char.isDigit), r.dropWhile Char.isDigit)
    | _ => (none, s)
  if fraction = some [] then none
  match s with
  | [] => return ⟨negative, whole, fraction, none⟩
  | c :: r => if c = 'e' || c = 'E' then return ⟨negative, whole, fraction, ← exponent? r⟩ else none

/-- What a numeral is worth. Minus zero, and what 64 bits do not hold, is a binary number. -/
def Parts.numeral (p : Parts) : Numeral :=
  let (lead, dropped) := gather 0 p.whole
  let real (m : Nat) (e : Int) : Numeral :=
    .real ((scale (Number.nearest m) e).map fun x => ⟨p.negative, x⟩)
  match p.fraction, p.exponent with
  | none, none =>
    if dropped = 0 && !p.negative then .integer lead
    else if dropped = 0 && 0 < lead && lead ≤ UInt64.size / 2 then .integer (-lead)
    else real lead dropped
  | fraction, exponent =>
    let digits := fraction.getD []
    let (m, unread) := gather lead digits
    real m (dropped - (digits.length - unread : Nat) + exponent.getD 0)

def read? (s : List Char) : Option Numeral := (parts? s).map Parts.numeral

end Receipt.Json.Numeral
