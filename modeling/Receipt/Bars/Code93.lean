import Receipt.Bars.Symbol

/-!
# Code 93

Six elements to a symbol. The symbols 0 to 42 are characters; four more, 43 to 46, shift the
letter after them, so that every ASCII character has one symbol or two. Two check symbols follow
the data, the second one checking the first as well.

| here | in `barcode/code93` |
| --- | --- |
| `table`, `guard` | `PATTERNS`, `START_STOP` |
| `dollar`, `percent`, `slash`, `plus` | `SHIFT_DOLLAR`, `SHIFT_PERCENT`, `SHIFT_SLASH`, `SHIFT_PLUS` |
| `symbols?` | `expand` |
| `weigh`, `check` | `check_value` |
| `encode?` | `encode` |
-/

namespace Receipt.Bars.Code93

/-- The elements of each symbol. -/
def table : List (List Nat) := [
  [1, 3, 1, 1, 1, 2], [1, 1, 1, 2, 1, 3], [1, 1, 1, 3, 1, 2], [1, 1, 1, 4, 1, 1],
  [1, 2, 1, 1, 1, 3], [1, 2, 1, 2, 1, 2], [1, 2, 1, 3, 1, 1], [1, 1, 1, 1, 1, 4],
  [1, 3, 1, 2, 1, 1], [1, 4, 1, 1, 1, 1], [2, 1, 1, 1, 1, 3], [2, 1, 1, 2, 1, 2],
  [2, 1, 1, 3, 1, 1], [2, 2, 1, 1, 1, 2], [2, 2, 1, 2, 1, 1], [2, 3, 1, 1, 1, 1],
  [1, 1, 2, 1, 1, 3], [1, 1, 2, 2, 1, 2], [1, 1, 2, 3, 1, 1], [1, 2, 2, 1, 1, 2],
  [1, 3, 2, 1, 1, 1], [1, 1, 1, 1, 2, 3], [1, 1, 1, 2, 2, 2], [1, 1, 1, 3, 2, 1],
  [1, 2, 1, 1, 2, 2], [1, 3, 1, 1, 2, 1], [2, 1, 2, 1, 1, 2], [2, 1, 2, 2, 1, 1],
  [2, 1, 1, 1, 2, 2], [2, 1, 1, 2, 2, 1], [2, 2, 1, 1, 2, 1], [2, 2, 2, 1, 1, 1],
  [1, 1, 2, 1, 2, 2], [1, 1, 2, 2, 2, 1], [1, 2, 2, 1, 2, 1], [1, 2, 3, 1, 1, 1],
  [1, 2, 1, 1, 3, 1], [3, 1, 1, 1, 1, 2], [3, 1, 1, 2, 1, 1], [3, 2, 1, 1, 1, 1],
  [1, 1, 2, 1, 3, 1], [1, 1, 3, 1, 2, 1], [2, 1, 1, 1, 3, 1], [1, 2, 1, 2, 2, 1],
  [3, 1, 2, 1, 1, 1], [3, 1, 1, 1, 2, 1], [1, 2, 2, 2, 1, 1]]

/-- The symbol at the start and at the end. -/
def guard : List Nat := [1, 1, 1, 1, 4, 1]

/-- The shift symbols, by the sign in their names. -/
def dollar : Nat := 43
def percent : Nat := 44
def slash : Nat := 45
def plus : Nat := 46

/-- Signs with a symbol of their own, from symbol 36 on. -/
def signs : List Char := "-. $/+%".toList

/-- The symbols of one character. A letter has symbol 10 and on. -/
def symbols? (c : Char) : Option (List Nat) :=
  let n := c.toNat
  if 48 ≤ n && n ≤ 57 then some [n - 48]
  else if 65 ≤ n && n ≤ 90 then some [n - 55]
  else if signs.contains c then some [36 + signs.idxOf c]
  else if n = 0 then some [percent, 30]
  else if n ≤ 26 then some [dollar, n + 9]
  else if n ≤ 31 then some [percent, n - 17]
  else if n ≤ 47 then some [slash, n - 23]
  else if n = 58 then some [slash, 35]
  else if n ≤ 63 then some [percent, n - 44]
  else if n = 64 then some [percent, 31]
  else if n ≤ 95 then some [percent, n - 71]
  else if n = 96 then some [percent, 32]
  else if n ≤ 122 then some [plus, n - 87]
  else if n ≤ 127 then some [percent, n - 98]
  else none

/-- The sum of symbols with weights from 1 to `cycle`, over and over, the first weight being the
one after `i`. -/
def weigh (cycle : Nat) (i : Nat) : List Nat → Nat
  | [] => 0
  | v :: r => v * (i % cycle + 1) + weigh cycle (i + 1) r

/-- The check symbol, weighing from the last symbol back. -/
def check (cycle : Nat) (vs : List Nat) : Nat := weigh cycle 0 vs.reverse % 47

def elements (v : Nat) : List Nat := table.getD v []

def encode? (s : List Char) : Option Pattern :=
  if s.isEmpty then none
  else (s.mapM symbols?).map fun parts =>
    let vs := parts.flatten
    let c := check 20 vs
    let k := check 15 (vs ++ [c])
    { modules := guard ++ (vs ++ [c, k]).flatMap elements ++ guard ++ [1]
      text := s
      check := some (.code93 c k) }

end Receipt.Bars.Code93
