import Receipt.Bars.Symbol

/-!
# Interleaved 2 of 5

Digits come in pairs: the bars draw the first digit of a pair, the spaces between them the second.

| here | in `barcode/itf` |
| --- | --- |
| `table`, `start`, `stop` | `PATTERNS`, `START`, `STOP` |
| `pairs?`, `encode?` | `encode` |
-/

namespace Receipt.Bars.Interleaved

/-- The five elements of each digit. -/
def table : List (Char × List Nat) := [
  ('0', [1, 1, 2, 2, 1]), ('1', [2, 1, 1, 1, 2]), ('2', [1, 2, 1, 1, 2]), ('3', [2, 2, 1, 1, 1]),
  ('4', [1, 1, 2, 1, 2]), ('5', [2, 1, 2, 1, 1]), ('6', [1, 2, 2, 1, 1]), ('7', [1, 1, 1, 2, 2]),
  ('8', [2, 1, 1, 2, 1]), ('9', [1, 2, 1, 2, 1])]

def start : List Nat := [1, 1, 1, 1]

def stop : List Nat := [2, 1, 1]

/-- Bars and spaces in turn. -/
def interleave (bars spaces : List Nat) : List Nat :=
  (List.zipWith (fun bar space => [bar, space]) bars spaces).flatten

/-- The elements of digits, two by two; an odd one is refused. -/
def pairs? : List Char → Option (List Nat)
  | [] => some []
  | [_] => none
  | a :: b :: r => do
    let bars ← table.lookup a
    let spaces ← table.lookup b
    let rest ← pairs? r
    some (interleave bars spaces ++ rest)

def encode? (s : List Char) : Option Pattern :=
  if s.isEmpty then none
  else (pairs? s).map fun m => ⟨start ++ m ++ stop, s, none⟩

end Receipt.Bars.Interleaved
