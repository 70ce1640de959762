import Receipt.Bars.Symbol

/-!
# Code 128

Six elements to a symbol, whose meaning depends on the code set in force: set A has capitals and
controls, set B capitals and small letters, set C pairs of digits. The encoder changes to set C
for four digits and more, out of it where no pair is left, and between A and B where a character
asks for it: for a single one by a shift, for more by a change.

| here | in `barcode/code128` |
| --- | --- |
| `table`, `stop` | `PATTERNS`, `STOP` |
| `CodeSet` | `CodeSet` |
| `start`, `change`, `has`, `symbol`, `other` | `start`, `latch`, `contains`, `value`, `other` |
| `run` | `digit_run` |
| `preferred` | `preferred_set` |
| `first`, `symbolsFrom`, `symbols?` | `symbol_values` |
| `weigh`, `check` | `checksum` |
| `encode?` | `encode` |
-/

namespace Receipt.Bars.Code128

/-- The elements of each symbol. -/
def table : List (List Nat) := [
  [2, 1, 2, 2, 2, 2], [2, 2, 2, 1, 2, 2], [2, 2, 2, 2, 2, 1], [1, 2, 1, 2, 2, 3],
  [1, 2, 1, 3, 2, 2], [1, 3, 1, 2, 2, 2], [1, 2, 2, 2, 1, 3], [1, 2, 2, 3, 1, 2],
  [1, 3, 2, 2, 1, 2], [2, 2, 1, 2, 1, 3], [2, 2, 1, 3, 1, 2], [2, 3, 1, 2, 1, 2],
  [1, 1, 2, 2, 3, 2], [1, 2, 2, 1, 3, 2], [1, 2, 2, 2, 3, 1], [1, 1, 3, 2, 2, 2],
  [1, 2, 3, 1, 2, 2], [1, 2, 3, 2, 2, 1], [2, 2, 3, 2, 1, 1], [2, 2, 1, 1, 3, 2],
  [2, 2, 1, 2, 3, 1], [2, 1, 3, 2, 1, 2], [2, 2, 3, 1, 1, 2], [3, 1, 2, 1, 3, 1],
  [3, 1, 1, 2, 2, 2], [3, 2, 1, 1, 2, 2], [3, 2, 1, 2, 2, 1], [3, 1, 2, 2, 1, 2],
  [3, 2, 2, 1, 1, 2], [3, 2, 2, 2, 1, 1], [2, 1, 2, 1, 2, 3], [2, 1, 2, 3, 2, 1],
  [2, 3, 2, 1, 2, 1], [1, 1, 1, 3, 2, 3], [1, 3, 1, 1, 2, 3], [1, 3, 1, 3, 2, 1],
  [1, 1, 2, 3, 1, 3], [1, 3, 2, 1, 1, 3], [1, 3, 2, 3, 1, 1], [2, 1, 1, 3, 1, 3],
  [2, 3, 1, 1, 1, 3], [2, 3, 1, 3, 1, 1], [1, 1, 2, 1, 3, 3], [1, 1, 2, 3, 3, 1],
  [1, 3, 2, 1, 3, 1], [1, 1, 3, 1, 2, 3], [1, 1, 3, 3, 2, 1], [1, 3, 3, 1, 2, 1],
  [3, 1, 3, 1, 2, 1], [2, 1, 1, 3, 3, 1], [2, 3, 1, 1, 3, 1], [2, 1, 3, 1, 1, 3],
  [2, 1, 3, 3, 1, 1], [2, 1, 3, 1, 3, 1], [3, 1, 1, 1, 2, 3], [3, 1, 1, 3, 2, 1],
  [3, 3, 1, 1, 2, 1], [3, 1, 2, 1, 1, 3], [3, 1, 2, 3, 1, 1], [3, 3, 2, 1, 1, 1],
  [3, 1, 4, 1, 1, 1], [2, 2, 1, 4, 1, 1], [4, 3, 1, 1, 1, 1], [1, 1, 1, 2, 2, 4],
  [1, 1, 1, 4, 2, 2], [1, 2, 1, 1, 2, 4], [1, 2, 1, 4, 2, 1], [1, 4, 1, 1, 2, 2],
  [1, 4, 1, 2, 2, 1], [1, 1, 2, 2, 1, 4], [1, 1, 2, 4, 1, 2], [1, 2, 2, 1, 1, 4],
  [1, 2, 2, 4, 1, 1], [1, 4, 2, 1, 1, 2], [1, 4, 2, 2, 1, 1], [2, 4, 1, 2, 1, 1],
  [2, 2, 1, 1, 1, 4], [4, 1, 3, 1, 1, 1], [2, 4, 1, 1, 1, 2], [1, 3, 4, 1, 1, 1],
  [1, 1, 1, 2, 4, 2], [1, 2, 1, 1, 4, 2], [1, 2, 1, 2, 4, 1], [1, 1, 4, 2, 1, 2],
  [1, 2, 4, 1, 1, 2], [1, 2, 4, 2, 1, 1], [4, 1, 1, 2, 1, 2], [4, 2, 1, 1, 1, 2],
  [4, 2, 1, 2, 1, 1], [2, 1, 2, 1, 4, 1], [2, 1, 4, 1, 2, 1], [4, 1, 2, 1, 2, 1],
  [1, 1, 1, 1, 4, 3], [1, 1, 1, 3, 4, 1], [1, 3, 1, 1, 4, 1], [1, 1, 4, 1, 1, 3],
  [1, 1, 4, 3, 1, 1], [4, 1, 1, 1, 1, 3], [4, 1, 1, 3, 1, 1], [1, 1, 3, 1, 4, 1],
  [1, 1, 4, 1, 3, 1], [3, 1, 1, 1, 4, 1], [4, 1, 1, 1, 3, 1], [2, 1, 1, 4, 1, 2],
  [2, 1, 1, 2, 1, 4], [2, 1, 1, 2, 3, 2]]

/-- The stop symbol and the final bar. -/
def stop : List Nat := [2, 3, 3, 1, 1, 1, 2]

inductive CodeSet where
  | A | B | C
  deriving DecidableEq, Repr

namespace CodeSet

/-- The symbol that starts in a set. -/
def start : CodeSet → Nat
  | A => 103
  | B => 104
  | C => 105

/-- The symbol that changes to a set. -/
def change : CodeSet → Nat
  | A => 101
  | B => 100
  | C => 99

/-- Whether a set has a symbol for the character. -/
def has : CodeSet → Nat → Bool
  | A, n => n < 96
  | B, n => 32 ≤ n && n < 128
  | C, n => 48 ≤ n && n ≤ 57

/-- The symbol of a character in set A or B. -/
def symbol : CodeSet → Nat → Nat
  | A, n => if n < 32 then n + 64 else n - 32
  | _, n => n - 32

/-- The other set of letters. -/
def other : CodeSet → CodeSet
  | A => B
  | _ => A

end CodeSet

open CodeSet

/-- The symbol that takes the next character from the other set. -/
def shift : Nat := 98

def isDigit (n : Nat) : Bool := 48 ≤ n && n ≤ 57

/-- How many digits come first. -/
def run (s : List Nat) : Nat := (s.takeWhile isDigit).length

/-- Set A if a control comes before any small letter, else set B. -/
def preferred : List Nat → CodeSet
  | [] => B
  | n :: r => if n < 32 then A else if 96 ≤ n then B else preferred r

/-- The symbol of two digits. -/
def pair (a b : Nat) : Nat := (a - 48) * 10 + (b - 48)

/-- The symbols of the characters that follow in a set. -/
def symbolsFrom : CodeSet → List Nat → List Nat
  | _, [] => []
  | C, [a] =>
    let set := preferred [a]
    [set.change, set.symbol a]
  | C, a :: b :: r =>
    if isDigit a && isDigit b then pair a b :: symbolsFrom C r
    else
      let set := preferred (a :: b :: r)
      set.change :: set.symbol a :: symbolsFrom set (b :: r)
  | set, a :: r =>
    if 4 ≤ run (a :: r) then
      if run (a :: r) % 2 = 1 then set.symbol a :: change C :: symbolsFrom C r
      else match r with
        | [] => []
        | b :: r => change C :: pair a b :: symbolsFrom C r
    else if set.has a then set.symbol a :: symbolsFrom set r
    else if r.head?.any fun b => !set.has b then
      set.other.change :: set.other.symbol a :: symbolsFrom set.other r
    else shift :: set.other.symbol a :: symbolsFrom set r

/-- The set to start in. -/
def first (s : List Nat) : CodeSet :=
  if 4 ≤ run s || (run s = 2 && s.length = 2) then C else preferred s

/-- The start symbol and the data symbols, for ASCII data. -/
def symbols? (s : List Char) : Option (List Nat) :=
  let codes := s.map Char.toNat
  if codes.isEmpty || codes.any (128 ≤ ·) then none
  else some ((first codes).start :: symbolsFrom (first codes) codes)

/-- The sum of symbols weighted by their places from `i` on. -/
def weigh (i : Nat) : List Nat → Nat
  | [] => 0
  | v :: r => i * v + weigh (i + 1) r

/-- The start symbol counts once, each data symbol by its place. -/
def check : List Nat → Nat
  | [] => 0
  | v :: r => (v + weigh 1 r) % 103

def elements (v : Nat) : List Nat := table.getD v []

def encode? (s : List Char) : Option Pattern :=
  (symbols? s).map fun vs =>
    { modules := (vs ++ [check vs]).flatMap elements ++ stop
      text := s
      check := some (.mod103 (check vs)) }

end Receipt.Bars.Code128
