import Receipt.Bars.Symbol

/-!
# Retail codes: EAN-13, EAN-8, UPC-A and UPC-E

Digits are drawn from three number sets. Sets A and B serve the left half; which of them each
digit takes carries a further digit: the first one in EAN-13, the check digit in UPC-E. Set C
serves the right half. The check digit is always computed, whatever digit was given in its place.

| here | in `barcode/upc` |
| --- | --- |
| `widths` | `L_CODES` |
| `leftSets` | `EAN13_PARITY` |
| `shortSets` | `UPCE_PARITY` |
| `guardBars`, `centreBars`, `endBars` | `GUARD`, `CENTER`, `UPCE_END` |
| `digits?`, `text` | `digits`, `text_of` |
| `checkDigit` | `check_digit` |
| `draw` | `push_digit` |
| `checked?` | `with_check` |
| `bars13` | `ean13_modules` |
| `ean13?`, `upcA?`, `ean8?` | `ean13`, `upc_a`, `ean8` |
| `expand` | `expand_upc_e` |
| `short?`, `upcE?` | `upc_e` |

`upc?` and `ean?` are the choice between them by length that `encode` of `barcode` makes.
-/

namespace Receipt.Bars.Retail

abbrev Digit := Fin 10

def digit? (c : Char) : Option Digit :=
  if h : 48 ≤ c.toNat ∧ c.toNat < 58 then some ⟨c.toNat - 48, by omega⟩ else none

/-- The digits of a text that consists of digits only. -/
def digits? (s : List Char) : Option (List Digit) := s.mapM digit?

def text (ds : List Digit) : List Char := ds.map fun d => Nat.digitChar d.val

/-! ## Number sets -/

inductive NumberSet where
  | A | B | C
  deriving DecidableEq, Repr

/-- The four elements of a digit in set A, the space first. -/
def widths (d : Digit) : List Nat :=
  match d with
  | 0 => [3, 2, 1, 1]
  | 1 => [2, 2, 2, 1]
  | 2 => [2, 1, 2, 2]
  | 3 => [1, 4, 1, 1]
  | 4 => [1, 1, 3, 2]
  | 5 => [1, 2, 3, 1]
  | 6 => [1, 1, 1, 4]
  | 7 => [1, 3, 1, 2]
  | 8 => [1, 2, 1, 3]
  | 9 => [3, 1, 1, 2]

/-- Set B reverses set A; set C has the widths of set A and starts with a bar. -/
def NumberSet.draw : NumberSet → Digit → List Nat
  | A, d | C, d => widths d
  | B, d => (widths d).reverse

open NumberSet

/-- The sets of the left half of EAN-13, by the first digit. -/
def leftSets (d : Digit) : List NumberSet :=
  match d with
  | 0 => [A, A, A, A, A, A]
  | 1 => [A, A, B, A, B, B]
  | 2 => [A, A, B, B, A, B]
  | 3 => [A, A, B, B, B, A]
  | 4 => [A, B, A, A, B, B]
  | 5 => [A, B, B, A, A, B]
  | 6 => [A, B, B, B, A, A]
  | 7 => [A, B, A, B, A, B]
  | 8 => [A, B, A, B, B, A]
  | 9 => [A, B, B, A, B, A]

/-- The sets of UPC-E in number system 0, by the check digit. -/
def shortSets (d : Digit) : List NumberSet :=
  match d with
  | 0 => [B, B, B, A, A, A]
  | 1 => [B, B, A, B, A, A]
  | 2 => [B, B, A, A, B, A]
  | 3 => [B, B, A, A, A, B]
  | 4 => [B, A, B, B, A, A]
  | 5 => [B, A, A, B, B, A]
  | 6 => [B, A, A, A, B, B]
  | 7 => [B, A, B, A, B, A]
  | 8 => [B, A, B, A, A, B]
  | 9 => [B, A, A, B, A, B]

/-- Number system 1 exchanges the sets A and B. -/
def NumberSet.swap : NumberSet → NumberSet
  | A => B
  | B => A
  | C => C

/-! ## Guards and check digit -/

def guardBars : List Nat := [1, 1, 1]

def centreBars : List Nat := [1, 1, 1, 1, 1]

/-- The end of UPC-E. -/
def endBars : List Nat := [1, 1, 1, 1, 1, 1]

/-- The digits weighted 3, 1, 3, … -/
def weigh : List Digit → Nat
  | [] => 0
  | [d] => 3 * d.val
  | d :: e :: r => 3 * d.val + e.val + weigh r

/-- The digit that brings the weighted sum, counted from the right, to a multiple of ten. -/
def checkDigit (ds : List Digit) : Digit := Fin.ofNat 10 (10 - weigh ds.reverse % 10)

/-- Digits one after another, each in its set. -/
def draw (sets : List NumberSet) (ds : List Digit) : List Nat :=
  (List.zipWith NumberSet.draw sets ds).flatten

/-- `size - 1` digits and their check digit; given `size` digits the last one is dropped first. -/
def checked? (size : Nat) (s : List Char) : Option (List Digit × Digit) := do
  let ds ← digits? s
  if ds.length = size || ds.length + 1 = size then
    let body := ds.take (size - 1)
    some (body ++ [checkDigit body], checkDigit body)
  else none

/-! ## The codes -/

/-- The bars of thirteen digits. -/
def bars13 : List Digit → List Nat
  | [] => []
  | first :: ds =>
    guardBars ++ draw (leftSets first) (ds.take 6) ++ centreBars
      ++ draw (List.replicate 6 C) (ds.drop 6) ++ guardBars

/-- The bars of eight digits. -/
def bars8 (ds : List Digit) : List Nat :=
  guardBars ++ draw (List.replicate 4 A) (ds.take 4) ++ centreBars
    ++ draw (List.replicate 4 C) (ds.drop 4) ++ guardBars

def ean13? (s : List Char) : Option Pattern :=
  (checked? 13 s).map fun (ds, check) => ⟨bars13 ds, text ds, some (.digit check)⟩

/-- UPC-A is EAN-13 with a zero in front. -/
def upcA? (s : List Char) : Option Pattern :=
  (checked? 12 s).map fun (ds, check) => ⟨bars13 (0 :: ds), text ds, some (.digit check)⟩

def ean8? (s : List Char) : Option Pattern :=
  (checked? 8 s).map fun (ds, check) => ⟨bars8 ds, text ds, some (.digit check)⟩

/-- The eleven digits that six short ones stand for in a number system: the last of the six says
where the zeros are left out. -/
def expand (system : Digit) : List Digit → List Digit
  | [a, b, c, d, e, f] =>
    if f ≤ 2 then [system, a, b, f, 0, 0, 0, 0, c, d, e]
    else if f = 3 then [system, a, b, c, 0, 0, 0, 0, 0, d, e]
    else if f = 4 then [system, a, b, c, d, 0, 0, 0, 0, 0, e]
    else [system, a, b, c, d, e, 0, 0, 0, 0, f]
  | _ => []

/-- The number system and the six digits of a short code: the system is 0 unless given, and a
check digit is dropped. -/
def short? : List Digit → Option (Digit × List Digit)
  | [a, b, c, d, e, f] => some (0, [a, b, c, d, e, f])
  | [system, a, b, c, d, e, f] | [system, a, b, c, d, e, f, _] =>
    some (system, [a, b, c, d, e, f])
  | _ => none

def upcE? (s : List Char) : Option Pattern := do
  let (system, body) ← (digits? s).bind short?
  if 1 < system then none
  else
    let check := checkDigit (expand system body)
    let sets := if system = 1 then (shortSets check).map NumberSet.swap else shortSets check
    some
      { modules := guardBars ++ draw sets body ++ endBars
        text := text (system :: body ++ [check])
        check := some (.digit check) }

/-- UPC data: fewer than nine digits make a short code. -/
def upc? (s : List Char) : Option Pattern := if s.length < 9 then upcE? s else upcA? s

/-- EAN data: fewer than nine digits make EAN-8. -/
def ean? (s : List Char) : Option Pattern := if s.length < 9 then ean8? s else ean13? s

end Receipt.Bars.Retail
