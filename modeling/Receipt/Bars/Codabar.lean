import Receipt.Bars.Symbol

/-!
# Codabar

Seven elements to a character, one module between characters. The data brings its own start and
stop characters, letters from A to D in either case, and at least one character between them.

| here | in `barcode/codabar` |
| --- | --- |
| `table`, `ends` | `ALPHABET`, `PATTERNS` |
| `encode?` | `encode` |
-/

namespace Receipt.Bars.Codabar

/-- The characters inside and their elements. -/
def table : List (Char × List Nat) := [
  ('0', [1, 1, 1, 1, 1, 2, 2]), ('1', [1, 1, 1, 1, 2, 2, 1]), ('2', [1, 1, 1, 2, 1, 1, 2]),
  ('3', [2, 2, 1, 1, 1, 1, 1]), ('4', [1, 1, 2, 1, 1, 2, 1]), ('5', [2, 1, 1, 1, 1, 2, 1]),
  ('6', [1, 2, 1, 1, 1, 1, 2]), ('7', [1, 2, 1, 1, 2, 1, 1]), ('8', [1, 2, 2, 1, 1, 1, 1]),
  ('9', [2, 1, 1, 2, 1, 1, 1]), ('-', [1, 1, 1, 2, 2, 1, 1]), ('$', [1, 1, 2, 2, 1, 1, 1]),
  (':', [2, 1, 1, 1, 2, 1, 2]), ('/', [2, 1, 2, 1, 1, 1, 2]), ('.', [2, 1, 2, 1, 2, 1, 1]),
  ('+', [1, 1, 2, 1, 2, 1, 2])]

/-- The characters at the ends. -/
def ends : List (Char × List Nat) := [
  ('A', [1, 1, 2, 2, 1, 2, 1]), ('B', [1, 2, 1, 2, 1, 1, 2]), ('C', [1, 1, 1, 2, 1, 2, 2]),
  ('D', [1, 1, 1, 2, 2, 2, 1])]

def encode? (s : List Char) : Option Pattern :=
  match s.map Char.toUpper with
  | [] => none
  | first :: rest => do
    let start ← ends.lookup first
    let stop ← rest.getLast?.bind fun c => ends.lookup c
    let inner ← rest.dropLast.mapM fun c => table.lookup c
    if inner.isEmpty then none
    else
      some
        { modules := start ++ (inner ++ [stop]).flatMap (1 :: ·)
          text := s
          check := none }

end Receipt.Bars.Codabar
