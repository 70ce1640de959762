import Receipt.Bars.Symbol

/-!
# Code 39

Nine elements to a character, five bars and four spaces, three of them wide. Characters stand one
module apart, and a star stands at either end; the data may bring these stars along.

| here | in `barcode/code39` |
| --- | --- |
| `table`, `star` | `ALPHABET`, `PATTERNS` |
| `body`, `encode?` | `encode` |
-/

namespace Receipt.Bars.Code39

/-- The characters and their elements. -/
def table : List (Char × List Nat) := [
  ('0', [1, 1, 1, 2, 2, 1, 2, 1, 1]), ('1', [2, 1, 1, 2, 1, 1, 1, 1, 2]),
  ('2', [1, 1, 2, 2, 1, 1, 1, 1, 2]), ('3', [2, 1, 2, 2, 1, 1, 1, 1, 1]),
  ('4', [1, 1, 1, 2, 2, 1, 1, 1, 2]), ('5', [2, 1, 1, 2, 2, 1, 1, 1, 1]),
  ('6', [1, 1, 2, 2, 2, 1, 1, 1, 1]), ('7', [1, 1, 1, 2, 1, 1, 2, 1, 2]),
  ('8', [2, 1, 1, 2, 1, 1, 2, 1, 1]), ('9', [1, 1, 2, 2, 1, 1, 2, 1, 1]),
  ('A', [2, 1, 1, 1, 1, 2, 1, 1, 2]), ('B', [1, 1, 2, 1, 1, 2, 1, 1, 2]),
  ('C', [2, 1, 2, 1, 1, 2, 1, 1, 1]), ('D', [1, 1, 1, 1, 2, 2, 1, 1, 2]),
  ('E', [2, 1, 1, 1, 2, 2, 1, 1, 1]), ('F', [1, 1, 2, 1, 2, 2, 1, 1, 1]),
  ('G', [1, 1, 1, 1, 1, 2, 2, 1, 2]), ('H', [2, 1, 1, 1, 1, 2, 2, 1, 1]),
  ('I', [1, 1, 2, 1, 1, 2, 2, 1, 1]), ('J', [1, 1, 1, 1, 2, 2, 2, 1, 1]),
  ('K', [2, 1, 1, 1, 1, 1, 1, 2, 2]), ('L', [1, 1, 2, 1, 1, 1, 1, 2, 2]),
  ('M', [2, 1, 2, 1, 1, 1, 1, 2, 1]), ('N', [1, 1, 1, 1, 2, 1, 1, 2, 2]),
  ('O', [2, 1, 1, 1, 2, 1, 1, 2, 1]), ('P', [1, 1, 2, 1, 2, 1, 1, 2, 1]),
  ('Q', [1, 1, 1, 1, 1, 1, 2, 2, 2]), ('R', [2, 1, 1, 1, 1, 1, 2, 2, 1]),
  ('S', [1, 1, 2, 1, 1, 1, 2, 2, 1]), ('T', [1, 1, 1, 1, 2, 1, 2, 2, 1]),
  ('U', [2, 2, 1, 1, 1, 1, 1, 1, 2]), ('V', [1, 2, 2, 1, 1, 1, 1, 1, 2]),
  ('W', [2, 2, 2, 1, 1, 1, 1, 1, 1]), ('X', [1, 2, 1, 1, 2, 1, 1, 1, 2]),
  ('Y', [2, 2, 1, 1, 2, 1, 1, 1, 1]), ('Z', [1, 2, 2, 1, 2, 1, 1, 1, 1]),
  ('-', [1, 2, 1, 1, 1, 1, 2, 1, 2]), ('.', [2, 2, 1, 1, 1, 1, 2, 1, 1]),
  (' ', [1, 2, 2, 1, 1, 1, 2, 1, 1]), ('$', [1, 2, 1, 2, 1, 2, 1, 1, 1]),
  ('/', [1, 2, 1, 2, 1, 1, 1, 2, 1]), ('+', [1, 2, 1, 1, 1, 2, 1, 2, 1]),
  ('%', [1, 1, 1, 2, 1, 2, 1, 2, 1])]

/-- The star, at the start and at the end. -/
def star : List Nat := [1, 2, 1, 1, 2, 1, 2, 1, 1]

def elements? (c : Char) : Option (List Nat) := table.lookup c

def dropStar : List Char → List Char
  | '*' :: r => r
  | s => s

/-- The data without one star at either end. -/
def body (s : List Char) : List Char := (dropStar (dropStar s).reverse).reverse

def encode? (s : List Char) : Option Pattern := do
  let parts ← (body s).mapM elements?
  if parts.isEmpty then none
  else
    some
      { modules := star ++ (parts ++ [star]).flatMap (1 :: ·)
        text := '*' :: body s ++ ['*']
        check := none }

end Receipt.Bars.Code39
