/-!
# QR codes

The pattern of a QR code is left to the printer; what is passed on is the data and how to draw it.

| here | in `barcode/qr` |
| --- | --- |
| `Level`, `Level.ofLetter?` | `QrLevel`, `from_letter` |
| `Symbol`, `Symbol.request?` | `QrSymbol`, `request` |
-/

namespace Receipt.Matrix

/-- How much of a code may be damaged and still be read. -/
inductive Level where
  | l | m | q | h
  deriving DecidableEq, Repr

namespace Level

/-- The letter a level is chosen by. -/
def letter : Level → List Char
  | l => ['l']
  | m => ['m']
  | q => ['q']
  | h => ['h']

def all : List Level := [l, m, q, h]

def ofLetter? (s : List Char) : Option Level := all.find? (·.letter = s)

end Level

/-- A QR code as asked for. -/
structure Symbol where
  data : List Char
  level : Level
  /-- Dots across one cell -/
  cell : Nat
  quietZone : Bool
  deriving DecidableEq, Repr

/-- What the printer is given to draw; there is nothing to draw without data. -/
def Symbol.request? (s : Symbol) : Option Symbol := if s.data.isEmpty then none else some s

end Receipt.Matrix
