import Receipt.Text.Blank

/-!
# Bar code symbols

What is asked for: data in a symbology with the measures of its bars. What is drawn: the widths of
spaces and bars in turn, the quiet zones first and last. Data that a symbology cannot carry has no
bars at all.

| here | in `barcode` |
| --- | --- |
| `Symbology` | `Symbology` |
| `keyword`, `ofKeyword?`, `ofText?` | `keyword`, `from_keyword`, `from_str` |
| `Symbol` | `BarcodeSymbol` |
| `Check` | `Checksum` |
| `Form` | `BarcodeForm` |
| `Pattern` | `Encoded` |
-/

namespace Receipt

inductive Symbology where
  /-- UPC-A, or UPC-E for short data -/
  | upc
  /-- EAN-13, or EAN-8 for short data -/
  | ean
  | code39
  /-- Interleaved 2 of 5 -/
  | itf
  | codabar
  | code93
  | code128
  /-- A QR code, whose pattern is left to the printer -/
  | qrCode
  deriving DecidableEq, Repr

namespace Symbology

def keyword : Symbology → List Char
  | upc => "upc".toList
  | ean => "ean".toList
  | code39 => "code39".toList
  | itf => "itf".toList
  | codabar => "codabar".toList
  | code93 => "code93".toList
  | code128 => "code128".toList
  | qrCode => "qrcode".toList

def all : List Symbology := [upc, ean, code39, itf, codabar, code93, code128, qrCode]

def aliases : List (List Char × Symbology) := [("jan".toList, ean), ("nw7".toList, codabar)]

/-- The symbology with exactly this keyword or alias. -/
def ofKeyword? (s : List Char) : Option Symbology :=
  (all.find? (·.keyword = s)).or (aliases.lookup s)

/-- The symbology a person means by `s`. -/
def ofText? (s : List Char) : Option Symbology := ofKeyword? (Text.lower s)

theorem ofKeyword?_keyword (s : Symbology) : ofKeyword? s.keyword = some s := by
  cases s <;> decide

end Symbology

namespace Bars

/-- A bar code as asked for. -/
structure Symbol where
  data : List Char
  symbology : Symbology
  /-- Dots across the narrowest bar -/
  module : Nat := 2
  /-- Dots along a bar -/
  height : Nat := 72
  /-- Whether the data is printed below the bars -/
  hri : Bool := false
  quietZone : Bool := false
  deriving DecidableEq, Repr

/-- Check characters, computed while encoding. -/
inductive Check where
  /-- The last digit of a retail code -/
  | digit (value : Nat)
  /-- The two check symbols of Code 93 -/
  | code93 (c k : Nat)
  /-- The check symbol of Code 128 -/
  | mod103 (value : Nat)
  deriving DecidableEq, Repr

/-- A bar code as drawn. -/
structure Form where
  /-- Spaces and bars in dots, from quiet zone to quiet zone -/
  widths : List Nat := []
  /-- All of them together -/
  length : Nat := 0
  height : Nat := 0
  /-- The text below the bars, if there is to be one -/
  hri : Option (List Char) := none
  /-- The data as a person reads it -/
  text : List Char := []
  check : Option Check := none
  deriving DecidableEq, Repr

/-- Whether the data was refused. -/
def Form.isEmpty (f : Form) : Bool := f.widths.isEmpty

/-- What a symbology makes of data: bars and spaces in modules, from the first bar to the last. -/
structure Pattern where
  modules : List Nat
  text : List Char
  check : Option Check
  deriving DecidableEq, Repr

end Bars

end Receipt
