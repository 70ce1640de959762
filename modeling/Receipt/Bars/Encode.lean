import Receipt.Bars.Retail
import Receipt.Bars.Code39
import Receipt.Bars.Interleaved
import Receipt.Bars.Codabar
import Receipt.Bars.Code93
import Receipt.Bars.Code128

/-!
# Drawing a bar code

Encodes the data in its symbology and scales the modules to dots.

| here | in `barcode` |
| --- | --- |
| `quietModules` | `QUIET_ZONE_MODULES` |
| `legible` | `printable` |
| `pattern?`, `Symbol.encode` | `encode` |
-/

namespace Receipt.Bars

/-- Modules of a quiet zone. -/
def quietModules : Nat := 10

/-- What 32 bits keep of a number of dots. -/
def word (n : Nat) : Nat := (UInt32.ofNat n).toNat

/-- The pattern of data in a symbology. A QR code has no bars. -/
def pattern? : Symbology → List Char → Option Pattern
  | .upc, s => Retail.upc? s
  | .ean, s => Retail.ean? s
  | .code39, s => Code39.encode? s
  | .itf, s => Interleaved.encode? s
  | .codabar, s => Codabar.encode? s
  | .code93, s => Code93.encode? s
  | .code128, s => Code128.encode? s
  | .qrCode, _ => none

def isControl (c : Char) : Bool := c.toNat < 32 || (127 ≤ c.toNat && c.toNat < 160)

/-- Text as a person reads it: controls show as spaces. -/
def legible (s : List Char) : List Char := s.map fun c => if isControl c then ' ' else c

/-- The bar code as drawn, its dots counted in 32 bits; refused data gives the empty form. -/
def Symbol.encode (s : Symbol) : Form :=
  match pattern? s.symbology s.data with
  | none => {}
  | some p =>
    let module := max s.module 1
    let quiet := if s.quietZone then word (quietModules * module) else 0
    let widths := quiet :: p.modules.map (fun m => word (m * module)) ++ [quiet]
    { widths := widths
      length := widths.foldr (fun w rest => word (w + rest)) 0
      height := s.height
      hri := if s.hri then some (legible p.text) else none
      text := legible p.text
      check := p.check }

end Receipt.Bars
