import Receipt.Text.CodePage

/-!
# Printer settings

How much fits on a line, which characters the printer knows and how long to wait for it. Settings
are fit for use when a line holds at least one cell and a cell has at least one dot.

| here | in `printer/config` |
| --- | --- |
| `Printer` | `PrinterConfig` |
| `wide`, `narrow` | `RECEIPT_80MM`, `receipt_58mm` |
| `dots` | `width_dots` |
| `defect?` | `validate` |
-/

namespace Receipt

structure Printer where
  /-- Cells on a line -/
  cpl : Nat := 48
  /-- Dots across one cell -/
  charWidth : Nat := 12
  /-- Whether lines are spaced further apart -/
  spacing : Bool := false
  page : Text.CodePage := .cp437
  /-- Cells kept free to the left of the line -/
  margin : Nat := 0
  marginRight : Nat := 0
  /-- Whether codes get a quiet zone unless told otherwise -/
  quietZone : Bool := false
  /-- Milliseconds to wait for a busy printer -/
  lockTimeout : Nat := 5000
  deriving DecidableEq, Repr

namespace Printer

/-- 80 mm paper. -/
def wide : Printer := {}

/-- 58 mm paper. -/
def narrow : Printer := { wide with cpl := 32 }

/-- Dots across the line. -/
def dots (p : Printer) : Nat := p.cpl * p.charWidth

/-- What makes settings unfit for use. -/
inductive Defect where
  | noCells
  | noDots
  deriving DecidableEq, Repr

def defect? (p : Printer) : Option Defect :=
  if p.cpl = 0 then some .noCells
  else if p.charWidth = 0 then some .noDots
  else none

theorem defect?_eq_none_iff (p : Printer) : p.defect? = none ↔ 1 ≤ p.cpl ∧ 1 ≤ p.charWidth := by
  unfold defect?
  split
  · simp; omega
  · split
    · simp; omega
    · simp; omega

end Printer

end Receipt
