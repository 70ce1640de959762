import Receipt.Text.CodePage
import Receipt.Text.Cluster

/-!
# Cells

The width of text in character cells. A single-byte page prints each character in one cell, a Thai
page each cluster; a double-byte page prints in two cells what its codec stores in two bytes, and
also what the codec cannot store.

| here | in `text/width` |
| --- | --- |
| `charCells` | `char_cells` |
| `units` | `array_from` |
| `cells` | `measure_text` |
-/

namespace Receipt.Text

/-- The characters outside ASCII that a double-byte page stores in one byte: half-width katakana
and three more, all of the Japanese page. -/
def isHalfWidth : CodePage → Char → Bool
  | .cp932, c =>
    ('\uff61' ≤ c && c ≤ '\uff9f') || c = '\u0080' || c = '\u00a5' || c = '\u203e'
  | _, _ => false

/-- Cells of one character on a double-byte page. -/
def charCells (page : CodePage) (c : Char) : Nat :=
  if c.toNat < 128 || isHalfWidth page c then 1 else 2

/-- The pieces of text that stay on one row. -/
def units (page : CodePage) (s : List Char) : List (List Char) :=
  if page = .tis620 then clusters s else s.map ([·])

/-- Cells that `s` takes on the page. -/
def cells (page : CodePage) (s : List Char) : Nat :=
  if page.isDoubleByte then (s.map (charCells page)).foldr (· + ·) 0
  else if page = .tis620 then (clusters s).length
  else s.length

theorem flatten_units (page : CodePage) (s : List Char) : (units page s).flatten = s := by
  unfold units
  split
  · exact flatten_clusters s
  · induction s with
    | nil => rfl
    | cons c r ih => simp [ih]

end Receipt.Text
