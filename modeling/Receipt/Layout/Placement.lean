import Receipt.Layout.Shrink
import Receipt.Markup.Column

/-!
# Placing columns on a line

Columns that are not to be printed are left out, and so are those for which the line has no cell.
Columns without a width of their own share what the others leave; if nothing is shared, the line
is narrower than the paper and stands as its alignment says.

| here | in `layout/columns` |
| --- | --- |
| `Placed` | `PlacedColumn` |
| `Placement` | `LineLayout` |
| `columnLimit` | `column_limit` |
| `survivors`, `spareCells`, `share`, `place` | `layout_line` |

The numbers are whole ones of any size, where `layout_line` has 64 bits; `Counted` says of which
lines both are the same.
-/

namespace Receipt.Layout

open Markup (Column)

/-- A column and its cells. -/
structure Placed where
  column : Column
  width : Nat
  deriving DecidableEq, Repr

/-- Columns on a line: the cells in front of them, theirs, and those behind. -/
structure Placement where
  columns : List Placed := []
  left : Nat := 0
  width : Nat
  right : Nat := 0
  deriving DecidableEq, Repr

def Placement.edges (p : Placement) : Ruling.Edges :=
  ⟨p.left, p.width, p.right, p.columns.map Placed.width⟩

/-- The most columns that `cpl` cells can hold, borders included. -/
def columnLimit (cpl : Nat) (border : Int) : Nat :=
  if border < 0 then (cpl - 1) / 2 else (cpl + border.toNat) / (border.toNat + 1)

/-- The cells a column asks for. -/
def asked (c : Column) : Option Nat := if 0 < c.width then some c.width.toNat else none

/-- Hands the free cells to the columns without a width, the later ones getting what does not
divide. -/
def share (spare : Int) (flexible : Nat) : Nat → Widths → List Nat
  | _, [] => []
  | i, some w :: r => w :: share spare flexible i r
  | i, none :: r => (spare + i).toNat / flexible :: share spare flexible (i + 1) r

/-- The columns of a line that are printed. -/
def survivors (columns : List Column) (cpl : Nat) (isText : Bool) : List Column :=
  let kept := columns.filter (·.width ≠ 0)
  match columns with
  | first :: _ => if isText then kept.take (columnLimit cpl first.border) else kept
  | [] => []

/-- The cells left over when fixed widths and borders are paid; negative if they do not fit. -/
def spareCells (kept : List Column) (border : Int) (cpl : Nat) (isText : Bool) : Int :=
  let paid := if isText && !kept.isEmpty then Markup.borderCells border kept.length else 0
  cpl - (fixed (kept.map asked)).foldr (· + ·) (0 : Nat) - paid

/-- Places the columns on a line of `cpl` cells. What is no text has no borders. -/
def place (columns : List Column) (cpl : Nat) (isText : Bool) : Placement :=
  match columns with
  | [] => { width := cpl }
  | first :: _ =>
    let kept := survivors columns cpl isText
    let ws := kept.map asked
    let flexible := ws.count none
    let spare := spareCells kept first.border cpl isText
    let (ws, taken) := shrink ws (flexible - spare).toNat
    let widths := share (spare + taken) flexible 0 ws
    let margin := if 0 < flexible then 0 else min (spare + taken).toNat cpl
    let left := margin * first.alignment.halves / 2
    { columns := List.zipWith Placed.mk kept widths
      left
      width := cpl - margin
      right := margin - left }

end Receipt.Layout
