/-!
# Narrowing columns

Where columns of fixed width ask for more cells than there are, the widest give up cells, one at a
time and the first of the widest first. `shrink` takes whole rounds at once: all the widest columns
are brought down together to the next width below.

| here | in `layout/columns` |
| --- | --- |
| `stepSize`, `lowerAll`, `lowerWidest`, `shrink` | `shrink_widest` |
-/

namespace Receipt.Layout

/-- The width of a column: fixed, or `none` for what is left over. -/
abbrev Widths := List (Option Nat)

/-- The fixed widths. -/
def fixed (ws : Widths) : List Nat := ws.filterMap id

/-- The largest of the widths. -/
def largest (ns : List Nat) : Nat := ns.foldl max 0

/-- Takes `rounds` cells from every column of width `top`, and one more from the first `extra`. -/
def lowerAll (top rounds : Nat) : Nat → Widths → Widths
  | _, [] => []
  | extra, w :: r =>
    if w = some top then
      some (top - rounds - if 0 < extra then 1 else 0) :: lowerAll top rounds (extra - 1) r
    else w :: lowerAll top rounds extra r

/-- How many cells one step takes when `need` are wanted: at most down to the next width below. -/
def stepSize (ws : Widths) (need : Nat) : Nat :=
  let top := largest (fixed ws)
  let next := largest ((fixed ws).filter (· < top))
  min ((top - next) * (fixed ws).count top) need

/-- One step: the widest columns give up `stepSize` cells together. -/
def lowerWidest (ws : Widths) (need : Nat) : Widths :=
  let top := largest (fixed ws)
  let count := (fixed ws).count top
  lowerAll top (stepSize ws need / count) (stepSize ws need % count) ws

/-- Takes up to `need` cells from the fixed columns, always from the widest; also the cells taken.
It ends where no cell is wanted, or no fixed column has any. -/
def shrink (ws : Widths) (need : Nat) : Widths × Nat :=
  if _h : stepSize ws need = 0 then (ws, 0)
  else
    let (done, taken) := shrink (lowerWidest ws need) (need - stepSize ws need)
    (done, stepSize ws need + taken)
termination_by need
decreasing_by
  have : stepSize ws need ≤ need := Nat.min_le_right _ _
  omega

end Receipt.Layout
