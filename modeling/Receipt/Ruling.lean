/-!
# Ruled tables

A table between rules is opened above its first row, tied across a horizontal rule where one is
drawn between two rows, and closed below its last row. The machine remembers how far the table has
come and where its last row stood; what has to be drawn comes out of each step as effects.

| here | in `layout/rules` |
| --- | --- |
| `State`, `Event`, `Effect` | `RuleState`, `RuleEvent`, `RuleEffect` |
| `State.step` | `transition` |
| `Edges` | `RuleGeometry` |
| `Ruling`, `step` | `RuleMachine`, `apply` |
-/

namespace Receipt

namespace Ruling

inductive State where
  /-- No table -/
  | waiting
  /-- A table was asked for; no row of it is printed yet. -/
  | ready
  /-- Rows are printed between rules. -/
  | running
  /-- A horizontal rule comes before the next row. -/
  | horizontal
  deriving DecidableEq, Repr

inductive Event where
  /-- The border is switched to rules. -/
  | start
  /-- The border is switched away from rules. -/
  | stop
  /-- A line of text is about to be printed. -/
  | text
  | horizontalRule
  | cut
  /-- The document ends. -/
  | finish
  deriving DecidableEq, Repr

inductive Effect where
  /-- The top edge of a table -/
  | «open»
  /-- A rule between the last row and the coming one -/
  | tieIn
  /-- The bottom edge of a table -/
  | close
  /-- A rule of its own -/
  | divider
  | cut
  deriving DecidableEq, Repr

/-- The next state, and what is drawn on the way, in order. -/
def State.step : State → Event → State × List Effect
  | _, .start => (.ready, [])
  | .waiting, .stop | .ready, .stop => (.waiting, [])
  | .running, .stop | .horizontal, .stop => (.waiting, [.close])
  | .waiting, .text => (.waiting, [])
  | .ready, .text => (.running, [.open])
  | .running, .text => (.running, [])
  | .horizontal, .text => (.running, [.tieIn])
  | .waiting, .horizontalRule => (.waiting, [.divider])
  | .ready, .horizontalRule => (.ready, [])
  | .running, .horizontalRule | .horizontal, .horizontalRule => (.horizontal, [])
  | .waiting, .cut => (.waiting, [.cut])
  | .ready, .cut => (.ready, [.cut])
  | .running, .cut | .horizontal, .cut => (.waiting, [.close, .cut])
  | .waiting, .finish | .ready, .finish => (.waiting, [])
  | .running, .finish | .horizontal, .finish => (.waiting, [.close])

/-- Whether a table has been opened and not closed. -/
def State.isOpen : State → Bool
  | .running | .horizontal => true
  | _ => false

/-- Where a row stands on the line, and how its width is divided. -/
structure Edges where
  left : Nat := 0
  width : Nat := 0
  right : Nat := 0
  widths : List Nat := []
  deriving DecidableEq, Repr

end Ruling

/-- The machine: its state and the place of the last row. -/
structure Ruling where
  state : Ruling.State := .waiting
  edges : Ruling.Edges := {}
  deriving DecidableEq, Repr

namespace Ruling

/-- The machine after an event, and the effects. -/
def step (r : Ruling) (e : Event) : Ruling × List Effect :=
  let (state, effects) := r.state.step e
  ({ r with state }, effects)

end Ruling

end Receipt
