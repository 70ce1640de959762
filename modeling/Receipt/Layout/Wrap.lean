import Receipt.Markup.Column
import Receipt.Number.Binary
import Receipt.Text.Cells

/-!
# Wrapping text

Text is laid into rows of a given width, unit by unit, each as far to the left as it fits. A unit
wider than a whole row is left out. Decorations are switched by the segments between texts; every
run of text carries those in force, so that rows can be printed one by one.

| here | in `layout/wrap` |
| --- | --- |
| `Decoration`, `Run`, `Row` | `Decoration`, `Run`, `Row` |
| `widthFactor`, `heightFactor` | `width_factor`, `height_factor` |
| `Draft`, `Draft.finish` | `RowBuilder`, `finish` |
| `layUnits`, `wrapFrom`, `wrap` | `wrap_text` |
-/

namespace Receipt.Layout

open Markup (Segment)
open Text (CodePage)

/-- The decorations of a run of text. -/
structure Decoration where
  underline : Bool := false
  emphasis : Bool := false
  invert : Bool := false
  /-- 0 as usual, 1 twice as wide, 2 twice as high, more for both -/
  scale : Nat := 0
  deriving DecidableEq, Repr

namespace Decoration

/-- How many times wider than usual. -/
def widthFactor (d : Decoration) : Nat := if d.scale ≤ 1 then d.scale + 1 else d.scale - 1

/-- How many times higher than usual; the usual height has factor 0. -/
def heightFactor (d : Decoration) : Nat := if d.scale ≤ 2 then d.scale else d.scale - 1

/-- The decorations after a segment. Carets of the scale in force take it back. -/
def apply (d : Decoration) : Segment → Decoration
  | .underline => { d with underline := !d.underline }
  | .emphasis => { d with emphasis := !d.emphasis }
  | .invert => { d with invert := !d.invert }
  | .scale n => { d with scale := if d.scale = min n 7 then 0 else min n 7 }
  | .text _ | .lineBreak => d

end Decoration

/-- Text under one decoration. -/
structure Run where
  decoration : Decoration
  text : List Char
  deriving DecidableEq, Repr

structure Row where
  runs : List Run
  /-- Cells in front of the first run -/
  margin : Number.Binary
  /-- Lines that the row takes -/
  height : Nat
  deriving DecidableEq, Repr

/-- The row in progress: its runs, the cells left and its height so far. -/
structure Draft where
  runs : List Run := []
  space : Nat
  height : Nat := 1
  deriving DecidableEq, Repr

/-- The margin in front of a row with `space` cells left: none, half of them or all. -/
def marginOf (space align : Nat) : Number.Binary := (Number.Binary.ofNat space).half align

def Draft.finish (d : Draft) (align : Nat) : Row := ⟨d.runs, marginOf d.space align, d.height⟩

/-- Adds a run; without text there is none. -/
def Draft.add (d : Draft) (decoration : Decoration) (text : List (List Char)) : Draft :=
  if text.isEmpty then d
  else
    { d with
      runs := d.runs ++ [⟨decoration, text.flatten⟩]
      height := max d.height decoration.heightFactor }

/-- Cells of a unit under a decoration. -/
def glyph (page : CodePage) (d : Decoration) (unit : List Char) : Nat :=
  Text.cells page unit * d.widthFactor

/-- Lays units into rows. `taken` are the units of the run in progress, last first; their cells
are off `draft.space` already. -/
def layUnits (width align : Nat) (page : CodePage) (d : Decoration) :
    List (List Char) → Draft → List (List Char) → List Row × Draft
  | taken, draft, [] =>
    let draft := draft.add d taken.reverse
    if !taken.isEmpty && draft.space = 0 then ([draft.finish align], { space := width })
    else ([], draft)
  | taken, draft, u :: r =>
    let cells := glyph page d u
    if cells ≤ draft.space then
      layUnits width align page d (u :: taken) { draft with space := draft.space - cells } r
    else
      let closed := draft.add d taken.reverse
      if width < cells then layUnits width align page d [] closed r
      else
        let (rows, rest) := layUnits width align page d [u] { space := width - cells } r
        (closed.finish align :: rows, rest)

/-- The rows of segments from a draft on. -/
def wrapFrom (width align : Nat) (page : CodePage) :
    Decoration → Draft → List Segment → List Row
  | _, draft, [] => if draft.runs.isEmpty then [] else [draft.finish align]
  | d, draft, .text t :: r =>
    let (rows, draft) := layUnits width align page d [] draft (Text.units page t)
    rows ++ wrapFrom width align page d draft r
  | d, draft, .lineBreak :: r =>
    draft.finish align :: wrapFrom width align page d { space := width } r
  | d, draft, s :: r => wrapFrom width align page (d.apply s) draft r

/-- The rows of a column `width` cells wide. -/
def wrap (segments : List Segment) (width align : Nat) (page : CodePage) : List Row :=
  wrapFrom width align page {} { space := width } segments

end Receipt.Layout
