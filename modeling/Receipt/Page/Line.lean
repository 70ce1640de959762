import Receipt.Bars.Encode
import Receipt.Drawing.Op
import Receipt.Layout.Placement
import Receipt.Layout.Wrap
import Receipt.Markup.Line

/-!
# Drawing a line

A line whose columns are all text is wrapped and printed row by row; around it stand the edges of
a table as the ruling asks for them. Of any other line the first column counts: a rule or a cut, a
change of the border, or something to print on its own.

| here | in `transform/line` |
| --- | --- |
| `areaAt` | `area` |
| `hull`, `drawEffect` | `emit` |
| `rowsOf`, `drawCells`, `drawRow`, `drawRows` | `render_rows` |
| `content?`, `drawContent` | `render_content` |
| `drawText`, `drawLine` | `render_line` |
| `drawEnd` | `finish_document` |
-/

namespace Receipt.Page

open Drawing (Op Program)
open Layout (Placed Placement Row)
open Markup (Column Payload State)
open Ruling (Edges Effect)

/-! ## Rules and cuts -/

/-- Undecorated, at the left of an area. -/
def areaAt (e : Edges) : Program := [.normal, .area e.left e.width e.right, .align 0]

/-- The place that holds two rows, divided in no way. -/
def hull (cpl : Nat) (a b : Edges) : Edges where
  left := min a.left b.left
  width := cpl - (min a.left b.left + min a.right b.right)
  right := min a.right b.right

/-- Draws an effect of the ruling between the last row and the current line. -/
def drawEffect (cpl : Nat) (last current : Edges) : Effect → Program
  | .open => areaAt current ++ [.vrStart current.widths, .vrLf true]
  | .tieIn =>
    let left : Int := current.left - last.left
    areaAt (hull cpl current last)
      ++ [.vrHr last.widths current.widths left (left + (current.width - last.width)), .lf]
  | .close => areaAt last ++ [.vrStop last.widths, .vrLf false]
  | .divider => areaAt current ++ [.hr current.width, .lf]
  | .cut => [.cut]

/-- Carries out an event: what is drawn, and the ruling after it. -/
def applyEvent (cpl : Nat) (current : Edges) (r : Ruling) (e : Ruling.Event) : Program × Ruling :=
  let (next, effects) := r.step e
  (effects.flatMap (drawEffect cpl r.edges current), next)

/-! ## Rows -/

/-- The decorations that are switched on for a run. -/
def decorate (d : Layout.Decoration) : Program :=
  (if d.underline then [.ul] else []) ++ (if d.emphasis then [.em] else [])
    ++ (if d.invert then [.iv] else []) ++ (if 0 < d.scale then [.wh d.scale] else [])

def drawRun (run : Layout.Run) : Program := .normal :: decorate run.decoration ++ [.text run.text]

/-- One row of a column; a column that has no such row shows a blank. -/
def drawCell (position : Nat) (row : Option Row) : Program :=
  .absolute position ::
    match row with
    | some row => .relative row.margin :: row.runs.flatMap drawRun
    | none => [.normal, .text [' ']]

/-- The cells of one row, from a position on. -/
def drawCells (border : Nat) : Nat → List (Nat × Option Row) → Program
  | _, [] => []
  | position, (width, row) :: r =>
    drawCell position row ++ drawCells border (position + width + border) r

/-- The rows of a placed column. -/
def rowsOf (p : Printer) (c : Placed) : List Row :=
  match c.column.payload with
  | .text segments => Layout.wrap segments c.width c.column.align p.page
  | _ => []

/-- How high the rules beside a row are. -/
def ruleHeight (rows : List (Option Row)) : Nat :=
  (rows.filterMap fun row => row.map Row.height).foldl max 1

/-- The vertical rules of a row. -/
def drawRules (widths : List Nat) (height : Nat) : Program :=
  [.normal, .absolute 0, .vr widths height]

/-- The `j`-th row of all columns. -/
def drawRow (placement : Placement) (ruled : Bool) (border : Nat) (rows : List (List Row))
    (j : Nat) : Program :=
  let widths := placement.columns.map Placed.width
  let cells := rows.map fun column => column[j]?
  areaAt placement.edges
    ++ (if ruled then drawRules widths (ruleHeight cells) else [])
    ++ drawCells border (if ruled then 1 else 0) (widths.zip cells)
    ++ [.vrLf ruled]

/-- How many rows a line has: all of the longest column if text wraps, at least one. -/
def rowCount (wrap : Bool) (rows : List (List Row)) : Nat :=
  if wrap then (rows.map List.length).foldl max 1 else 1

/-- The rows of a line of text; none if no column is left. -/
def drawRows (p : Printer) (placement : Placement) (ruled : Bool) : Program :=
  match placement.columns with
  | [] => []
  | first :: _ =>
    let rows := placement.columns.map (rowsOf p)
    (List.range (rowCount first.column.wrap rows)).flatMap
      (drawRow placement ruled first.column.border.natAbs rows)

/-! ## Things on their own -/

/-- What is printed of a payload that is no text, if anything. -/
def content? : Payload → Option Op
  | .image data => some (.image data)
  | .command s => some (.command s)
  | .barcode symbol =>
    let form := symbol.encode
    if form.isEmpty then none else some (.barcode symbol form)
  | .matrix symbol => symbol.request?.map .qrCode
  | .text _ | .comment _ | .mark _ | .settings => none

def drawContent (placement : Placement) (column : Column) : Program :=
  match content? column.payload with
  | none => []
  | some op =>
    [.normal, .area placement.left placement.width placement.right, .align column.align, op]

/-! ## Lines -/

/-- The event of a line that is a mark. -/
def markEvent : Markup.Mark → Ruling.Event
  | .horizontal => .horizontalRule
  | .cut => .cut

/-- The event of a change of the border. -/
def toggleEvent : Markup.Toggle → Ruling.Event
  | .start => .start
  | .stop => .stop

/-- The events that the first column of a line brings about. -/
def eventsOf (first : Column) : List Ruling.Event :=
  (match first.payload with
    | .mark m => [markEvent m]
    | _ => []) ++ first.toggle.toList.map toggleEvent

/-- Events one after another. -/
def applyEvents (cpl : Nat) (current : Edges) : Ruling → List Ruling.Event → Program × Ruling
  | r, [] => ([], r)
  | r, e :: es =>
    let (drawn, r) := applyEvent cpl current r e
    let (rest, r) := applyEvents cpl current r es
    (drawn ++ rest, r)

/-- A line of text: the edges above it and its rows. The line is the last row from now on. -/
def drawText (p : Printer) (placement : Placement) (r : Ruling) : Program × Ruling :=
  let (drawn, r) := applyEvent p.cpl placement.edges r .text
  (drawn ++ drawRows p placement (r.state = .running), { r with edges := placement.edges })

/-- Draws the columns of a line: the instructions, and the settings after them. -/
def drawLine (p : Printer) (columns : List Column) (s : State) : Program × State :=
  match columns with
  | [] => ([], s)
  | first :: _ =>
    let isText := columns.all Column.isText
    let placement := Layout.place columns p.cpl isText
    let (rows, r) := if isText then drawText p placement s.ruling else ([], s.ruling)
    let (rules, r) := applyEvents p.cpl placement.edges r (eventsOf first)
    let content := if isText || first.fault.isSome then [] else drawContent placement first
    (rows ++ rules ++ content, { s with ruling := r })

/-- Closes a table that the document leaves open. -/
def drawEnd (s : State) : Program × State :=
  let (drawn, r) := applyEvent 0 s.ruling.edges s.ruling .finish
  (drawn, { s with ruling := r })

end Receipt.Page
