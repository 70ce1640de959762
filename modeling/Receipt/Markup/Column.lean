import Receipt.Bars.Symbol
import Receipt.Matrix
import Receipt.Printer
import Receipt.Ruling

/-!
# Columns and settings

What a line of markup is made of, and what one line leaves behind for the next: the settings in
force and the table in progress.

| here | in `markup/types` |
| --- | --- |
| `Alignment`, `halves` | `LineAlign`, `factor` |
| `CodeStyle` | `CodeOptions` |
| `State` | `ParserState` |
| `State.initial`, `State.isRuled` | `new`, `is_ruled` |
| `Segment` | `Segment` |
| `Mark` | `RuleMarker` |
| `Toggle` | `VrMarker` |
| `Payload` | `Payload` |
| `Column` | `ParsedColumn` |
-/

namespace Receipt.Markup

/-- Where a line narrower than the paper stands. -/
inductive Alignment where
  | left | center | right
  deriving DecidableEq, Repr

/-- The share of the free cells in front of the line, in halves. -/
def Alignment.halves : Alignment → Nat
  | left => 0
  | center => 1
  | right => 2

/-- How codes are drawn. -/
structure CodeStyle where
  symbology : Symbology := .code128
  /-- Dots across the narrowest bar, 2 to 4 -/
  module : Nat := 2
  /-- Dots along a bar, 24 to 240 -/
  height : Nat := 72
  hri : Bool := false
  /-- Dots across a cell of a QR code, 3 to 8 -/
  cell : Nat := 3
  level : Matrix.Level := .l
  quietZone : Bool := false
  deriving DecidableEq, Repr

/-- What holds from line to line. -/
structure State where
  /-- Whether text goes on in further rows -/
  wrap : Bool := true
  /-- Blank cells between columns; negative for rules -/
  border : Int := 1
  /-- The width of each column, negative for what is left over; no widths, all columns alike -/
  widths : List Int := []
  alignment : Alignment := .center
  codes : CodeStyle := {}
  ruling : Ruling := {}
  deriving DecidableEq, Repr

/-- The settings a document starts with. -/
def State.initial (p : Printer) : State := { codes := { quietZone := p.quietZone } }

/-- Whether columns are divided by rules. -/
def State.isRuled (s : State) : Bool := s.border < 0

/-- Cells that borders take on a line of so many columns: a rule at either side of each column, or
blanks between columns. -/
def borderCells (border : Int) (count : Nat) : Int :=
  if border < 0 then count + 1 else (count - 1) * border

/-- A piece of decorated text. -/
inductive Segment where
  | text (s : List Char)
  /-- Underline on or off -/
  | underline
  /-- Emphasis on or off -/
  | emphasis
  /-- Inversion on or off -/
  | invert
  /-- So many carets -/
  | scale (n : Nat)
  /-- On to a new row -/
  | lineBreak
  deriving DecidableEq, Repr

/-- A line that is a mark of its own. -/
inductive Mark where
  | horizontal
  | cut
  deriving DecidableEq, Repr

/-- What a change of the border asks of the ruling. -/
inductive Toggle where
  | start
  | stop
  deriving DecidableEq, Repr

/-- What a column carries. -/
inductive Payload where
  | text (segments : List Segment)
  | barcode (symbol : Bars.Symbol)
  | matrix (symbol : Matrix.Symbol)
  /-- An image in base64 -/
  | image (data : List Char)
  /-- A command to the device -/
  | command (s : List Char)
  | comment (s : List Char)
  | mark (m : Mark)
  /-- A block with nothing to print -/
  | settings
  deriving DecidableEq, Repr

def Payload.isText : Payload → Bool
  | text _ => true
  | _ => false

/-- A column of a line, with the settings in force for it. -/
structure Column where
  /-- 0 at the left edge of the column, 1 in the middle, 2 at the right edge -/
  align : Nat
  wrap : Bool
  border : Int
  /-- Cells; negative for what is left over, 0 for a column that is not printed -/
  width : Int
  alignment : Alignment
  payload : Payload
  toggle : Option Toggle := none
  /-- The text at fault -/
  fault : Option (List Char) := none
  deriving DecidableEq, Repr

def Column.isText (c : Column) : Bool := c.payload.isText

end Receipt.Markup
