import Receipt.Bars.Symbol
import Receipt.Matrix
import Receipt.Number.Binary
import Receipt.Printer

/-!
# Drawing instructions

What a printer is told to do, one thing at a time. Positions and widths are cells.

| here | in `ir/ops` |
| --- | --- |
| `Op`, `Program` | `Op`, `Program` |
| `Program.text` | `Program::text` |
-/

namespace Receipt.Drawing

inductive Op where
  /-- The start of a document -/
  | «open» (printer : Printer)
  /-- The end of a document -/
  | close
  /-- The part of the line that what follows is printed in -/
  | area (left width right : Nat)
  /-- How what follows stands in the area: 0 left, 1 in the middle, 2 right -/
  | align (n : Nat)
  /-- On to a cell of the area -/
  | absolute (position : Nat)
  /-- On by so many cells -/
  | relative (offset : Number.Binary)
  /-- A horizontal rule -/
  | hr (width : Nat)
  /-- The vertical rules of a row -/
  | vr (widths : List Nat) (height : Nat)
  /-- The top edge of a table -/
  | vrStart (widths : List Nat)
  /-- The bottom edge of a table -/
  | vrStop (widths : List Nat)
  /-- A rule between two rows, and how far the edges of the lower row are off those of the upper -/
  | vrHr (above below : List Nat) (left right : Int)
  /-- The end of a row, between rules or not -/
  | vrLf (ruled : Bool)
  /-- Underline -/
  | ul
  /-- Emphasis -/
  | em
  /-- Inversion -/
  | iv
  /-- Scale -/
  | wh (scale : Nat)
  /-- No decoration -/
  | normal
  | text (s : List Char)
  /-- On to the next line -/
  | lf
  | cut
  | command (s : List Char)
  /-- An image in base64 -/
  | image (data : List Char)
  | qrCode (symbol : Matrix.Symbol)
  | barcode (symbol : Bars.Symbol) (form : Bars.Form)
  deriving DecidableEq, Repr

/-- The name an instruction goes by. -/
def Op.name : Op → List Char
  | .open _ => "open".toList
  | .close => "close".toList
  | .area .. => "area".toList
  | .align _ => "align".toList
  | .absolute _ => "absolute".toList
  | .relative _ => "relative".toList
  | .hr _ => "hr".toList
  | .vr .. => "vr".toList
  | .vrStart _ => "vrstart".toList
  | .vrStop _ => "vrstop".toList
  | .vrHr .. => "vrhr".toList
  | .vrLf _ => "vrlf".toList
  | .ul => "ul".toList
  | .em => "em".toList
  | .iv => "iv".toList
  | .wh _ => "wh".toList
  | .normal => "normal".toList
  | .text _ => "text".toList
  | .lf => "lf".toList
  | .cut => "cut".toList
  | .command _ => "command".toList
  | .image _ => "image".toList
  | .qrCode _ => "qrcode".toList
  | .barcode .. => "barcode".toList

/-- Instructions in the order they are carried out. -/
abbrev Program := List Op

/-- The text an instruction prints, if it prints text. -/
def Op.text? : Op → Option (List Char)
  | .text s => some s
  | _ => none

/-- All the text of a program. -/
def Program.text (p : Program) : List Char := (p.filterMap Op.text?).flatten

end Receipt.Drawing
