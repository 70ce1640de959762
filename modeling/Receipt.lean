import Receipt.Main
import Receipt.Proofs.Page.Bracketing
import Receipt.Wire.Markup
import Receipt.Proofs.Layout.Placement
import Receipt.Proofs.Number.Nearest
import Receipt.Proofs.Number.Halves
import Receipt.Proofs.Number.Tenths
import Receipt.Proofs.Layout.Wrap
import Receipt.Proofs.Page.Rows
import Receipt.Proofs.Page.Paper
import Receipt.Proofs.Page.InPlace
import Receipt.Proofs.Markup.Escape
import Receipt.Proofs.Markup.Segments
import Receipt.Proofs.Markup.Passes
import Receipt.Proofs.Markup.Writer
import Receipt.Proofs.Page.Controls
import Receipt.Proofs.Markup.Interrupted
import Receipt.Proofs.Bars.Code128
import Receipt.Proofs.Page.Faults
import Receipt.Proofs.Page.Edges
import Receipt.Proofs.Page.Failing
import Receipt.Proofs.Markup.Member
import Receipt.Proofs.Bars.Code93
import Receipt.Proofs.Bars.Elements
import Receipt.Proofs.Bars.TwoWidth
import Receipt.Proofs.Bars.CodeSets
import Receipt.Proofs.Bars.Scale
import Receipt.Proofs.Bars.Retail
import Receipt.Proofs.Markup.Settings
import Receipt.Proofs.Page.Settings
import Receipt.Proofs.Json.Layouts
import Receipt.Proofs.Page.Batch
import Receipt.Proofs.Page.Inert
import Receipt.Proofs.Json.Numerals
import Receipt.Proofs.Json.Shape
import Receipt.Proofs.Wire.Codes
import Receipt.Proofs.Wire.Drawing
import Receipt.Proofs.Page.Offsets
import Receipt.Proofs.Wire.Replay
import Receipt.Proofs.Layout.Division
import Receipt.Proofs.Layout.Greedy
import Receipt.Proofs.Page.BlockWidth
import Receipt.Proofs.Layout.CellByCell
import Receipt.Proofs.Page.Columns
import Receipt.Proofs.Page.TieIn
import Receipt.Proofs.Markup.Blocks
import Receipt.Proofs.Page.Splitting
import Receipt.Proofs.Page.LineEnds
import Receipt.Proofs.Markup.Image
import Receipt.Proofs.Drawing.Listing
import Receipt.Proofs.Text.Cells
