import Receipt.Layout.Wrap
import Receipt.Wire.Codes

/-!
# Columns, settings and rows as JSON

The forms are those of the derived instances of `ParsedColumn`, `ParserState` and what they hold in
`markup/types`, of `RuleMachine` in `layout/rules` and of `Row` in `layout/wrap`.
-/

namespace Receipt

open Json (nat? needed? optional? bare? carrying?)

namespace Ruling

def State.keyword : State → List Char
  | .waiting => "waiting".toList
  | .ready => "ready".toList
  | .running => "running".toList
  | .horizontal => "horizontal".toList

def State.ofKeyword? (s : List Char) : Option State :=
  [State.waiting, .ready, .running, .horizontal].find? (·.keyword = s)

def Edges.toJson (e : Edges) : Json :=
  .record
    [("left", .nat e.left), ("width", .nat e.width), ("right", .nat e.right),
      ("widths", .list .nat e.widths)]

def Edges.ofJson? (j : Json) : Option Edges := do
  let [left, width, right, widths] ←
    j.fields? false ["left", "width", "right", "widths"] | none
  return {
    left := ← needed? (nat? 64) left
    width := ← needed? (nat? 64) width
    right := ← needed? (nat? 64) right
    widths := ← needed? (Json.list? (nat? 64)) widths }

end Ruling

namespace Markup

def Alignment.keyword : Alignment → List Char
  | .left => "left".toList
  | .center => "center".toList
  | .right => "right".toList

def Alignment.ofKeyword? (s : List Char) : Option Alignment :=
  [Alignment.left, .center, .right].find? (·.keyword = s)

def CodeStyle.toJson (o : CodeStyle) : Json :=
  .record
    [("symbology", .string o.symbology.keyword), ("module", .nat o.module),
      ("height", .nat o.height), ("hri", .bool o.hri), ("cell", .nat o.cell),
      ("level", .string o.level.letter), ("quiet_zone", .bool o.quietZone)]

def Segment.toJson : Segment → Json
  | .text s => .record [("Text", .string s)]
  | .underline => .string "Underline".toList
  | .emphasis => .string "Emphasis".toList
  | .invert => .string "Invert".toList
  | .scale n => .record [("Scale", .nat n)]
  | .lineBreak => .string "Break".toList

def Segment.readers : List (List Char × (Option Json → Option Segment)) :=
  [("Text".toList, carrying? Json.text? .text),
    ("Underline".toList, bare? .underline),
    ("Emphasis".toList, bare? .emphasis),
    ("Invert".toList, bare? .invert),
    ("Scale".toList, carrying? (nat? 8) .scale),
    ("Break".toList, bare? .lineBreak)]

def Segment.ofJson? (j : Json) : Option Segment := j.cases? Segment.readers

def Mark.name : Mark → List Char
  | .horizontal => "Horizontal".toList
  | .cut => "Cut".toList

def Mark.ofName? (s : List Char) : Option Mark := [Mark.horizontal, .cut].find? (·.name = s)

def Toggle.name : Toggle → List Char
  | .start => "Start".toList
  | .stop => "Stop".toList

def Toggle.ofName? (s : List Char) : Option Toggle := [Toggle.start, .stop].find? (·.name = s)

def Payload.toJson : Payload → Json
  | .text segments => .record [("Text", .list Segment.toJson segments)]
  | .barcode symbol => .record [("Barcode", symbol.toJson)]
  | .matrix symbol => .record [("Qr", symbol.toJson)]
  | .image data => .record [("Image", .string data)]
  | .command s => .record [("Command", .string s)]
  | .comment s => .record [("Comment", .string s)]
  | .mark m => .record [("Rule", .string m.name)]
  | .settings => .string "Settings".toList

def Payload.readers : List (List Char × (Option Json → Option Payload)) :=
  [("Text".toList, carrying? (Json.list? Segment.ofJson?) .text),
    ("Barcode".toList, carrying? Bars.Symbol.ofJson? .barcode),
    ("Qr".toList, carrying? Matrix.Symbol.ofJson? .matrix),
    ("Image".toList, carrying? Json.text? .image),
    ("Command".toList, carrying? Json.text? .command),
    ("Comment".toList, carrying? Json.text? .comment),
    ("Rule".toList, carrying? (Json.choice? Mark.ofName?) .mark),
    ("Settings".toList, bare? .settings)]

def Payload.ofJson? (j : Json) : Option Payload := j.cases? Payload.readers

def Column.toJson (c : Column) : Json :=
  .record
    [("align", .nat c.align), ("wrap", .bool c.wrap), ("border", .int c.border),
      ("width", .int c.width), ("alignment", .string c.alignment.keyword),
      ("payload", c.payload.toJson), ("vr", .maybe (fun t => .string t.name) c.toggle),
      ("error", .maybe .string c.fault)]

def Column.ofJson? (j : Json) : Option Column := do
  let [align, wrap, border, width, alignment, payload, toggle, fault] ←
    j.fields? false ["align", "wrap", "border", "width", "alignment", "payload", "vr", "error"]
    | none
  return {
    align := ← needed? (nat? 8) align
    wrap := ← needed? Json.bool? wrap
    border := ← needed? (Json.signed? 32) border
    width := ← needed? (Json.signed? 32) width
    alignment := ← needed? (Json.choice? Alignment.ofKeyword?) alignment
    payload := ← needed? Payload.ofJson? payload
    toggle := ← optional? (Json.choice? Toggle.ofName?) toggle
    fault := ← optional? Json.text? fault }

end Markup

namespace Layout

def Decoration.toJson (d : Decoration) : Json :=
  .record
    [("underline", .bool d.underline), ("emphasis", .bool d.emphasis), ("invert", .bool d.invert),
      ("scale", .nat d.scale)]

def Run.toJson (r : Run) : Json :=
  .record [("decoration", r.decoration.toJson), ("text", .string r.text)]

def Row.toJson (r : Row) : Json :=
  .record [("runs", .list Run.toJson r.runs), ("margin", .real r.margin), ("height", .nat r.height)]

end Layout

end Receipt
