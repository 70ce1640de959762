import Receipt.Drawing.Op
import Receipt.Wire.Codes
import Receipt.Wire.Settings

/-!
# Programs as JSON

The forms are those of the derived instances of `Op` and `Program` in `ir/ops`.
-/

namespace Receipt.Drawing

open Json (nat? needed? bare? carrying?)

/-- A case that carries a value: an object with its name as the only member. -/
def tagged (name : String) (content : Json) : Json := .record [(name, content)]

def naturals (ns : List Nat) : Json := .list .nat ns

def naturals? (j : Json) : Option (List Nat) := j.list? (nat? 64)

def Op.toJson : Op → Json
  | .open p => tagged "open" p.toJson
  | .close => .string "close".toList
  | .area left width right =>
    tagged "area" (.record [("left", .nat left), ("width", .nat width), ("right", .nat right)])
  | .align n => tagged "align" (.nat n)
  | .absolute n => tagged "absolute" (.nat n)
  | .relative offset => tagged "relative" (.real offset)
  | .hr n => tagged "hr" (.nat n)
  | .vr widths height =>
    tagged "vr" (.record [("widths", naturals widths), ("height", .nat height)])
  | .vrStart widths => tagged "vr_start" (naturals widths)
  | .vrStop widths => tagged "vr_stop" (naturals widths)
  | .vrHr above below left right =>
    tagged "vr_hr"
      (.record
        [("above", naturals above), ("below", naturals below), ("dl", .int left), ("dr", .int right)])
  | .vrLf ruled => tagged "vr_lf" (.bool ruled)
  | .ul => .string "ul".toList
  | .em => .string "em".toList
  | .iv => .string "iv".toList
  | .wh n => tagged "wh" (.nat n)
  | .normal => .string "normal".toList
  | .text s => tagged "text" (.string s)
  | .lf => .string "lf".toList
  | .cut => .string "cut".toList
  | .command s => tagged "command" (.string s)
  | .image data => tagged "image" (.string data)
  | .qrCode symbol => tagged "qr_code" symbol.toJson
  | .barcode symbol form =>
    tagged "barcode" (.record [("symbol", symbol.toJson), ("form", form.toJson)])

def readArea? (j : Json) : Option Op := do
  let [left, width, right] ← j.fields? false ["left", "width", "right"] | none
  return .area (← needed? (nat? 64) left) (← needed? (nat? 64) width) (← needed? (nat? 64) right)

def readVr? (j : Json) : Option Op := do
  let [widths, height] ← j.fields? false ["widths", "height"] | none
  return .vr (← needed? naturals? widths) (← needed? (nat? 8) height)

def readVrHr? (j : Json) : Option Op := do
  let [above, below, left, right] ← j.fields? false ["above", "below", "dl", "dr"] | none
  return .vrHr (← needed? naturals? above) (← needed? naturals? below)
    (← needed? (Json.signed? 64) left) (← needed? (Json.signed? 64) right)

def readBarcode? (j : Json) : Option Op := do
  let [symbol, form] ← j.fields? false ["symbol", "form"] | none
  return .barcode (← needed? Bars.Symbol.ofJson? symbol) (← needed? Bars.Form.ofJson? form)

def Op.readers : List (List Char × (Option Json → Option Op)) :=
  [("open".toList, carrying? Printer.ofJson? .open),
    ("close".toList, bare? .close),
    ("area".toList, carrying? readArea? id),
    ("align".toList, carrying? (nat? 8) .align),
    ("absolute".toList, carrying? (nat? 64) .absolute),
    ("relative".toList, carrying? Json.binary? .relative),
    ("hr".toList, carrying? (nat? 64) .hr),
    ("vr".toList, carrying? readVr? id),
    ("vr_start".toList, carrying? naturals? .vrStart),
    ("vr_stop".toList, carrying? naturals? .vrStop),
    ("vr_hr".toList, carrying? readVrHr? id),
    ("vr_lf".toList, carrying? Json.bool? .vrLf),
    ("ul".toList, bare? .ul),
    ("em".toList, bare? .em),
    ("iv".toList, bare? .iv),
    ("wh".toList, carrying? (nat? 8) .wh),
    ("normal".toList, bare? .normal),
    ("text".toList, carrying? Json.text? .text),
    ("lf".toList, bare? .lf),
    ("cut".toList, bare? .cut),
    ("command".toList, carrying? Json.text? .command),
    ("image".toList, carrying? Json.text? .image),
    ("qr_code".toList, carrying? Matrix.Symbol.ofJson? .qrCode),
    ("barcode".toList, carrying? readBarcode? id)]

def Op.ofJson? (j : Json) : Option Op := j.cases? Op.readers

def Program.toJson (p : Program) : Json := .record [("ops", .list Op.toJson p)]

def Program.ofJson? (j : Json) : Option Program := do
  let [ops] ← j.fields? false ["ops"] | none
  needed? (Json.list? Op.ofJson?) ops

end Receipt.Drawing
