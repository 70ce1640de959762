import Receipt.Bars.Symbol
import Receipt.Json.Shape
import Receipt.Matrix

/-!
# Codes as JSON

The forms are those of the derived instances of `BarcodeSymbol`, `Checksum` and `BarcodeForm` in
`barcode`, and of `QrSymbol` and `QrRequest` in `barcode/qr`.
-/

namespace Receipt

open Json (nat? needed? optional?)

namespace Bars

def Symbol.toJson (s : Symbol) : Json :=
  .record
    [("data", .string s.data), ("symbology", .string s.symbology.keyword),
      ("module", .nat s.module), ("height", .nat s.height), ("hri", .bool s.hri),
      ("quiet_zone", .bool s.quietZone)]

def Symbol.ofJson? (j : Json) : Option Symbol := do
  let [data, symbology, module, height, hri, quietZone] ←
    j.fields? false ["data", "symbology", "module", "height", "hri", "quiet_zone"] | none
  return {
    data := ← needed? Json.text? data
    symbology := ← needed? (Json.choice? Symbology.ofKeyword?) symbology
    module := ← needed? (nat? 32) module
    height := ← needed? (nat? 32) height
    hri := ← needed? Json.bool? hri
    quietZone := ← needed? Json.bool? quietZone }

def Check.toJson : Check → Json
  | .digit value => .record [("kind", .string "digit".toList), ("value", .nat value)]
  | .code93 c k => .record [("kind", .string "code93".toList), ("c", .nat c), ("k", .nat k)]
  | .mod103 value => .record [("kind", .string "mod103".toList), ("value", .nat value)]

/-- A check that is a single number. -/
def Check.ofValue? (f : Nat → Check) (j : Json) : Option Check := do
  let [value] ← j.fields? false ["value"] | none
  return f (← needed? (nat? 8) value)

def Check.ofPair? (j : Json) : Option Check := do
  let [c, k] ← j.fields? false ["c", "k"] | none
  return .code93 (← needed? (nat? 8) c) (← needed? (nat? 8) k)

def Check.readers : List (List Char × (Json → Option Check)) :=
  [("digit".toList, ofValue? .digit), ("code93".toList, ofPair?),
    ("mod103".toList, ofValue? .mod103)]

def Check.ofJson? (j : Json) : Option Check := do
  let (kind, rest) ← j.tagged? "kind"
  let read ← readers.lookup kind
  read rest

def Form.toJson (f : Form) : Json :=
  .record
    [("widths", .list .nat f.widths), ("length", .nat f.length), ("height", .nat f.height),
      ("hri", .maybe .string f.hri), ("text", .string f.text), ("check", .maybe Check.toJson f.check)]

def Form.ofJson? (j : Json) : Option Form := do
  let [widths, length, height, hri, text, check] ←
    j.fields? false ["widths", "length", "height", "hri", "text", "check"] | none
  return {
    widths := ← needed? (Json.list? (nat? 32)) widths
    length := ← needed? (nat? 32) length
    height := ← needed? (nat? 32) height
    hri := ← optional? Json.text? hri
    text := ← needed? Json.text? text
    check := ← optional? Check.ofJson? check }

end Bars

namespace Matrix

def Symbol.toJson (s : Symbol) : Json :=
  .record
    [("data", .string s.data), ("level", .string s.level.letter), ("cell", .nat s.cell),
      ("quiet_zone", .bool s.quietZone)]

def Symbol.ofJson? (j : Json) : Option Symbol := do
  let [data, level, cell, quietZone] ←
    j.fields? false ["data", "level", "cell", "quiet_zone"] | none
  return {
    data := ← needed? Json.text? data
    level := ← needed? (Json.choice? Level.ofLetter?) level
    cell := ← needed? (nat? 32) cell
    quietZone := ← needed? Json.bool? quietZone }

end Matrix

end Receipt
