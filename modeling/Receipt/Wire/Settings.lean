import Receipt.Fault
import Receipt.Json.Reader
import Receipt.Json.Shape

/-!
# Printer settings as JSON

Settings that are not given take their values for 80 mm paper.

This is `from_json` of `PrinterConfig` in `printer/config`, up to `validate`.
-/

namespace Receipt.Printer

open Json (nat? default?)

def toJson (p : Printer) : Json :=
  .record
    [("cpl", .nat p.cpl), ("char_width", .nat p.charWidth), ("spacing", .bool p.spacing),
      ("encoding", .string p.page.name), ("margin", .nat p.margin),
      ("margin_right", .nat p.marginRight), ("quiet_zone", .bool p.quietZone),
      ("lock_timeout_ms", .nat p.lockTimeout)]

def fieldNames : List String :=
  ["cpl", "char_width", "spacing", "encoding", "margin", "margin_right", "quiet_zone",
    "lock_timeout_ms"]

def ofJson? (j : Json) : Option Printer := do
  let [cpl, charWidth, spacing, page, margin, marginRight, quietZone, lockTimeout] ←
    j.fields? true fieldNames | none
  return {
    cpl := ← default? wide.cpl (nat? 64) cpl
    charWidth := ← default? wide.charWidth (nat? 64) charWidth
    spacing := ← default? wide.spacing Json.bool? spacing
    page := ← default? wide.page (Json.choice? Text.CodePage.ofName?) page
    margin := ← default? wide.margin (nat? 64) margin
    marginRight := ← default? wide.marginRight (nat? 64) marginRight
    quietZone := ← default? wide.quietZone Json.bool? quietZone
    lockTimeout := ← default? wide.lockTimeout (nat? 64) lockTimeout }

/-- Settings given as JSON text, fit for use. -/
def ofText (s : List Char) : Except Fault Printer :=
  match (Json.read? s).bind ofJson? with
  | some p => p.checked
  | none => .error .json

end Receipt.Printer
