import Receipt.Printer

/-!
# Faults

What can go wrong outside the markup. Markup itself never fails: a column at fault is marked and
left empty, data that a code cannot carry is not drawn.

| here | in `error` |
| --- | --- |
| `Fault` | `ReceiptError` |

`Printer.checked` is `validate` of `printer/config`.
-/

namespace Receipt

inductive Fault where
  /-- The printer was still in use after so many milliseconds. -/
  | busy (timeout : Nat)
  /-- The sink failed at an instruction. -/
  | sink (name : List Char)
  | unfit (d : Printer.Defect)
  /-- No code page has this name. -/
  | unknownPage (name : List Char)
  /-- A QR code was asked for where only bars are drawn. -/
  | noBars
  /-- A symbology cannot carry the data. -/
  | badData (data symbology : List Char)
  /-- JSON text that does not say what it should -/
  | json
  /-- There is no such file. -/
  | noFile
  deriving DecidableEq, Repr

namespace Fault

/-- Why settings are unfit. -/
def defectMessage : Printer.Defect → List Char
  | .noCells => "cpl must be at least 1".toList
  | .noDots => "char_width must be at least 1".toList

/-- A configuration fault and its reason. -/
def config (reason : List Char) : List Char := "Config error: ".toList ++ reason

/-- What a person is told. -/
def message : Fault → List Char
  | busy timeout =>
    "Renderer busy: lock not acquired within ".toList ++ Nat.toDigits 10 timeout ++ " ms".toList
  | sink name => "Sink error: failed ".toList ++ name
  | unfit d => config (defectMessage d)
  | unknownPage name => config ("Unknown encoding '".toList ++ name ++ ['\''])
  | noBars => config "QR codes are drawn by the renderer; use a 1D symbology".toList
  | badData data symbology =>
    config ('\'' :: data ++ "' is not valid ".toList ++ symbology ++ " data".toList)
  | json => "JSON error".toList
  | noFile => "I/O error: No such file or directory (os error 2)".toList

end Fault

/-- Settings that are fit for use. -/
def Printer.checked (p : Printer) : Except Fault Printer :=
  match p.defect? with
  | none => .ok p
  | some d => .error (.unfit d)

end Receipt
