import Receipt.Page.Sink

/-!
# Devices

What can be asked of a printer: a method for each thing it does. Instructions are carried out by
calling the method of their name; text and codes go with the code page they are written in.

| here | in `sink` |
| --- | --- |
| `Device` | `CommandSink` |
| `record`, `recording` | `Recorder` |

`carryOut` is `dispatch` of `ir/dispatch`.
-/

namespace Receipt.Page

open Drawing (Op)
open Text (CodePage)

structure Device (σ : Type) where
  «open» (printer : Printer) : Act σ
  close : Act σ
  area (left width right : Nat) : Act σ
  align (n : Nat) : Act σ
  absolute (position : Nat) : Act σ
  relative (offset : Number.Binary) : Act σ
  hr (width : Nat) : Act σ
  vr (widths : List Nat) (height : Nat) : Act σ
  vrStart (widths : List Nat) : Act σ
  vrStop (widths : List Nat) : Act σ
  vrHr (above below : List Nat) (left right : Int) : Act σ
  vrLf (ruled : Bool) : Act σ
  cut : Act σ
  ul : Act σ
  em : Act σ
  iv : Act σ
  wh (scale : Nat) : Act σ
  normal : Act σ
  text (s : List Char) (page : CodePage) : Act σ
  lf : Act σ
  command (s : List Char) : Act σ
  image (data : List Char) : Act σ
  qrCode (symbol : Matrix.Symbol) (page : CodePage) : Act σ
  barcode (symbol : Bars.Symbol) (form : Bars.Form) (page : CodePage) : Act σ

namespace Device

variable {σ τ : Type}

/-- Carries out an instruction by one call. -/
def carryOut (d : Device σ) (page : CodePage) : Sink σ
  | .open printer => d.open printer
  | .close => d.close
  | .area left width right => d.area left width right
  | .align n => d.align n
  | .absolute position => d.absolute position
  | .relative offset => d.relative offset
  | .hr width => d.hr width
  | .vr widths height => d.vr widths height
  | .vrStart widths => d.vrStart widths
  | .vrStop widths => d.vrStop widths
  | .vrHr above below left right => d.vrHr above below left right
  | .vrLf ruled => d.vrLf ruled
  | .cut => d.cut
  | .ul => d.ul
  | .em => d.em
  | .iv => d.iv
  | .wh scale => d.wh scale
  | .normal => d.normal
  | .text s => d.text s page
  | .lf => d.lf
  | .command s => d.command s
  | .image data => d.image data
  | .qrCode symbol => d.qrCode symbol page
  | .barcode symbol form => d.barcode symbol form page

/-- Adds an instruction to a record. -/
def record (op : Op) : Act (Array Op) := fun s => (s.push op, none)

/-- Writes down every call as the instruction it carries out. -/
def recording : Device (Array Op) where
  «open» printer := record (.open printer)
  close := record .close
  area left width right := record (.area left width right)
  align n := record (.align n)
  absolute position := record (.absolute position)
  relative offset := record (.relative offset)
  hr width := record (.hr width)
  vr widths height := record (.vr widths height)
  vrStart widths := record (.vrStart widths)
  vrStop widths := record (.vrStop widths)
  vrHr above below left right := record (.vrHr above below left right)
  vrLf ruled := record (.vrLf ruled)
  cut := record .cut
  ul := record .ul
  em := record .em
  iv := record .iv
  wh scale := record (.wh scale)
  normal := record .normal
  text s _ := record (.text s)
  lf := record .lf
  command s := record (.command s)
  image data := record (.image data)
  qrCode symbol _ := record (.qrCode symbol)
  barcode symbol form _ := record (.barcode symbol form)

/-- A device with something around each call, told the name of the method. -/
def around (f : List Char → Act σ → Act τ) (d : Device σ) : Device τ where
  «open» printer := f "open".toList (d.open printer)
  close := f "close".toList d.close
  area left width right := f "area".toList (d.area left width right)
  align n := f "align".toList (d.align n)
  absolute position := f "absolute".toList (d.absolute position)
  relative offset := f "relative".toList (d.relative offset)
  hr width := f "hr".toList (d.hr width)
  vr widths height := f "vr".toList (d.vr widths height)
  vrStart widths := f "vrstart".toList (d.vrStart widths)
  vrStop widths := f "vrstop".toList (d.vrStop widths)
  vrHr above below left right := f "vrhr".toList (d.vrHr above below left right)
  vrLf ruled := f "vrlf".toList (d.vrLf ruled)
  cut := f "cut".toList d.cut
  ul := f "ul".toList d.ul
  em := f "em".toList d.em
  iv := f "iv".toList d.iv
  wh scale := f "wh".toList (d.wh scale)
  normal := f "normal".toList d.normal
  text s page := f "text".toList (d.text s page)
  lf := f "lf".toList d.lf
  command s := f "command".toList (d.command s)
  image data := f "image".toList (d.image data)
  qrCode symbol page := f "qrcode".toList (d.qrCode symbol page)
  barcode symbol form page := f "barcode".toList (d.barcode symbol form page)

/-- A state, and how many calls there were. -/
structure Counted (σ : Type) where
  calls : Nat := 0
  state : σ
  deriving DecidableEq, Repr

/-- A call, unless it is the `n`-th, counted from zero: that one fails, and does nothing. -/
def unlessNth (n : Nat) (name : List Char) (act : Act σ) : Act (Counted σ) := fun s =>
  if s.calls = n then ({ s with calls := s.calls + 1 }, some (.sink name))
  else
    let (state, fault) := act s.state
    (⟨s.calls + 1, state⟩, fault)

/-- A device that fails at the `n`-th call. -/
def failing (n : Nat) (d : Device σ) : Device (Counted σ) := d.around (unlessNth n)

/-! ## One method for each kind of instruction -/

theorem carryOut_recording (page : CodePage) : recording.carryOut page = recorder := by
  funext op
  cases op <;> rfl

/-- Whatever stands around a call is told the name of the instruction. -/
theorem carryOut_around (f : List Char → Act σ → Act τ) (d : Device σ) (page : CodePage) (op : Op) :
    (d.around f).carryOut page op = f op.name (d.carryOut page op) := by
  cases op <;> rfl

end Device

end Receipt.Page
