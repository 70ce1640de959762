import Receipt.Drawing.Op
import Receipt.Number.Decimal
import Receipt.Text.Quoted

/-!
# Listings

A program as a person reads it: one instruction on each line, its name first and its details in
parentheses. Strings are quoted, so that no content can be taken for an instruction.

| here | in `ir/ops` |
| --- | --- |
| `Op.details`, `Op.line` | `Op::fmt` |
| `Program.listing` | `Program::fmt` |
-/

namespace Receipt.Drawing

def showNat (n : Nat) : List Char := Nat.toDigits 10 n

def showInt (i : Int) : List Char := (if i < 0 then ['-'] else []) ++ showNat i.natAbs

/-- Offsets have as many decimals as they need, and never an exponent. -/
def offsetStyle : Number.Style where
  whole? := none
  zeros? := none
  wholeEnd := []
  tie := .up

/-- Items with a comma and a space between them. -/
def commas : List (List Char) → List Char
  | [] => []
  | [s] => s
  | s :: r => s ++ ", ".toList ++ commas r

def showList (ns : List Nat) : List Char := '[' :: commas (ns.map showNat) ++ [']']

/-- Bytes of a text in UTF-8. -/
def byteCount (s : List Char) : Nat := (s.map Char.utf8Size).foldr (· + ·) 0

/-- The details of an instruction, where it has any. -/
def Op.details : Op → List (List Char)
  | .open p => ["cpl=".toList ++ showNat p.cpl, "encoding=".toList ++ p.page.name]
  | .area left width right => [showNat left, showNat width, showNat right]
  | .align n | .absolute n | .hr n | .wh n => [showNat n]
  | .relative offset => [offsetStyle.render offset]
  | .vr widths height => [showList widths, showNat height]
  | .vrStart widths | .vrStop widths => [showList widths]
  | .vrHr above below left right => [showList above, showList below, showInt left, showInt right]
  | .vrLf ruled => [(if ruled then "true" else "false").toList]
  | .text s | .command s => [Text.quoted s]
  | .image data => [showNat (byteCount data) ++ " bytes".toList]
  | .qrCode symbol =>
    [Text.quoted symbol.data, symbol.level.letter.map Char.toUpper, showNat symbol.cell]
  | .barcode symbol form =>
    [symbol.symbology.keyword, Text.quoted form.text, showNat form.length ++ " modules".toList]
  | .close | .ul | .em | .iv | .normal | .lf | .cut => []

/-- An instruction as listed. -/
def Op.line (op : Op) : List Char :=
  op.name ++ if op.details.isEmpty then [] else '(' :: commas op.details ++ [')']

/-- A program as listed, each instruction on its line. -/
def Program.listing (p : Program) : List Char := p.flatMap fun op => op.line ++ ['\n']

end Receipt.Drawing
