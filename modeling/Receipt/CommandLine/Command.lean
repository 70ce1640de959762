import Receipt.CommandLine.Argument
import Receipt.Drawing.Listing
import Receipt.Json.Printer
import Receipt.Page.Document
import Receipt.Wire.Drawing

/-!
# Commands

`transform FILE` prints the instructions of a document, as a listing or as JSON; `barcode SYMBOLOGY
DATA` prints a bar code as JSON. A command works on what its files and the standard input hold.

| here | in `main` |
| --- | --- |
| `Command`, `Transform` | `Commands` |
| `Format` | `Format` |
| `Sources.document` | `read_document` |
| `run`, `drawBarcode`, `Command.run` | `run` |
| `outcome` | `main` |
-/

namespace Receipt.CommandLine

open Text (CodePage)

inductive Format where
  | list
  | json
  deriving DecidableEq, Repr

def Format.ofName? (s : List Char) : Option Format :=
  if s = "list".toList then some .list
  else if s = "json".toList then some .json
  else none

/-- A document and how to print it; what is given here goes before what a file gives. -/
structure Transform where
  file : List Char
  cpl : Option Nat
  page : Option CodePage
  config : Option (List Char)
  format : Format
  deriving DecidableEq, Repr

inductive Command where
  | transform (t : Transform)
  | barcode (symbol : Bars.Symbol)
  deriving DecidableEq, Repr

namespace Command

def transform? (args : List (List Char)) : Option Command := do
  let as ← Argument.scan ⟨["cpl", "encoding", "config", "format"], []⟩ args
  let [file] := values as | none
  return .transform {
    file := ← path? file
    cpl := ← option? as "cpl" natural?
    page := ← option? as "encoding" CodePage.ofText?
    config := ← option? as "config" path?
    format := (← option? as "format" Format.ofName?).getD .list }

def barcode? (args : List (List Char)) : Option Command := do
  let as ← Argument.scan ⟨["module", "height"], ["hri", "quiet-zone"]⟩ args
  let [symbology, data] := values as | none
  return .barcode {
    data
    symbology := ← Symbology.ofText? symbology
    module := (← option? as "module" small?).getD 2
    height := (← option? as "height" small?).getD 72
    hri := ← flag? as "hri"
    quietZone := ← flag? as "quiet-zone" }

/-- The command that arguments ask for. -/
def ofArguments? : List (List Char) → Option Command
  | [] => none
  | name :: args =>
    if name = "transform".toList then transform? args
    else if name = "barcode".toList then barcode? args
    else none

end Command

/-! ## Carrying out -/

/-- What a command may read. -/
structure Sources where
  input : List Char
  file? : List Char → Option (List Char)

/-- The contents of a file. -/
def Sources.read (s : Sources) (name : List Char) : Except Fault (List Char) :=
  match s.file? name with
  | some content => .ok content
  | none => .error .noFile

/-- The document itself; a hyphen stands for the standard input. -/
def Sources.document (s : Sources) (name : List Char) : Except Fault (List Char) :=
  if name = ['-'] then .ok s.input else s.read name

namespace Transform

/-- The settings that a file gives. -/
def configured (t : Transform) (s : Sources) : Except Fault Printer :=
  match t.config with
  | none => .ok .wide
  | some name => (s.read name).bind Printer.ofText

/-- The settings to print with. -/
def printer (t : Transform) (s : Sources) : Except Fault Printer := do
  let p ← t.configured s
  Printer.checked { p with cpl := t.cpl.getD p.cpl, page := t.page.getD p.page }

def write : Format → Drawing.Program → List Char
  | .list, p => Drawing.Program.listing p
  | .json, p => (Drawing.Program.toJson p).pretty 0 ++ ['\n']

def run (t : Transform) (s : Sources) : Except Fault (List Char) := do
  let p ← t.printer s
  let document ← s.document t.file
  return write t.format (Page.program p document)

end Transform

/-- A bar code as JSON; a QR code or data that was refused is a fault. -/
def drawBarcode (symbol : Bars.Symbol) : Except Fault (List Char) :=
  if symbol.symbology = .qrCode then .error .noBars
  else if symbol.encode.isEmpty then .error (.badData symbol.data symbol.symbology.keyword)
  else .ok (symbol.encode.toJson.pretty 0 ++ ['\n'])

def Command.run : Command → Sources → Except Fault (List Char)
  | .transform t, s => t.run s
  | .barcode symbol, _ => drawBarcode symbol

/-- The files that a command may read. -/
def Command.files : Command → List (List Char)
  | .transform t => t.config.toList ++ if t.file = ['-'] then [] else [t.file]
  | .barcode _ => []

/-- Whether a command reads the standard input. -/
def Command.readsInput : Command → Bool
  | .transform t => t.file = ['-']
  | .barcode _ => false

/-- How a run ends: its exit code, what it prints and what it complains about. -/
structure Outcome where
  exit : Nat
  output : List Char := []
  complaint : Option (List Char) := none
  deriving DecidableEq, Repr

/-- A fault ends a run with code 1, a command line that asks for nothing with code 2. -/
def outcome (c : Option Command) (s : Sources) : Outcome :=
  match c with
  | none => { exit := 2 }
  | some c =>
    match c.run s with
    | .ok output => { exit := 0, output }
    | .error f => { exit := 1, complaint := some ("Error: ".toList ++ f.message) }

end Receipt.CommandLine
