import Receipt.Page.Line
import Receipt.Page.Sink
import Receipt.Text.Composed

/-!
# Documents

A document is opened, its lines are read and printed in turn, a table left open is closed, and the
document is closed. Nothing is carried over from one document to the next but what the sink keeps.

| here | in `transform` |
| --- | --- |
| `splitLines`, `dropMark`, `linesOf` | `split_lines` |
| `printLines`, `print` | `transform` |

`printWhenFree` is `acquire` and `transform` of `transform/renderer`.
-/

namespace Receipt.Page

open Markup (State)

/-! ## Lines -/

/-- The first line, and the lines after each line end: LF, CR or both together. -/
def splitLines : List Char → List Char × List (List Char)
  | [] => ([], [])
  | '\r' :: '\n' :: r | '\n' :: r | '\r' :: r =>
    let (line, more) := splitLines r
    ([], line :: more)
  | c :: r =>
    let (line, more) := splitLines r
    (c :: line, more)

/-- A document without the byte order mark in front of it. -/
def dropMark : List Char → List Char
  | '\ufeff' :: r => r
  | s => s

/-- The lines of a document, in composed form; there is always one. -/
def linesOf (document : List Char) : List (List Char) :=
  let (line, more) := splitLines (Text.composed (dropMark document))
  line :: more

/-! ## Printing -/

variable {σ : Type}

/-- Reads a line and draws it. -/
def drawNext (p : Printer) (line : List Char) (s : State) : Drawing.Program × State :=
  let (columns, s) := Markup.readLine line s
  drawLine p columns s

/-- Prints lines in turn, and closes what they leave open. -/
def printLines (k : Sink σ) (p : Printer) : List (List Char) → State → Act σ
  | [], s => k.play (drawEnd s).1
  | line :: r, s =>
    let (drawn, s) := drawNext p line s
    (k.play drawn).andThen (printLines k p r s)

/-- Prints a document. -/
def print (k : Sink σ) (p : Printer) (document : List Char) : Act σ :=
  (k (.open p)).andThen
    ((printLines k p (linesOf document) (.initial p)).andThen (k .close))

/-- The instructions of a document. -/
def program (p : Printer) (document : List Char) : Drawing.Program :=
  (print recorder p document #[]).1.toList

/-- Prints documents in turn: the sink after each of them, up to one that fails. -/
def printAll (k : Sink σ) (p : Printer) : List (List Char) → σ → List (σ × Option Fault)
  | [], _ => []
  | document :: r, s =>
    match print k p document s with
    | (s, none) => (s, none) :: printAll k p r s
    | (s, some f) => [(s, some f)]

/-- Who has the sink. -/
inductive Hold where
  | free
  /-- Somebody else, for longer than anyone waits -/
  | taken
  deriving DecidableEq, Repr

/-- Prints a document once the sink is free, and gives up if it stays taken. -/
def printWhenFree (k : Sink σ) (p : Printer) (document : List Char) : Hold → Act σ
  | .free => print k p document
  | .taken => fun s => (s, some (.busy p.lockTimeout))

end Receipt.Page
