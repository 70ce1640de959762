import Receipt.Proofs.Layout.Wrap
import Receipt.Proofs.Markup.Reading
import Receipt.Proofs.Page.Line
import Receipt.Proofs.Page.Session

/-!
# Reading rows back

A row of text is what comes between an area and the end of a row: cells, each with its position, its
margin and its runs. `scan` reads the rows off instructions, knowing nothing of the lines that were
drawn; `Reads` says what it finds in a part of them, and that the part has no text but in its rows.
-/

namespace Receipt.Page

open Drawing (Op Program)
open Layout (Decoration Placement Row Run)
open Markup (State)
open Ruling (Edges)

/-! ## Rows and their reader -/

/-- What is printed of a column in one row. -/
structure PrintedCell where
  position : Nat
  /-- Cells in front of the text; none if it is a filler -/
  margin : Option Number.Binary := none
  runs : List Run := []
  deriving DecidableEq, Repr

/-- A row as it is printed: the area it stands in, whether there are rules beside its cells, and the
cells. -/
structure PrintedRow where
  left : Nat
  width : Nat
  right : Nat
  ruled : Bool := false
  cells : List PrintedCell := []
  deriving DecidableEq, Repr

/-- All the text of a row. -/
def PrintedRow.text (row : PrintedRow) : List Char :=
  row.cells.flatMap fun c => c.runs.flatMap Run.text

/-- The reader: the decoration in force, the row in progress with its cells last first, and the
rows before it. -/
structure Scan where
  decoration : Decoration := {}
  row : Option PrintedRow := none
  rows : List PrintedRow := []

/-- Changes the cell in progress. -/
def Scan.onCell (s : Scan) (f : PrintedCell → PrintedCell) : Scan :=
  { s with row := s.row.map fun row => { row with cells := row.cells.modifyHead f } }

/-- The row in progress in its final form; without cells it is no row of text. -/
def Scan.finished (s : Scan) : List PrintedRow :=
  match s.row with
  | none => []
  | some row =>
    if row.cells.isEmpty then [] else [{ row with cells := row.cells.reverse }]

/-- The reader after an instruction. A cell starts where an absolute position is taken; what the
rules take is no cell. -/
def Scan.step (s : Scan) : Op → Scan
  | .normal => { s with decoration := {} }
  | .ul => { s with decoration := { s.decoration with underline := true } }
  | .em => { s with decoration := { s.decoration with emphasis := true } }
  | .iv => { s with decoration := { s.decoration with invert := true } }
  | .wh scale => { s with decoration := { s.decoration with scale } }
  | .area left width right => { s with row := some { left, width, right } }
  | .vr _ _ => { s with row := s.row.map fun row => { row with ruled := true, cells := [] } }
  | .absolute position =>
    { s with row := s.row.map fun row => { row with cells := { position } :: row.cells } }
  | .relative offset => s.onCell fun c => { c with margin := some offset }
  | .text t => s.onCell fun c => { c with runs := c.runs ++ [⟨s.decoration, t⟩] }
  | .vrLf _ => { s with row := none, rows := s.rows ++ s.finished }
  | _ => s

def scan (s : Scan) (p : Program) : Scan := p.foldl Scan.step s

/-- The rows of text that instructions print. -/
def printedRows (p : Program) : List PrintedRow := (scan {} p).rows

@[simp] theorem scan_nil (s : Scan) : scan s [] = s := rfl

@[simp] theorem scan_cons (s : Scan) (op : Op) (r : Program) :
    scan s (op :: r) = scan (s.step op) r := rfl

@[simp] theorem scan_append (s : Scan) (p q : Program) : scan s (p ++ q) = scan (scan s p) q :=
  List.foldl_append

/-! ## Parts of a program -/

/-- Instructions with these rows, whatever comes before them, and with no text beside these. -/
structure Reads (p : Program) (found : List PrintedRow) : Prop where
  rows : ∀ s, (scan s p).rows = s.rows ++ found
  text : Program.text p = found.flatMap PrintedRow.text

theorem Reads.nil : Reads [] [] := ⟨fun s => (List.append_nil s.rows).symm, rfl⟩

@[simp] theorem text_nil : Program.text [] = [] := rfl

theorem text_append (p q : Program) : Program.text (p ++ q) = Program.text p ++ Program.text q := by
  simp [Program.text]

theorem Reads.append {p q : Program} {a b : List PrintedRow} (hp : Reads p a) (hq : Reads q b) :
    Reads (p ++ q) (a ++ b) where
  rows s := by rw [scan_append, hq.rows, hp.rows, List.append_assoc]
  text := by rw [text_append, hp.text, hq.text, List.flatMap_append]

/-- Parts with one row each. -/
theorem Reads.flatMap {α : Type} {f : α → Program} {g : α → PrintedRow} {l : List α}
    (h : ∀ a ∈ l, Reads (f a) [g a]) : Reads (l.flatMap f) (l.map g) := by
  induction l with
  | nil => exact .nil
  | cons a r ih =>
    exact (h a List.mem_cons_self).append (ih fun x hx => h x (List.mem_cons_of_mem _ hx))

theorem Reads.printedRows {p : Program} {rows : List PrintedRow} (h : Reads p rows) :
    printedRows p = rows := h.rows {}

/-! ## Rows of a line -/

/-- What is read of a run. -/
theorem scan_drawRun (run : Run) (d : Decoration) (row : PrintedRow) (c : PrintedCell)
    (cells : List PrintedCell) (rows : List PrintedRow) :
    scan ⟨d, some { row with cells := c :: cells }, rows⟩ (drawRun run) =
      ⟨run.decoration, some { row with cells := { c with runs := c.runs ++ [run] } :: cells },
        rows⟩ := by
  obtain ⟨⟨underline, emphasis, invert, scale⟩, t⟩ := run
  cases underline <;> cases emphasis <;> cases invert <;> cases scale <;> rfl

theorem scan_drawRuns (runs : List Run) (d : Decoration) (row : PrintedRow) (c : PrintedCell)
    (cells : List PrintedCell) (rows : List PrintedRow) :
    ∃ d', scan ⟨d, some { row with cells := c :: cells }, rows⟩ (runs.flatMap drawRun) =
      ⟨d', some { row with cells := { c with runs := c.runs ++ runs } :: cells }, rows⟩ := by
  induction runs generalizing d c with
  | nil => exact ⟨d, by simp⟩
  | cons run r ih =>
    obtain ⟨d', h⟩ := ih run.decoration { c with runs := c.runs ++ [run] }
    refine ⟨d', ?_⟩
    rw [List.flatMap_cons, scan_append, scan_drawRun, h]
    simp

/-- The cell that a row of a column is read back as. -/
def printedCell (position : Nat) : Option Row → PrintedCell
  | some row => ⟨position, some row.margin, row.runs⟩
  | none => ⟨position, none, [⟨{}, [' ']⟩]⟩

/-- The cells of one row, from a position on. -/
def printedCells (border : Nat) : Nat → List (Nat × Option Row) → List PrintedCell
  | _, [] => []
  | position, (width, row) :: r =>
    printedCell position row :: printedCells border (position + width + border) r

theorem scan_drawCell (position : Nat) (cell : Option Row) (d : Decoration) (row : PrintedRow)
    (rows : List PrintedRow) :
    ∃ d', scan ⟨d, some row, rows⟩ (drawCell position cell) =
      ⟨d', some { row with cells := printedCell position cell :: row.cells }, rows⟩ := by
  cases cell with
  | none => exact ⟨{}, rfl⟩
  | some cell =>
    obtain ⟨d', h⟩ := scan_drawRuns cell.runs d row ⟨position, some cell.margin, []⟩ row.cells rows
    exact ⟨d', h⟩

theorem scan_drawCells (border position : Nat) (cells : List (Nat × Option Row)) (d : Decoration)
    (row : PrintedRow) (rows : List PrintedRow) :
    ∃ d', scan ⟨d, some row, rows⟩ (drawCells border position cells) =
      ⟨d', some { row with cells := (printedCells border position cells).reverse ++ row.cells },
        rows⟩ := by
  induction cells generalizing position d row with
  | nil => exact ⟨d, rfl⟩
  | cons cell r ih =>
    obtain ⟨width, cell⟩ := cell
    obtain ⟨d₁, h₁⟩ := scan_drawCell position cell d row rows
    obtain ⟨d₂, h₂⟩ := ih (position + width + border) d₁
      { row with cells := printedCell position cell :: row.cells }
    refine ⟨d₂, ?_⟩
    rw [drawCells, scan_append, h₁, h₂]
    simp [printedCells]

/-- The `j`-th row of all columns as it is read back. -/
def printedRow (placement : Placement) (ruled : Bool) (border : Nat) (rows : List (List Row))
    (j : Nat) : PrintedRow where
  left := placement.left
  width := placement.width
  right := placement.right
  ruled := ruled
  cells := printedCells border (if ruled then 1 else 0)
    ((placement.columns.map Layout.Placed.width).zip (rows.map fun column => column[j]?))

/-- The rows of columns beside the widths of the columns. -/
theorem zip_rowsOf (p : Printer) (columns : List Layout.Placed) (j : Nat) :
    (columns.map Layout.Placed.width).zip ((columns.map (rowsOf p)).map fun rows => rows[j]?) =
      columns.map fun c => (c.width, (rowsOf p c)[j]?) := by
  rw [List.map_map, List.zip_map']
  rfl

theorem printedCells_ne_nil (border position : Nat) {cells : List (Nat × Option Row)}
    (h : cells ≠ []) : printedCells border position cells ≠ [] := by
  cases cells with
  | nil => exact absurd rfl h
  | cons cell r => exact List.cons_ne_nil _ _

/-! ## Text of a line -/

theorem text_of_mute {p : Program} (h : ∀ op ∈ p, op.text? = none) : Program.text p = [] := by
  rw [Program.text, List.filterMap_eq_nil_iff.2 h, List.flatten_nil]

theorem text_drawRun (run : Run) : Program.text (drawRun run) = run.text := by
  obtain ⟨⟨underline, emphasis, invert, scale⟩, t⟩ := run
  cases underline <;> cases emphasis <;> cases invert <;> cases scale <;>
    exact List.append_nil t

theorem text_drawRuns (runs : List Run) :
    Program.text (runs.flatMap drawRun) = runs.flatMap Run.text := by
  induction runs with
  | nil => rfl
  | cons run r ih => rw [List.flatMap_cons, text_append, text_drawRun, ih, List.flatMap_cons]

theorem text_drawCell (position : Nat) (cell : Option Row) :
    Program.text (drawCell position cell) = (printedCell position cell).runs.flatMap Run.text := by
  cases cell with
  | none => rfl
  | some cell => exact text_drawRuns cell.runs

theorem text_drawCells (border position : Nat) (cells : List (Nat × Option Row)) :
    Program.text (drawCells border position cells) =
      (printedCells border position cells).flatMap fun c => c.runs.flatMap Run.text := by
  induction cells generalizing position with
  | nil => rfl
  | cons cell r ih =>
    rw [drawCells, text_append, text_drawCell, ih, printedCells, List.flatMap_cons]

/-! ## Reading a line -/

/-- **A row is read back as it was laid out.** -/
theorem reads_drawRow {placement : Placement} (ruled : Bool) (border : Nat)
    {rows : List (List Row)} (j : Nat) (printed : placement.columns ≠ [])
    (all : rows.length = placement.columns.length) :
    Reads (drawRow placement ruled border rows j) [printedRow placement ruled border rows j] := by
  have cells : (placement.columns.map Layout.Placed.width).zip
      (rows.map fun column => column[j]?) ≠ [] := by
    intro h
    have := List.length_pos_iff.2 printed
    have := congrArg List.length h
    simp only [List.length_zip, List.length_map, List.length_nil] at this
    omega
  constructor
  · intro s
    obtain ⟨d, h⟩ := scan_drawCells border (if ruled then 1 else 0) _ {}
      { left := placement.left, width := placement.width, right := placement.right, ruled } s.rows
    have rules : scan s (areaAt placement.edges ++
        if ruled then drawRules (placement.columns.map Layout.Placed.width)
          (ruleHeight (rows.map fun column => column[j]?)) else []) =
        ⟨{}, some { left := placement.left, width := placement.width, right := placement.right,
                    ruled }, s.rows⟩ := by
      cases ruled <;> rfl
    simp only [drawRow]
    rw [scan_append, scan_append, rules, h]
    have first := printedCells_ne_nil border (if ruled then 1 else 0) cells
    simp [Scan.step, Scan.finished, printedRow, first]
  · have rules : Program.text (areaAt placement.edges ++
        if ruled then drawRules (placement.columns.map Layout.Placed.width)
          (ruleHeight (rows.map fun column => column[j]?)) else []) = [] := by
      cases ruled <;> rfl
    simp only [drawRow]
    rw [text_append, text_append, rules, text_drawCells]
    simp [Program.text, Op.text?, PrintedRow.text, printedRow]

/-- The rows of a line of text as they are read back. -/
def printedLine (p : Printer) (placement : Placement) (ruled : Bool) : List PrintedRow :=
  match placement.columns with
  | [] => []
  | first :: _ =>
    let rows := placement.columns.map (rowsOf p)
    (List.range (rowCount first.column.wrap rows)).map
      (printedRow placement ruled first.column.border.natAbs rows)

theorem reads_drawRows (p : Printer) (placement : Placement) (ruled : Bool) :
    Reads (drawRows p placement ruled) (printedLine p placement ruled) := by
  cases columns : placement.columns with
  | nil =>
    simp only [drawRows, printedLine, columns]
    exact .nil
  | cons first more =>
    have some : placement.columns ≠ [] := by
      rw [columns]
      exact List.cons_ne_nil _ _
    simp only [drawRows, printedLine, columns]
    refine Reads.flatMap fun j _ => reads_drawRow ruled _ j some ?_
    rw [List.length_map, columns]

/-! ## What is no row of text -/

/-- Instructions that end no row and print no text. -/
def IsMute (op : Op) : Prop := op.text? = none ∧ ∀ ruled, op ≠ .vrLf ruled

theorem scan_step_rows {op : Op} (h : IsMute op) (s : Scan) : (s.step op).rows = s.rows := by
  cases op with
  | vrLf ruled => exact absurd rfl (h.2 ruled)
  | _ => rfl

theorem reads_of_mute {p : Program} (h : ∀ op ∈ p, IsMute op) : Reads p [] where
  rows s := by
    rw [List.append_nil]
    induction p generalizing s with
    | nil => rfl
    | cons op r ih =>
      rw [scan_cons, ih (fun x hx => h x (List.mem_cons_of_mem _ hx)),
        scan_step_rows (h op List.mem_cons_self)]
  text := text_of_mute fun op hop => (h op hop).1

/-- The edges of a table end a row that has no cells. -/
theorem reads_drawEffect (cpl : Nat) (last current : Edges) (e : Ruling.Effect) :
    Reads (drawEffect cpl last current e) [] := by
  cases e with
  | «open» => exact ⟨fun _ => rfl, rfl⟩
  | close => exact ⟨fun _ => rfl, rfl⟩
  | tieIn => exact reads_of_mute (by simp [drawEffect, areaAt, IsMute, Op.text?])
  | divider => exact reads_of_mute (by simp [drawEffect, areaAt, IsMute, Op.text?])
  | cut => exact reads_of_mute (by simp [drawEffect, IsMute, Op.text?])

theorem reads_applyEvent (cpl : Nat) (current : Edges) (r : Ruling) (e : Ruling.Event) :
    Reads (applyEvent cpl current r e).1 [] := by
  show Reads ((r.state.step e).2.flatMap (drawEffect cpl r.edges current)) []
  generalize (r.state.step e).2 = effects
  induction effects with
  | nil => exact .nil
  | cons x effects ih => exact (reads_drawEffect cpl r.edges current x).append ih

theorem reads_applyEvents (cpl : Nat) (current : Edges) (r : Ruling) (es : List Ruling.Event) :
    Reads (applyEvents cpl current r es).1 [] := by
  induction es generalizing r with
  | nil => exact .nil
  | cons e es ih => exact (reads_applyEvent cpl current r e).append (ih _)

theorem isMute_of_content {op : Op} (h : IsContent op) : IsMute op := by
  cases op <;> first | exact h.elim | simp [IsMute, Op.text?]

theorem reads_contentPart (placement : Placement) (isText : Bool) (first : Markup.Column) :
    Reads (contentPart placement isText first) [] := by
  unfold contentPart drawContent
  split
  · exact .nil
  · split
    · exact .nil
    · rename_i content h
      refine reads_of_mute ?_
      simp only [List.forall_mem_cons]
      exact ⟨by simp [IsMute, Op.text?], by simp [IsMute, Op.text?], by simp [IsMute, Op.text?],
        isMute_of_content (isContent_of_content? h), by simp⟩

/-! ## Reading a document -/

/-- The rows of a line as they are read back. -/
def printedNext (p : Printer) (line : List Char) (s : State) : List PrintedRow :=
  let columns := (Markup.readLine line s).1
  if columns.all Markup.Column.isText then
    printedLine p (placed p columns) (s.ruling.state.step .text).1.isOpen
  else []

theorem reads_textPart (p : Printer) (placement : Placement) (isText : Bool) (r : Ruling) :
    Reads (textPart p placement isText r).1
      (if isText then printedLine p placement (r.state.step .text).1.isOpen else []) := by
  cases isText
  · exact .nil
  · simp only [textPart, if_true, drawText_eq]
    exact (reads_applyEvent p.cpl placement.edges r .text).append (reads_drawRows p placement _)

/-- A line is read back as it was laid out, whatever the settings. -/
theorem reads_drawNext (p : Printer) (line : List Char) (s : State) :
    Reads (drawNext p line s).1 (printedNext p line s) := by
  obtain ⟨first, more, columns, _⟩ := Markup.readLine_first line s
  have ruling := Markup.readLine_ruling line s
  simp only [drawNext, printedNext, columns, drawLine_cons, ruling]
  generalize (first :: more).all Markup.Column.isText = isText
  have text := reads_textPart p (placed p (first :: more)) isText s.ruling
  have rules := reads_applyEvents p.cpl (placed p (first :: more)).edges
    (textPart p (placed p (first :: more)) isText s.ruling).2 (eventsOf first)
  simpa using (text.append rules).append (reads_contentPart _ isText first)

theorem reads_drawEnd (s : State) : Reads (drawEnd s).1 [] :=
  reads_applyEvent 0 s.ruling.edges s.ruling .finish

/-- Lines with the settings in force before each of them. -/
def readings (p : Printer) : List (List Char) → State → List (List Char × State)
  | [], _ => []
  | line :: r, s => (line, s) :: readings p r (drawNext p line s).2

theorem reads_drawSteps (p : Printer) (lines : List (List Char)) (s : State) :
    Reads (drawSteps p (lines.map .line ++ [.finish]) s).1
      ((readings p lines s).flatMap fun r => printedNext p r.1 r.2) := by
  induction lines generalizing s with
  | nil =>
    show Reads ((drawEnd s).1 ++ []) []
    rw [List.append_nil]
    exact reads_drawEnd s
  | cons line r ih => exact (reads_drawNext p line s).append (ih _)

/-- **A document is read back line by line,** with all of its text. -/
theorem reads_program (p : Printer) (document : List Char) :
    Reads (program p document)
      ((readings p (linesOf document) (.initial p)).flatMap fun r => printedNext p r.1 r.2) := by
  rw [program_eq, session, documentSteps]
  have opening : Reads [.open p] [] := reads_of_mute (by simp [IsMute, Op.text?])
  have closing : Reads [.close] [] := reads_of_mute (by simp [IsMute, Op.text?])
  have steps := reads_drawSteps p (linesOf document) (.initial p)
  simpa using (opening.append steps).append closing

end Receipt.Page
