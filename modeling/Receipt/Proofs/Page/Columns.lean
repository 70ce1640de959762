import Receipt.Proofs.Layout.Placement
import Receipt.Proofs.Page.Rows

/-!
# Columns side by side

The rows of a line are read back as the rows of its columns, wrapped each on its own: the first row of
each side by side, then the second, and so on. A column that has come to its end shows a blank; where
text wraps, no column comes short, so that each is found again going down the line. Whatever was
printed before, and in whatever decoration, the same is read.
-/

namespace Receipt.Page

open Drawing (Op Program)
open Layout (Placed Placement Row Run)
open Markup (Column State)

/-! ## What is shown -/

/-- What a cell shows, wherever it stands: its margin, and its text in its decorations. -/
def PrintedCell.shown (c : PrintedCell) : Option Number.Binary × List Run := (c.margin, c.runs)

/-- What a row shows in each of its columns. -/
def PrintedRow.shown (row : PrintedRow) : List (Option Number.Binary × List Run) :=
  row.cells.map PrintedCell.shown

/-- What a row of a wrapped column looks like; a blank without decoration where there is none. -/
def shownRow : Option Row → Option Number.Binary × List Run
  | some row => (some row.margin, row.runs)
  | none => (none, [⟨{}, [' ']⟩])

theorem shown_printedCell (position : Nat) (row : Option Row) :
    (printedCell position row).shown = shownRow row := by
  cases row <;> rfl

theorem map_shown_printedCells (border position : Nat) (cells : List (Nat × Option Row)) :
    (printedCells border position cells).map PrintedCell.shown =
      cells.map fun cell => shownRow cell.2 := by
  induction cells generalizing position with
  | nil => rfl
  | cons cell r ih => rw [printedCells, List.map_cons, List.map_cons, ih, shown_printedCell]

/-- Whether a line goes on in further rows, as the first of its columns has it. -/
def wraps (columns : List Placed) : Bool := columns.head?.any fun c => c.column.wrap

/-- Rows that show columns side by side, each wrapped at its own width. -/
structure ShowColumns (p : Printer) (columns : List Placed) (rows : List PrintedRow) : Prop where
  wrapped : ∀ c ∈ columns, ∃ segments, c.column.payload = .text segments ∧
    rowsOf p c = Layout.wrap segments c.width c.column.align p.page
  count : rows.length =
    if wraps columns then (columns.map fun c => (rowsOf p c).length).foldl max 1 else 1
  across : ∀ (j : Nat) (row : PrintedRow), rows[j]? = some row →
    row.shown = columns.map fun c => shownRow (rowsOf p c)[j]?
  /-- Where text wraps, each column is shown from its first row to its last, and blanks below. -/
  down : wraps columns = true → ∀ (k : Nat) (c : Placed), columns[k]? = some c →
    (rows.map fun row => row.shown[k]?) =
      (rowsOf p c).map (fun row => some (shownRow (some row)))
        ++ List.replicate (rows.length - (rowsOf p c).length) (some (shownRow none))

/-! ## Ends of rows -/

def isRowEnd : Op → Bool
  | .vrLf _ => true
  | _ => false

theorem countP_inner {p : Program} (h : ∀ op ∈ p, IsInner op) : p.countP isRowEnd = 0 := by
  refine List.countP_eq_zero.2 fun op hop => ?_
  have inner := h op hop
  cases op <;> first | exact inner.elim | exact Bool.false_ne_true

theorem countP_drawRow (placement : Placement) (ruled : Bool) (border : Nat)
    (rows : List (List Row)) (j : Nat) :
    (drawRow placement ruled border rows j).countP isRowEnd = 1 := by
  simp only [drawRow, List.countP_append, countP_inner (isInner_drawCells _ _ _)]
  cases ruled <;> rfl

/-- A line ends as many rows as are read back of it. -/
theorem countP_drawRows (p : Printer) (placement : Placement) (ruled : Bool) :
    (drawRows p placement ruled).countP isRowEnd = (printedLine p placement ruled).length := by
  cases columns : placement.columns with
  | nil => simp [drawRows, printedLine, columns]
  | cons first more =>
    simp [drawRows, printedLine, columns, List.countP_flatMap, Function.comp_def, countP_drawRow]

/-! ## Reading columns -/

/-- What is found at the first `n` places of a list no longer than that. -/
theorem map_range_getElem? {α β : Type} (f : Option α → β) (l : List α) {n : Nat}
    (h : l.length ≤ n) :
    (List.range n).map (fun j => f l[j]?) =
      l.map (fun a => f (some a)) ++ List.replicate (n - l.length) (f none) := by
  refine List.ext_getElem? fun j => ?_
  rw [List.getElem?_map, List.getElem?_append, List.getElem?_map, List.length_map,
    List.getElem?_replicate]
  by_cases inside : j < l.length
  · rw [List.getElem?_range (inside.trans_le h), if_pos inside, Option.map_some,
      List.getElem?_eq_getElem inside, Option.map_some]
  · rw [if_neg inside]
    by_cases below : j < n
    · rw [List.getElem?_range below, if_pos (by omega), Option.map_some,
        List.getElem?_eq_none (not_lt.1 inside)]
    · rw [List.getElem?_eq_none (by simpa using below), if_neg (by omega), Option.map_none]

theorem rowsOf_text (p : Printer) {c : Placed} (h : c.column.isText = true) :
    ∃ segments, c.column.payload = .text segments ∧
      rowsOf p c = Layout.wrap segments c.width c.column.align p.page := by
  unfold Column.isText at h
  cases payload : c.column.payload with
  | text segments => exact ⟨segments, rfl, by simp only [rowsOf, payload]⟩
  | _ =>
    rw [payload] at h
    cases h

section
variable (p : Printer) {placement : Placement} (ruled : Bool)

/-- The rows of a line as they are read back, one for each of those that are counted. -/
theorem printedLine_eq (printed : placement.columns ≠ []) :
    ∃ border, printedLine p placement ruled =
      (List.range (rowCount (wraps placement.columns) (placement.columns.map (rowsOf p)))).map
        (printedRow placement ruled border (placement.columns.map (rowsOf p))) := by
  cases columns : placement.columns with
  | nil => exact absurd columns printed
  | cons first more =>
    refine ⟨first.column.border.natAbs, ?_⟩
    simp only [printedLine, columns]
    rfl

theorem shown_printedRow (border j : Nat) :
    (printedRow placement ruled border (placement.columns.map (rowsOf p)) j).shown =
      placement.columns.map fun c => shownRow (rowsOf p c)[j]? := by
  rw [PrintedRow.shown, printedRow, zip_rowsOf, map_shown_printedCells, List.map_map]
  rfl

/-- **The rows read back of columns of text show these columns.** -/
theorem showColumns_printedLine (printed : placement.columns ≠ [])
    (text : ∀ c ∈ placement.columns, c.column.isText = true) :
    ShowColumns p placement.columns (printedLine p placement ruled) := by
  obtain ⟨border, rows⟩ := printedLine_eq p ruled printed
  refine ⟨fun c hc => rowsOf_text p (text c hc), ?_, fun j row hj => ?_, fun wrapping k c hk => ?_⟩
  · rw [rows, List.length_map, List.length_range, rowCount, List.map_map]
    rfl
  · rw [rows, List.getElem?_map] at hj
    obtain ⟨i, hi, rfl⟩ := Option.map_eq_some_iff.1 hj
    obtain ⟨bound, rfl⟩ := List.getElem?_eq_some_iff.1 hi
    rw [List.getElem_range]
    exact shown_printedRow p ruled border j
  · have longest : (rowsOf p c).length ≤
        rowCount (wraps placement.columns) (placement.columns.map (rowsOf p)) := by
      rw [rowCount, if_pos wrapping, List.map_map]
      exact (Layout.le_foldl_max _ 1).2 _ (List.mem_map.2 ⟨c, List.mem_of_getElem? hk, rfl⟩)
    have column (j : Nat) :
        (printedRow placement ruled border (placement.columns.map (rowsOf p)) j).shown[k]? =
          some (shownRow (rowsOf p c)[j]?) := by
      rw [shown_printedRow, List.getElem?_map, hk, Option.map_some]
    rw [rows, List.map_map, List.length_map, List.length_range]
    simp only [Function.comp_def, column]
    exact map_range_getElem? (fun row => some (shownRow row)) (rowsOf p c) longest

end

/-! ## Lines -/

/-- **A line of text shows its columns side by side.** Between the edges above it and what a change of
the border draws, it draws rows that are read back as those of its columns, whatever was read before
them and in whatever decoration; it ends no other rows. -/
theorem line_shows_columns (p : Printer) {columns : List Column} (s : State)
    (isText : columns.all Column.isText = true) (printed : (placed p columns).columns ≠ []) :
    let place := (placed p columns).edges
    let toggles := (columns.head?.bind Column.toggle).toList.map toggleEvent
    ∃ (rows : Program) (found : List PrintedRow),
      (drawLine p columns s).1 =
        (applyEvent p.cpl place s.ruling .text).1 ++ rows ++
          (applyEvents p.cpl place ⟨(s.ruling.state.step .text).1, place⟩ toggles).1 ∧
      ShowColumns p (placed p columns).columns found ∧
      (∀ before : Scan, (scan before rows).rows = before.rows ++ found) ∧
      rows.countP isRowEnd = found.length := by
  intro place toggles
  cases columns with
  | nil => exact absurd rfl printed
  | cons first more =>
    have text : ∀ c ∈ (placed p (first :: more)).columns, c.column.isText = true := fun c hc =>
      List.all_eq_true.1 isText _ (Layout.column_mem_of_mem_place first more p.cpl _ hc)
    refine ⟨drawRows p (placed p (first :: more)) (s.ruling.state.step .text).1.isOpen, _, ?_,
      showColumns_printedLine p _ printed text, (reads_drawRows p _ _).rows, countP_drawRows p _ _⟩
    simp only [drawLine_isText p s isText, drawText_eq]
    rfl

/-- Underlined text on two rows, below a rule that is due, and emphasised text beside it on one. -/
theorem line_shows_columns_ragged :
    let column (segments : List Markup.Segment) : Column :=
      { align := 0
        wrap := true
        border := -1
        width := 4
        alignment := .left
        payload := .text segments }
    let columns : List Column :=
      [column [.underline, .text "abcdef".toList], column [.emphasis, .text "gh".toList]]
    let s : State := { border := -1, ruling := ⟨.horizontal, ⟨0, 48, 0, [46]⟩⟩ }
    columns.all Column.isText = true ∧ (placed .wide columns).columns ≠ [] ∧
      ∃ (above rows : Program) (found : List PrintedRow),
        (drawLine .wide columns s).1 = above ++ rows ∧
        (∀ before : Scan, (scan before rows).rows = before.rows ++ found) ∧
        found.length = 2 ∧
        ∀ row, found[1]? = some row → row.shown =
          [(some ((Number.Binary.ofNat 2).half 0), [⟨{ underline := true }, "ef".toList⟩]),
            (none, [⟨{}, " ".toList⟩])] := by
  intro column columns s
  have isText : columns.all Column.isText = true := rfl
  have printed : (placed .wide columns).columns ≠ [] := by decide +kernel
  obtain ⟨rows, found, drawn, shows, read, -⟩ := line_shows_columns .wide s isText printed
  refine ⟨isText, printed, _, rows, found, drawn.trans (List.append_nil _), read, ?_,
    fun row hrow => ?_⟩
  · rw [shows.count]
    decide +kernel
  · rw [shows.across 1 row hrow]
    decide +kernel

end Receipt.Page
