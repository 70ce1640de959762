import Mathlib.Tactic.Linarith
import Receipt.Proofs.Layout.Words
import Receipt.Proofs.Markup.Widths
import Receipt.Proofs.Number.Nearest
import Receipt.Proofs.Page.Rows
import Receipt.Proofs.Page.Settings

/-!
# Text stays in its column

A row of text has one cell for each column of the line, at least one character wide, side by side
and within the area of the row, between the rules if there are any. What is printed in a cell is no
wider than its column, and its margin is made from the cells that are left; it is exact unless the
column is wider than a binary64 number can count. Cells and columns are counted in 64 bits, which is
enough as long as those of a line together are no more than `2 ^ 63` (`Countable`).
-/

namespace Receipt.Page

open Drawing (Op Program)
open Layout (Placed Placement Row Run)
open Markup (Column State)
open Number (Binary nearest)
open Text (CodePage)

/-! ## What fits -/

/-- Cells that the runs of a cell take. -/
def PrintedCell.used (page : CodePage) (c : PrintedCell) : Nat := (c.runs.map (Run.cells page)).sum

/-- A cell that fits a column `width` cells wide. -/
structure PrintedCell.Fits (page : CodePage) (width : Nat) (c : PrintedCell) : Prop where
  used_le : c.used page ≤ width
  /-- None, half or all of the cells that are left -/
  margin : ∀ m, c.margin = some m → ∃ align : Nat, align ≤ 2 ∧
    m.negative = false ∧ m.size = nearest ((width - c.used page : Nat) : Rat) * align / 2
  exact : width ≤ 2 ^ 53 → ∀ m, c.margin = some m → m.size + c.used page ≤ width

/-- Cells that the rule at one side of a row takes. -/
def PrintedRow.rule (row : PrintedRow) : Nat := if row.ruled then 1 else 0

/-- A row that fits columns of these widths. -/
structure PrintedRow.Fits (page : CodePage) (widths : List Nat) (row : PrintedRow) : Prop where
  columns : row.cells.length = widths.length
  wide : ∀ w ∈ widths, 1 ≤ w
  apart : (row.cells.zip widths).Pairwise fun a b => a.1.position + a.2 ≤ b.1.position
  within : ∀ c ∈ row.cells.zip widths,
    row.rule ≤ c.1.position ∧ c.1.position + c.2 + row.rule ≤ row.width
  fits : ∀ c ∈ row.cells.zip widths, c.1.Fits page c.2

/-! ## Cells -/

/-- A margin made from the cells that are left. -/
theorem fits_of_full {page : CodePage} {width align : Nat} {c : PrintedCell} (space : Nat)
    (halign : align ≤ 2) (full : c.used page + space = width)
    (margin : ∀ m, c.margin = some m → m = Layout.marginOf space align) : c.Fits page width where
  used_le := by omega
  margin m hm := by
    obtain rfl := margin m hm
    have left : width - c.used page = space := by omega
    exact ⟨align, halign, rfl, by rw [left]; exact Number.Binary.half_size space halign⟩
  exact hw m hm := by
    obtain rfl := margin m hm
    have size := Number.Binary.half_size_exact (n := space) (by omega) halign
    rw [Layout.marginOf, size]
    have half : (align : Rat) ≤ 2 := by exact_mod_cast halign
    have cells : (0 : Rat) ≤ space := Nat.cast_nonneg space
    have whole : (c.used page : Rat) + space = width := by exact_mod_cast full
    nlinarith

theorem used_filler (page : CodePage) : Run.cells page ⟨{}, [' ']⟩ = 1 := by
  cases page <;> decide

/-- What a row of a column prints fits the column, and so does the blank that fills it. -/
theorem fits_printedCell (p : Printer) (position j : Nat) {c : Placed} (hw : 1 ≤ c.width)
    (ha : c.column.align ≤ 2) :
    (printedCell position (rowsOf p c)[j]?).Fits p.page c.width := by
  cases h : (rowsOf p c)[j]? with
  | none =>
    have filler : (printedCell position none).used p.page = 1 := by
      simp [PrintedCell.used, printedCell, used_filler]
    exact fits_of_full (c.width - 1) ha (by omega) (by simp [printedCell])
  | some row =>
    have hrow : row ∈ rowsOf p c := List.mem_of_getElem? h
    unfold rowsOf at hrow
    split at hrow
    · obtain ⟨space, filled, margin⟩ := Layout.wrap_sound _ _ _ _ row hrow
      refine fits_of_full space ha filled.full ?_
      rintro m ⟨rfl⟩
      exact margin
    · cases hrow

/-! ## Positions -/

section
variable (border : Nat)

theorem length_printedCells (position : Nat) (cells : List (Nat × Option Row)) :
    (printedCells border position cells).length = cells.length := by
  induction cells generalizing position with
  | nil => rfl
  | cons cell r ih => exact congrArg (· + 1) (ih _)

/-- The cells of a row come from its columns, in order. -/
theorem mem_printedCells {position : Nat} {cells : List (Nat × Option Row)}
    {c : PrintedCell × Nat}
    (h : c ∈ (printedCells border position cells).zip (cells.map Prod.fst)) :
    (∃ at' row, c.1 = printedCell at' row ∧ (c.2, row) ∈ cells) ∧ position ≤ c.1.position ∧
      c.1.position + c.2 ≤
        position + (cells.map Prod.fst).sum + (cells.length - 1) * border := by
  induction cells generalizing position with
  | nil => cases h
  | cons cell r ih =>
    obtain ⟨width, row⟩ := cell
    have first : (printedCell position row).position = position := by cases row <;> rfl
    simp only [printedCells, List.map_cons, List.zip_cons_cons, List.mem_cons] at h
    simp only [List.map_cons, List.sum_cons, List.length_cons, Nat.add_sub_cancel]
    rcases h with rfl | h
    · refine ⟨⟨position, row, rfl, List.mem_cons_self⟩, first.ge, ?_⟩
      rw [first]
      omega
    · obtain ⟨⟨at', row', hc, hmem⟩, low, high⟩ := ih h
      refine ⟨⟨at', row', hc, List.mem_cons_of_mem _ hmem⟩, by omega, high.trans ?_⟩
      have pos : 1 ≤ r.length := List.length_pos_of_mem hmem
      obtain ⟨n, hn⟩ := Nat.exists_eq_add_of_le pos
      rw [hn, Nat.add_sub_cancel_left, Nat.add_mul]
      omega

theorem apart_printedCells (position : Nat) (cells : List (Nat × Option Row)) :
    ((printedCells border position cells).zip (cells.map Prod.fst)).Pairwise
      fun a b => a.1.position + a.2 ≤ b.1.position := by
  induction cells generalizing position with
  | nil => exact .nil
  | cons cell r ih =>
    obtain ⟨width, row⟩ := cell
    have first : (printedCell position row).position = position := by cases row <;> rfl
    refine .cons (fun b hb => ?_) (ih _)
    have low := (mem_printedCells border hb).2.1
    simp only [first]
    omega

end

/-! ## Rows -/

/-- Cells of columns that each fit theirs, and all of them the row. -/
theorem fits_of_cells {page : CodePage} {row : PrintedRow} (border : Nat)
    {cells : List (Nat × Option Row)} (hrow : row.cells = printedCells border row.rule cells)
    (wide : ∀ c ∈ cells, 1 ≤ c.1)
    (fits : ∀ c ∈ cells, ∀ position, (printedCell position c.2).Fits page c.1)
    (room : row.rule + (cells.map Prod.fst).sum + (cells.length - 1) * border + row.rule
      ≤ row.width) :
    row.Fits page (cells.map Prod.fst) where
  columns := by rw [hrow, length_printedCells, List.length_map]
  wide w hw := by
    obtain ⟨c, hc, rfl⟩ := List.mem_map.1 hw
    exact wide c hc
  apart := by
    rw [hrow]
    exact apart_printedCells border _ cells
  within c hc := by
    rw [hrow] at hc
    obtain ⟨_, low, high⟩ := mem_printedCells border hc
    exact ⟨low, by omega⟩
  fits c hc := by
    rw [hrow] at hc
    obtain ⟨⟨position, cell, hcell, hmem⟩, _⟩ := mem_printedCells border hc
    rw [hcell]
    exact fits _ hmem position

/-- The border takes the cells between the columns, and those beside them if they are ruled. -/
theorem borders_le {b : Int} {count : Nat} (rule : Nat) (hb : -1 ≤ b) (pos : 1 ≤ count)
    (hr : rule = 0 ∨ rule = 1 ∧ b < 0) :
    ((rule + (count - 1) * b.natAbs + rule : Nat) : Int) ≤ Markup.borderCells b count := by
  obtain ⟨k, rfl⟩ := Nat.exists_eq_add_of_le pos
  unfold Markup.borderCells
  rw [Nat.add_sub_cancel_left]
  rcases lt_or_ge b 0 with ruled | blank
  · obtain rfl : b = -1 := by omega
    rw [if_pos ruled]
    have one : k * (-1 : Int).natAbs = k := Nat.mul_one k
    omega
  · obtain ⟨n, rfl⟩ := Int.eq_ofNat_of_zero_le blank
    obtain rfl : rule = 0 := by omega
    rw [if_neg (not_lt.2 blank)]
    push_cast
    simp

/-- The rows of a line of text, placed with its border, fit its columns. -/
theorem printedRow_fits (p : Printer) (hcpl : 1 ≤ p.cpl) {first : Column} {more : List Column}
    (hb : -1 ≤ first.border) (ha : ∀ c ∈ first :: more, c.align ≤ 2) {ruled : Bool}
    (hr : ruled = true → first.border < 0) (j : Nat)
    (printed : (Layout.place (first :: more) p.cpl true).columns ≠ []) :
    (printedRow (Layout.place (first :: more) p.cpl true) ruled first.border.natAbs
        ((Layout.place (first :: more) p.cpl true).columns.map (rowsOf p)) j).Fits p.page
      ((Layout.place (first :: more) p.cpl true).columns.map Placed.width) := by
  have wide := Layout.one_le_place first more hcpl
  have sum := Layout.sum_place hcpl printed
  have align : ∀ c ∈ (Layout.place (first :: more) p.cpl true).columns, c.column.align ≤ 2 := by
    intro c hc
    exact ha _ (Layout.column_mem_of_mem_place _ _ _ _ hc)
  generalize Layout.place (first :: more) p.cpl true = placement at printed wide sum align ⊢
  have widths : placement.columns.map Placed.width =
      (placement.columns.map fun c => (c.width, (rowsOf p c)[j]?)).map Prod.fst := by
    rw [List.map_map]
    rfl
  have borders := borders_le (if ruled then 1 else 0) hb (List.length_pos_iff.2 printed)
    (by cases ruled <;> simp [hr])
  rw [widths]
  apply fits_of_cells first.border.natAbs
  · rw [← zip_rowsOf]
    rfl
  · intro c hc
    obtain ⟨column, hcolumn, rfl⟩ := List.mem_map.1 hc
    exact wide column hcolumn
  · intro c hc position
    obtain ⟨column, hcolumn, rfl⟩ := List.mem_map.1 hc
    exact fits_printedCell p position j (wide column hcolumn) (align column hcolumn)
  · rw [← widths, List.length_map]
    show (if ruled then 1 else 0) + _ + _ + (if ruled then 1 else 0) ≤ placement.width
    omega

/-! ## Lines and documents -/

/-- The widths of the columns of a line. -/
def columnWidths (p : Printer) (line : List Char) (s : State) : List Nat :=
  (placed p (Markup.readLine line s).1).columns.map Placed.width

/-- The rows that a document prints, each with the widths of the columns of its line. -/
def measuredRows (p : Printer) (document : List Char) : List (List Nat × PrintedRow) :=
  (readings p (linesOf document) (.initial p)).flatMap fun r =>
    (printedRows (drawNext p r.1 r.2).1).map (columnWidths p r.1 r.2, ·)

/-- A table that is in progress has its rows between rules because the border asks for them. -/
theorem ruled_of_isOpen {s : State} (h : Steady s)
    (hopen : (s.ruling.state.step .text).1.isOpen = true) : s.border < 0 := by
  rcases h with waiting | ruled
  · rw [waiting] at hopen
    cases hopen
  · simpa [State.isRuled] using ruled

theorem printedLine_fits {p : Printer} (hcpl : 1 ≤ p.cpl) {columns : List Column} {b : Int}
    (hb : -1 ≤ b) (border : ∀ c ∈ columns, c.border = b) (align : ∀ c ∈ columns, c.align ≤ 2)
    {ruled : Bool} (hr : ruled = true → b < 0) :
    ∀ row ∈ printedLine p (Layout.place columns p.cpl true) ruled,
      row.Fits p.page ((Layout.place columns p.cpl true).columns.map Placed.width) := by
  intro row hrow
  cases columns with
  | nil => cases hrow
  | cons first more =>
    unfold printedLine at hrow
    split at hrow
    · cases hrow
    · rename_i placed others printed
      have same : placed.column.border = first.border := by
        rw [border first List.mem_cons_self]
        have kept : placed ∈ (Layout.place (first :: more) p.cpl true).columns := by simp [printed]
        exact border _ (Layout.column_mem_of_mem_place _ _ _ _ kept)
      obtain ⟨j, _, rfl⟩ := List.mem_map.1 hrow
      rw [same]
      rw [← border first List.mem_cons_self] at hb hr
      exact printedRow_fits p hcpl hb align hr j (printed ▸ List.cons_ne_nil _ _)

theorem printedNext_fits {p : Printer} (hcpl : 1 ≤ p.cpl) (line : List Char) {s : State}
    (h : Framed p s) :
    ∀ row ∈ printedNext p line s, row.Fits p.page (columnWidths p line s) := by
  intro row hrow
  unfold printedNext at hrow
  dsimp only at hrow
  split at hrow
  · rename_i isText
    have follows := Markup.readLine_follows line s
    rw [Markup.readLine_text isText] at follows
    unfold columnWidths
    rw [placed, isText] at hrow ⊢
    exact printedLine_fits hcpl h.border (fun c hc => (follows c hc).border)
      (fun c hc => (follows c hc).align)
      (ruled_of_isOpen h.steady) row hrow
  · cases hrow

/-- Every line of a document is read in settings that are in range. -/
theorem inRange_of_readings {p : Printer} {lines : List (List Char)} {s : State} (h : s.InRange) :
    ∀ r ∈ readings p lines s, r.2.InRange := by
  induction lines generalizing s with
  | nil => simp [readings]
  | cons line r ih =>
    refine List.forall_mem_cons.2 ⟨h, ih ?_⟩
    have read := h.readLine line
    rw [drawNext, drawLine_settings]
    exact ⟨read.border, read.widths, read.module, read.height, read.cell⟩

/-- The columns of each line of a document, and its cells and columns together, are few enough to be
counted in 64 bits. -/
def Countable (p : Printer) (document : List Char) : Prop :=
  ∀ r ∈ readings p (linesOf document) (.initial p),
    (Markup.readLine r.1 r.2).1.length ≤ 2 ^ 47 ∧
      p.cpl + (Markup.readLine r.1 r.2).1.length ≤ 2 ^ 63

/-- Columns in settings that are in range are placed in 64 bits. -/
theorem counted_readLine {p : Printer} (hcpl : 1 ≤ p.cpl) {line : List Char} {s : State}
    (h : s.InRange) {first : Column} {more : List Column}
    (read : (Markup.readLine line s).1 = first :: more) (few : (first :: more).length ≤ 2 ^ 47)
    (range : p.cpl + (first :: more).length ≤ 2 ^ 63) (isText : Bool) :
    Layout.Counted first more p.cpl isText := by
  have settings := h.readLine line
  have follows : first.border = (Markup.readLine line s).2.border :=
    (Markup.readLine_follows line s first (read ▸ List.mem_cons_self)).border
  refine Layout.counted_place isText hcpl range few ?_ fun c hc => ?_
  · rw [follows]
    rcases settings.border with b | b | b | b <;> omega
  · rw [← read] at hc
    obtain ⟨i, hi⟩ := List.getElem?_of_mem hc
    rw [(Markup.readLine_spans line s hi).width]
    exact settings.widthAt_le i _

/-- Every line of a document is read in settings that hold all through a session. -/
theorem framed_of_readings {p : Printer} {lines : List (List Char)} {s : State} (h : Framed p s) :
    ∀ r ∈ readings p lines s, Framed p r.2 := by
  induction lines generalizing s with
  | nil => simp [readings]
  | cons line r ih => exact List.forall_mem_cons.2 ⟨h, ih (drawNext_onPaper p line h).2⟩

/-- What is printed of a document is where it belongs. -/
structure InPlace (p : Printer) (document : List Char) : Prop where
  /-- Placing the columns of a line keeps to 64 bits. -/
  counted : ∀ r ∈ readings p (linesOf document) (.initial p), ∀ first more,
    (Markup.readLine r.1 r.2).1 = first :: more →
      Layout.Counted first more p.cpl ((first :: more).all Column.isText)
  areas : ∀ left width right, Op.area left width right ∈ program p document →
    left + width + right = p.cpl
  /-- The rows of the lines are those of the document. -/
  rows : (measuredRows p document).map Prod.snd = printedRows (program p document)
  /-- There is no text but in rows. -/
  text : (printedRows (program p document)).flatMap PrintedRow.text =
    Program.text (program p document)
  fits : ∀ row ∈ measuredRows p document, row.2.Fits p.page row.1

/-- **Text stays in its column, and everything on the paper,** as long as 64 bits can count it. -/
theorem text_in_place (p : Printer) (hcpl : 1 ≤ p.cpl) (document : List Char)
    (range : Countable p document) : InPlace p document := by
  have reads := reads_program p document
  constructor
  · intro r hr first more read
    obtain ⟨few, cells⟩ := range r hr
    rw [read] at few cells
    have settings := inRange_of_readings (Markup.inRange_initial p) r hr
    exact counted_readLine hcpl settings read few cells _
  · intro left width right h
    exact program_onPaper p document _ h
  · rw [reads.printedRows, measuredRows, List.map_flatMap]
    refine List.flatMap_congr fun r _ => ?_
    rw [List.map_map, (reads_drawNext p r.1 r.2).printedRows]
    exact List.map_id _
  · rw [reads.printedRows, reads.text]
  · intro row hrow
    obtain ⟨r, hr, hrow⟩ := List.mem_flatMap.1 hrow
    obtain ⟨printed, hprinted, rfl⟩ := List.mem_map.1 hrow
    rw [(reads_drawNext p r.1 r.2).printedRows] at hprinted
    exact printedNext_fits hcpl r.1 (framed_of_readings (framed_initial p) r hr) printed hprinted

/-- A table of two columns between rules. -/
theorem text_in_place_table :
    1 ≤ Printer.narrow.cpl ∧ Countable .narrow "{border:line}\n|Tea|4.50|".toList ∧
      (measuredRows .narrow "{border:line}\n|Tea|4.50|".toList).map Prod.fst = [[14, 15]] ∧
      InPlace .narrow "{border:line}\n|Tea|4.50|".toList := by
  have few : (readings .narrow (linesOf "{border:line}\n|Tea|4.50|".toList) (.initial .narrow)).all
      (fun r => (Markup.readLine r.1 r.2).1.length ≤ 2) = true := by
    decide +kernel
  have range : Countable .narrow "{border:line}\n|Tea|4.50|".toList := by
    intro r hr
    have two := of_decide_eq_true (List.all_eq_true.1 few r hr)
    have cpl : Printer.narrow.cpl = 32 := rfl
    omega
  exact ⟨by decide, range, by decide +kernel, text_in_place .narrow (by decide) _ range⟩

/-- **A margin that is rounded up can leave its column:** a line wider than `2 ^ 53` cells. -/
theorem margin_rounds_up :
    ∃ row ∈ measuredRows { cpl := 2 ^ 53 + 4 } "a|".toList, ∃ c ∈ row.2.cells.zip row.1, ∃ m,
      c.1.margin = some m ∧ (c.2 : Rat) < m.size + c.1.used .cp437 := by
  decide +kernel

end Receipt.Page
