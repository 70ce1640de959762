import Receipt.Proofs.Layout.Placement
import Receipt.Proofs.Markup.Segments
import Receipt.Proofs.Page.Rows

/-!
# Controls on paper

Controls reach the paper only in the text of a column that is printed, and there only from a
placeholder that is left when the text is made ready, because placeholders of other controls stood
inside it. A column that wraps prints every one of them that it is wide enough for; of a column that
does not, the first row is printed.
-/

namespace Receipt.Page

open Drawing (Op Program)
open Layout (Placed Placement Row Run decorated)
open Markup (Column Interrupted State codes cut isControl prepare protect segments)

/-! ## What is shown of a column -/

/-- The rows of a column that are printed: all of them, or the first if the column does not wrap. -/
def shownRows (p : Printer) (c : Placed) : List Row :=
  if c.column.wrap then rowsOf p c else (rowsOf p c).head?.toList

/-- Whether a character stands in a row of a column that is printed. -/
def Shows (p : Printer) (c : Placed) (x : Char) : Prop :=
  ∃ row ∈ shownRows p c, ∃ run ∈ row.runs, x ∈ run.text

/-- The runs of a row that a column has or has not. -/
def runsOf : Option Row → List Run
  | some row => row.runs
  | none => [⟨{}, [' ']⟩]

theorem flatMap_printedCells {α : Type} (f : List Run → List α) (border position : Nat)
    (cells : List (Nat × Option Row)) :
    (printedCells border position cells).flatMap (fun c => f c.runs) =
      cells.flatMap fun c => f (runsOf c.2) := by
  induction cells generalizing position with
  | nil => rfl
  | cons cell r ih =>
    obtain ⟨width, row⟩ := cell
    have first : (printedCell position row).runs = runsOf row := by cases row <;> rfl
    rw [printedCells, List.flatMap_cons, List.flatMap_cons, ih, first]

/-- The text of a row is that of its columns, one after another. -/
theorem text_printedRow (p : Printer) (placement : Placement) (ruled : Bool) (border j : Nat) :
    (printedRow placement ruled border (placement.columns.map (rowsOf p)) j).text =
      placement.columns.flatMap fun c => (runsOf (rowsOf p c)[j]?).flatMap Run.text := by
  rw [PrintedRow.text, printedRow, zip_rowsOf]
  rw [flatMap_printedCells (fun runs => runs.flatMap Run.text), List.flatMap_map]

/-- The rows that are printed of a column are those up to the row count of the line. -/
theorem mem_shownRows {p : Printer} {columns : List Placed} {c : Placed} (hc : c ∈ columns)
    (row : Row) :
    row ∈ shownRows p c ↔
      ∃ j < rowCount c.column.wrap (columns.map (rowsOf p)), (rowsOf p c)[j]? = some row := by
  have longest : (rowsOf p c).length ≤ ((columns.map (rowsOf p)).map List.length).foldl max 1 :=
    (Layout.le_foldl_max _ 1).2 _ (List.mem_map_of_mem (List.mem_map_of_mem hc))
  unfold shownRows rowCount
  split
  · rw [List.mem_iff_getElem?]
    constructor
    · rintro ⟨j, hj⟩
      obtain ⟨hlt, _⟩ := List.getElem?_eq_some_iff.1 hj
      exact ⟨j, by omega, hj⟩
    · rintro ⟨j, _, hj⟩
      exact ⟨j, hj⟩
  · rw [Option.mem_toList, List.head?_eq_getElem?]
    constructor
    · intro first
      exact ⟨0, Nat.one_pos, first⟩
    · rintro ⟨j, hlt, hj⟩
      obtain rfl : j = 0 := by omega
      exact hj

/-- **What a line of text prints is what its columns show,** and blanks. -/
theorem mem_text_printedLine (p : Printer) {placement : Placement} {wrap : Bool}
    (same : ∀ c ∈ placement.columns, c.column.wrap = wrap) (ruled : Bool) {x : Char} (hx : x ≠ ' ') :
    (∃ row ∈ printedLine p placement ruled, x ∈ row.text) ↔ ∃ c ∈ placement.columns, Shows p c x := by
  cases columns : placement.columns with
  | nil => simp [printedLine, columns]
  | cons first more =>
    have lines : printedLine p placement ruled =
        (List.range (rowCount wrap (placement.columns.map (rowsOf p)))).map
          (printedRow placement ruled first.column.border.natAbs
            (placement.columns.map (rowsOf p))) := by
      have := same first (by rw [columns]; exact List.mem_cons_self)
      simp only [printedLine, columns, this]
    rw [← columns, lines]
    constructor
    · rintro ⟨_, hrow, htext⟩
      obtain ⟨j, hj, rfl⟩ := List.mem_map.1 hrow
      rw [text_printedRow] at htext
      obtain ⟨c, hc, htext⟩ := List.mem_flatMap.1 htext
      obtain ⟨run, hrun, htext⟩ := List.mem_flatMap.1 htext
      cases cell : (rowsOf p c)[j]? with
      | none =>
        rw [cell] at hrun
        obtain rfl := List.mem_singleton.1 hrun
        exact absurd (List.mem_singleton.1 htext) hx
      | some row =>
        rw [cell] at hrun
        refine ⟨c, hc, row, (mem_shownRows hc row).2 ⟨j, ?_, cell⟩, run, hrun, htext⟩
        rw [same c hc]
        exact List.mem_range.1 hj
    · rintro ⟨c, hc, row, hrow, run, hrun, htext⟩
      obtain ⟨j, hj, cell⟩ := (mem_shownRows hc row).1 hrow
      rw [same c hc] at hj
      refine ⟨_, List.mem_map_of_mem (List.mem_range.2 hj), ?_⟩
      rw [text_printedRow]
      refine List.mem_flatMap.2 ⟨c, hc, List.mem_flatMap.2 ⟨run, ?_, htext⟩⟩
      rw [cell]
      exact hrun

/-! ## Controls -/

/-- Whether a column prints a control: of a column that wraps, one left in a placeholder at a scale
that fits, and of any other, one in its first row. -/
def PrintsControl (p : Printer) (c : Placed) : Prop :=
  if c.column.wrap then
    ∃ element, c.column.payload = .text (segments element) ∧
      ∃ text ∈ decorated {} (cut (prepare element)), text.1.widthFactor ≤ c.width ∧
        ∃ x ∈ codes text.2, isControl x = true
  else ∃ row ∈ (rowsOf p c).head?, ∃ run ∈ row.runs, ∃ x ∈ run.text, isControl x = true

/-- The columns that a line of text prints. -/
def textColumns (p : Printer) (line : List Char) (s : State) : List Placed :=
  let columns := (Markup.readLine line s).1
  if columns.all Column.isText then (placed p columns).columns else []

/-- A column that is printed is one of the columns of its line. -/
theorem follows_of_mem_textColumns {p : Printer} {line : List Char} {s : State} {c : Placed}
    (h : c ∈ textColumns p line s) :
    c.column.Follows (Markup.readLine line s).2 ∧ c.column.isText = true := by
  unfold textColumns at h
  dsimp only at h
  split at h
  · rename_i isText
    have kept : c.column ∈ (Markup.readLine line s).1 := by
      obtain ⟨first, more, columns, _⟩ := Markup.readLine_first line s
      rw [columns] at h ⊢
      exact Layout.column_mem_of_mem_place _ _ _ _ h
    exact ⟨Markup.readLine_follows line s _ kept, List.all_eq_true.1 isText _ kept⟩
  · cases h

/-- A column shows a control just if it prints one by its text. -/
theorem shows_control_iff (p : Printer) {c : Placed}
    (text : ∃ element, c.column.payload = .text (segments element)) :
    (∃ x, isControl x = true ∧ Shows p c x) ↔ PrintsControl p c := by
  obtain ⟨element, payload⟩ := text
  have rows : rowsOf p c = Layout.wrap (segments element) c.width c.column.align p.page := by
    rw [rowsOf, payload]
  unfold Shows shownRows PrintsControl
  cases c.column.wrap with
  | false =>
    simp only [Bool.false_eq_true, if_false, Option.mem_toList]
    constructor
    · rintro ⟨x, control, row, hrow, run, hrun, hx⟩
      exact ⟨row, hrow, run, hrun, x, hx, control⟩
    · rintro ⟨row, hrow, run, hrun, x, hx, control⟩
      exact ⟨x, control, row, hrow, run, hrun, hx⟩
  | true =>
    simp only [if_true, rows]
    constructor
    · rintro ⟨x, control, shown⟩
      obtain ⟨text, htext, fits, hx⟩ := (Markup.control_mem_wrap element _ _ _ control).1 shown
      exact ⟨element, payload, text, htext, fits, x, hx, control⟩
    · rintro ⟨other, same, text, htext, fits, x, hx, control⟩
      have same : segments element = segments other := by
        rw [payload] at same
        exact Markup.Payload.text.inj same
      refine ⟨x, control, ?_⟩
      rw [same]
      exact (Markup.control_mem_wrap other _ _ _ control).2 ⟨text, htext, fits, hx⟩

/-- The control that a column prints was left in its text where placeholders of others stood inside
one. -/
theorem interrupted_of_printsControl (p : Printer) {c : Placed} {element : List Char}
    (payload : c.column.payload = .text (segments element)) (h : PrintsControl p c) :
    Interrupted (element.filter fun x => !isControl x) := by
  obtain ⟨x, control, row, hrow, run, hrun, hx⟩ := (shows_control_iff p ⟨element, payload⟩).2 h
  have inRows : row ∈ rowsOf p c := by
    unfold shownRows at hrow
    split at hrow
    · exact hrow
    · exact List.mem_of_mem_head? (Option.mem_toList.1 hrow)
  rw [rowsOf, payload] at inRows
  obtain ⟨text, htext, _, hx⟩ :=
    (Markup.control_mem_wrap element _ _ _ control).1 ⟨row, inRows, run, hrun, hx⟩
  exact Markup.interrupted_of_mem_codes (Markup.mem_of_mem_decorated htext) hx control

theorem mem_text_printedNext (p : Printer) (line : List Char) (s : State) :
    (∃ row ∈ printedNext p line s, ∃ x ∈ row.text, isControl x = true) ↔
      ∃ c ∈ textColumns p line s, PrintsControl p c := by
  have wrap : ∀ c ∈ textColumns p line s, c.column.wrap = (Markup.readLine line s).2.wrap :=
    fun c hc => (follows_of_mem_textColumns hc).1.wrap
  have text : ∀ c ∈ textColumns p line s, ∃ element, c.column.payload = .text (segments element) :=
    fun c hc => (follows_of_mem_textColumns hc).1.text (follows_of_mem_textColumns hc).2
  unfold printedNext
  unfold textColumns at wrap text ⊢
  dsimp only at wrap text ⊢
  split
  · rename_i isText
    rw [if_pos isText] at wrap text
    have notBlank {x : Char} (control : isControl x = true) : x ≠ ' ' := by
      rintro rfl
      exact absurd control (by decide)
    have line {x : Char} (control : isControl x = true) := mem_text_printedLine p wrap
      (s.ruling.state.step .text).1.isOpen (notBlank control)
    constructor
    · rintro ⟨row, hrow, x, hx, control⟩
      obtain ⟨c, hc, shows⟩ := (line control).1 ⟨row, hrow, hx⟩
      exact ⟨c, hc, (shows_control_iff p (text c hc)).1 ⟨x, control, shows⟩⟩
    · rintro ⟨c, hc, prints⟩
      obtain ⟨x, control, shows⟩ := (shows_control_iff p (text c hc)).2 prints
      obtain ⟨row, hrow, hx⟩ := (line control).2 ⟨c, hc, shows⟩
      exact ⟨row, hrow, x, hx, control⟩
  · simp

theorem mem_text_iff {program : Program} {x : Char} :
    (∃ t, Op.text t ∈ program ∧ x ∈ t) ↔ x ∈ Program.text program := by
  simp only [Program.text, List.mem_flatten, List.mem_filterMap]
  constructor
  · rintro ⟨t, ht, hx⟩
    exact ⟨t, ⟨_, ht, rfl⟩, hx⟩
  · rintro ⟨t, ⟨op, hop, ht⟩, hx⟩
    cases op <;> cases ht
    exact ⟨_, hop, hx⟩

/-- A document prints a control just if a column of a line of text does. -/
theorem control_mem_program (p : Printer) (document : List Char) :
    (∃ t, Op.text t ∈ program p document ∧ ∃ x ∈ t, isControl x = true) ↔
      ∃ r ∈ readings p (linesOf document) (.initial p),
        ∃ c ∈ textColumns p r.1 r.2, PrintsControl p c := by
  have reads := (reads_program p document).text
  constructor
  · rintro ⟨t, ht, x, hx, control⟩
    have inProgram := mem_text_iff.1 ⟨t, ht, hx⟩
    rw [reads] at inProgram
    obtain ⟨row, hrow, hx⟩ := List.mem_flatMap.1 inProgram
    obtain ⟨r, hr, hrow⟩ := List.mem_flatMap.1 hrow
    exact ⟨r, hr, (mem_text_printedNext p r.1 r.2).1 ⟨row, hrow, x, hx, control⟩⟩
  · rintro ⟨r, hr, prints⟩
    obtain ⟨row, hrow, x, hx, control⟩ := (mem_text_printedNext p r.1 r.2).2 prints
    have inProgram : x ∈ Program.text (program p document) := by
      rw [reads]
      exact List.mem_flatMap.2 ⟨row, List.mem_flatMap.2 ⟨r, hr, hrow⟩, hx⟩
    obtain ⟨t, ht, hx⟩ := mem_text_iff.2 inProgram
    exact ⟨t, ht, x, hx, control⟩

/-- **Which controls reach the paper.** Decoded text has those that are left in placeholders, and a
document prints one just if a column of a line of text does. A placeholder is left only where others
stood inside it. -/
theorem controls_printed (p : Printer) :
    (∀ t, ((∃ x ∈ Markup.decode (prepare (protect t)), isControl x = true ∧ x ≠ '\n') ↔
        ∃ x ∈ codes (prepare (protect t)), isControl x = true ∧ x ≠ '\n') ∧
      ((∃ x ∈ codes (prepare (protect t)), isControl x = true) →
        Interrupted ((protect t).filter fun x => !isControl x))) ∧
    ∀ document, ((∃ t, Op.text t ∈ program p document ∧ ∃ x ∈ t, isControl x = true) ↔
        ∃ r ∈ readings p (linesOf document) (.initial p),
          ∃ c ∈ textColumns p r.1 r.2, PrintsControl p c) ∧
      ∀ r ∈ readings p (linesOf document) (.initial p), ∀ c ∈ textColumns p r.1 r.2,
        PrintsControl p c → ∃ element, c.column.payload = .text (segments element) ∧
          Interrupted (element.filter fun x => !isControl x) := by
  constructor
  · intro t
    refine ⟨⟨?_, ?_⟩, ?_⟩
    · rintro ⟨x, hx, control, ne⟩
      exact ⟨x, (Markup.control_mem_decode_prepare control ne).1 hx, control, ne⟩
    · rintro ⟨x, hx, control, ne⟩
      exact ⟨x, (Markup.control_mem_decode_prepare control ne).2 hx, control, ne⟩
    · rintro ⟨x, hx, control⟩
      exact Markup.interrupted_of_hasControl (Markup.hasControl_of_mem_codes hx control)
  · intro document
    refine ⟨control_mem_program p document, ?_⟩
    intro r _ c hc prints
    obtain ⟨follows, isText⟩ := follows_of_mem_textColumns hc
    obtain ⟨element, payload⟩ := follows.text isText
    exact ⟨element, payload, interrupted_of_printsControl p payload prints⟩

/-- A placeholder that vanishes leaves another, and an escape is printed. -/
theorem controls_printed_escape :
    Op.text ['A', '\x1b', 'B'] ∈ program .wide "A\\x\\x001bB".toList ∧
      ∃ r ∈ readings .wide (linesOf "A\\x\\x001bB".toList) (.initial .wide),
        ∃ c ∈ textColumns .wide r.1 r.2, PrintsControl .wide c ∧
          ∃ element, c.column.payload = .text (segments element) ∧
            Interrupted (element.filter fun x => !isControl x) := by
  have printed : Op.text ['A', '\x1b', 'B'] ∈ program .wide "A\\x\\x001bB".toList := by
    decide +kernel
  obtain ⟨which, cause⟩ := (controls_printed .wide).2 "A\\x\\x001bB".toList
  obtain ⟨r, hr, c, hc, prints⟩ := which.1 ⟨_, printed, '\x1b', by decide, rfl⟩
  exact ⟨printed, r, hr, c, hc, prints, cause r hr c hc prints⟩

end Receipt.Page
