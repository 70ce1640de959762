import Receipt.Proofs.Layout.Placement
import Receipt.Proofs.Markup.Widths
import Receipt.Proofs.Page.Line

/-!
# Blocks are as wide as tables

A rule, an image, a code or a command stands alone on its line, in a column as wide as the columns of
a line of text are together. The two widths are found in different ways: that of the column when the
line is read, those of text when its columns are placed. They come to the same wherever the line holds
all the columns that have a width (`block_as_wide`). A block that gives widths of its own has these,
and not those of the lines above it (`block_with_own_width`).
-/

namespace Receipt.Page

open Layout (asked beside columnLimit fixed keptSpare keptWidths place survivors Widths)
open Markup (Column State Value.widest borderCells readLine)

/-! ## Widths asked for -/

/-- The cells that a column of a width asks for. -/
def cellsOf (width : Int) : Option Nat := if 0 < width then some width.toNat else none

theorem cellsOf_of_neg {w : Int} (h : w < 0) : cellsOf w = none := if_neg (by omega)

theorem map_asked (columns : List Column) :
    (columns.filter (·.width ≠ 0)).map asked =
      ((columns.map Column.width).filter (· ≠ 0)).map cellsOf := by
  rw [List.filter_map, List.map_map]
  rfl

/-- If the line holds all columns with a width, they are all printed. -/
theorem keptWidths_eq {first : Column} {more : List Column} {cpl : Nat}
    (room : (((first :: more).map Column.width).filter (· ≠ 0)).length ≤
      columnLimit cpl first.border) :
    keptWidths first more cpl true =
      (((first :: more).map Column.width).filter (· ≠ 0)).map cellsOf := by
  rw [← map_asked]
  rw [List.filter_map, List.length_map] at room
  exact congrArg (List.map asked) (List.take_of_length_le room)

theorem fixed_map_cellsOf (ws : List Int) (pos : ∀ w ∈ ws, 0 < w) :
    (ws.map cellsOf).count none = 0 ∧ ((fixed (ws.map cellsOf)).sum : Int) = ws.sum := by
  induction ws with
  | nil => exact ⟨rfl, rfl⟩
  | cons w r ih =>
    obtain ⟨wide, rest⟩ := List.forall_mem_cons.1 pos
    obtain ⟨count, sum⟩ := ih rest
    have some : cellsOf w = some w.toNat := if_pos wide
    rw [List.map_cons, some, List.count_cons_of_ne (by simp), Layout.fixed_some, List.sum_cons,
      List.sum_cons]
    refine ⟨count, ?_⟩
    rw [Nat.cast_add, sum, Int.toNat_of_nonneg wide.le]

/-! ## Cells beside a line of text -/

section
variable {cpl : Nat} {s : State} {line : List Char} {first : Column} {more : List Column}

/-- Where a column takes what is left over, nothing is. -/
theorem beside_of_none {isText : Bool} (h : none ∈ keptWidths first more cpl isText) :
    beside first more cpl isText = 0 := if_pos (List.count_pos_iff.2 h)

theorem beside_flexible (read : (readLine line s).1 = first :: more)
    (isText : (first :: more).all Column.isText = true)
    (flexible : s.widths = [] ∨ ∃ w ∈ s.widths, w < 0)
    (room : (if s.widths = [] then 1 else (s.widths.filter (· ≠ 0)).length) ≤
      columnLimit cpl first.border) :
    beside first more cpl true = 0 := by
  rw [← read] at isText
  refine beside_of_none ?_
  rcases flexible with unset | ⟨w, hw, neg⟩
  · -- all columns take what is left over, and the line holds the first
    have alike := Markup.widths_of_none isText unset first (by rw [read]; exact List.mem_cons_self)
    rw [if_pos unset] at room
    have kept : first ∈ survivors (first :: more) cpl true := by
      obtain ⟨n, hn⟩ := Nat.exists_eq_add_of_le room
      show first ∈ ((first :: more).filter (·.width ≠ 0)).take (columnLimit cpl first.border)
      rw [hn, List.filter_cons_of_pos (by simp [alike]), Nat.add_comm, List.take_succ_cons]
      exact List.mem_cons_self
    refine List.mem_map.2 ⟨first, kept, cellsOf_of_neg ?_⟩
    omega
  · have set : s.widths ≠ [] := List.ne_nil_of_mem hw
    have widths := Markup.widths_of_some isText set
    rw [read] at widths
    rw [if_neg set, ← widths] at room
    rw [keptWidths_eq room, widths]
    exact List.mem_map.2 ⟨w, List.mem_filter.2 ⟨hw, by simpa using neg.ne⟩, cellsOf_of_neg neg⟩

/-- Fixed columns leave what they do not take together. -/
theorem beside_fixed (read : (readLine line s).1 = first :: more)
    (isText : (first :: more).all Column.isText = true) (border : first.border = s.border)
    (set : s.widths ≠ []) (rigid : ∀ w ∈ s.widths, 0 ≤ w)
    (room : (s.widths.filter (· ≠ 0)).length ≤ columnLimit cpl first.border) :
    beside first more cpl true = min (cpl - s.total).toNat cpl := by
  rw [← read] at isText
  have widths := Markup.widths_of_some isText set
  have same : s.widths.filter (· ≠ 0) = s.widths.filter (0 < ·) := by
    refine List.filter_congr fun w hw => ?_
    have := rigid w hw
    exact decide_eq_decide.2 (by omega)
  rw [read, same] at widths
  rw [same, ← widths] at room
  have kept := keptWidths_eq room
  rw [widths] at kept
  obtain ⟨count, sum⟩ := fixed_map_cellsOf (s.widths.filter (0 < ·)) (by simp)
  rw [← kept] at count sum
  have length := congrArg List.length kept
  simp only [keptWidths, List.length_map] at length
  have spare : keptSpare first more cpl true = cpl - s.total := by
    by_cases printed : survivors (first :: more) cpl true = []
    · have absent : s.widths.filter (0 < ·) = [] := by
        rw [printed] at length
        exact List.eq_nil_of_length_eq_zero length.symm
      simp [keptSpare, Layout.spareCells, printed, State.total, absent, fixed]
    · have columns : (s.widths.filter (0 < ·)).isEmpty = false := by
        rw [List.isEmpty_eq_false_iff, ← List.length_pos_iff, ← length]
        exact List.length_pos_iff.2 printed
      rw [Layout.keptSpare_text printed, sum, length, border, State.total]
      simp only [columns, Bool.false_eq_true, if_false, ← List.sum_eq_foldr]
      omega
  rw [beside, count, if_neg (Nat.lt_irrefl 0), spare]

end

/-! ## Cells beside a block -/

theorem beside_alone (c : Column) (cpl : Nat) :
    beside c [] cpl false = if c.width < 0 then 0 else min (cpl - c.width).toNat cpl := by
  have kept : keptWidths c [] cpl false = if c.width = 0 then [] else [cellsOf c.width] := by
    rw [show keptWidths c [] cpl false = ([c].filter (·.width ≠ 0)).map asked from rfl, map_asked]
    by_cases zero : c.width = 0 <;> simp [zero]
  have spare : keptSpare c [] cpl false = cpl - (fixed (keptWidths c [] cpl false)).sum := by
    simp [keptSpare, Layout.spareCells, keptWidths, List.sum_eq_foldr]
  rcases lt_trichotomy c.width 0 with neg | zero | pos
  · rw [if_neg neg.ne, cellsOf_of_neg neg] at kept
    rw [if_pos neg, beside, kept]
    rfl
  · rw [if_pos zero] at kept
    rw [zero, beside, spare, kept]
    rfl
  · have cells : cellsOf c.width = some c.width.toNat := if_pos pos
    rw [if_neg pos.ne', cells] at kept
    rw [if_neg (not_lt.2 pos.le), beside, spare, kept]
    have sum : ((fixed [some c.width.toNat]).sum : Int) = c.width := by
      simpa using Int.toNat_of_nonneg pos.le
    rw [sum]
    rfl

theorem total_nonneg (s : State) : 0 ≤ s.total := by
  unfold State.total
  dsimp only
  split
  · exact Int.le_refl 0
  · rename_i columns
    rw [List.isEmpty_iff, ← ne_eq, ← List.length_pos_iff] at columns
    have borders := Layout.borderCells_nonneg s.border columns
    obtain ⟨-, sum⟩ := fixed_map_cellsOf (s.widths.filter (0 < ·)) (by simp)
    rw [← List.sum_eq_foldr]
    omega

/-! ## Lines -/

/-- What a line of text and a block as wide as its settings say leave beside them. -/
theorem beside_eq {cpl : Nat} {s : State} {line : List Char} {first : Column} {more : List Column}
    {c : Column} (paper : cpl ≤ Markup.Value.widest) (read : (readLine line s).1 = first :: more)
    (isText : (first :: more).all Column.isText = true) (border : first.border = s.border)
    (room : (if s.widths = [] then 1 else (s.widths.filter (· ≠ 0)).length) ≤
      columnLimit cpl first.border)
    (width : c.width = s.widthAt 0 false) :
    beside first more cpl true = beside c [] cpl false := by
  rw [beside_alone, width]
  by_cases flexible : s.widths = [] ∨ ∃ w ∈ s.widths, w < 0
  · rw [beside_flexible read isText flexible room, Markup.widthAt_flexible flexible]
    rfl
  · obtain ⟨set, rigid⟩ := not_or.1 flexible
    have rigid : ∀ w ∈ s.widths, 0 ≤ w := fun w hw => not_lt.1 fun neg => rigid ⟨w, hw, neg⟩
    rw [if_neg set] at room
    rw [beside_fixed read isText border set rigid room, Markup.widthAt_fixed set rigid]
    -- the widest column is no narrower than the paper
    have cells := total_nonneg s
    unfold Markup.Value.widest at paper ⊢
    rw [if_neg (by omega)]
    omega

/-- **A block is as wide as a line of text** that is read in the settings it leaves, and stands in the
same place. -/
theorem block_as_wide (p : Printer) {s u t : State} {text block : List Char} {c : Column}
    (paper : p.cpl ≤ Markup.Value.widest)
    (room : (if s.widths = [] then 1 else (s.widths.filter (· ≠ 0)).length) ≤
      columnLimit p.cpl s.border)
    (isText : (readLine text s).1.all Column.isText = true)
    (alone : readLine block u = ([c], t)) (noText : c.isText = false)
    (widths : t.widths = s.widths) (border : t.border = s.border)
    (alignment : t.alignment = s.alignment) :
    (placed p (readLine text s).1).left = (placed p (readLine block u).1).left ∧
      (placed p (readLine text s).1).width = (placed p (readLine block u).1).width ∧
      (placed p (readLine text s).1).right = (placed p (readLine block u).1).right := by
  obtain ⟨first, more, read, -⟩ := Markup.readLine_first text s
  have follows := Markup.readLine_follows text s first (by rw [read]; exact List.mem_cons_self)
  have textSpans := Markup.readLine_spans text s (i := 0) (c := first) (by rw [read]; rfl)
  have blockSpans : c.Spans t 0 := by
    have spans := Markup.readLine_spans block u (i := 0) (c := c) (by rw [alone]; rfl)
    rwa [alone] at spans
  rw [Markup.readLine_text isText] at follows textSpans
  have width : c.width = s.widthAt 0 false := by
    rw [blockSpans.width, noText, State.widthAt, State.widthAt, widths, border]
  have stands : first.alignment = c.alignment := by
    rw [textSpans.alignment, blockSpans.alignment, alignment]
  rw [read] at isText
  rw [← follows.border] at room
  have same := beside_eq paper read isText follows.border room width
  have noneText : [c].all Column.isText = false := by simp [noText]
  rw [read, alone, placed, placed, isText, noneText]
  obtain ⟨left, width, right⟩ := Layout.place_beside first more p.cpl true
  obtain ⟨left', width', right'⟩ := Layout.place_beside c [] p.cpl false
  rw [left, width, right, left', width', right', same, stands]
  exact ⟨rfl, rfl, rfl⟩

/-- An image as wide as a table of two columns that are wider than the paper together. -/
theorem block_as_wide_image :
    ∃ (t : State) (c : Column),
      t = { State.initial .wide with border := -1, widths := [30, 0, 40], alignment := .right } ∧
      readLine "\x7bborder:line;width:30 0 40;align:right;image:QUJD\x7d".toList (.initial .wide) =
        ([c], t) ∧ c.width = 73 ∧ c.isText = false ∧
      Printer.wide.cpl ≤ Markup.Value.widest ∧
      (t.widths.filter (· ≠ 0)).length ≤ columnLimit Printer.wide.cpl t.border ∧
      (readLine "|Tea||4.50|".toList t).1.all Column.isText = true ∧
      (placed .wide (readLine "|Tea||4.50|".toList t).1).left = (placed .wide [c]).left ∧
      (placed .wide (readLine "|Tea||4.50|".toList t).1).width = (placed .wide [c]).width ∧
      (placed .wide (readLine "|Tea||4.50|".toList t).1).right = (placed .wide [c]).right := by
  let t : State :=
    { State.initial .wide with border := -1, widths := [30, 0, 40], alignment := .right }
  let c : Column :=
    { align := 1
      wrap := true
      border := -1
      width := 73
      alignment := .right
      payload := .image "QUJD".toList
      toggle := some .start }
  have alone : readLine "\x7bborder:line;width:30 0 40;align:right;image:QUJD\x7d".toList
      (.initial .wide) = ([c], t) := by decide +kernel
  have isText : (readLine "|Tea||4.50|".toList t).1.all Column.isText = true := by decide +kernel
  have same := block_as_wide .wide (s := t) (by decide) (by decide) isText alone rfl rfl rfl rfl
  rw [alone] at same
  exact ⟨t, c, rfl, alone, rfl, rfl, by decide, by decide, isText, same⟩

/-- **A block with a width of its own** is not as wide as the text above it. -/
theorem block_with_own_width :
    Printer.wide.cpl ≤ Markup.Value.widest ∧ (State.initial .wide).widths = [] ∧
      1 ≤ columnLimit Printer.wide.cpl (State.initial .wide).border ∧
      (readLine "Tea".toList (.initial .wide)).1.all Column.isText = true ∧
      (readLine "\x7bwidth:10;image:QUJD\x7d".toList (.initial .wide)).1.length = 1 ∧
      (readLine "\x7bwidth:10;image:QUJD\x7d".toList (.initial .wide)).1.all Column.isText = false ∧
      (placed .wide (readLine "Tea".toList (.initial .wide)).1).width = 48 ∧
      (placed .wide (readLine "\x7bwidth:10;image:QUJD\x7d".toList (.initial .wide)).1).width = 10 := by
  decide +kernel

end Receipt.Page
