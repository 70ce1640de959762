import Mathlib.Algebra.BigOperators.Intervals
import Receipt.Layout.Placement
import Receipt.Proofs.Layout.Shrink

/-!
# Where columns are placed

The cells in front of the columns of a line, theirs and those behind make up the line. On a line of
text there are never more columns than it can hold, so every column has a cell, and all of them fit
between the margins with their borders.
-/

namespace Receipt.Layout

open Markup (Column)

/-! ## Sharing cells -/

theorem length_share (spare : Int) (flexible i : Nat) (ws : Widths) :
    (share spare flexible i ws).length = ws.length := by
  induction ws generalizing i with
  | nil => rfl
  | cons w r ih =>
    cases w with
    | none => exact congrArg (· + 1) (ih _)
    | some w => exact congrArg (· + 1) (ih _)

/-- A shared width is a fixed one or a share of the free cells. -/
theorem mem_share {spare : Int} {flexible i n : Nat} {ws : Widths}
    (h : n ∈ share spare flexible i ws) :
    n ∈ fixed ws ∨ none ∈ ws ∧ ∃ j, n = (spare + (j : Nat)).toNat / flexible := by
  induction ws generalizing i with
  | nil => simp [share] at h
  | cons w r ih =>
    cases w with
    | none =>
      rcases List.mem_cons.1 h with h | h
      · exact Or.inr ⟨List.mem_cons_self, i, h⟩
      · exact (ih h).imp_right (And.imp_left (List.mem_cons_of_mem _))
    | some w =>
      rcases List.mem_cons.1 h with h | h
      · exact Or.inl (List.mem_cons.2 (Or.inl h))
      · exact (ih h).imp (List.mem_cons_of_mem _) (And.imp_left (List.mem_cons_of_mem _))

theorem sum_share (spare : Int) (flexible i : Nat) (ws : Widths) :
    (share spare flexible i ws).sum =
      (fixed ws).sum +
        ∑ j ∈ Finset.range (ws.count none), (spare + ((i + j : Nat) : Int)).toNat / flexible := by
  induction ws generalizing i with
  | nil => rfl
  | cons w r ih =>
    cases w with
    | none =>
      rw [List.count_cons_self, Finset.sum_range_succ', share, List.sum_cons, ih (i + 1), fixed_none]
      simp only [Nat.add_zero, Nat.add_assoc, Nat.add_comm 1]
      omega
    | some w =>
      rw [List.count_cons_of_ne (by simp), share, List.sum_cons, ih i, fixed_some, List.sum_cons]
      omega

/-- The shares make up what is shared. -/
theorem sum_shares (spare flexible : Nat) (h : 0 < flexible) :
    ∑ j ∈ Finset.range flexible, (spare + j) / flexible = spare := by
  induction spare with
  | zero =>
    refine Finset.sum_eq_zero fun j hj => ?_
    rw [Nat.zero_add]
    exact Nat.div_eq_of_lt (Finset.mem_range.1 hj)
  | succ spare ih =>
    -- one cell more moves every share to the column before, and the last one gets one cell more
    have front := Finset.sum_range_succ' (fun j => (spare + j) / flexible) flexible
    have back := Finset.sum_range_succ (fun j => (spare + j) / flexible) flexible
    rw [Nat.add_div_right _ h, ih] at back
    rw [back] at front
    have shifted : ∀ j, spare + 1 + j = spare + (j + 1) := fun j => by omega
    simp only [shifted]
    simp only [Nat.add_zero] at front
    omega

/-! ## The columns that are printed -/

theorem one_le_asked {c : Column} {n : Nat} (h : asked c = some n) : 1 ≤ n := by
  unfold asked at h
  split at h
  · cases h
    omega
  · cases h

theorem one_le_of_mem_fixed_asked {columns : List Column} {n : Nat}
    (h : n ∈ fixed (columns.map asked)) : 1 ≤ n := by
  obtain ⟨w, hw, rfl⟩ := List.mem_filterMap.1 h
  obtain ⟨c, _, hc⟩ := List.mem_map.1 hw
  exact one_le_asked hc

theorem survivors_subset {columns : List Column} (cpl : Nat) (isText : Bool) {c : Column}
    (h : c ∈ survivors columns cpl isText) : c ∈ columns := by
  unfold survivors at h
  cases columns with
  | nil => exact h
  | cons first more =>
    simp only at h
    split at h
    · exact (List.mem_filter.1 (List.mem_of_mem_take h)).1
    · exact (List.mem_filter.1 h).1

/-- A line holds the columns that are printed, each with one cell, and their borders. -/
theorem survivors_fit (first : Column) (more : List Column) {cpl : Nat} (hcpl : 1 ≤ cpl)
    (printed : survivors (first :: more) cpl true ≠ []) :
    ((survivors (first :: more) cpl true).length : Int)
      + Markup.borderCells first.border (survivors (first :: more) cpl true).length ≤ cpl := by
  have limit : (survivors (first :: more) cpl true).length ≤ columnLimit cpl first.border :=
    List.length_take_le _ _
  have pos := List.length_pos_iff.2 printed
  generalize (survivors (first :: more) cpl true).length = n at limit pos
  unfold columnLimit at limit
  unfold Markup.borderCells
  split at limit
  · rw [if_pos ‹_›]
    omega
  · rw [if_neg ‹_›]
    obtain ⟨b, hb⟩ := Int.eq_ofNat_of_zero_le (not_lt.1 ‹¬ first.border < 0›)
    rw [hb, Int.toNat_natCast] at limit
    have := (Nat.le_div_iff_mul_le (Nat.succ_pos b)).1 limit
    rw [hb]
    have : ((n * (b + 1) : Nat) : Int) ≤ cpl + b := by exact_mod_cast this
    push_cast at this
    linarith

/-! ## The place of a line -/

theorem map_column_zipWith {columns : List Column} {ns : List Nat}
    (h : columns.length = ns.length) :
    (List.zipWith Placed.mk columns ns).map Placed.column = columns := by
  induction columns generalizing ns with
  | nil => rfl
  | cons c r ih =>
    obtain ⟨n, ns, rfl⟩ := List.exists_cons_of_length_eq_add_one h.symm
    exact congrArg (c :: ·) (ih (Nat.succ.inj h))

theorem map_width_zipWith {columns : List Column} {ns : List Nat}
    (h : columns.length = ns.length) :
    (List.zipWith Placed.mk columns ns).map Placed.width = ns := by
  induction columns generalizing ns with
  | nil => exact (List.eq_nil_of_length_eq_zero h.symm).symm
  | cons c r ih =>
    obtain ⟨n, ns, rfl⟩ := List.exists_cons_of_length_eq_add_one h.symm
    exact congrArg (n :: ·) (ih (Nat.succ.inj h))

section
variable (first : Column) (more : List Column) (cpl : Nat) (isText : Bool)

/-- The widths asked for by the columns that are printed. -/
def keptWidths : Widths := (survivors (first :: more) cpl isText).map asked

/-- The cells left over when these widths and the borders are paid. -/
def keptSpare : Int := spareCells (survivors (first :: more) cpl isText) first.border cpl isText

/-- The widths after narrowing, and the cells taken. -/
def narrowed : Widths × Nat :=
  shrink (keptWidths first more cpl isText)
    ((keptWidths first more cpl isText).count none - keptSpare first more cpl isText).toNat

theorem place_cons :
    place (first :: more) cpl isText =
      let flexible := (keptWidths first more cpl isText).count none
      let spare := keptSpare first more cpl isText + (narrowed first more cpl isText).2
      let margin := if 0 < flexible then 0 else min spare.toNat cpl
      { columns := List.zipWith Placed.mk (survivors (first :: more) cpl isText)
          (share spare flexible 0 (narrowed first more cpl isText).1)
        left := margin * first.alignment.halves / 2
        width := cpl - margin
        right := margin - margin * first.alignment.halves / 2 } := rfl

theorem length_narrowed :
    (narrowed first more cpl isText).1.length = (survivors (first :: more) cpl isText).length := by
  rw [narrowed, length_shrink, keptWidths, List.length_map]

theorem count_narrowed :
    (narrowed first more cpl isText).1.count none =
      (keptWidths first more cpl isText).count none := by
  have before := count_none_add (keptWidths first more cpl isText)
  have after := count_none_add (narrowed first more cpl isText).1
  rw [narrowed, length_shrink, length_fixed_shrink] at after
  rw [narrowed]
  omega

/-- **Nothing of the line is lost:** the cells in front of the columns, theirs and those behind. -/
theorem place_cpl :
    ∀ columns : List Column, (place columns cpl isText).left + (place columns cpl isText).width
      + (place columns cpl isText).right = cpl
  | [] => by
    show 0 + cpl + 0 = cpl
    omega
  | first :: more => by
    rw [place_cons]
    dsimp only
    generalize hm : (if 0 < (keptWidths first more cpl isText).count none then 0 else _) = margin
    have paper : margin ≤ cpl := by
      rw [← hm]
      split
      · exact Nat.zero_le _
      · exact Nat.min_le_right _ _
    have half : margin * first.alignment.halves / 2 ≤ margin := by
      cases first.alignment
      · show margin * 0 / 2 ≤ margin
        omega
      · show margin * 1 / 2 ≤ margin
        omega
      · show margin * 2 / 2 ≤ margin
        omega
    omega

/-- The cells beside the columns of a line: none where columns share them, else what the fixed
widths and the borders leave. -/
def beside : Nat :=
  if 0 < (keptWidths first more cpl isText).count none then 0
  else min (keptSpare first more cpl isText).toNat cpl

/-- Where a line stands is decided by the cells beside its columns, and by its alignment. -/
theorem place_beside :
    (place (first :: more) cpl isText).left =
        beside first more cpl isText * first.alignment.halves / 2 ∧
      (place (first :: more) cpl isText).width = cpl - beside first more cpl isText ∧
      (place (first :: more) cpl isText).right =
        beside first more cpl isText - beside first more cpl isText * first.alignment.halves / 2 := by
  have taken := taken_shrink (keptWidths first more cpl isText)
    ((keptWidths first more cpl isText).count none - keptSpare first more cpl isText).toNat
  rw [← narrowed] at taken
  have margin : (if 0 < (keptWidths first more cpl isText).count none then 0
      else min (keptSpare first more cpl isText + (narrowed first more cpl isText).2).toNat cpl) =
        beside first more cpl isText := by
    unfold beside
    split
    · rfl
    · omega
  rw [place_cons]
  dsimp only
  rw [margin]
  exact ⟨rfl, rfl, rfl⟩

theorem place_columns_column :
    (place (first :: more) cpl isText).columns.map Placed.column =
      survivors (first :: more) cpl isText := by
  rw [place_cons]
  exact map_column_zipWith (by rw [length_share, length_narrowed])

/-- A placed column is a column of the line. -/
theorem column_mem_of_mem_place {c : Placed} (h : c ∈ (place (first :: more) cpl isText).columns) :
    c.column ∈ first :: more := by
  refine survivors_subset cpl isText ?_
  rw [← place_columns_column]
  exact List.mem_map_of_mem h

theorem place_columns_width :
    (place (first :: more) cpl isText).columns.map Placed.width =
      share (keptSpare first more cpl isText + (narrowed first more cpl isText).2)
        ((keptWidths first more cpl isText).count none) 0 (narrowed first more cpl isText).1 := by
  rw [place_cons]
  exact map_width_zipWith (by rw [length_share, length_narrowed])

end

/-! ## Lines of text -/

section
variable {first : Column} {more : List Column} {cpl : Nat}

theorem borderCells_nonneg (border : Int) {count : Nat} (h : 1 ≤ count) :
    0 ≤ Markup.borderCells border count := by
  unfold Markup.borderCells
  split
  · omega
  · exact Int.mul_nonneg (by omega) (by omega)

theorem keptSpare_text (printed : survivors (first :: more) cpl true ≠ []) :
    keptSpare first more cpl true =
      cpl - (fixed (keptWidths first more cpl true)).sum
        - Markup.borderCells first.border (survivors (first :: more) cpl true).length := by
  rw [keptSpare, spareCells, keptWidths, List.sum_eq_foldr]
  simp [printed]

/-- The cells that are wanted leave one for each fixed column. -/
theorem need_room (hcpl : 1 ≤ cpl) (printed : survivors (first :: more) cpl true ≠ []) :
    ((keptWidths first more cpl true).count none - keptSpare first more cpl true).toNat
        + (fixed (keptWidths first more cpl true)).length
      ≤ (fixed (keptWidths first more cpl true)).sum := by
  have fit := survivors_fit first more hcpl printed
  have spare := keptSpare_text printed
  have columns := count_none_add (keptWidths first more cpl true)
  have ones : (fixed (keptWidths first more cpl true)).length
      ≤ (fixed (keptWidths first more cpl true)).sum :=
    List.length_le_sum_of_one_le _ fun n hn => one_le_of_mem_fixed_asked hn
  rw [keptWidths, List.length_map, ← keptWidths] at columns
  omega

/-- With the cells taken, there is one for each column without a width, and no cell is wanting. -/
theorem spare_narrowed (hcpl : 1 ≤ cpl) (printed : survivors (first :: more) cpl true ≠ []) :
    keptSpare first more cpl true + (narrowed first more cpl true).2 =
      max (keptSpare first more cpl true) ((keptWidths first more cpl true).count none) := by
  have room := need_room hcpl printed
  have taken := taken_shrink (keptWidths first more cpl true)
    ((keptWidths first more cpl true).count none - keptSpare first more cpl true).toNat
  rw [← narrowed] at taken
  omega

/-- **Every column of a line of text has a cell.** -/
theorem one_le_place (first : Column) (more : List Column) (hcpl : 1 ≤ cpl) :
    ∀ c ∈ (place (first :: more) cpl true).columns, 1 ≤ c.width := by
  intro c hc
  have printed : survivors (first :: more) cpl true ≠ [] := by
    rw [← place_columns_column]
    exact fun none => List.ne_nil_of_mem hc (List.map_eq_nil_iff.1 none)
  have width : c.width ∈ (place (first :: more) cpl true).columns.map Placed.width :=
    List.mem_map_of_mem hc
  rw [place_columns_width] at width
  rcases mem_share width with kept | ⟨free, j, shared⟩
  · exact one_le_shrink _ _ (fun n hn => one_le_of_mem_fixed_asked hn) (need_room hcpl printed) _ kept
  · have flexible := List.count_pos_iff.2 free
    rw [count_narrowed] at flexible
    rw [shared, spare_narrowed hcpl printed]
    exact (Nat.le_div_iff_mul_le flexible).2 (by omega)

/-- **The columns of a line of text and their borders fill its width.** -/
theorem sum_place (hcpl : 1 ≤ cpl) (printed : (place (first :: more) cpl true).columns ≠ []) :
    (((place (first :: more) cpl true).columns.map Placed.width).sum : Int)
        + Markup.borderCells first.border (place (first :: more) cpl true).columns.length
      = (place (first :: more) cpl true).width := by
  have columns := congrArg List.length (place_columns_column first more cpl true)
  rw [List.length_map] at columns
  have printed : survivors (first :: more) cpl true ≠ [] := by
    rw [← place_columns_column]
    exact fun none => printed (List.map_eq_nil_iff.1 none)
  have borders := borderCells_nonneg first.border (List.length_pos_iff.2 printed)
  have spare := keptSpare_text printed
  have free := spare_narrowed hcpl printed
  have taken := sum_shrink (keptWidths first more cpl true)
    ((keptWidths first more cpl true).count none - keptSpare first more cpl true).toNat
  rw [← narrowed] at taken
  rw [place_columns_width, sum_share, count_narrowed, columns, place_cons]
  dsimp only
  rcases Nat.eq_zero_or_pos ((keptWidths first more cpl true).count none) with fixed | flexible
  · rw [fixed] at free ⊢
    rw [Finset.range_zero, Finset.sum_empty, if_neg (Nat.lt_irrefl 0)]
    omega
  · rw [if_pos flexible]
    obtain ⟨n, hn⟩ := Int.eq_ofNat_of_zero_le
      (a := keptSpare first more cpl true + (narrowed first more cpl true).2) (by omega)
    have shares := sum_shares n _ flexible
    rw [hn]
    have whole : ∀ j, ((n : Int) + ((0 + j : Nat) : Int)).toNat = n + j := fun j => by omega
    simp only [whole, shares]
    omega

end

end Receipt.Layout
