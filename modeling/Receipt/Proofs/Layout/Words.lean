import Mathlib.Algebra.Group.Action.Defs
import Mathlib.Algebra.Order.BigOperators.Group.List
import Receipt.Proofs.Layout.Placement

/-!
# Placing columns in 64 bits

Cells and columns are whole numbers here, and numbers of 64 bits in a printer: with a sign where
cells may be wanting. Both are the same on every line whose cells and columns together are no more
than `2 ^ 63` (`counted_place`): none of the numbers on the way to a placement leaves its range. One
cell more, and the last share of the cells does.
-/

namespace Receipt.Layout

open Markup (Column)

/-- Numbers that 64 bits with a sign hold. -/
def IsHeld (n : Int) : Prop := -2 ^ 63 ≤ n ∧ n < 2 ^ 63

instance (n : Int) : Decidable (IsHeld n) := inferInstanceAs (Decidable (_ ∧ _))

/-- The numbers on the way to the placement of a line, all of them held by 64 bits: without a sign
in the limit of the columns and in twice a margin, with a sign in all others. -/
structure Counted (first : Column) (more : List Column) (cpl : Nat) (isText : Bool) : Prop where
  limit : cpl + first.border.toNat < 2 ^ 64
  margin : cpl * 2 < 2 ^ 64
  cells : IsHeld cpl
  /-- All fixed widths; and so the first of them -/
  fixed : IsHeld (fixed (keptWidths first more cpl isText)).sum
  borders : IsHeld (Markup.borderCells first.border (survivors (first :: more) cpl isText).length)
  unpaid : IsHeld (cpl - (Layout.fixed (keptWidths first more cpl isText)).sum)
  spare : IsHeld (keptSpare first more cpl isText)
  wanting : IsHeld ((keptWidths first more cpl isText).count none - keptSpare first more cpl isText)
  /-- With the cells that fixed columns have given up -/
  regained : IsHeld (keptSpare first more cpl isText + (narrowed first more cpl isText).2)
  shares : ∀ j < (keptWidths first more cpl isText).count none,
    IsHeld (keptSpare first more cpl isText + (narrowed first more cpl isText).2 + j)

/-! ## Bounds -/

theorem length_survivors_le (columns : List Column) (cpl : Nat) (isText : Bool) :
    (survivors columns cpl isText).length ≤ columns.length := by
  cases columns with
  | nil => exact Nat.le_refl _
  | cons first more =>
    have kept := List.length_filter_le (fun c : Column => decide (c.width ≠ 0)) (first :: more)
    simp only [survivors]
    split
    · exact (List.length_take_le' _ _).trans kept
    · exact kept

/-- Fixed widths together, if none is wider than another bound. -/
theorem sum_fixed_le {columns : List Column} {widest : Nat}
    (widths : ∀ c ∈ columns, c.width ≤ widest) :
    (fixed (columns.map asked)).sum ≤ widest * (fixed (columns.map asked)).length := by
  rw [Nat.mul_comm, ← smul_eq_mul]
  refine List.sum_le_card_nsmul _ _ fun n hn => ?_
  obtain ⟨w, hw, rfl⟩ := List.mem_filterMap.1 hn
  obtain ⟨c, hc, asks⟩ := List.mem_map.1 hw
  have := widths c hc
  unfold asked at asks
  split at asks
  · cases asks
    omega
  · cases asks

/-- The borders of so many columns, if a border is between a rule and two cells. -/
theorem borderCells_bounds {border : Int} (low : -1 ≤ border) (high : border ≤ 2) (count : Nat) :
    -2 ≤ Markup.borderCells border count ∧ Markup.borderCells border count ≤ 2 * count + 1 := by
  unfold Markup.borderCells
  obtain rfl | rfl | rfl | rfl : border = -1 ∨ border = 0 ∨ border = 1 ∨ border = 2 := by omega
  all_goals split <;> omega

/-- What fixed columns and borders are paid; borders only if there is something to print. -/
theorem keptSpare_paid (first : Column) (more : List Column) {cpl : Nat} (isText : Bool)
    (hcpl : 1 ≤ cpl) :
    ∃ paid : Int, 0 ≤ paid ∧
      keptSpare first more cpl isText =
        cpl - (fixed (keptWidths first more cpl isText)).sum - paid ∧
      (paid = 0 ∨ (survivors (first :: more) cpl isText).length + paid ≤ cpl) := by
  by_cases printed : isText = true ∧ survivors (first :: more) cpl isText ≠ []
  · obtain ⟨rfl, some⟩ := printed
    exact ⟨_, borderCells_nonneg _ (List.length_pos_iff.2 some), keptSpare_text some,
      Or.inr (survivors_fit first more hcpl some)⟩
  · have unpaid : (isText && !(survivors (first :: more) cpl isText).isEmpty) = false := by
      cases isText <;> simp at printed ⊢
      exact printed
    refine ⟨0, Int.le_refl 0, ?_, Or.inl rfl⟩
    rw [keptSpare, spareCells, unpaid, keptWidths, List.sum_eq_foldr]
    rfl

/-- **Placing columns keeps to 64 bits,** where the cells of a line and its columns together do. -/
theorem counted_place {first : Column} {more : List Column} {cpl : Nat} (isText : Bool)
    (hcpl : 1 ≤ cpl) (range : cpl + (first :: more).length ≤ 2 ^ 63)
    (columns : (first :: more).length ≤ 2 ^ 47)
    (border : -1 ≤ first.border ∧ first.border ≤ 2)
    (widths : ∀ c ∈ first :: more, c.width ≤ (65535 : Nat)) : Counted first more cpl isText := by
  obtain ⟨paid, paid_nonneg, spare, room⟩ := keptSpare_paid first more isText hcpl
  have kept := length_survivors_le (first :: more) cpl isText
  have count := count_none_add (keptWidths first more cpl isText)
  have sum : (fixed (keptWidths first more cpl isText)).sum ≤
      65535 * (fixed (keptWidths first more cpl isText)).length :=
    sum_fixed_le fun c hc => widths c (survivors_subset cpl isText hc)
  have taken : (narrowed first more cpl isText).2 = min _ _ := taken_shrink _ _
  have some : 1 ≤ (first :: more).length := Nat.succ_pos _
  have borders := borderCells_bounds border.1 border.2 (survivors (first :: more) cpl isText).length
  rw [keptWidths, List.length_map, ← keptWidths] at count
  constructor
  case limit | margin => omega
  case shares =>
    intro j hj
    unfold IsHeld
    omega
  all_goals
    unfold IsHeld
    omega

/-- Two columns without borders on the longest line of all: the second share is one cell too
many. -/
example :
    let c : Column :=
      { align := 1, wrap := true, border := 0, width := -1, alignment := .left,
        payload := .text [] }
    ¬IsHeld (keptSpare c [c] (2 ^ 63 - 1) true + (narrowed c [c] (2 ^ 63 - 1) true).2 + 1) := by
  decide +kernel

end Receipt.Layout
