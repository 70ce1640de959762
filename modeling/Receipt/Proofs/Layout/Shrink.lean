import Mathlib.Data.List.Forall2
import Mathlib.Tactic.Linarith
import Receipt.Layout.Shrink

/-!
# What narrowing keeps

Narrowing takes exactly the cells it counts, all that are wanted if the fixed columns have them, and
leaves every fixed column a cell as long as there is one for each. A step brings the widest columns
down together, never below the next width, so the step itself has both properties, and a run of
steps has them by induction.
-/

namespace Receipt.Layout

/-! ## The fixed widths -/

@[simp] theorem fixed_nil : fixed [] = [] := rfl

@[simp] theorem fixed_none (ws : Widths) : fixed (none :: ws) = fixed ws := rfl

@[simp] theorem fixed_some (w : Nat) (ws : Widths) : fixed (some w :: ws) = w :: fixed ws := rfl

/-- A width is fixed or left over. -/
theorem count_none_add (ws : Widths) : ws.count none + (fixed ws).length = ws.length := by
  induction ws with
  | nil => rfl
  | cons w r ih =>
    cases w with
    | none =>
      rw [List.count_cons_self, fixed_none, List.length_cons]
      omega
    | some w =>
      rw [List.count_cons_of_ne (by simp), fixed_some, List.length_cons, List.length_cons]
      omega

/-- Fixed columns are counted by their places alone. -/
theorem length_fixed (ws : Widths) : (fixed ws).length = (ws.map Option.isSome).count true := by
  induction ws with
  | nil => rfl
  | cons w r ih =>
    cases w with
    | none => simpa using ih
    | some w => simpa using ih

theorem le_foldl_max (ns : List Nat) (a : Nat) :
    a ≤ ns.foldl max a ∧ ∀ n ∈ ns, n ≤ ns.foldl max a := by
  induction ns generalizing a with
  | nil => simp
  | cons m r ih =>
    obtain ⟨ha, hr⟩ := ih (max a m)
    have ham : a ≤ max a m := Nat.le_max_left a m
    have hmm : m ≤ max a m := Nat.le_max_right a m
    refine ⟨ham.trans ha, fun n hn => ?_⟩
    rcases List.mem_cons.1 hn with rfl | hn
    · exact hmm.trans ha
    · exact hr n hn

theorem foldl_max_mem (ns : List Nat) (a : Nat) : ns.foldl max a = a ∨ ns.foldl max a ∈ ns := by
  induction ns generalizing a with
  | nil => exact Or.inl rfl
  | cons m r ih =>
    simp only [List.foldl_cons, List.mem_cons]
    rcases ih (max a m) with h | h
    · rw [h]
      rcases Nat.le_total a m with ham | ham
      · exact Or.inr (Or.inl (Nat.max_eq_right ham))
      · exact Or.inl (Nat.max_eq_left ham)
    · exact Or.inr (Or.inr h)

theorem le_largest {ns : List Nat} {n : Nat} (h : n ∈ ns) : n ≤ largest ns := (le_foldl_max ns 0).2 n h

/-- The largest width is one of the widths, unless there is none but zero. -/
theorem largest_mem {ns : List Nat} (h : 0 < largest ns) : largest ns ∈ ns := by
  rcases foldl_max_mem ns 0 with h₀ | hm
  · exact absurd h₀ h.ne'
  · exact hm

/-! ## Lowering the widest columns -/

theorem lowerAll_isSome (top rounds extra : Nat) (ws : Widths) :
    (lowerAll top rounds extra ws).map Option.isSome = ws.map Option.isSome := by
  induction ws generalizing extra with
  | nil => rfl
  | cons w r ih =>
    unfold lowerAll
    split
    · subst w
      simp [ih]
    · simp [ih]

/-- Lowering takes the rounds from each of the widest columns, and the extra cells. -/
theorem sum_lowerAll {top rounds : Nat} (extra : Nat) (ws : Widths)
    (h : rounds + (if 0 < extra then 1 else 0) ≤ top) :
    (fixed (lowerAll top rounds extra ws)).sum +
        (rounds * (fixed ws).count top + min extra ((fixed ws).count top)) = (fixed ws).sum := by
  induction ws generalizing extra with
  | nil => simp [lowerAll]
  | cons w r ih =>
    unfold lowerAll
    split
    · subst w
      have ih := ih (extra - 1) (by split at h <;> split <;> omega)
      simp only [fixed_some, List.sum_cons, List.count_cons_self]
      rw [Nat.mul_add, Nat.mul_one]
      split
      · simp only [if_pos ‹0 < extra›] at h
        omega
      · omega
    · have ih := ih extra h
      cases w with
      | none => simpa using ih
      | some w =>
        have ne : w ≠ top := fun e => ‹¬ some w = some top› (congrArg some e)
        simp only [fixed_some, List.sum_cons, List.count_cons_of_ne ne]
        omega

/-- A fixed width after lowering: kept if it is not the widest, else lowered. -/
theorem mem_fixed_lowerAll {top rounds extra : Nat} {ws : Widths} {n : Nat}
    (h : n ∈ fixed (lowerAll top rounds extra ws)) :
    n ∈ fixed ws ∨ n = top - rounds ∨ (0 < extra ∧ n = top - rounds - 1) := by
  induction ws generalizing extra with
  | nil => simp [lowerAll] at h
  | cons w r ih =>
    unfold lowerAll at h
    split at h
    · rcases List.mem_cons.1 h with h | h
      · split at h
        · exact Or.inr (Or.inr ⟨‹_›, h⟩)
        · exact Or.inr (Or.inl (by simpa using h))
      · rcases ih h with h | h | ⟨hx, h⟩
        · subst w
          exact Or.inl (List.mem_cons_of_mem _ h)
        · exact Or.inr (Or.inl h)
        · exact Or.inr (Or.inr ⟨by omega, h⟩)
    · cases w with
      | none => exact ih h
      | some w =>
        rcases List.mem_cons.1 h with h | h
        · exact Or.inl (List.mem_cons.2 (Or.inl h))
        · exact (ih h).imp_left (List.mem_cons_of_mem _)

/-! ## One step -/

section
variable (ws : Widths) (need : Nat)

/-- What each of the widest columns gives up does not pass the next width. -/
theorem rounds_le :
    stepSize ws need / (fixed ws).count (largest (fixed ws))
        + (if 0 < stepSize ws need % (fixed ws).count (largest (fixed ws)) then 1 else 0)
      ≤ largest (fixed ws) - largest ((fixed ws).filter (· < largest (fixed ws))) := by
  have bound : stepSize ws need ≤
      (largest (fixed ws) - largest ((fixed ws).filter (· < largest (fixed ws))))
        * (fixed ws).count (largest (fixed ws)) := Nat.min_le_left _ _
  generalize largest (fixed ws) - largest ((fixed ws).filter (· < largest (fixed ws))) = gap at bound ⊢
  generalize (fixed ws).count (largest (fixed ws)) = count at bound ⊢
  have division := Nat.div_add_mod (stepSize ws need) count
  split
  · by_contra hgap
    have : count * gap ≤ count * (stepSize ws need / count) := Nat.mul_le_mul_left _ (by omega)
    have : gap * count = count * gap := Nat.mul_comm _ _
    omega
  · rw [Nat.add_zero]
    exact Nat.div_le_of_le_mul (by rwa [Nat.mul_comm] at bound)

theorem stepSize_le : stepSize ws need ≤ need := Nat.min_le_right _ _

theorem count_pos_of_step (h : stepSize ws need ≠ 0) :
    0 < (fixed ws).count (largest (fixed ws)) := by
  by_contra hc
  have : (fixed ws).count (largest (fixed ws)) = 0 := by omega
  simp [stepSize, this] at h

theorem lowerWidest_isSome :
    (lowerWidest ws need).map Option.isSome = ws.map Option.isSome := lowerAll_isSome _ _ _ _

/-- A step takes as many cells as it says. -/
theorem sum_lowerWidest (h : stepSize ws need ≠ 0) :
    (fixed (lowerWidest ws need)).sum + stepSize ws need = (fixed ws).sum := by
  have hc := count_pos_of_step ws need h
  have taken := sum_lowerAll (stepSize ws need % (fixed ws).count (largest (fixed ws))) ws
    ((rounds_le ws need).trans (Nat.sub_le _ _))
  have division := Nat.div_add_mod (stepSize ws need) ((fixed ws).count (largest (fixed ws)))
  have rest := Nat.mod_lt (stepSize ws need) hc
  rw [Nat.min_eq_left rest.le, Nat.mul_comm, division] at taken
  exact taken

/-- The next width is below the largest. -/
theorem next_lt (h : 0 < largest (fixed ws)) :
    largest ((fixed ws).filter (· < largest (fixed ws))) < largest (fixed ws) := by
  rcases Nat.eq_zero_or_pos (largest ((fixed ws).filter (· < largest (fixed ws)))) with zero | pos
  · omega
  · simpa using (List.mem_filter.1 (largest_mem pos)).2

/-- A step takes nothing only if no cell is wanted or none is there. -/
theorem need_eq_zero_or (h : stepSize ws need = 0) : need = 0 ∨ (fixed ws).sum = 0 := by
  rcases Nat.eq_zero_or_pos (largest (fixed ws)) with zero | pos
  · right
    exact List.sum_eq_zero_iff_forall_eq_nat.2 fun n hn => Nat.le_zero.1 (zero ▸ le_largest hn)
  · left
    have gap := next_lt ws pos
    have count := List.count_pos_iff.2 (largest_mem pos)
    have product := Nat.mul_pos (Nat.sub_pos_of_lt gap) count
    simp only [stepSize] at h
    omega

/-- Without a next width all fixed columns are equally wide. -/
theorem fixed_eq_replicate (ones : ∀ n ∈ fixed ws, 1 ≤ n)
    (zero : largest ((fixed ws).filter (· < largest (fixed ws))) = 0) :
    ∃ k, fixed ws = List.replicate k (largest (fixed ws)) := by
  refine ⟨_, List.eq_replicate_of_mem fun m hm => ?_⟩
  by_contra ne
  have below : m ∈ (fixed ws).filter (· < largest (fixed ws)) :=
    List.mem_filter.2 ⟨hm, by simpa using lt_of_le_of_ne (le_largest hm) ne⟩
  have := le_largest below
  have := ones m hm
  omega

/-- A step leaves every fixed column a cell as long as there is one for each. -/
theorem one_le_lowerWidest (h : stepSize ws need ≠ 0) (ones : ∀ n ∈ fixed ws, 1 ≤ n)
    (room : stepSize ws need + (fixed ws).length ≤ (fixed ws).sum) :
    ∀ n ∈ fixed (lowerWidest ws need), 1 ≤ n := by
  intro n hn
  have rounds := rounds_le ws need
  have widest := count_pos_of_step ws need h
  rcases mem_fixed_lowerAll hn with hn | hn
  · exact ones n hn
  rcases Nat.eq_zero_or_pos (largest ((fixed ws).filter (· < largest (fixed ws)))) with zero | pos
  · -- none of the equal columns goes below its share
    obtain ⟨k, hk⟩ := fixed_eq_replicate ws ones zero
    generalize largest (fixed ws) = top at hk hn widest
    rw [hk, List.sum_replicate_nat, List.length_replicate] at room
    rw [hk, List.count_replicate_self] at hn widest
    have division := Nat.div_add_mod (stepSize ws need) k
    generalize stepSize ws need / k = q at division hn
    by_contra none
    rcases hn with hn | ⟨extra, hn⟩
    · have : k * top ≤ k * q := Nat.mul_le_mul_left k (by omega)
      omega
    · have : k * top ≤ k * (q + 1) := Nat.mul_le_mul_left k (by omega)
      rw [Nat.mul_add, Nat.mul_one] at this
      omega
  · have below := le_largest (List.mem_filter.1 (largest_mem pos)).1
    rcases hn with hn | ⟨extra, hn⟩
    · split at rounds <;> omega
    · rw [if_pos extra] at rounds
      omega

end

/-! ## Narrowing -/

theorem shrink_done {ws : Widths} {need : Nat} (h : stepSize ws need = 0) :
    shrink ws need = (ws, 0) := by
  rw [shrink, dif_pos h]

theorem shrink_more {ws : Widths} {need : Nat} (h : stepSize ws need ≠ 0) :
    shrink ws need =
      ((shrink (lowerWidest ws need) (need - stepSize ws need)).1,
        stepSize ws need + (shrink (lowerWidest ws need) (need - stepSize ws need)).2) := by
  rw [shrink, dif_neg h]

theorem shrink_isSome (ws : Widths) (need : Nat) :
    (shrink ws need).1.map Option.isSome = ws.map Option.isSome := by
  induction ws, need using shrink.induct with
  | case1 ws need h => rw [shrink_done h]
  | case2 ws need h _ _ _ ih =>
    rw [shrink_more h]
    exact ih.trans (lowerWidest_isSome ws need)

theorem length_shrink (ws : Widths) (need : Nat) : (shrink ws need).1.length = ws.length := by
  rw [← List.length_map Option.isSome, shrink_isSome, List.length_map]

/-- Narrowing fixes no width and gives none up. -/
theorem length_fixed_shrink (ws : Widths) (need : Nat) :
    (fixed (shrink ws need).1).length = (fixed ws).length := by
  rw [length_fixed, shrink_isSome, ← length_fixed]

/-- **Narrowing takes the cells it counts.** -/
theorem sum_shrink (ws : Widths) (need : Nat) :
    (fixed (shrink ws need).1).sum + (shrink ws need).2 = (fixed ws).sum := by
  induction ws, need using shrink.induct with
  | case1 ws need h => rw [shrink_done h, Nat.add_zero]
  | case2 ws need h _ _ _ ih =>
    have step := sum_lowerWidest ws need h
    rw [shrink_more h]
    simp only
    omega

/-- **Narrowing takes what is wanted,** or all there is. -/
theorem taken_shrink (ws : Widths) (need : Nat) :
    (shrink ws need).2 = min need (fixed ws).sum := by
  induction ws, need using shrink.induct with
  | case1 ws need h =>
    rw [shrink_done h]
    rcases need_eq_zero_or ws need h with h | h <;> simp [h]
  | case2 ws need h _ _ _ ih =>
    have step := sum_lowerWidest ws need h
    have bound := stepSize_le ws need
    rw [shrink_more h]
    simp only
    omega

/-- **Narrowing leaves every fixed column a cell** as long as there is one for each. -/
theorem one_le_shrink (ws : Widths) (need : Nat) (ones : ∀ n ∈ fixed ws, 1 ≤ n)
    (room : need + (fixed ws).length ≤ (fixed ws).sum) :
    ∀ n ∈ fixed (shrink ws need).1, 1 ≤ n := by
  induction ws, need using shrink.induct with
  | case1 ws need h =>
    rw [shrink_done h]
    exact ones
  | case2 ws need h _ _ _ ih =>
    have step := sum_lowerWidest ws need h
    have bound := stepSize_le ws need
    have columns : (fixed (lowerWidest ws need)).length = (fixed ws).length := by
      rw [length_fixed, length_fixed, lowerWidest_isSome]
    rw [shrink_more h]
    exact ih (one_le_lowerWidest ws need h ones (by omega)) (by omega)

/-! ## Column by column -/

theorem shrink_zero (ws : Widths) : shrink ws 0 = (ws, 0) :=
  shrink_done (Nat.le_zero.1 (stepSize_le ws 0))

/-- Widths of the same columns, none of them larger than before. -/
abbrev NoWider : Widths → Widths → Prop := List.Forall₂ (Option.Rel (· ≥ ·))

theorem noWider_refl (ws : Widths) : NoWider ws ws := by
  refine List.forall₂_same.2 fun w _ => ?_
  cases w with
  | none => exact .none
  | some n => exact .some (Nat.le_refl n)

theorem NoWider.lowerAll {before ws : Widths} (h : NoWider before ws) (top rounds extra : Nat) :
    NoWider before (lowerAll top rounds extra ws) := by
  induction h generalizing extra with
  | nil => exact .nil
  | cons first _ ih =>
    unfold Layout.lowerAll
    split
    · subst_vars
      obtain ⟨le⟩ := first
      refine .cons (.some ?_) (ih _)
      omega
    · exact .cons first (ih _)

/-- **Narrowing widens no column** and keeps the fixed columns apart from the others. -/
theorem NoWider.shrink {before ws : Widths} (h : NoWider before ws) (need : Nat) :
    NoWider before (shrink ws need).1 := by
  induction ws, need using shrink.induct with
  | case1 ws need done => rwa [shrink_done done]
  | case2 ws need step _ _ _ ih =>
    rw [shrink_more step]
    exact ih (h.lowerAll _ _ _)

end Receipt.Layout
