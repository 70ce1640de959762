import Receipt.Proofs.Layout.Shrink

/-!
# Narrowing cell by cell

Narrowing is said one cell at a time: the widest of the fixed columns gives up a cell, the first of
them if there are several, and so on (`takeCells`). A round takes a cell from each of the widest in
turn, since the one that has just given a cell is no longer among them; after the round they are as
wide as each other again, and none of the others is widest before they have come down to it. So the
rounds that narrowing takes together are rounds of single cells (`takeCells_lowered`).
-/

namespace Receipt.Layout

/-! ## One cell at a time -/

/-- One cell less for the widest of the fixed columns, the first of them if there are several. -/
def takeCell (ws : Widths) : Widths :=
  ws.set (ws.idxOf (some (largest (fixed ws)))) (some (largest (fixed ws) - 1))

/-- Takes cells one by one, as many as are wanted or until no fixed column has any; also the cells
taken. -/
def takeCells : Nat → Widths → Widths × Nat
  | 0, ws => (ws, 0)
  | need + 1, ws =>
    if ∀ n ∈ fixed ws, n = 0 then (ws, 0)
    else
      let (done, taken) := takeCells need (takeCell ws)
      (done, taken + 1)

theorem takeCells_done {ws : Widths} (h : ∀ n ∈ fixed ws, n = 0) (need : Nat) :
    takeCells need ws = (ws, 0) := by
  cases need with
  | zero => rfl
  | succ need => rw [takeCells, if_pos h]

theorem takeCells_more {ws : Widths} (h : ∃ n ∈ fixed ws, n ≠ 0) (need : Nat) :
    takeCells (need + 1) ws =
      ((takeCells need (takeCell ws)).1, (takeCells need (takeCell ws)).2 + 1) := by
  rw [takeCells, if_neg]
  intro all
  obtain ⟨n, hn, pos⟩ := h
  exact pos (all n hn)

/-! ## Within a round -/

theorem set_idxOf_cons (w x y : Option Nat) (r : Widths) :
    (w :: r).set ((w :: r).idxOf x) y = if w = x then y :: r else w :: r.set (r.idxOf x) y := by
  by_cases same : w = x
  · subst same
    rw [List.idxOf_cons_self, if_pos rfl, List.set_cons_zero]
  · rw [List.idxOf_cons_ne _ same, if_neg same, List.set_cons_succ]

section
variable {top rounds : Nat} {ws : Widths}

/-- Columns that have yet to give a cell in this round are still as wide as after the last one. -/
theorem mem_fixed_lowerAll_of_lt {extra : Nat} (more : extra < (fixed ws).count top) :
    top - rounds ∈ fixed (lowerAll top rounds extra ws) := by
  induction ws generalizing extra with
  | nil => simp at more
  | cons w r ih =>
    unfold lowerAll
    split
    · subst w
      rw [fixed_some, List.count_cons_self] at more
      rw [fixed_some, List.mem_cons]
      rcases Nat.eq_zero_or_pos extra with rfl | pos
      · exact Or.inl (by simp)
      · exact Or.inr (ih (by omega))
    · cases w with
      | none => exact ih more
      | some w =>
        have ne : w ≠ top := fun e => ‹¬ some w = some top› (congrArg some e)
        rw [fixed_some, List.count_cons_of_ne ne] at more
        exact List.mem_cons_of_mem _ (ih more)

theorem le_of_mem_fixed_lowerAll (below : ∀ n ∈ fixed ws, n ≠ top → n < top - rounds)
    (extra : Nat) : ∀ n ∈ fixed (lowerAll top rounds extra ws), n ≤ top - rounds := by
  induction ws generalizing extra with
  | nil => simp [lowerAll]
  | cons w r ih =>
    unfold lowerAll
    split
    · subst w
      simp only [fixed_some, List.forall_mem_cons] at below ⊢
      exact ⟨Nat.sub_le _ _, ih below.2 (extra - 1)⟩
    · cases w with
      | none => exact ih below extra
      | some w =>
        have ne : w ≠ top := fun e => ‹¬ some w = some top› (congrArg some e)
        simp only [fixed_some, List.forall_mem_cons] at below ⊢
        exact ⟨(below.1 ne).le, ih below.2 extra⟩

/-- The next cell of a round comes from the first of the columns that have yet to give one. -/
theorem set_lowerAll (pos : rounds < top) (below : ∀ n ∈ fixed ws, n ≠ top → n < top - rounds)
    {extra : Nat} (more : extra < (fixed ws).count top) :
    (lowerAll top rounds extra ws).set
        ((lowerAll top rounds extra ws).idxOf (some (top - rounds))) (some (top - rounds - 1)) =
      lowerAll top rounds (extra + 1) ws := by
  induction ws generalizing extra with
  | nil => simp at more
  | cons w r ih =>
    by_cases widest : w = some top
    · subst w
      simp only [fixed_some, List.forall_mem_cons, List.count_cons_self] at below more
      simp only [lowerAll, if_true, set_idxOf_cons, Option.some.injEq]
      rcases Nat.eq_zero_or_pos extra with rfl | given
      · simp
      · rw [if_pos given, if_neg (by omega), ih below.2 (by omega), Nat.sub_add_cancel given,
          if_pos (Nat.succ_pos _)]
        rfl
    · simp only [lowerAll, if_neg widest, set_idxOf_cons]
      cases w with
      | none => rw [if_neg (by simp), ih below more]
      | some w =>
        have ne : w ≠ top := fun e => widest (congrArg some e)
        simp only [fixed_some, List.forall_mem_cons, List.count_cons_of_ne ne] at below more
        have less := below.1 ne
        rw [if_neg (by simp; omega), ih below.2 more]

/-- When all of the widest columns have given a cell, the round is over. -/
theorem lowerAll_round {extra : Nat} (full : (fixed ws).count top ≤ extra) :
    lowerAll top rounds extra ws = lowerAll top (rounds + 1) 0 ws := by
  induction ws generalizing extra with
  | nil => rfl
  | cons w r ih =>
    by_cases widest : w = some top
    · subst w
      rw [fixed_some, List.count_cons_self] at full
      simp only [lowerAll, if_true, if_pos (show 0 < extra by omega), Nat.lt_irrefl, if_false]
      rw [ih (by omega), Nat.sub_sub, Nat.sub_zero]
    · simp only [lowerAll, if_neg widest]
      cases w with
      | none => rw [ih full]
      | some w =>
        rw [fixed_some, List.count_cons_of_ne fun e => widest (congrArg some e)] at full
        rw [ih full]

theorem takeCell_lowerAll (pos : rounds < top)
    (below : ∀ n ∈ fixed ws, n ≠ top → n < top - rounds) {extra : Nat}
    (more : extra < (fixed ws).count top) :
    takeCell (lowerAll top rounds extra ws) = lowerAll top rounds (extra + 1) ws := by
  have widest : largest (fixed (lowerAll top rounds extra ws)) = top - rounds := by
    have mem : top - rounds ∈ fixed (lowerAll top rounds extra ws) := mem_fixed_lowerAll_of_lt more
    refine Nat.le_antisymm ?_ (le_largest mem)
    have some : 0 < largest (fixed (lowerAll top rounds extra ws)) :=
      (Nat.sub_pos_of_lt pos).trans_le (le_largest mem)
    exact le_of_mem_fixed_lowerAll below extra _ (largest_mem some)
  rw [takeCell, widest, set_lowerAll pos below more]

end

/-! ## Rounds -/

section
variable (ws : Widths)

/-- By how much the widest columns are wider than the next ones. -/
def gap : Nat := largest (fixed ws) - largest ((fixed ws).filter (· < largest (fixed ws)))

/-- The widths when the widest columns have given up `k` cells between them, in rounds. -/
def lowered (k : Nat) : Widths :=
  lowerAll (largest (fixed ws)) (k / (fixed ws).count (largest (fixed ws)))
    (k % (fixed ws).count (largest (fixed ws))) ws

theorem lowerAll_zero (top : Nat) : lowerAll top 0 0 ws = ws := by
  induction ws with
  | nil => rfl
  | cons w r ih =>
    unfold lowerAll
    split
    · subst w
      exact congrArg (some top :: ·) ih
    · rw [ih]

theorem lowered_zero : lowered ws 0 = ws := by
  rw [lowered, Nat.zero_div, Nat.zero_mod, lowerAll_zero]

variable {ws} {k : Nat}

/-- Within the gap the next columns stay below those that give cells. -/
theorem below_of_lt_gap {rounds : Nat} (h : rounds < gap ws) :
    ∀ n ∈ fixed ws, n ≠ largest (fixed ws) → n < largest (fixed ws) - rounds := by
  intro n hn ne
  have less : n < largest (fixed ws) := lt_of_le_of_ne (le_largest hn) ne
  have next : n ≤ largest ((fixed ws).filter (· < largest (fixed ws))) :=
    le_largest (List.mem_filter.2 ⟨hn, by simpa using less⟩)
  unfold gap at h
  omega

/-- So many rounds are begun, and so many cells of the last one are taken. -/
theorem rounds_of_lt (h : k < gap ws * (fixed ws).count (largest (fixed ws))) :
    k / (fixed ws).count (largest (fixed ws)) < gap ws ∧
      k % (fixed ws).count (largest (fixed ws)) < (fixed ws).count (largest (fixed ws)) := by
  have some : 0 < (fixed ws).count (largest (fixed ws)) := by
    by_contra none
    rw [Nat.le_zero.1 (not_lt.1 none), Nat.mul_zero] at h
    exact Nat.not_lt_zero k h
  exact ⟨(Nat.div_lt_iff_lt_mul some).2 h, Nat.mod_lt k some⟩

/-- **One cell more** of the same rounds. -/
theorem takeCell_lowered (h : k < gap ws * (fixed ws).count (largest (fixed ws))) :
    takeCell (lowered ws k) = lowered ws (k + 1) := by
  obtain ⟨rounds, extra⟩ := rounds_of_lt h
  have below := below_of_lt_gap rounds
  have pos : k / (fixed ws).count (largest (fixed ws)) < largest (fixed ws) :=
    rounds.trans_le (Nat.sub_le _ _)
  rw [lowered, takeCell_lowerAll pos below extra, lowered]
  generalize counted : (fixed ws).count (largest (fixed ws)) = count at extra ⊢
  obtain ⟨q, r, rfl, hr⟩ : ∃ q r, k = count * q + r ∧ r < count :=
    ⟨k / count, k % count, (Nat.div_add_mod k count).symm, extra⟩
  have some : 0 < count := Nat.zero_lt_of_lt hr
  rw [Nat.mul_add_div some, Nat.mul_add_mod, Nat.div_eq_of_lt hr, Nat.mod_eq_of_lt hr, Nat.add_assoc,
    Nat.mul_add_div some, Nat.mul_add_mod, Nat.add_zero]
  rcases Nat.lt_or_ge (r + 1) count with within | full
  · rw [Nat.div_eq_of_lt within, Nat.mod_eq_of_lt within]
    rfl
  · -- the last cell of a round
    obtain rfl : count = r + 1 := by omega
    rw [Nat.div_self some, Nat.mod_self]
    exact lowerAll_round counted.le

theorem exists_pos_lowered (h : k < gap ws * (fixed ws).count (largest (fixed ws))) :
    ∃ n ∈ fixed (lowered ws k), n ≠ 0 := by
  obtain ⟨rounds, extra⟩ := rounds_of_lt h
  refine ⟨_, mem_fixed_lowerAll_of_lt extra, ?_⟩
  have := rounds.trans_le (Nat.sub_le _ _)
  omega

/-- **Cells taken one by one are taken in rounds,** as long as none of the next columns is among the
widest. -/
theorem takeCells_lowered (h : k ≤ gap ws * (fixed ws).count (largest (fixed ws))) (rest : Nat) :
    takeCells (k + rest) ws =
      ((takeCells rest (lowered ws k)).1, k + (takeCells rest (lowered ws k)).2) := by
  induction k generalizing rest with
  | zero => rw [lowered_zero, Nat.zero_add, Nat.zero_add]
  | succ k ih =>
    have next := takeCells_more (exists_pos_lowered h) rest
    rw [takeCell_lowered h] at next
    rw [Nat.add_right_comm, Nat.add_assoc, ih (Nat.le_of_succ_le h), next]
    simp only [Prod.mk.injEq, true_and]
    omega

end

/-! ## Narrowing -/

theorem shrink_eq_takeCells (ws : Widths) (need : Nat) : shrink ws need = takeCells need ws := by
  induction ws, need using shrink.induct with
  | case1 ws need h =>
    rw [shrink_done h]
    rcases need_eq_zero_or ws need h with rfl | none
    · rfl
    · rw [takeCells_done (List.sum_eq_zero_iff_forall_eq_nat.1 none)]
  | case2 ws need h _ _ _ ih =>
    have bound : stepSize ws need ≤ gap ws * (fixed ws).count (largest (fixed ws)) :=
      Nat.min_le_left _ _
    have rest := takeCells_lowered bound (need - stepSize ws need)
    rw [Nat.add_sub_cancel' (stepSize_le ws need)] at rest
    rw [shrink_more h, rest, ih]
    rfl

/-- A column without a width of its own, by the kinds of the columns. -/
theorem getElem?_eq_none_iff (ws : Widths) (i : Nat) :
    ws[i]? = some none ↔ (ws.map Option.isSome)[i]? = some false := by
  rw [List.getElem?_map]
  rcases ws[i]? with _ | _ | w <;> simp

/-- **Narrowing is taking cells one at a time,** each from the first of the widest fixed columns. It
ends with as many cells as are wanted, or all there are, and leaves the other columns alone. -/
theorem shrink_cell_by_cell (ws : Widths) (need : Nat) :
    shrink ws need = takeCells need ws ∧
      (shrink ws need).2 = min need (fixed ws).sum ∧
      (fixed (shrink ws need).1).sum + min need (fixed ws).sum = (fixed ws).sum ∧
      (shrink ws need).1.length = ws.length ∧
      ∀ i : Nat, (shrink ws need).1[i]? = some none ↔ ws[i]? = some none := by
  have sum := sum_shrink ws need
  rw [taken_shrink] at sum
  refine ⟨shrink_eq_takeCells ws need, taken_shrink ws need, sum, length_shrink ws need, fun i => ?_⟩
  rw [getElem?_eq_none_iff, shrink_isSome, ← getElem?_eq_none_iff]

/-- Three cells of the columns of a table, one of them without a width of its own: the first of the
two widest gives two. -/
example : takeCells 3 [some 5, none, some 5, some 3] = ([some 3, none, some 4, some 3], 3) := by
  decide

end Receipt.Layout
