import Mathlib.Algebra.Order.Field.Power
import Mathlib.Data.Rat.Floor
import Mathlib.Tactic.IntervalCases
import Mathlib.Tactic.Positivity
import Receipt.Number.Binary

/-!
# Numbers that need no rounding

A number of at most 53 binary digits, in the range of exponents, is its own nearest binary64 number
(`nearest_of_digits`), and every nearest number has this form (`nearest_digits`). So the numbers of
cells up to `2 ^ 53` and their halves are exact; beyond, `nearest` moves some of them up.
-/

namespace Receipt.Number

/-! ## The order of a number -/

/-- A positive number of base-`b` digits lies between the powers that the count of digits names. -/
theorem pow_length_bounds {b n : Nat} (hb : 1 < b) (hn : 0 < n) :
    b ^ ((Nat.toDigits b n).length - 1) ≤ n ∧ n < b ^ (Nat.toDigits b n).length := by
  have pos : 0 < (Nat.toDigits b n).length := Nat.length_toDigits_pos
  refine ⟨?_, (Nat.length_toDigits_le_iff hb pos).1 le_rfl⟩
  rcases Nat.lt_or_ge 1 (Nat.toDigits b n).length with long | short
  · by_contra h
    have := (Nat.length_toDigits_le_iff hb (by omega)).2 (not_le.1 h)
    omega
  · have one : (Nat.toDigits b n).length - 1 = 0 := by omega
    rw [one, pow_zero]
    exact hn

/-- A quotient lies between the powers that the counts of digits name. -/
theorem div_bounds {b n d : Nat} (hb : 1 < b) (hn : 0 < n) (hd : 0 < d) :
    (b : Rat) ^ (((Nat.toDigits b n).length : Int) - (Nat.toDigits b d).length - 1)
        ≤ (n : Rat) / d ∧
      (n : Rat) / d < (b : Rat) ^ (((Nat.toDigits b n).length : Int)
        - (Nat.toDigits b d).length + 1) := by
  have hb0 : (b : Rat) ≠ 0 := by positivity
  have den : (0 : Rat) < d := by exact_mod_cast hd
  have numPos : 0 < (Nat.toDigits b n).length := Nat.length_toDigits_pos
  have denPos : 0 < (Nat.toDigits b d).length := Nat.length_toDigits_pos
  obtain ⟨n₁, n₂⟩ := pow_length_bounds hb hn
  obtain ⟨d₁, d₂⟩ := pow_length_bounds hb hd
  generalize (Nat.toDigits b n).length = ln at n₁ n₂ numPos ⊢
  generalize (Nat.toDigits b d).length = ld at d₁ d₂ denPos ⊢
  constructor
  · have split : (ln : Int) - ld - 1 = ((ln - 1 : Nat) : Int) - (ld : Int) := by omega
    rw [split, zpow_sub₀ hb0, zpow_natCast, zpow_natCast, div_le_div_iff₀ (by positivity) den]
    calc (b : Rat) ^ (ln - 1) * d
        ≤ (n : Rat) * d := by
          gcongr
          exact_mod_cast n₁
      _ ≤ (n : Rat) * (b : Rat) ^ ld := by
          gcongr
          exact_mod_cast d₂.le
  · have split : (ln : Int) - ld + 1 = (ln : Int) - ((ld - 1 : Nat) : Int) := by omega
    rw [split, zpow_sub₀ hb0, zpow_natCast, zpow_natCast, div_lt_div_iff₀ den (by positivity)]
    calc (n : Rat) * (b : Rat) ^ (ld - 1)
        ≤ (n : Rat) * d := by
          gcongr
          exact_mod_cast d₁
      _ < (b : Rat) ^ ln * d := by
          gcongr
          exact_mod_cast n₂

/-- `order` is the exponent of the largest power of the base that is not above the number. -/
theorem order_bounds {b : Nat} (hb : 1 < b) {x : Rat} (hx : 0 < x) :
    (b : Rat) ^ order b x ≤ x ∧ x < (b : Rat) ^ (order b x + 1) := by
  have num : 0 < x.num.natAbs := Int.natAbs_pos.2 (Rat.num_pos.2 hx).ne'
  have quotient : (x.num.natAbs : Rat) / x.den = x := by
    have : ((x.num.natAbs : Int) : Rat) = x.num := by
      exact_mod_cast Int.natAbs_of_nonneg (Rat.num_pos.2 hx).le
    rw [← Int.cast_natCast x.num.natAbs, this, Rat.num_div_den]
  obtain ⟨below, above⟩ := div_bounds hb num x.den_pos
  rw [quotient] at below above
  simp only [order]
  split
  · exact ⟨‹_›, above⟩
  · refine ⟨below, ?_⟩
    rw [sub_add_cancel]
    exact not_le.1 ‹_›

/-- A number below a power has a smaller order. -/
theorem order_lt_of_lt {b : Nat} (hb : 1 < b) {x : Rat} (hx : 0 < x) {k : Int}
    (h : x < (b : Rat) ^ k) : order b x < k := by
  have hb' : (1 : Rat) < b := by exact_mod_cast hb
  exact (zpow_lt_zpow_iff_right₀ hb').1 ((order_bounds hb hx).1.trans_lt h)

/-- A number from a power on has at least its order. -/
theorem le_order_of_le {b : Nat} (hb : 1 < b) {x : Rat} (hx : 0 < x) {k : Int}
    (h : (b : Rat) ^ k ≤ x) : k ≤ order b x := by
  have hb' : (1 : Rat) < b := by exact_mod_cast hb
  have := (zpow_lt_zpow_iff_right₀ hb').1 (h.trans_lt (order_bounds hb hx).2)
  omega

/-! ## Rounding to an integer -/

theorem roundEven_natCast (n : Nat) : roundEven (n : Rat) = n := by
  have floor : (n : Rat).floor.toNat = n := by
    have : (n : Rat).floor = n := by exact_mod_cast Rat.floor_intCast n
    rw [this, Int.toNat_natCast]
  simp [roundEven, floor]

/-- Rounding does not pass a natural number. -/
theorem roundEven_le {x : Rat} (hx : 0 ≤ x) {n : Nat} (h : x ≤ n) : roundEven x ≤ n := by
  rcases h.lt_or_eq with h | rfl
  · have floor : x.floor.toNat < n := by
      have : x.floor < n := Rat.floor_lt_iff.2 (by exact_mod_cast h)
      have : 0 ≤ x.floor := Rat.le_floor_iff.2 (by exact_mod_cast hx)
      omega
    simp only [roundEven]
    split <;> omega
  · rw [roundEven_natCast]

/-! ## Nearest numbers -/

/-- The exponent of the spacing of numbers at `x`. -/
def gridExponent (x : Rat) : Int := max (order 2 x - 52) (-1074)

theorem spacing_eq (x : Rat) : spacing x = (2 : Rat) ^ gridExponent x := rfl

theorem spacing_pos (x : Rat) : 0 < spacing x := by
  rw [spacing_eq]
  positivity

theorem gridExponent_le {x : Rat} (hx : 0 < x) {k : Int} (h : x < (2 : Rat) ^ (k + 53))
    (hk : -1074 ≤ k) : gridExponent x ≤ k := by
  have := order_lt_of_lt (b := 2) (by norm_num) hx (by exact_mod_cast h)
  unfold gridExponent
  omega

/-- A multiple of the spacing is its own nearest number. -/
theorem nearest_of_multiple {x : Rat} {n : Nat} (h : x = n * (2 : Rat) ^ gridExponent x) :
    nearest x = x := by
  unfold nearest
  split
  · exact ‹x = 0›.symm
  · have quotient : x / spacing x = n := by
      rw [spacing_eq, div_eq_iff (by positivity)]
      exact h
    rw [quotient, roundEven_natCast, spacing_eq]
    exact h.symm

/-- **A number of at most 53 binary digits needs no rounding.** -/
theorem nearest_of_digits {m : Nat} {k : Int} (hm : m ≤ 2 ^ 53) (hk : -1074 ≤ k) :
    nearest (m * (2 : Rat) ^ k) = m * (2 : Rat) ^ k := by
  rcases Nat.eq_zero_or_pos m with rfl | pos
  · simp [nearest]
  have two : (2 : Rat) ≠ 0 := by norm_num
  have hx : 0 < m * (2 : Rat) ^ k := by positivity
  -- the largest mantissa is a power of two: it is written with the next exponent
  obtain ⟨n, j, same, grid⟩ : ∃ (n : Nat) (j : Int), m * (2 : Rat) ^ k = n * (2 : Rat) ^ j ∧
      gridExponent (m * (2 : Rat) ^ k) ≤ j := by
    rcases hm.lt_or_eq with small | rfl
    · refine ⟨m, k, rfl, gridExponent_le hx ?_ hk⟩
      rw [add_comm k, zpow_add₀ two]
      gcongr
      exact_mod_cast small
    · refine ⟨2 ^ 52, k + 1, ?_, gridExponent_le hx ?_ (by omega)⟩
      · rw [zpow_add₀ two]
        norm_num
        ring
      · have next : k + 1 + 53 = 54 + k := by ring
        rw [next, zpow_add₀ two]
        gcongr
        norm_num
  refine nearest_of_multiple (n := n * 2 ^ (j - gridExponent (m * (2 : Rat) ^ k)).toNat) ?_
  have exponent : j = ((j - gridExponent (m * (2 : Rat) ^ k)).toNat : Int)
      + gridExponent (m * (2 : Rat) ^ k) := by omega
  calc m * (2 : Rat) ^ k = n * (2 : Rat) ^ j := same
    _ = n * ((2 : Rat) ^ (j - gridExponent (m * (2 : Rat) ^ k)).toNat
          * (2 : Rat) ^ gridExponent (m * (2 : Rat) ^ k)) := by
      rw [← zpow_natCast, ← zpow_add₀ two, ← exponent]
    _ = _ := by push_cast; ring

theorem nearest_natCast {n : Nat} (h : n ≤ 2 ^ 53) : nearest (n : Rat) = n := by
  simpa using nearest_of_digits (k := 0) h (by norm_num)

/-- **Every nearest number has at most 53 binary digits.** -/
theorem nearest_digits {x : Rat} (hx : 0 < x) :
    ∃ m ≤ 2 ^ 53, nearest x = (m : Nat) * (2 : Rat) ^ gridExponent x := by
  refine ⟨roundEven (x / spacing x), roundEven_le (by rw [spacing_eq]; positivity) ?_, ?_⟩
  · have two : (2 : Rat) ≠ 0 := by norm_num
    have above := (order_bounds (b := 2) (by norm_num) hx).2
    have exponents : order 2 x + 1 ≤ 53 + gridExponent x := by
      unfold gridExponent
      omega
    rw [spacing_eq, div_le_iff₀ (by positivity)]
    calc x ≤ (2 : Rat) ^ (order 2 x + 1) := by exact_mod_cast above.le
      _ ≤ (2 : Rat) ^ (53 + gridExponent x) := zpow_le_zpow_right₀ (by norm_num) exponents
      _ = ((2 ^ 53 : Nat) : Rat) * (2 : Rat) ^ gridExponent x := by
        rw [zpow_add₀ two]
        norm_num
  · rw [nearest, if_neg hx.ne', spacing_eq]

theorem nearest_zero : nearest 0 = 0 := by
  simp [nearest]

/-- From one on, halving and doubling a nearest number need no rounding. -/
theorem nearest_scaled {x : Rat} (hx : 1 ≤ x) {j : Int} (hj : -1 ≤ j) :
    nearest (nearest x * (2 : Rat) ^ j) = nearest x * (2 : Rat) ^ j := by
  obtain ⟨m, hm, eq⟩ := nearest_digits (lt_of_lt_of_le one_pos hx)
  have exponent : -52 ≤ gridExponent x := by
    have : 0 ≤ order 2 x :=
      le_order_of_le (by norm_num) (lt_of_lt_of_le one_pos hx) (by simpa using hx)
    unfold gridExponent
    omega
  rw [eq, mul_assoc, ← zpow_add₀ (by norm_num)]
  exact nearest_of_digits hm (by omega)

namespace Binary

/-- None, half or all of a number of cells is rounded once, where the cells are counted. -/
theorem half_size (n : Nat) {align : Nat} (h : align ≤ 2) :
    ((ofNat n).half align).size = nearest n * align / 2 := by
  show nearest (nearest (nearest n * align) / 2) = _
  rcases Nat.eq_zero_or_pos n with rfl | pos
  · simp [nearest_zero]
  have one : (1 : Rat) ≤ n := by exact_mod_cast pos
  have scaled {j : Int} (hj : -1 ≤ j) := nearest_scaled one hj
  have same := scaled (j := 0) (by norm_num)
  have half := scaled (j := -1) (by norm_num)
  have double := scaled (j := 1) (by norm_num)
  rw [zpow_zero, mul_one] at same
  rw [zpow_neg_one, ← div_eq_mul_inv] at half
  rw [zpow_one] at double
  interval_cases align
  · simp [nearest_zero]
  · rw [Nat.cast_one, mul_one, same, half]
  · rw [Nat.cast_ofNat, double, mul_div_assoc, div_self (by norm_num), mul_one, same]

/-- Up to `2 ^ 53` cells nothing is rounded. -/
theorem half_size_exact {n : Nat} (hn : n ≤ 2 ^ 53) {align : Nat} (h : align ≤ 2) :
    ((ofNat n).half align).size = n * align / 2 := by
  rw [half_size n h, nearest_natCast hn]

/-- Nothing is rounded either where the cells times the share can be counted. -/
theorem half_size_product {n align : Nat} (h : n * align ≤ 2 ^ 53) :
    ((ofNat n).half align).size = n * align / 2 := by
  show nearest (nearest (nearest n * align) / 2) = _
  rcases Nat.eq_zero_or_pos align with rfl | pos
  · simp [nearest_zero]
  have product : nearest (n * align) = n * align := by exact_mod_cast nearest_natCast h
  have half := nearest_of_digits (k := -1) h (by norm_num)
  rw [zpow_neg_one, ← div_eq_mul_inv] at half
  rw [nearest_natCast ((Nat.le_mul_of_pos_right n pos).trans h), product]
  exact_mod_cast half

end Binary

end Receipt.Number
