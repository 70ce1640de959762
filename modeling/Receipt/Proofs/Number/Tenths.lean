import Mathlib.Algebra.Order.Field.Basic
import Mathlib.Tactic.Linarith
import Receipt.Proofs.Number.Nearest

/-!
# Halves counted in tenths

A number with one decimal is read as a whole number of tenths, which is rounded, and a tenth of
that, which is rounded again (`fromTenths`). Both steps are exact for halves of no more than
`2 ^ 53` tenths. Beyond, the first step may miss by some tenths, and the second one brings the
number back only where neighbours are further apart than twice that.
-/

namespace Receipt.Number

/-! ## The nearest integer -/

theorem floor_toNat_bounds {z : Rat} (hz : 0 ≤ z) :
    (z.floor.toNat : Rat) ≤ z ∧ z < z.floor.toNat + 1 := by
  have pos : 0 ≤ z.floor := Rat.le_floor_iff.2 (by exact_mod_cast hz)
  have cast : (z.floor.toNat : Rat) = (z.floor : Rat) := by
    exact_mod_cast Int.toNat_of_nonneg pos
  rw [cast]
  exact ⟨Rat.floor_le z, by exact_mod_cast Rat.lt_floor_add_one z⟩

/-- Rounding moves a number by half a unit at most. -/
theorem abs_roundEven_sub_le {z : Rat} (hz : 0 ≤ z) : |(roundEven z : Rat) - z| ≤ 1 / 2 := by
  obtain ⟨low, high⟩ := floor_toNat_bounds hz
  simp only [roundEven, Bool.or_eq_true, Bool.and_eq_true, decide_eq_true_eq]
  generalize z.floor.toNat = n at low high ⊢
  split_ifs with down
  · have small : z - n ≤ 1 / 2 := down.elim le_of_lt fun h => h.1.le
    rw [abs_le]
    constructor <;> linarith
  · have large : 1 / 2 ≤ z - n := not_lt.1 fun h => down (.inl h)
    push_cast
    rw [abs_le]
    constructor <;> linarith

/-- Apart from ties, a number is rounded to the integer less than half a unit away. -/
theorem roundEven_eq_iff {z : Rat} (hz : 0 ≤ z) {n : Nat} (tie : |z - n| ≠ 1 / 2) :
    roundEven z = n ↔ |z - n| < 1 / 2 := by
  have near := abs_roundEven_sub_le hz
  constructor
  · rintro rfl
    rw [abs_sub_comm] at near
    exact lt_of_le_of_ne near tie
  · intro close
    have apart : |((roundEven z : Int) - n : Rat)| < 1 := by
      calc |((roundEven z : Int) - n : Rat)|
          ≤ |(roundEven z : Rat) - z| + |z - n| := by
            simpa using abs_sub_le (roundEven z : Rat) z n
        _ < 1 := by linarith
    have zero : (roundEven z : Int) - n = 0 := Int.abs_lt_one_iff.1 (by exact_mod_cast apart)
    omega

/-! ## The nearest binary number -/

/-- Between two powers of two, numbers are evenly spaced. -/
theorem spacing_of_bounds {y : Rat} {j : Int} (hj : -1074 ≤ j) (low : (2 : Rat) ^ (j + 52) ≤ y)
    (high : y < (2 : Rat) ^ (j + 53)) : spacing y = (2 : Rat) ^ j := by
  have pos : 0 < y := lt_of_lt_of_le (by positivity) low
  have least : j + 52 ≤ order 2 y := le_order_of_le (by norm_num) pos (by exact_mod_cast low)
  have most : gridExponent y ≤ j := gridExponent_le pos high hj
  have same : gridExponent y = j := by
    unfold gridExponent at most ⊢
    omega
  rw [spacing_eq, same]

/-- Apart from ties, a number is rounded to the multiple of the spacing less than half of it away. -/
theorem nearest_eq_iff {y : Rat} (hy : 0 < y) {n : Nat}
    (tie : |y - n * spacing y| ≠ spacing y / 2) :
    nearest y = n * spacing y ↔ |y - n * spacing y| < spacing y / 2 := by
  have pos := spacing_pos y
  have scaled : |y / spacing y - n| = |y - n * spacing y| / spacing y := by
    rw [← abs_of_pos pos, ← abs_div, abs_of_pos pos, sub_div, mul_div_cancel_right₀ _ pos.ne']
  have units : |y / spacing y - n| ≠ 1 / 2 := by
    rw [scaled, Ne, div_eq_iff pos.ne', one_div, inv_mul_eq_div]
    exact tie
  rw [nearest, if_neg hy.ne', mul_left_inj' pos.ne', Nat.cast_inj,
    roundEven_eq_iff (by positivity) units, scaled, div_lt_iff₀ pos, one_div, inv_mul_eq_div]

/-- An integer is rounded to a multiple of the spacing, by half of it at most. -/
theorem nearest_natCast_near {m e : Nat} (low : 2 ^ (53 + e) ≤ m) (high : m < 2 ^ (54 + e)) :
    ∃ a : Nat, nearest m = (a * 2 ^ (e + 1) : Nat) ∧ a * 2 ^ (e + 1) ≤ m + 2 ^ e ∧
      m ≤ a * 2 ^ (e + 1) + 2 ^ e := by
  have gap : spacing (m : Rat) = (2 ^ (e + 1) : Nat) := by
    have exponent : ((e + 1 : Nat) : Int) + 52 = (53 + e : Nat) := by omega
    have next : ((e + 1 : Nat) : Int) + 53 = (54 + e : Nat) := by omega
    rw [spacing_of_bounds (j := (e + 1 : Nat)) (by omega), zpow_natCast, Nat.cast_pow, Nat.cast_ofNat]
    · rw [exponent, zpow_natCast]
      exact_mod_cast low
    · rw [next, zpow_natCast]
      exact_mod_cast high
  have pos : (0 : Rat) < m := by
    have : 0 < 2 ^ (53 + e) := by positivity
    exact_mod_cast this.trans_le low
  have near := abs_roundEven_sub_le (z := (m : Rat) / spacing m) (by rw [gap]; positivity)
  refine ⟨roundEven (m / spacing m), ?_, ?_⟩
  · rw [nearest, if_neg pos.ne', gap]
    push_cast
    rfl
  · have unit : (0 : Rat) < (2 ^ (e + 1) : Nat) := by positivity
    have half : ((2 ^ (e + 1) : Nat) : Rat) = 2 * (2 ^ e : Nat) := by
      push_cast
      ring
    rw [gap, abs_le, neg_le_sub_iff_le_add, sub_le_iff_le_add] at near
    obtain ⟨below, above⟩ := near
    rw [gap]
    generalize roundEven ((m : Rat) / (2 ^ (e + 1) : Nat)) = a at below above ⊢
    rw [div_le_iff₀ unit, add_mul, half] at below
    rw [← sub_le_iff_le_add', le_div_iff₀ unit, sub_mul, half] at above
    rw [pow_succ']
    constructor
    · have : (a : Rat) * (2 * (2 ^ e : Nat)) ≤ m + (2 ^ e : Nat) := by linarith
      exact_mod_cast this
    · have : (m : Rat) ≤ a * (2 * (2 ^ e : Nat)) + (2 ^ e : Nat) := by linarith
      exact_mod_cast this

/-! ## Tenths -/

/-- A number as it comes back from its tenths. -/
def fromTenths (x : Rat) : Rat := nearest (nearest (10 * x) / 10)

/-- Whether `k` halves come back from their tenths. -/
def Survives (k : Nat) : Prop :=
  5 * k ≤ 2 ^ 53 ∨
    5 * k < 2 ^ 54 ∧ (k % 2 = 0 ∨ 2 ^ 51 ≤ k) ∨
    2 ^ 54 ≤ 5 * k ∧ 5 * k < 2 ^ 55 ∧ (k % 4 ≠ 2 ∨ 2 ^ 52 ≤ k) ∨
    2 ^ 55 ≤ 5 * k ∧ k % 8 ≠ 1 ∧ k % 8 ≠ 4 ∧ k % 8 ≠ 7

instance (k : Nat) : Decidable (Survives k) := by
  unfold Survives
  infer_instance

/-- A tenth of an integer is rounded to `k` halves if it misses them by less than half the spacing
there, `1 / 2 ^ i`. -/
theorem nearest_tenth_eq_iff {m k i : Nat} (hi : 1 ≤ i) (hi' : i ≤ 52)
    (low : 10 * 2 ^ (52 - i) ≤ m) (high : m < 10 * 2 ^ (53 - i)) :
    nearest ((m : Rat) / 10) = k / 2 ↔ |2 ^ i * ((m : Int) - 5 * k)| < 5 := by
  have two : (2 : Rat) ≠ 0 := by norm_num
  have gap : spacing ((m : Rat) / 10) = (2 : Rat) ^ (-(i : Int)) := by
    have exponent : -(i : Int) + 52 = (52 - i : Nat) := by omega
    have next : -(i : Int) + 53 = (53 - i : Nat) := by omega
    refine spacing_of_bounds (by omega) ?_ ?_
    · rw [exponent, zpow_natCast, le_div_iff₀ (by norm_num), mul_comm]
      exact_mod_cast low
    · rw [next, zpow_natCast, div_lt_iff₀ (by norm_num), mul_comm]
      exact_mod_cast high
  have pos : (0 : Rat) < m / 10 := by
    have : 0 < m := lt_of_lt_of_le (by positivity) low
    positivity
  have power : (2 : Rat) ^ (-(i : Int)) = 1 / 2 ^ i := by
    rw [zpow_neg, zpow_natCast, one_div]
  have halves : ((k * 2 ^ (i - 1) : Nat) : Rat) * spacing ((m : Rat) / 10) = k / 2 := by
    obtain ⟨i, rfl⟩ := Nat.exists_eq_add_of_le' hi
    rw [gap, power, Nat.add_sub_cancel, pow_succ]
    push_cast
    field_simp
  have miss : |(m : Rat) / 10 - k / 2| = (|(m : Int) - 5 * k| : Int) / 10 := by
    have : (m : Rat) / 10 - k / 2 = ((m : Int) - 5 * k : Int) / 10 := by
      push_cast
      ring
    rw [this, abs_div, abs_of_pos (by norm_num : (0 : Rat) < 10), Int.cast_abs]
  rw [abs_mul, abs_of_pos (by positivity : (0 : Int) < 2 ^ i)]
  generalize |(m : Int) - 5 * k| = d at miss ⊢
  have unit : (0 : Rat) < 2 ^ i := by positivity
  have scaled : ((2 ^ i * d : Int) : Rat) = 2 ^ i * d := by
    push_cast
    rfl
  -- the miss is even in units of a tenth of half the spacing, so there is no tie
  have tie : |(m : Rat) / 10 - k / 2| ≠ spacing ((m : Rat) / 10) / 2 := by
    rw [miss, gap, power]
    intro h
    have five : 2 ^ i * d = 5 := by
      have : 2 ^ i * (d : Rat) = 5 := by
        field_simp at h
        linarith
      exact_mod_cast scaled.trans this
    obtain ⟨i, rfl⟩ := Nat.exists_eq_add_of_le' hi
    rw [pow_succ', mul_assoc] at five
    omega
  have key := nearest_eq_iff pos (n := k * 2 ^ (i - 1)) (by rwa [halves])
  rw [halves] at key
  rw [key, miss, gap, power, ← Int.cast_lt (R := Rat), scaled]
  rw [div_div, div_lt_div_iff₀ (by norm_num) (by positivity)]
  constructor <;> intro h <;> push_cast at * <;> linarith

/-- **Halves below `2 ^ 52` come back from their tenths just if they survive.** -/
theorem fromTenths_eq_iff {k : Nat} (hk : k < 2 ^ 53) :
    fromTenths ((k : Rat) / 2) = k / 2 ↔ Survives k := by
  have tenths : 10 * ((k : Rat) / 2) = (5 * k : Nat) := by
    push_cast
    ring
  rw [fromTenths, tenths]
  rcases Nat.le_total (5 * k) (2 ^ 53) with exact | long
  · have back : ((5 * k : Nat) : Rat) / 10 = k * 2 ^ (-1 : Int) := by
      rw [zpow_neg_one]
      push_cast
      ring
    rw [nearest_natCast exact, back, nearest_of_digits hk.le (by norm_num), zpow_neg_one,
      ← div_eq_mul_inv]
    exact iff_of_true rfl (.inl exact)
  · have rounded {e : Nat} := nearest_natCast_near (m := 5 * k) (e := e)
    rcases Nat.lt_or_ge (5 * k) (2 ^ 54) with h | h
    · obtain ⟨a, eq, below, above⟩ := rounded (e := 0) long h
      rw [eq]
      rcases Nat.lt_or_ge k (2 ^ 51) with small | large
      · rw [nearest_tenth_eq_iff (i := 3) (by omega) (by omega) (by omega) (by omega), abs_lt]
        unfold Survives
        omega
      · rw [nearest_tenth_eq_iff (i := 2) (by omega) (by omega) (by omega) (by omega), abs_lt]
        unfold Survives
        omega
    rcases Nat.lt_or_ge (5 * k) (2 ^ 55) with h' | h'
    · obtain ⟨a, eq, below, above⟩ := rounded (e := 1) h h'
      rw [eq]
      rcases Nat.lt_or_ge k (2 ^ 52) with small | large
      · rw [nearest_tenth_eq_iff (i := 2) (by omega) (by omega) (by omega) (by omega), abs_lt]
        unfold Survives
        omega
      · rw [nearest_tenth_eq_iff (i := 1) (by omega) (by omega) (by omega) (by omega), abs_lt]
        unfold Survives
        omega
    · obtain ⟨a, eq, below, above⟩ := rounded (e := 2) h' (by omega)
      rw [eq, nearest_tenth_eq_iff (i := 1) (by omega) (by omega) (by omega) (by omega), abs_lt]
      have tenths : 5 * k % 8 = 5 * (k % 8) % 8 := Nat.mul_mod_mod 5 k 8 ▸ rfl
      unfold Survives
      have last : k % 8 < 8 := Nat.mod_lt k (by norm_num)
      interval_cases k % 8 <;> omega

example : ¬Survives 1801439850948199 := by decide

end Receipt.Number
