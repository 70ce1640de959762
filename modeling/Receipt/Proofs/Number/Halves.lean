import Mathlib.Algebra.Order.Field.Basic
import Mathlib.Tactic.Linarith
import Receipt.Number.Decimal
import Receipt.Proofs.Number.Nearest

/-!
# The shortest decimal of a half

Below `2 ^ 52` binary numbers are half a unit apart at most, so a decimal that is read as `k`
halves is off by a quarter at most. A whole number can only be read as `k` halves if it is equal to
them, and one digit behind the point is always enough (`shortest_halves`).
-/

namespace Receipt.Number.Decimal

variable {tie : Tie} {x : Rat} {places : Nat}

/-- The distance to the neighbour below, so far as the choice of a decimal depends on it. -/
def gapBelow (x : Rat) : Rat :=
  if (x / spacing x).floor.toNat = Nat.pow 2 52 && spacing x ≠ (2 : Rat) ^ (-1074 : Int) then
    spacing x / 2
  else spacing x

theorem gapBelow_bounds (x : Rat) : 0 < gapBelow x ∧ gapBelow x ≤ spacing x := by
  have pos := spacing_pos x
  unfold gapBelow
  split
  · exact ⟨half_pos pos, half_le_self pos.le⟩
  · exact ⟨pos, le_rfl⟩

theorem reads_eq (x y : Rat) :
    reads x y =
      if (x / spacing x).floor.toNat % 2 = 0 then
        decide (x - gapBelow x / 2 ≤ y) && decide (y ≤ x + spacing x / 2)
      else decide (x - gapBelow x / 2 < y) && decide (y < x + spacing x / 2) := rfl

/-- What is read as a number is off by half the spacing at most. -/
theorem reads_near {y : Rat} (h : reads x y = true) : |y - x| ≤ spacing x / 2 := by
  have small := (gapBelow_bounds x).2
  have bounds : x - gapBelow x / 2 ≤ y ∧ y ≤ x + spacing x / 2 := by
    rw [reads_eq] at h
    split at h
    · simpa using h
    · have : x - gapBelow x / 2 < y ∧ y < x + spacing x / 2 := by simpa using h
      exact ⟨this.1.le, this.2.le⟩
  rw [abs_le]
  constructor <;> linarith

theorem reads_self (x : Rat) : reads x x = true := by
  have low : x - gapBelow x / 2 < x := sub_lt_self x (half_pos (gapBelow_bounds x).1)
  have high : x < x + spacing x / 2 := lt_add_of_pos_right x (half_pos (spacing_pos x))
  rw [reads_eq]
  simp [low, high, low.le, high.le]

/-- The exponent of the last of so many digits. -/
def lastExponent (x : Rat) (places : Nat) : Int := order 10 x - places + 1

/-- `n` units of the last of so many digits. -/
def units (x : Rat) (places n : Nat) : Rat := n * (10 : Rat) ^ lastExponent x places

/-- A decimal of the value of so many units, which is no finer than they are. -/
def IsUnits (x : Rat) (places n : Nat) (d : Decimal) : Prop :=
  d.value = units x places n ∧ lastExponent x places ≤ d.exponent

/-- The count of units as a decimal; a power of ten takes a single digit. -/
def ofUnits (x : Rat) (places n : Nat) : Decimal :=
  if n = Nat.pow 10 places then ⟨1, lastExponent x places + places⟩ else ⟨n, lastExponent x places⟩

theorem isUnits_ofUnits (x : Rat) (places n : Nat) : IsUnits x places n (ofUnits x places n) := by
  unfold ofUnits
  split
  · have power : (n : Rat) = (10 : Rat) ^ (places : Int) := by
      rw [‹n = _›, zpow_natCast]
      exact_mod_cast rfl
    refine ⟨?_, by simp only; omega⟩
    rw [value, units, power, add_comm, zpow_add₀ (by norm_num)]
    simp
  · exact ⟨rfl, le_rfl⟩

/-- The units that lie below a number. -/
def unitsBelow (x : Rat) (places : Nat) : Nat := (x / (10 : Rat) ^ lastExponent x places).floor.toNat

theorem ofPlaces?_eq :
    ofPlaces? tie x places =
      match reads x (units x places (unitsBelow x places)),
        reads x (units x places (unitsBelow x places + 1)) with
      | true, true =>
        some (ofUnits x places
          (if roundsUp tie x ((10 : Rat) ^ lastExponent x places) (unitsBelow x places) then
            unitsBelow x places + 1
          else unitsBelow x places))
      | true, false => some (ofUnits x places (unitsBelow x places))
      | false, true => some (ofUnits x places (unitsBelow x places + 1))
      | false, false => none := rfl

/-- A decimal of so many digits is a number of units that is read as `x`. -/
theorem ofPlaces?_reads {d : Decimal} (h : ofPlaces? tie x places = some d) :
    ∃ n, reads x (units x places n) = true ∧ IsUnits x places n d := by
  have found {n : Nat} (reads : reads x (units x places n) = true)
      (eq : some (ofUnits x places n) = some d) :
      ∃ n, Decimal.reads x (units x places n) = true ∧ IsUnits x places n d :=
    ⟨n, reads, Option.some.inj eq ▸ isUnits_ofUnits x places n⟩
  rw [ofPlaces?_eq] at h
  split at h
  · split at h
    · exact found ‹_› h
    · exact found ‹_› h
  · exact found ‹_› h
  · exact found ‹_› h
  · cases h

/-- What so many digits express is found. -/
theorem ofPlaces?_units (tie : Tie) {n : Nat} (h : x = units x places n) :
    ∃ d, ofPlaces? tie x places = some d ∧ IsUnits x places n d := by
  have step : (0 : Rat) < (10 : Rat) ^ lastExponent x places := by positivity
  have below : unitsBelow x places = n := by
    have quotient : x / (10 : Rat) ^ lastExponent x places = n := by
      rw [div_eq_iff step.ne']
      exact h
    rw [unitsBelow, quotient]
    exact_mod_cast congrArg Int.toNat (Rat.floor_intCast n)
  have stays : roundsUp tie x ((10 : Rat) ^ lastExponent x places) n = false := by
    have none : x - n * (10 : Rat) ^ lastExponent x places = 0 := sub_eq_zero.2 h
    have one : ((n + 1 : Nat) : Rat) * (10 : Rat) ^ lastExponent x places - x
        = (10 : Rat) ^ lastExponent x places := by
      rw [Nat.cast_succ, add_mul, one_mul, add_sub_right_comm, ← neg_sub x, none, neg_zero, zero_add]
    simp only [roundsUp, none, one]
    simp [step.ne', step.le]
  refine ⟨ofUnits x places n, ?_, isUnits_ofUnits x places n⟩
  have reads : reads x (units x places n) = true := by
    rw [← h]
    exact reads_self x
  rw [ofPlaces?_eq, below, reads, stays]
  cases Decimal.reads x (units x places (n + 1)) <;> rfl

/-- The first number of digits that does is taken. -/
theorem shortest_eq {p : Nat} (hp : 1 ≤ p) (hp' : p ≤ 17) {d : Decimal}
    (h : ofPlaces? tie x p = some d) :
    ∃ q ≤ p, ofPlaces? tie x q = some (shortest tie x) := by
  have some : ((List.range' 1 17).findSome? (ofPlaces? tie x)).isSome = true :=
    List.findSome?_isSome_iff.2 ⟨p, List.mem_range'_1.2 (by omega), by rw [h]; rfl⟩
  obtain ⟨s, found⟩ := Option.isSome_iff_exists.1 some
  have eq : shortest tie x = s := by
    rw [shortest, found, Option.getD_some]
  obtain ⟨before, q, after, range, taken, none⟩ := List.findSome?_eq_some_iff.1 found
  obtain ⟨k, -, rfl, rest⟩ := List.range'_eq_append_iff.1 range
  obtain ⟨rfl, -, -⟩ := List.range'_eq_cons_iff.1 rest.symm
  refine ⟨_, ?_, eq ▸ taken⟩
  by_contra later
  have := none p (List.mem_range'_1.2 (by omega))
  rw [h] at this
  cases this

/-- **The shortest decimal of a number of halves is exact,** and has one digit behind the point at
most. -/
theorem shortest_halves (tie : Tie) {k : Nat} (pos : 0 < k) (hk : k < 2 ^ 53) :
    (shortest tie ((k : Rat) / 2)).value = k / 2 ∧ -1 ≤ (shortest tie ((k : Rat) / 2)).exponent := by
  have posHalf : (0 : Rat) < k / 2 := by positivity
  have one : (1 : Rat) ≤ k := by exact_mod_cast pos
  have limit : (k : Rat) < 2 ^ 53 := by exact_mod_cast hk
  have spaced : spacing ((k : Rat) / 2) ≤ 1 / 2 := by
    have grid : gridExponent ((k : Rat) / 2) ≤ -1 := by
      refine gridExponent_le posHalf ?_ (by norm_num)
      norm_num
      linarith
    calc spacing ((k : Rat) / 2)
        ≤ (2 : Rat) ^ (-1 : Int) := zpow_le_zpow_right₀ (by norm_num) grid
      _ = 1 / 2 := by norm_num
  have least : -1 ≤ order 10 ((k : Rat) / 2) := by
    refine le_order_of_le (by norm_num) posHalf ?_
    norm_num
    linarith
  have most : order 10 ((k : Rat) / 2) < 16 := by
    refine order_lt_of_lt (by norm_num) posHalf ?_
    norm_num
    linarith
  -- one digit behind the point is enough
  have last : lastExponent ((k : Rat) / 2) (order 10 ((k : Rat) / 2) + 2).toNat = -1 := by
    unfold lastExponent
    omega
  have tenths : (k : Rat) / 2 = units (k / 2) (order 10 ((k : Rat) / 2) + 2).toNat (5 * k) := by
    rw [units, last]
    push_cast
    norm_num
    ring
  obtain ⟨d, found, exact, fine⟩ := ofPlaces?_units tie tenths
  obtain ⟨q, fewer, taken⟩ := shortest_eq (by omega) (by omega) found
  rcases fewer.lt_or_eq with fewer | rfl
  -- without a digit behind the point a decimal is whole, so it is not a quarter off
  · obtain ⟨n, reads, value, coarse⟩ := ofPlaces?_reads taken
    have whole : 0 ≤ lastExponent ((k : Rat) / 2) q := by
      unfold lastExponent at last ⊢
      omega
    refine ⟨?_, by omega⟩
    obtain ⟨e, he⟩ := Int.eq_ofNat_of_zero_le whole
    have natural : units ((k : Rat) / 2) q n = (n * 10 ^ e : Nat) := by
      rw [units, he]
      push_cast
      rfl
    have near := reads_near reads
    rw [natural, abs_le] at near
    rw [value, natural]
    generalize n * 10 ^ e = m at near ⊢
    have low : (k : Rat) < 2 * m + 1 := by linarith
    have high : (2 * m : Rat) < k + 1 := by linarith
    have same : k = 2 * m := by
      have : k < 2 * m + 1 := by exact_mod_cast low
      have : 2 * m < k + 1 := by exact_mod_cast high
      omega
    rw [same]
    push_cast
    ring
  · rw [found] at taken
    obtain rfl := Option.some.inj taken
    exact ⟨exact.trans tenths.symm, last ▸ fine⟩

end Receipt.Number.Decimal
