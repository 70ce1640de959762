import Mathlib.Data.List.TakeWhile
import Receipt.Proofs.Json.Layouts
import Receipt.Proofs.Number.Halves
import Receipt.Proofs.Number.Tenths

/-!
# Numerals read back

Integers of 64 bits are read back as they were written (`rereads_integer`). A number of halves is
written with one digit behind the point and read back from its tenths (`rereads_half`).
-/

namespace Receipt.Json

open Number (fromTenths)
open Text (readDigits)

namespace Numeral

/-! ## Digits -/

theorem readDigits_eq (n : Nat) (s : List Char) : readDigits n s = Nat.ofDigitChars 10 s n := by
  simp only [readDigits, Nat.ofDigitChars, Nat.mul_comm]
  rfl

theorem readDigits_toDigits (n : Nat) : readDigits 0 (Nat.toDigits 10 n) = n := by
  rw [readDigits_eq, Nat.ofDigitChars_ten_toDigits]

theorem readDigits_digitChar (n : Nat) {d : Nat} (h : d < 10) :
    readDigits n [Nat.digitChar d] = n * 10 + d := by
  simp only [readDigits, List.foldl_cons, List.foldl_nil, Nat.toNat_digitChar_of_lt_ten h]
  omega

theorem le_readDigits (n : Nat) (s : List Char) : n ≤ readDigits n s := by
  induction s generalizing n with
  | nil => exact le_rfl
  | cons d r ih => exact le_trans (by omega) (ih (n * 10 + (d.toNat - 48)))

/-- Digits that 64 bits hold are all read. -/
theorem gather_eq {n : Nat} {s : List Char} (h : readDigits n s < UInt64.size) :
    gather n s = (readDigits n s, 0) := by
  induction s generalizing n with
  | nil => rfl
  | cons d r ih =>
    have first : readDigits n [d] < UInt64.size := (le_readDigits (readDigits n [d]) r).trans_lt h
    simp only [gather, if_pos first]
    exact ih h

theorem isDigit_toDigits (n : Nat) : ∀ c ∈ Nat.toDigits 10 n, c.isDigit = true := fun _ hc =>
  Nat.isDigit_of_mem_toDigits (by norm_num) (by norm_num) hc

/-- No number is written with a superfluous zero in front. -/
theorem head_toDigits {n : Nat} (hn : 0 < n) : (Nat.toDigits 10 n).head? ≠ some '0' := by
  induction n using Nat.strongRecOn with
  | ind n ih =>
    rcases Nat.lt_or_ge n 10 with small | large
    · rw [Nat.toDigits_of_lt_base small]
      have : ∀ m < 10, 0 < m → [Nat.digitChar m].head? ≠ some '0' := by decide
      exact this n small hn
    · rw [Nat.toDigits_of_base_le (by norm_num) large,
        List.head?_append_of_ne_nil _ Nat.toDigits_ne_nil]
      exact ih (n / 10) (by omega) (by omega)

/-! ## Parts -/

/-- The sign of a number as it is written. -/
def signText (negative : Bool) : List Char := if negative then ['-'] else []

/-- What stands behind the last digit in front of the point. -/
def fractionText : Option (List Char) → List Char
  | none => []
  | some ds => '.' :: ds

/-- Digits without a superfluous zero in front. -/
structure IsWhole (ds : List Char) : Prop where
  digits : ∀ c ∈ ds, c.isDigit = true
  ne_nil : ds ≠ []
  head : ds.head? = some '0' → ds.length = 1

theorem isWhole_toDigits (n : Nat) : IsWhole (Nat.toDigits 10 n) where
  digits := isDigit_toDigits n
  ne_nil := Nat.toDigits_ne_nil
  head := by
    rcases Nat.eq_zero_or_pos n with rfl | pos
    · exact fun _ => rfl
    · exact fun zero => absurd zero (head_toDigits pos)

/-- Nothing, or the digits behind a point. -/
structure IsFraction (fraction : Option (List Char)) : Prop where
  digits : ∀ ds ∈ fraction, ∀ c ∈ ds, c.isDigit = true
  ne_nil : fraction ≠ some []

theorem isFraction_none : IsFraction none := ⟨nofun, nofun⟩

section
variable {ds : List Char} {fraction : Option (List Char)}

/-- The digits in front of the point end where the fraction begins. -/
theorem IsWhole.span (whole : IsWhole ds) (fraction : Option (List Char)) :
    (ds ++ fractionText fraction).takeWhile Char.isDigit = ds ∧
      (ds ++ fractionText fraction).dropWhile Char.isDigit = fractionText fraction := by
  rw [List.takeWhile_append_of_pos whole.digits, List.dropWhile_append_of_pos whole.digits]
  cases fraction with
  | none => exact ⟨List.append_nil ds, rfl⟩
  | some r => exact ⟨List.append_nil ds, rfl⟩

theorem IsWhole.accepted (whole : IsWhole ds) :
    (ds.isEmpty || (decide (ds.head? = some '0') && decide (ds.length ≠ 1))) = false := by
  have head := whole.head
  simp only [Bool.or_eq_false_iff, List.isEmpty_eq_false_iff, Bool.and_eq_false_iff,
    decide_eq_false_iff_not]
  refine ⟨whole.ne_nil, ?_⟩
  by_cases zero : ds.head? = some '0'
  · exact .inr (not_not.2 (head zero))
  · exact .inl zero

/-- A digit is no sign. -/
theorem IsWhole.exists_cons (whole : IsWhole ds) : ∃ c r, ds = c :: r ∧ c ≠ '-' := by
  obtain ⟨c, r, rfl⟩ := List.exists_cons_of_ne_nil whole.ne_nil
  refine ⟨c, r, rfl, ?_⟩
  rintro rfl
  cases whole.digits '-' List.mem_cons_self

/-- **A number, with digits behind a point or without, is taken apart.** -/
theorem parts?_digits (negative : Bool) (whole : IsWhole ds) (rest : IsFraction fraction) :
    parts? (signText negative ++ (ds ++ fractionText fraction)) =
      some ⟨negative, ds, fraction, none⟩ := by
  obtain ⟨taken, left⟩ := whole.span fraction
  have accepted := whole.accepted
  obtain ⟨c, r, rfl, noSign⟩ := whole.exists_cons
  rw [List.cons_append] at taken left ⊢
  unfold parts?
  split
  rename_i sign unsigned eq
  obtain ⟨rfl, rfl⟩ : negative = sign ∧ c :: (r ++ fractionText fraction) = unsigned := by
    cases negative with
    | true => exact Prod.mk.inj eq
    | false =>
      rw [signText, if_neg Bool.false_ne_true, List.nil_append] at eq
      split at eq
      · exact absurd (List.cons.inj ‹_›).1 noSign
      · exact Prod.mk.inj eq
  simp only [taken, left, accepted]
  cases fraction with
  | none => rfl
  | some ds =>
    have digits := rest.digits ds rfl
    have taken : ds.takeWhile Char.isDigit = ds := List.takeWhile_eq_self_iff.2 digits
    have left : ds.dropWhile Char.isDigit = [] := List.dropWhile_eq_nil_iff.2 digits
    simp only [fractionText, taken, left, if_neg rest.ne_nil]
    rfl

end

/-! ## Integers -/

theorem gather_toDigits {n : Nat} (h : n < UInt64.size) :
    gather 0 (Nat.toDigits 10 n) = (n, 0) := by
  rw [gather_eq (by rwa [readDigits_toDigits]), readDigits_toDigits]

theorem write_integer (i : Int) :
    write (.integer i) =
      signText (decide (i < 0)) ++ (Nat.toDigits 10 i.natAbs ++ fractionText none) := by
  rw [fractionText, List.append_nil]
  by_cases negative : i < 0
  · simp [write, signText, negative]
  · simp [write, signText, negative]

/-- **An integer of 64 bits is read back.** -/
theorem read?_integer {i : Int} (low : -2 ^ 63 ≤ i) (high : i < 2 ^ 64) :
    read? (write (.integer i)) = some (.integer i) := by
  have fits : i.natAbs < UInt64.size := by
    unfold UInt64.size
    omega
  have parts := parts?_digits (decide (i < 0)) (isWhole_toDigits i.natAbs) isFraction_none
  rw [write_integer, read?, parts, Option.map_some, Parts.numeral, gather_toDigits fits]
  by_cases negative : i < 0
  · have half : 0 < i.natAbs ∧ i.natAbs ≤ UInt64.size / 2 := by
      unfold UInt64.size
      omega
    have same : -(i.natAbs : Int) = i := by omega
    simp only [negative, half, same, decide_true, Bool.not_true, Bool.and_false, Bool.and_self]
    rfl
  · have same : (i.natAbs : Int) = i := by omega
    simp [negative, same]

/-! ## Halves -/

/-- The digit behind the point of `k` halves. -/
def tenth (k : Nat) : Char := Nat.digitChar (5 * (k % 2))

/-- Zeros at the end are a factor. -/
theorem toDigits_mul_pow {n : Nat} (hn : 0 < n) (j : Nat) :
    Nat.toDigits 10 (n * 10 ^ j) = Nat.toDigits 10 n ++ List.replicate j '0' := by
  induction j with
  | zero => simp
  | succ j ih =>
    have large : 10 ≤ n * 10 ^ (j + 1) := by
      have : 0 < n * 10 ^ j := by positivity
      rw [pow_succ, ← mul_assoc]
      omega
    have tens : n * 10 ^ (j + 1) = n * 10 ^ j * 10 := by rw [pow_succ, ← mul_assoc]
    rw [Nat.toDigits_of_base_le (by norm_num) large, tens, Nat.mul_div_cancel _ (by norm_num), ih,
      Nat.mul_mod_left, List.replicate_succ', List.append_assoc]
    rfl

/-- A decimal without a digit behind the point. -/
theorem write_whole {n : Nat} (hn : 0 < n) {j : Nat} (h : n * 10 ^ j < 10 ^ 16) :
    numberStyle.write (Nat.toDigits 10 n) ((Nat.toDigits 10 n).length + (j : Int)) =
      Nat.toDigits 10 (n * 10 ^ j) ++ ['.', '0'] := by
  have length := (Nat.length_toDigits_le_iff (b := 10) (by norm_num) (by norm_num)).2 h
  rw [toDigits_mul_pow hn] at length ⊢
  rw [List.length_append, List.length_replicate] at length
  have point : ((Nat.toDigits 10 n).length + (j : Int)).toNat = (Nat.toDigits 10 n).length + j := by
    omega
  have digits : 0 < (Nat.toDigits 10 n).length := Nat.length_toDigits_pos
  have inFront : (0 : Int) < (Nat.toDigits 10 n).length + (j : Int) := by omega
  have limit :
      Number.Style.withinLimit numberStyle.whole? ((Nat.toDigits 10 n).length + j) = true :=
    decide_eq_true length
  simp only [Number.Style.write, if_pos inFront, point, limit]
  simp [numberStyle]

/-- A decimal with one digit behind the point. -/
theorem write_tenths {m : Nat} (h : m < 10 ^ 17) :
    numberStyle.write (Nat.toDigits 10 m) ((Nat.toDigits 10 m).length + (-1 : Int)) =
      Nat.toDigits 10 (m / 10) ++ ['.', Nat.digitChar (m % 10)] := by
  rcases Nat.lt_or_ge m 10 with small | large
  · have whole : m / 10 = 0 := by omega
    have last : m % 10 = m := by omega
    rw [Nat.toDigits_of_lt_base small, whole, last]
    rfl
  · have length := (Nat.length_toDigits_le_iff (b := 10) (by norm_num) (by norm_num)).2 h
    have digits : 0 < (Nat.toDigits 10 (m / 10)).length := Nat.length_toDigits_pos
    rw [Nat.toDigits_of_base_le (by norm_num) large] at length ⊢
    generalize Nat.toDigits 10 (m / 10) = ds at length digits ⊢
    rw [List.length_append, List.length_singleton] at length ⊢
    have point : ((ds.length + 1 : Nat) + (-1 : Int)).toNat = ds.length := by omega
    have inFront : (0 : Int) < (ds.length + 1 : Nat) + (-1 : Int) := by omega
    have limit : Number.Style.withinLimit numberStyle.whole? ds.length = true :=
      decide_eq_true (by omega)
    simp only [Number.Style.write, if_pos inFront, point, limit]
    simp

theorem isFraction_tenth (k : Nat) : IsFraction (some [tenth k]) where
  digits ds hds c hc := by
    obtain rfl := Option.some.inj hds
    obtain rfl := List.mem_singleton.1 hc
    rw [tenth, Nat.isDigit_digitChar]
    exact decide_eq_true (by omega)
  ne_nil := by simp

/-- Half a number of halves is written as its whole part, a point and a digit. -/
theorem write_half (negative : Bool) {k : Nat} (hk : k < 2 ^ 53) :
    write (.real (some ⟨negative, k / 2⟩)) =
      signText negative ++ (Nat.toDigits 10 (k / 2) ++ fractionText (some [tenth k])) := by
  show signText negative ++ _ = _
  congr 1
  rcases Nat.eq_zero_or_pos k with rfl | pos
  · simp only [Nat.cast_zero, zero_div]
    rfl
  have some : ((k : Rat) / 2) ≠ 0 := by positivity
  rw [if_neg some]
  obtain ⟨value, fine⟩ := Number.Decimal.shortest_halves numberStyle.tie pos hk
  simp only
  generalize Number.Decimal.shortest numberStyle.tie ((k : Rat) / 2) = d at value fine ⊢
  obtain ⟨m, e⟩ := d
  simp only [Number.Decimal.value] at value fine ⊢
  rcases fine.eq_or_lt with rfl | whole
  · have tenths : m = 5 * k := by
      have : (m : Rat) = (5 * k : Nat) := by
        rw [zpow_neg_one, ← div_eq_mul_inv, div_eq_iff (by norm_num)] at value
        rw [value]
        push_cast
        ring
      exact_mod_cast this
    have back : 5 * k / 10 = k / 2 ∧ 5 * k % 10 = 5 * (k % 2) := by omega
    rw [tenths, write_tenths (by omega), back.1, back.2]
    rfl
  · obtain ⟨j, rfl⟩ := Int.eq_ofNat_of_zero_le (show 0 ≤ e by omega)
    have double : k = 2 * (m * 10 ^ j) := by
      have : (k : Rat) = (2 * (m * 10 ^ j) : Nat) := by
        rw [zpow_natCast, eq_div_iff (by norm_num)] at value
        rw [← value]
        push_cast
        ring
      exact_mod_cast this
    have posDigits : 0 < m := by
      rcases Nat.eq_zero_or_pos m with rfl | posDigits
      · omega
      · exact posDigits
    have half : m * 10 ^ j = k / 2 ∧ k % 2 = 0 := by omega
    rw [write_whole posDigits (by omega), half.1, tenth, half.2]
    rfl

theorem scale_tenth (x : Rat) : scale x (-1) = some (Number.nearest (x / 10)) := by
  have ten : power 1 = 10 := by
    rw [power, pow_one]
    exact Number.nearest_natCast (n := 10) (by norm_num)
  unfold scale
  split
  · rw [‹x = 0›, zero_div, Number.nearest_zero]
  · rw [if_neg (by norm_num), if_pos (by norm_num)]
    show some (Number.nearest (x / power 1)) = _
    rw [ten]

/-- **A number of halves is read back from its tenths.** -/
theorem read?_half (negative : Bool) {k : Nat} (hk : k < 2 ^ 53) :
    read? (write (.real (some ⟨negative, k / 2⟩))) =
      some (.real (some ⟨negative, fromTenths (k / 2)⟩)) := by
  have small : 5 * (k % 2) < 10 := by omega
  have parts := parts?_digits negative (isWhole_toDigits (k / 2)) (isFraction_tenth k)
  have tenths : readDigits (k / 2) [tenth k] = 5 * k := by
    rw [tenth, readDigits_digitChar _ small]
    omega
  have whole : gather 0 (Nat.toDigits 10 (k / 2)) = (k / 2, 0) :=
    gather_toDigits (by unfold UInt64.size; omega)
  have all : gather (k / 2) [tenth k] = (5 * k, 0) := by
    rw [gather_eq (by rw [tenths]; unfold UInt64.size; omega), tenths]
  rw [write_half negative hk, read?, parts, Option.map_some, Parts.numeral, whole]
  have exponent : ((0 : Nat) : Int) - (([tenth k].length - 0 : Nat) : Int) + none.getD 0 = -1 := rfl
  have value : 10 * ((k : Rat) / 2) = (5 * k : Nat) := by
    push_cast
    ring
  simp only [Option.getD_some, all]
  rw [exponent, scale_tenth, fromTenths, value, Option.map_some]

/-! ## Characters -/

/-- Digits, signs and points go on with a word. -/
theorem isWord_of_digit {c : Char} (h : c.isDigit = true) : Token.isWord c = true := by
  have digit : 48 ≤ c.toNat ∧ c.toNat ≤ 57 := by
    simp only [Char.isDigit, ge_iff_le, Bool.and_eq_true, decide_eq_true_eq] at h
    exact h
  have same : Nat.digitChar (c.toNat - 48) = c := by
    apply Char.toNat_inj.1
    rw [Nat.toNat_digitChar_of_lt_ten (by omega)]
    omega
  have words : ∀ d < 10, Token.isWord (Nat.digitChar d) = true := by decide
  rw [← same]
  exact words _ (by omega)

theorem isWord_numeral (negative : Bool) {ds : List Char} (whole : IsWhole ds)
    {fraction : Option (List Char)} (rest : IsFraction fraction) :
    ∀ c ∈ signText negative ++ (ds ++ fractionText fraction), Token.isWord c = true := by
  intro c hc
  rcases List.mem_append.1 hc with hc | hc
  · cases negative with
    | true =>
      obtain rfl := List.mem_singleton.1 hc
      rfl
    | false => cases hc
  rcases List.mem_append.1 hc with hc | hc
  · exact isWord_of_digit (whole.digits c hc)
  cases fraction with
  | none => cases hc
  | some ds =>
    rcases List.mem_cons.1 hc with rfl | hc
    · rfl
    · exact isWord_of_digit (rest.digits ds rfl c hc)

end Numeral

/-! ## Values -/

open Numeral (isWhole_toDigits isFraction_none isWord_numeral)

theorem rereads_integer {i : Int} (low : -2 ^ 63 ≤ i) (high : i < 2 ^ 64) :
    Rereads (.numeral (.integer i)) (.numeral (.integer i)) := by
  refine rereads_numeral ?_ ?_ (Numeral.read?_integer low high)
  · simp [Numeral.write_integer, Nat.toDigits_ne_nil]
  · rw [Numeral.write_integer]
    exact isWord_numeral _ (isWhole_toDigits _) isFraction_none

theorem rereads_nat {n : Nat} (h : n < 2 ^ 64) : Rereads (.nat n) (.nat n) :=
  rereads_integer (by omega) (by omega)

theorem rereads_word {n : Nat} (h : n < 2 ^ 32) : Rereads (.nat n) (.nat n) :=
  rereads_nat (by omega)

theorem rereads_byte {n : Nat} (h : n < 2 ^ 8) : Rereads (.nat n) (.nat n) :=
  rereads_nat (by omega)

theorem rereads_int {i : Int} (low : -2 ^ 63 ≤ i) (high : i < 2 ^ 63) : Rereads (.int i) (.int i) :=
  rereads_integer low (by omega)

theorem rereads_half (negative : Bool) {k : Nat} (hk : k < 2 ^ 53) :
    Rereads (.real ⟨negative, k / 2⟩) (.real ⟨negative, fromTenths (k / 2)⟩) := by
  refine rereads_numeral ?_ ?_ (Numeral.read?_half negative hk)
  · simp [Numeral.write_half negative hk, Nat.toDigits_ne_nil]
  · rw [Numeral.write_half negative hk]
    exact isWord_numeral _ (isWhole_toDigits _) (Numeral.isFraction_tenth k)

end Receipt.Json
