import Receipt.Proofs.Bars.Code128

/-!
# How many symbols Code 128 takes

Digits in pairs take half the symbols, and changes of set take symbols of their own. For data that
one set of letters has throughout, the changes never outweigh the pairs: the symbols are at most
the start and one for each character (`length_symbols_le`), as many as without set C. Every step of
the encoder keeps an account (`length_symbolsFrom_le`): in set C a change back to letters is owed,
and the pairs of the digits in front are still to be saved.
-/

namespace Receipt.Bars.Code128

open CodeSet

/-! ## Data of one set of letters -/

/-- Whether set A has all characters, or set B all of them. -/
def FitsLetters (s : List Nat) : Prop := (∀ n ∈ s, n < 96) ∨ ∀ n ∈ s, 32 ≤ n ∧ n ≤ 127

section
variable {a b : Nat} {r s : List Nat}

theorem FitsLetters.tail (h : FitsLetters (a :: r)) : FitsLetters r := by
  rcases h with low | high
  · exact Or.inl fun n hn => low n (List.mem_cons_of_mem a hn)
  · exact Or.inr fun n hn => high n (List.mem_cons_of_mem a hn)

/-- Without small letters, set B is preferred only where no control comes. -/
theorem has_preferred_low (h : ∀ n ∈ s, n < 96) : ∀ n ∈ s, (preferred s).has n = true := by
  induction s with
  | nil => simp
  | cons a r ih =>
    have ha := h a List.mem_cons_self
    have hr := fun n hn => h n (List.mem_cons_of_mem a hn)
    intro n hn
    by_cases control : a < 32
    · simpa [preferred, control, has] using h n hn
    · have same : preferred (a :: r) = preferred r := by
        simp [preferred, control]
        omega
      rcases List.mem_cons.1 hn with rfl | hn
      · exact has_preferred (by omega) r
      · rw [same]
        exact ih hr n hn

/-- Without controls, set B is preferred. -/
theorem preferred_high (h : ∀ n ∈ s, 32 ≤ n) : preferred s = B := by
  induction s with
  | nil => rfl
  | cons a r ih =>
    have ha : ¬a < 32 := Nat.not_lt.2 (h a List.mem_cons_self)
    simp [preferred, ha, ih fun n hn => h n (List.mem_cons_of_mem a hn)]

/-- **Where one set of letters has all characters, so has the preferred one.** -/
theorem FitsLetters.preferred (h : FitsLetters s) : ∀ n ∈ s, (preferred s).has n = true := by
  rcases h with low | high
  · exact has_preferred_low low
  · rw [preferred_high fun n hn => (high n hn).1]
    intro n hn
    have range := high n hn
    simp [has]
    omega

/-! ## Runs of digits -/

theorem run_digit (h : isDigit a = true) : run (a :: r) = run r + 1 := by
  simp [run, h]

theorem run_other (h : ¬isDigit a = true) : run (a :: r) = 0 := by
  simp [run, h]

theorem run_single_le (a : Nat) : run [a] ≤ 1 := (List.takeWhile_prefix _).length_le

/-- Characters that are no pair of digits have one digit in front at most. -/
theorem run_le_one (h : ¬(isDigit a && isDigit b) = true) : run (a :: b :: r) ≤ 1 := by
  by_cases ha : isDigit a = true
  · have hb : ¬isDigit b = true := by simpa [ha] using h
    simp [run_digit ha, run_other hb]
  · simp [run_other ha]

end

/-! ## The account -/

/-- The change back to letters that is owed in set C. -/
def owed (set : CodeSet) : Nat := if set = C then 1 else 0

/-- The symbols that set C still saves: one for each pair of the digits in front. -/
def toSave (set : CodeSet) (s : List Nat) : Nat := if set = C then run s / 2 else 0

theorem owed_letters {set : CodeSet} (h : set ≠ C) : owed set = 0 := if_neg h

theorem toSave_letters {set : CodeSet} (h : set ≠ C) (s : List Nat) : toSave set s = 0 := if_neg h

theorem owed_C : owed C = 1 := rfl

theorem toSave_C (s : List Nat) : toSave C s = run s / 2 := rfl

/-- **The account of the encoder.** From a set on that has all letters, the symbols and what is
still to be saved come to one symbol for each character, and the change that is owed. -/
theorem length_symbolsFrom_le (set : CodeSet) (s : List Nat) (fits : FitsLetters s)
    (mine : set ≠ C → ∀ n ∈ s, set.has n = true) :
    (symbolsFrom set s).length + toSave set s ≤ s.length + owed set := by
  fun_induction symbolsFrom set s with
  | case1 => simp [toSave, run]
  | case2 a set =>
    have short := run_single_le a
    simp [toSave_C, owed_C]
    omega
  | case3 a b r digits ih =>
    -- one symbol for two characters: the pair is no more to be saved
    rw [Bool.and_eq_true] at digits
    have rest := ih fits.tail.tail (fun h => absurd rfl h)
    rw [toSave_C, owed_C] at rest ⊢
    simp only [run_digit digits.1, run_digit digits.2, List.length_cons]
    omega
  | case4 a b r digits set ih =>
    -- the change that was owed; from here on the letters take one symbol each
    have letters : set ≠ C := preferred_ne_C _
    have has : ∀ n ∈ a :: b :: r, set.has n = true := fits.preferred
    have rest := ih fits.tail fun _ n hn => has n (List.mem_cons_of_mem a hn)
    have short := run_le_one (r := r) digits
    rw [owed_letters letters, toSave_letters letters] at rest
    simp only [toSave_C, owed_C, List.length_cons] at rest ⊢
    omega
  | case5 set a r h₁ h₂ long odd ih =>
    -- two pairs at least pay for the change to set C and the one that is owed then
    have letters := letters_of_overlap h₁ h₂
    have digit : isDigit a = true := isDigit_of_run_pos (r := r) (by omega)
    have rest := ih fits.tail (fun h => absurd rfl h)
    rw [run_digit digit] at long odd
    rw [owed_letters letters, toSave_letters letters]
    simp only [toSave_C, owed_C, List.length_cons] at rest ⊢
    omega
  | case6 set a h₁ h₂ long even =>
    -- a single character is no run of four
    have short := run_single_le a
    omega
  | case7 set a b r h₁ h₂ long even ih =>
    have letters := letters_of_overlap h₁ h₂
    obtain ⟨ha, hb⟩ := isDigit_of_run (a := a) (b := b) (r := r) (by omega)
    have rest := ih fits.tail.tail (fun h => absurd rfl h)
    rw [run_digit ha, run_digit hb] at long even
    rw [owed_letters letters, toSave_letters letters]
    simp only [toSave_C, owed_C, List.length_cons] at rest ⊢
    omega
  | case8 set a r h₁ h₂ short has ih =>
    have letters := letters_of_overlap h₁ h₂
    have rest := ih fits.tail fun h n hn => mine h n (List.mem_cons_of_mem a hn)
    rw [owed_letters letters, toSave_letters letters] at rest ⊢
    simpa using rest
  | case9 set a r h₁ h₂ short foreign more ih =>
    exact absurd (mine (letters_of_overlap h₁ h₂) a List.mem_cons_self) foreign
  | case10 set a r h₁ h₂ short foreign single ih =>
    exact absurd (mine (letters_of_overlap h₁ h₂) a List.mem_cons_self) foreign

/-! ## Whole data -/

/-- Data that starts in set C has a pair to save for the change that it owes. -/
theorem owed_first_le (s : List Nat) : owed (first s) ≤ toSave (first s) s := by
  unfold first
  split
  · rename_i pairs
    simp only [Bool.or_eq_true, Bool.and_eq_true, decide_eq_true_eq] at pairs
    rw [owed_C, toSave_C]
    omega
  · rw [owed_letters (preferred_ne_C s)]
    exact Nat.zero_le _

theorem first_letters {s : List Nat} (h : first s ≠ C) : first s = preferred s := by
  unfold first at h ⊢
  split
  · rename_i pairs
    exact absurd (if_pos pairs) h
  · rfl

/-- **Set C never makes a bar code longer.** Data of ASCII characters that all are in set A, or all
in set B, takes the start symbol and at most one symbol for each character, however digits and other
characters follow each other. -/
theorem length_symbols_le (data : List Char) (some : data ≠ [])
    (fits : (∀ c ∈ data, c.toNat < 96) ∨ ∀ c ∈ data, 32 ≤ c.toNat ∧ c.toNat ≤ 127) :
    ∃ vs, symbols? data = .some vs ∧ vs.length ≤ data.length + 1 := by
  have ascii : Carries data := by
    refine ⟨some, fun c hc => ?_⟩
    rcases fits with low | high
    · have := low c hc
      omega
    · have := high c hc
      omega
  have codes : FitsLetters (data.map Char.toNat) :=
    fits.imp List.forall_mem_map.2 List.forall_mem_map.2
  refine ⟨_, symbols?_of_carries ascii, ?_⟩
  have account := length_symbolsFrom_le _ _ codes fun letters => by
    rw [first_letters letters]
    exact codes.preferred
  have paid := owed_first_le (data.map Char.toNat)
  rw [List.length_map] at account
  rw [List.length_cons]
  omega

/-- Digits in runs of all lengths, between letters. -/
theorem length_symbols_le_runs :
    "1234567A12B123C1234D12345".toList ≠ [] ∧
      (∀ c ∈ "1234567A12B123C1234D12345".toList, c.toNat < 96) ∧
      ∃ vs, symbols? "1234567A12B123C1234D12345".toList = some vs ∧ vs.length ≤ 26 := by
  have all : "1234567A12B123C1234D12345".toList.all (·.toNat < 96) = true := by decide
  have low : ∀ c ∈ "1234567A12B123C1234D12345".toList, c.toNat < 96 := fun c hc => by
    simpa using List.all_eq_true.1 all c hc
  exact ⟨by decide, low, length_symbols_le _ (by decide) (Or.inl low)⟩

end Receipt.Bars.Code128
