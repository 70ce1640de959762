import Receipt.Proofs.Markup.Escape

/-!
# Placeholders inside a placeholder

Placeholders of controls vanish from text one by one, and what is around a vanished one is not read
again. So one of them is left in a text made ready only where others stood inside it.
-/

namespace Receipt.Markup

open Text (hexDigit?)

/-- Placeholders of controls, one after another. -/
inductive Gap : List Char → Prop
  | nil : Gap []
  | cons {hi lo : Char} {g : List Char} :
    isControlCode hi lo = true → Gap g → Gap ('\\' :: 'x' :: hi :: lo :: g)

/-- Text with a placeholder of a control in which others stand. -/
def Interrupted (s : List Char) : Prop :=
  ∃ before g₁ g₂ g₃ behind hi lo, isControlCode hi lo = true ∧ Gap g₁ ∧ Gap g₂ ∧ Gap g₃ ∧
    g₁ ++ g₂ ++ g₃ ≠ [] ∧
    s = before ++ '\\' :: (g₁ ++ 'x' :: (g₂ ++ hi :: (g₃ ++ lo :: behind)))

/-- Text with a placeholder of a control. -/
def HasControl (s : List Char) : Prop :=
  ∃ before hi lo behind, isControlCode hi lo = true ∧ s = before ++ '\\' :: 'x' :: hi :: lo :: behind

theorem Interrupted.after {s : List Char} (h : Interrupted s) (front : List Char) :
    Interrupted (front ++ s) := by
  obtain ⟨before, g₁, g₂, g₃, behind, hi, lo, control, h₁, h₂, h₃, some, rfl⟩ := h
  exact ⟨front ++ before, g₁, g₂, g₃, behind, hi, lo, control, h₁, h₂, h₃, some, by simp⟩

theorem HasControl.of_part {s t : List Char} (h : HasControl t) (part : t <:+: s) :
    HasControl s := by
  obtain ⟨before, hi, lo, behind, control, rfl⟩ := h
  obtain ⟨front, back, rfl⟩ := part
  exact ⟨front ++ before, hi, lo, behind ++ back, control, by simp⟩

/-- A placeholder begins a text or stands further on. -/
theorem hasControl_cons {c : Char} {s : List Char} (h : HasControl (c :: s)) :
    (c = '\\' ∧ ∃ hi lo behind, isControlCode hi lo = true ∧ s = 'x' :: hi :: lo :: behind) ∨
      HasControl s := by
  obtain ⟨before, hi, lo, behind, control, same⟩ := h
  cases before with
  | nil =>
    obtain ⟨rfl, rfl⟩ := List.cons.inj same
    exact Or.inl ⟨rfl, hi, lo, behind, control, rfl⟩
  | cons d before =>
    obtain ⟨rfl, rfl⟩ := List.cons.inj same
    exact Or.inr ⟨before, hi, lo, behind, control, rfl⟩

/-! ## What is left in front -/

/-- A character that stands for itself, in markup and in a text made ready. -/
def IsLiteral (c : Char) : Prop := c ≠ '\\' ∧ c ≠ ' ' ∧ c ≠ '\n'

theorem isLiteral_of_control {hi lo : Char} (h : isControlCode hi lo = true) :
    IsLiteral hi ∧ IsLiteral lo := by
  refine ⟨⟨?_, ?_, ?_⟩, ?_, ?_, ?_⟩ <;> rintro rfl <;> revert h <;>
    simp [isControlCode, hexDigit?]

/-- In front of the first character of a text made ready there was nothing but what vanishes. -/
theorem prepareVisible_eq_cons {s : List Char} {c : Char} {r : List Char} (literal : IsLiteral c)
    (h : prepareVisible s = c :: r) :
    ∃ g t, Gap g ∧ s = g ++ c :: t ∧ prepareVisible t = r := by
  obtain ⟨backslash, space, lineFeed⟩ := literal
  fun_induction prepareVisible s with
  | case1 => cases h
  | case2 hi lo s control ih =>
    obtain ⟨g, t, gap, rfl, ready⟩ := ih h
    exact ⟨_, t, .cons control gap, rfl, ready⟩
  | case3 => exact absurd (List.cons.inj h).1.symm backslash
  | case4 => exact absurd (List.cons.inj h).1.symm backslash
  | case5 => exact absurd (List.cons.inj h).1.symm lineFeed
  | case6 => exact absurd (List.cons.inj h).1.symm backslash
  | case7 d s _ _ ih =>
    obtain ⟨same, ready⟩ := List.cons.inj h
    split at same
    · exact absurd same.symm space
    · exact ⟨[], s, .nil, by rw [same]; rfl, ready⟩

/-- A backslash begins a placeholder in a text made ready, but not where it stood: others stood
inside. -/
theorem interrupted_of_ready {s : List Char} {hi lo : Char} {behind : List Char}
    (control : isControlCode hi lo = true) (h : prepareVisible s = 'x' :: hi :: lo :: behind)
    (apart : ∀ t, s ≠ 'x' :: hi :: lo :: t) : Interrupted ('\\' :: s) := by
  obtain ⟨literalHi, literalLo⟩ := isLiteral_of_control control
  obtain ⟨g₁, t₁, h₁, rfl, ready₁⟩ := prepareVisible_eq_cons (by simp [IsLiteral]) h
  obtain ⟨g₂, t₂, h₂, rfl, ready₂⟩ := prepareVisible_eq_cons literalHi ready₁
  obtain ⟨g₃, t₃, h₃, rfl, _⟩ := prepareVisible_eq_cons literalLo ready₂
  refine ⟨[], g₁, g₂, g₃, t₃, hi, lo, control, h₁, h₂, h₃, fun none => ?_, rfl⟩
  simp only [List.append_eq_nil_iff] at none
  obtain ⟨⟨rfl, rfl⟩, rfl⟩ := none
  exact apart t₃ rfl

/-! ## What is left anywhere -/

/-- The placeholder of a decoration is not that of a control. -/
theorem hasControl_placeholder_append {c : Char} (hc : isDecoration c = true) {s : List Char}
    (h : HasControl (placeholder c ++ s)) : HasControl s := by
  have digits : ∀ d ∈ ['-', '=', '_', '"', '\x60', '^', '~'], ∃ hi lo,
      placeholder d = ['\\', 'x', hi, lo] ∧ isControlCode hi lo = false ∧ hi ≠ '\\' ∧ lo ≠ '\\' := by
    simp only [List.forall_mem_cons, List.not_mem_nil, false_imp_iff, implies_true, and_true]
    exact ⟨⟨'2', 'd', by decide⟩, ⟨'3', 'd', by decide⟩, ⟨'5', 'f', by decide⟩,
      ⟨'2', '2', by decide⟩, ⟨'6', '0', by decide⟩, ⟨'5', 'e', by decide⟩, '7', 'e', by decide⟩
  obtain ⟨hi, lo, written, visible, high, low⟩ := digits c (isDecoration_iff.1 hc)
  rw [written] at h
  rcases hasControl_cons h with ⟨_, hi', lo', behind, control, same⟩ | h
  · obtain ⟨_, rfl, rfl, _⟩ : 'x' = 'x' ∧ hi = hi' ∧ lo = lo' ∧ s = behind := by simpa using same
    rw [visible] at control
    cases control
  rcases hasControl_cons h with ⟨ne, _⟩ | h
  · exact absurd ne (by decide)
  rcases hasControl_cons h with ⟨rfl, _⟩ | h
  · exact absurd rfl high
  rcases hasControl_cons h with ⟨rfl, _⟩ | h
  · exact absurd rfl low
  exact h

/-- **A placeholder of a control is left only where others stood inside it.** -/
theorem interrupted_of_hasControl {s : List Char} (h : HasControl (prepareVisible s)) :
    Interrupted s := by
  fun_induction prepareVisible s with
  | case1 =>
    obtain ⟨before, _, _, _, _, none⟩ := h
    simp at none
  | case2 hi lo s _ ih => exact (ih h).after ['\\', 'x', hi, lo]
  | case3 hi lo s visible ih =>
    rcases hasControl_cons h with ⟨_, hi', lo', behind, control, ready⟩ | h
    · refine interrupted_of_ready control ready fun t same => ?_
      obtain ⟨rfl, rfl, _⟩ : hi = hi' ∧ lo = lo' ∧ s = t := by simpa using same
      exact visible control
    · exact (ih h).after ['\\']
  | case4 c s _ decoration ih =>
    exact (ih (hasControl_placeholder_append decoration h)).after ['\\', c]
  | case5 s _ _ ih =>
    rcases hasControl_cons h with ⟨ne, _⟩ | h
    · exact absurd ne (by decide)
    · exact (ih h).after ['\\', 'n']
  | case6 c s long _ _ ih =>
    rcases hasControl_cons h with ⟨_, hi, lo, behind, control, ready⟩ | h
    · refine interrupted_of_ready control ready fun t same => ?_
      obtain ⟨rfl, rfl⟩ := List.cons.inj same
      exact long hi lo t rfl rfl
    · exact (ih h).after ['\\']
  | case7 c s _ short ih =>
    rcases hasControl_cons h with ⟨backslash, hi, lo, behind, control, ready⟩ | h
    · -- a backslash that stands for itself is the last character
      split at backslash
      · cases backslash
      · cases s with
        | nil => cases ready
        | cons d s => exact absurd rfl (short d s backslash)
    · exact (ih h).after [c]

/-! ## What is decoded -/

/-- The character of a hexadecimal digit. -/
theorem toNat_of_hexDigit? {c : Char} {n : Nat} (h : hexDigit? c = some n) :
    n < 16 ∧ (n < 10 → c.toNat = n + 48) ∧ (10 ≤ n → c.toNat = n + 87 ∨ c.toNat = n + 55) := by
  have between {low high : Char} (h : (decide (low ≤ c) && decide (c ≤ high)) = true) :
      low.toNat ≤ c.toNat ∧ c.toNat ≤ high.toNat := by
    rw [Bool.and_eq_true, decide_eq_true_eq, decide_eq_true_eq] at h
    exact h
  unfold hexDigit? at h
  split at h
  · rename_i digit
    have range : 48 ≤ c.toNat ∧ c.toNat ≤ 57 := between digit
    cases h
    omega
  · split at h
    · rename_i letter
      have range : 97 ≤ c.toNat ∧ c.toNat ≤ 102 := between letter
      cases h
      omega
    · split at h
      · rename_i letter
        have range : 65 ≤ c.toNat ∧ c.toNat ≤ 70 := between letter
        cases h
        omega
      · cases h

theorem isControlCode_of_hexDigits {hi lo : Char} {a b : Nat} (ha : hexDigit? hi = some a)
    (hb : hexDigit? lo = some b) (control : isControl (Char.ofNat (a * 16 + b)) = true) :
    isControlCode hi lo = true := by
  obtain ⟨a_lt, digit, _⟩ := toNat_of_hexDigit? ha
  obtain ⟨b_lt, _, letter⟩ := toNat_of_hexDigit? hb
  have value : (Char.ofNat (a * 16 + b)).toNat = a * 16 + b := by
    rw [Char.ofNat, dif_pos (Or.inl (by omega))]
    rfl
  rw [isControl_iff, value] at control
  by_cases low : a < 2
  · have : hi = '0' ∨ hi = '1' := by
      rw [← Char.toNat_inj, ← Char.toNat_inj]
      show hi.toNat = 48 ∨ hi.toNat = 49
      omega
    simp [isControlCode, this, hb]
  · have : hi = '7' := by
      rw [← Char.toNat_inj]
      show hi.toNat = 55
      omega
    have : lo = 'f' ∨ lo = 'F' := by
      rw [← Char.toNat_inj, ← Char.toNat_inj]
      show lo.toNat = 102 ∨ lo.toNat = 70
      omega
    simp [isControlCode, *]

/-- A control is decoded only from a placeholder of a control. -/
theorem hasControl_of_mem_codes {s : List Char} {x : Char} (h : x ∈ codes s)
    (control : isControl x = true) : HasControl s := by
  fun_induction codes s with
  | case1 => cases h
  | case2 hi lo r a b hb ha ih =>
    rcases List.mem_cons.1 h with rfl | h
    · exact ⟨[], hi, lo, r, isControlCode_of_hexDigits ha hb control, rfl⟩
    · exact (ih h).of_part ⟨['\\', 'x', hi, lo], [], by simp⟩
  | case3 hi lo r none ih => exact (ih h).of_part ⟨['\\', 'x'], [], by simp⟩
  | case4 r short ih => exact (ih h).of_part ⟨['\\', 'x'], [], by simp⟩
  | case5 head r _ ne ih => exact (ih h).of_part ⟨['\\', head], [], by simp⟩
  | case6 => cases h
  | case7 c r long short pair alone ih => exact (ih h).of_part ⟨[c], [], by simp⟩

end Receipt.Markup
