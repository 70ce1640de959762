import Receipt.Markup.Escape

/-!
# Controls that get through

Controls are taken out of text before placeholders in it are read. What a text made ready decodes to
is therefore free of controls but for line feeds, unless a placeholder of one is left: the text
around a placeholder that vanishes may make up another.
-/

namespace Receipt.Markup

open Text (hexDigit?)

/-! ## What placeholders stand for -/

/-- The characters of the placeholders in a text, as `decode` reads them. -/
def codes : List Char → List Char
  | [] => []
  | '\\' :: 'x' :: hi :: lo :: r =>
    match hexDigit? hi, hexDigit? lo with
    | some a, some b => Char.ofNat (a * 16 + b) :: codes r
    | _, _ => codes (hi :: lo :: r)
  | '\\' :: 'x' :: r => codes r
  | '\\' :: _ :: r => codes r
  | ['\\'] => []
  | _ :: r => codes r

/-- A character that is not in a text comes from a placeholder or not at all. -/
theorem mem_decode {x : Char} {s : List Char} (h : x ∉ s) : x ∈ decode s ↔ x ∈ codes s := by
  fun_induction decode s with
  | case1 => simp [codes]
  | case2 hi lo r a b hb ha ih =>
    have rest : x ∉ r := fun hx => h (by simp [hx])
    simp only [codes, ha, hb, List.mem_cons, ih rest]
  | case3 hi lo r none ih =>
    have rest : x ∉ hi :: lo :: r := fun hx => h (List.mem_cons_of_mem _ (List.mem_cons_of_mem _ hx))
    have lost : codes ('\\' :: 'x' :: hi :: lo :: r) = codes (hi :: lo :: r) := by
      rw [codes]
      split
      · exact (none _ _ ‹_› ‹_›).elim
      · rfl
    rw [lost, ih rest]
  | case4 r short ih =>
    have rest : x ∉ r := fun hx => h (by simp [hx])
    rw [codes, ih rest]
    exact short
  | case5 head r _ ne ih =>
    have rest : x ∉ r := fun hx => h (by simp [hx])
    rw [codes, ih rest]
    · exact fun _ _ _ hx _ => ne hx
    · exact ne
  | case6 => simp [codes]
  | case7 c r long short pair alone ih =>
    have rest : x ∉ r := fun hx => h (List.mem_cons_of_mem _ hx)
    have ne : x ≠ c := fun hx => h (List.mem_cons.2 (Or.inl hx))
    rw [codes, List.mem_cons, ih rest]
    · simp [ne]
    · exact long
    · exact short
    · exact pair
    · exact alone

/-! ## Text made ready -/

theorem isControl_iff {c : Char} : isControl c = true ↔ c.toNat < 32 ∨ c.toNat = 127 := by
  simp only [isControl, Bool.or_eq_true, decide_eq_true_eq]
  exact or_congr Iff.rfl Char.toNat_inj.symm

theorem isDelimiter_iff {c : Char} : isDelimiter c = true ↔ c ∈ ['\\', '{', '|', '}'] := by
  simp [isDelimiter, or_assoc]

theorem isDecoration_iff {c : Char} :
    isDecoration c = true ↔ c ∈ ['-', '=', '_', '"', '\x60', '^', '~'] := by
  simp [isDecoration, or_assoc]

theorem isControl_of_mem_placeholder {c x : Char} (hc : isDecoration c = true)
    (hx : x ∈ placeholder c) : isControl x = false := by
  have all : ['-', '=', '_', '"', '\x60', '^', '~'].all
      (fun d => (placeholder d).all (!isControl ·)) = true := by decide
  have free := List.all_eq_true.1 (List.all_eq_true.1 all c (isDecoration_iff.1 hc)) x hx
  simpa using free

/-- Text without controls has none but line feeds when it is made ready. -/
theorem eq_lineFeed_of_mem_prepareVisible {s : List Char} (h : ∀ c ∈ s, isControl c = false)
    {x : Char} (hx : x ∈ prepareVisible s) (control : isControl x = true) : x = '\n' := by
  have rest {c : Char} {r : List Char} (h : ∀ d ∈ c :: r, isControl d = false) :
      ∀ d ∈ r, isControl d = false := fun d hd => h d (List.mem_cons_of_mem _ hd)
  have escaped {y : Char} {r : List Char} (hx : x ∈ y :: r) (hy : isControl y = false) : x ∈ r := by
    rcases List.mem_cons.1 hx with rfl | hx
    · rw [hy] at control
      cases control
    · exact hx
  fun_induction prepareVisible s with
  | case1 => cases hx
  | case2 hi lo r _ ih => exact ih (rest (rest (rest (rest h)))) hx
  | case3 hi lo r _ ih => exact ih (rest h) (escaped hx (by decide))
  | case4 c r _ decoration ih =>
    rcases List.mem_append.1 hx with hx | hx
    · rw [isControl_of_mem_placeholder decoration hx] at control
      cases control
    · exact ih (rest (rest h)) hx
  | case5 r _ _ ih =>
    rcases List.mem_cons.1 hx with hx | hx
    · exact hx
    · exact ih (rest (rest h)) hx
  | case6 c r _ _ _ ih => exact ih (rest h) (escaped hx (by decide))
  | case7 c r _ _ ih =>
    refine ih (rest h) (escaped hx ?_)
    split
    · decide
    · exact h c List.mem_cons_self

/-- Text made ready has no controls but line feeds. -/
theorem eq_lineFeed_of_mem_prepare {s : List Char} {x : Char} (hx : x ∈ prepare s)
    (control : isControl x = true) : x = '\n' := by
  refine eq_lineFeed_of_mem_prepareVisible (fun c hc => ?_) hx control
  simpa using (List.mem_filter.1 hc).2

/-- **Decoded text has the controls that are left in placeholders,** beside line feeds. -/
theorem control_mem_decode_prepare {s : List Char} {x : Char} (control : isControl x = true)
    (ne : x ≠ '\n') : x ∈ decode (prepare s) ↔ x ∈ codes (prepare s) :=
  mem_decode fun hx => ne (eq_lineFeed_of_mem_prepare hx control)

end Receipt.Markup
