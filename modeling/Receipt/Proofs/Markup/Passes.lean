import Receipt.Proofs.Markup.Escape

/-!
# Passes over text

Each of the passes from markup to text reads its input from the left and looks no further than the
escape it is at. What a pass makes of a piece that it does not look beyond is the same wherever the
piece stands (`Turns`), so a pass over text that is put together is put together as well.
-/

namespace Receipt.Markup

/-! ## Pieces of a text -/

/-- A pass turns `a` into `b`, whatever comes after. -/
def Turns (pass : List Char → List Char) (a b : List Char) : Prop :=
  ∀ r, pass (a ++ r) = b ++ pass r

section
variable {pass : List Char → List Char}

theorem Turns.nil : Turns pass [] [] := fun _ => rfl

theorem Turns.append {a b c d : List Char} (h : Turns pass a b) (k : Turns pass c d) :
    Turns pass (a ++ c) (b ++ d) := fun r => by
  rw [List.append_assoc, h, k, List.append_assoc]

theorem Turns.flatMap {α : Type} {f g : α → List Char} {l : List α}
    (h : ∀ x ∈ l, Turns pass (f x) (g x)) : Turns pass (l.flatMap f) (l.flatMap g) := by
  induction l with
  | nil => exact .nil
  | cons x l ih =>
    exact (h x List.mem_cons_self).append (ih fun y hy => h y (List.mem_cons_of_mem _ hy))

/-- A pass that keeps a character keeps a run of it. -/
theorem Turns.replicate {c : Char} (h : Turns pass [c] [c]) (n : Nat) :
    Turns pass (List.replicate n c) (List.replicate n c) := by
  induction n with
  | zero => exact .nil
  | succ n ih => exact h.append ih

theorem Turns.whole {a b : List Char} (h : Turns pass a b) (none : pass [] = []) : pass a = b := by
  simpa [none] using h []

end

/-! ## Protecting delimiters -/

section
variable {c : Char}

theorem protect_plain (h : c ≠ '\\') : Turns protect [c] [c] := fun r => by
  rw [List.singleton_append, protect]
  · rfl
  · exact fun _ _ hc _ => h hc

theorem protect_delimiter (h : isDelimiter c = true) : Turns protect ['\\', c] (placeholder c) :=
  fun r => by
    show protect ('\\' :: c :: r) = _
    rw [protect, if_pos h]

theorem protect_escaped (h : isDelimiter c = false) : Turns protect ['\\', c] ['\\', c] := fun r => by
  have ne : c ≠ '\\' := by
    rintro rfl
    cases h
  show protect ('\\' :: c :: r) = _
  rw [protect, h]
  exact congrArg ('\\' :: ·) (protect_plain ne r)

/-! ## Making text ready -/

theorem prepareVisible_plain (h : c ≠ '\\') (tilde : c ≠ '~') : Turns prepareVisible [c] [c] :=
  fun r => by
    rw [List.singleton_append, prepareVisible, if_neg tilde]
    · rfl
    · exact fun _ _ _ hc _ => h hc
    · exact fun _ _ hc _ => h hc

theorem prepareVisible_tilde : Turns prepareVisible ['~'] [' '] := fun r => by
  rw [List.singleton_append, prepareVisible]
  · rfl
  · exact fun _ _ _ hc _ => absurd hc (by decide)
  · exact fun _ _ hc _ => absurd hc (by decide)

theorem prepareVisible_decoration (h : isDecoration c = true) :
    Turns prepareVisible ['\\', c] (placeholder c) := fun r => by
  show prepareVisible ('\\' :: c :: r) = _
  rw [prepareVisible, if_pos h]
  rintro _ _ _ rfl
  cases h

theorem prepareVisible_lineFeed : Turns prepareVisible ['\\', 'n'] ['\n'] := fun r => by
  show prepareVisible ('\\' :: 'n' :: r) = _
  rw [prepareVisible]
  · rfl
  · exact fun _ _ _ hn _ => absurd hn (by decide)

/-- A placeholder of no control is kept. -/
theorem prepareVisible_code {hi lo : Char} (h : isControlCode hi lo = false)
    (high : hi ≠ '\\' ∧ hi ≠ '~') (low : lo ≠ '\\' ∧ lo ≠ '~') :
    Turns prepareVisible ['\\', 'x', hi, lo] ['\\', 'x', hi, lo] := fun r => by
  have rest := (prepareVisible_plain (c := 'x') (by decide) (by decide)).append
    ((prepareVisible_plain high.1 high.2).append (prepareVisible_plain low.1 low.2))
  show prepareVisible ('\\' :: 'x' :: hi :: lo :: r) = _
  rw [prepareVisible, h]
  exact congrArg ('\\' :: ·) (rest r)

/-- The placeholder of a delimiter is not that of a control. -/
theorem prepareVisible_placeholder (h : isDelimiter c = true) :
    Turns prepareVisible (placeholder c) (placeholder c) := by
  have digits : ∀ d ∈ ['\\', '{', '|', '}'], ∃ hi lo, placeholder d = ['\\', 'x', hi, lo] ∧
      isControlCode hi lo = false ∧ (hi ≠ '\\' ∧ hi ≠ '~') ∧ lo ≠ '\\' ∧ lo ≠ '~' := by
    simp only [List.forall_mem_cons, List.not_mem_nil, false_imp_iff, implies_true, and_true]
    exact ⟨⟨'5', 'c', by decide⟩, ⟨'7', 'b', by decide⟩, ⟨'7', 'c', by decide⟩, '7', 'd', by decide⟩
  obtain ⟨hi, lo, written, control, high, low⟩ := digits c (isDelimiter_iff.1 h)
  rw [written]
  exact prepareVisible_code control high low

/-! ## Decoding -/

theorem decode_plain (h : c ≠ '\\') : Turns decode [c] [c] := fun r => by
  rw [List.singleton_append, decode]
  · rfl
  · exact fun _ _ _ hc _ => h hc
  · exact fun _ hc _ => h hc
  · exact fun _ _ hc _ => h hc
  · exact fun hc _ => h hc

end

end Receipt.Markup
