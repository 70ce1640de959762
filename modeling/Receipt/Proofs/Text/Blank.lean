import Receipt.Text.Blank

/-!
# Taking joined text apart

Text joined at a separator is split into the same pieces if the separator is in none of them, and
trimming takes off the blanks around text that has none of its own.
-/

namespace Receipt.Text

/-! ## Splitting -/

theorem split_of_not_mem {sep : Char} {s : List Char} (h : sep ∉ s) : split sep s = (s, []) := by
  induction s with
  | nil => rfl
  | cons c r ih =>
    have ne : c ≠ sep := fun hc => h (List.mem_cons.2 (Or.inl hc.symm))
    simp only [split, ih fun hr => h (List.mem_cons_of_mem _ hr), if_neg ne]

theorem split_append {sep : Char} {s : List Char} (h : sep ∉ s) (r : List Char) :
    split sep (s ++ sep :: r) = (s, (split sep r).1 :: (split sep r).2) := by
  induction s with
  | nil => simp [split]
  | cons c s ih =>
    have ne : c ≠ sep := fun hc => h (List.mem_cons.2 (Or.inl hc.symm))
    simp only [List.cons_append, split, ih fun hs => h (List.mem_cons_of_mem _ hs), if_neg ne]

@[simp] theorem join_nil (sep : Char) (head : List Char) : join sep head [] = head :=
  List.append_nil head

theorem join_cons (sep : Char) (head piece : List Char) (more : List (List Char)) :
    join sep head (piece :: more) = head ++ sep :: join sep piece more := by
  simp [join]

theorem join_concat (sep : Char) (head : List Char) (more : List (List Char)) :
    join sep head (more ++ [[]]) = join sep head more ++ [sep] := by
  simp [join]

/-- **Joined pieces are split again.** -/
theorem split_join {sep : Char} {head : List Char} {more : List (List Char)} (h : sep ∉ head)
    (hm : ∀ piece ∈ more, sep ∉ piece) : split sep (join sep head more) = (head, more) := by
  induction more generalizing head with
  | nil => rw [join_nil, split_of_not_mem h]
  | cons piece more ih =>
    have rest := ih (hm piece List.mem_cons_self) fun x hx => hm x (List.mem_cons_of_mem _ hx)
    rw [join_cons, split_append h, rest]

/-! ## Trimming -/

section
variable {p : Char → Bool}

theorem dropWhile_of_head {s : List Char} (h : ∀ c ∈ s.head?, p c = false) :
    s.dropWhile p = s := by
  cases s with
  | nil => rfl
  | cons c r => exact List.dropWhile_cons_of_neg (by simpa using h c rfl)

theorem dropEndWhile_of_last {s : List Char} (h : ∀ c ∈ s.getLast?, p c = false) :
    dropEndWhile p s = s := by
  rw [dropEndWhile, dropWhile_of_head, List.reverse_reverse]
  rwa [List.head?_reverse]

theorem dropEndWhile_append (s : List Char) {back : List Char} (h : ∀ c ∈ back, p c = true) :
    dropEndWhile p (s ++ back) = dropEndWhile p s := by
  rw [dropEndWhile, dropEndWhile, List.reverse_append, List.dropWhile_append_of_pos]
  exact fun c hc => h c (List.mem_reverse.1 hc)

/-- A character that is not taken off is kept. -/
theorem mem_dropEndWhile {c : Char} (h : p c = false) {s : List Char} :
    c ∈ dropEndWhile p s ↔ c ∈ s := by
  have kept : c ∉ s.reverse.takeWhile p := fun hc => by
    rw [List.all_eq_true.1 List.all_takeWhile c hc] at h
    cases h
  have parts : c ∈ s.reverse.takeWhile p ++ s.reverse.dropWhile p ↔ c ∈ s := by
    rw [List.takeWhile_append_dropWhile, List.mem_reverse]
  rw [dropEndWhile, List.mem_reverse, ← parts, List.mem_append, or_iff_right kept]

/-- Text with nothing to take off at either end stays as it is. -/
theorem trimBy_of_ends {s : List Char} (front : ∀ c ∈ s.head?, p c = false)
    (back : ∀ c ∈ s.getLast?, p c = false) : trimBy p s = s := by
  rw [trimBy, dropWhile_of_head front, dropEndWhile_of_last back]

/-- **Trimming takes off what was put around** a text that needs no trimming. -/
theorem trimBy_append {front s back : List Char} (hf : ∀ c ∈ front, p c = true)
    (hb : ∀ c ∈ back, p c = true) (some : s ≠ []) (hs : ∀ c ∈ s, p c = false) :
    trimBy p (front ++ s ++ back) = s := by
  obtain ⟨x, r, rfl⟩ := List.exists_cons_of_ne_nil some
  rw [trimBy, List.append_assoc, List.dropWhile_append_of_pos hf, dropWhile_of_head,
    dropEndWhile_append _ hb, dropEndWhile_of_last]
  · exact fun c hc => hs c (List.mem_of_getLast? hc)
  · rintro c ⟨rfl⟩
    exact hs x List.mem_cons_self

end

end Receipt.Text
