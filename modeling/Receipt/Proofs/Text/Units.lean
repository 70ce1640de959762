import Receipt.Text.Cells

/-!
# Units on their own

What decides where a cluster ends starts anew with every cluster. Units taken out of a text, any
number of neighbours, are therefore the units of what they spell, so a row can be measured by its
own text.
-/

namespace Receipt.Text

namespace Cluster

theorem cut_continues {x : Context} {c : Char} (h : x.continues c = true) (r : List Char) :
    cut x (c :: r) = (c :: (cut (x.next c) r).1, (cut (x.next c) r).2) := by
  simp [cut, h]

theorem cut_ends {x : Context} {c : Char} (h : x.continues c = false) (r : List Char) :
    cut x (c :: r) = ([], (c :: (cut (.first c) r).1) :: (cut (.first c) r).2) := by
  simp [cut, h]

/-- What comes after some clusters does not matter to them. -/
theorem cut_take (x : Context) (s : List Char) (k : Nat) :
    cut x ((cut x s).1 ++ ((cut x s).2.take k).flatten) = ((cut x s).1, (cut x s).2.take k) := by
  induction s generalizing x k with
  | nil => simp [cut]
  | cons c r ih =>
    cases h : x.continues c with
    | true =>
      rw [cut_continues h, List.cons_append, cut_continues h, ih]
    | false =>
      rw [cut_ends h]
      cases k with
      | zero => rfl
      | succ k =>
        rw [List.take_succ_cons, List.flatten_cons, List.nil_append, List.cons_append, cut_ends h, ih]

theorem ne_nil_of_mem_cut {x : Context} {s u : List Char} (h : u ∈ (cut x s).2) : u ≠ [] := by
  induction s generalizing x with
  | nil => cases h
  | cons c r ih =>
    cases hc : x.continues c with
    | true =>
      rw [cut_continues hc] at h
      exact ih h
    | false =>
      rw [cut_ends hc] at h
      rcases List.mem_cons.1 h with rfl | h
      · exact List.cons_ne_nil _ _
      · exact ih h

end Cluster

open Cluster

theorem clusters_take (s : List Char) (k : Nat) :
    clusters ((clusters s).take k).flatten = (clusters s).take k := by
  cases s with
  | nil => simp [clusters]
  | cons c r =>
    cases k with
    | zero => rfl
    | succ k =>
      show clusters (c :: ((cut (.first c) r).1 ++ ((cut (.first c) r).2.take k).flatten)) = _
      simp only [clusters, cut_take, List.take_succ_cons]

/-- The clusters after the one in progress are those of the rest of the text. -/
theorem clusters_cut (x : Context) (s : List Char) :
    clusters (cut x s).2.flatten = (cut x s).2 := by
  induction s generalizing x with
  | nil => rfl
  | cons c r ih =>
    cases h : x.continues c with
    | true => rw [cut_continues h, ih]
    | false =>
      rw [cut_ends h, List.flatten_cons, List.cons_append, cut_flatten]
      rfl

theorem clusters_drop (s : List Char) (k : Nat) :
    clusters ((clusters s).drop k).flatten = (clusters s).drop k := by
  induction k generalizing s with
  | zero => rw [List.drop_zero, flatten_clusters]
  | succ k ih =>
    cases s with
    | nil => rfl
    | cons c r =>
      have rest := ih (cut (.first c) r).2.flatten
      rw [clusters_cut] at rest
      exact rest

theorem units_single {page : CodePage} (h : page ≠ .tis620) (s : List Char) :
    units page s = s.map ([·]) := if_neg h

/-- Where clusters do not count, a unit is a character. -/
theorem exists_char_of_mem_units {page : CodePage} (h : page ≠ .tis620) {s u : List Char}
    (hu : u ∈ units page s) : ∃ c, u = [c] := by
  rw [units_single h] at hu
  obtain ⟨c, _, rfl⟩ := List.mem_map.1 hu
  exact ⟨c, rfl⟩

/-- **Neighbouring units are the units of what they spell.** -/
theorem units_of_append {page : CodePage} {s : List Char} {a b c : List (List Char)}
    (h : units page s = a ++ b ++ c) : units page b.flatten = b := by
  by_cases thai : page = .tis620
  · rw [units, if_pos thai] at h ⊢
    have tail : b ++ c = (clusters s).drop a.length := by
      rw [h, List.append_assoc, List.drop_left]
    have own := clusters_drop s a.length
    rw [← tail] at own
    have front := clusters_take (b ++ c).flatten b.length
    rwa [own, List.take_left] at front
  · have single : ∀ u ∈ b, ∃ x, u = [x] := by
      intro u hu
      have mem : u ∈ units page s := by
        rw [h]
        exact List.mem_append_left _ (List.mem_append_right _ hu)
      exact exists_char_of_mem_units thai mem
    rw [units_single thai]
    clear h
    induction b with
    | nil => rfl
    | cons u b ih =>
      obtain ⟨x, rfl⟩ := single u List.mem_cons_self
      exact congrArg ([x] :: ·) (ih fun u hu => single u (List.mem_cons_of_mem _ hu))

/-- No unit is empty. -/
theorem ne_nil_of_mem_units {page : CodePage} {s u : List Char} (hu : u ∈ units page s) :
    u ≠ [] := by
  by_cases thai : page = .tis620
  · rw [units, if_pos thai] at hu
    cases s with
    | nil => cases hu
    | cons c r =>
      rcases List.mem_cons.1 hu with rfl | hu
      · exact List.cons_ne_nil _ _
      · exact ne_nil_of_mem_cut hu
  · obtain ⟨c, rfl⟩ := exists_char_of_mem_units thai hu
    exact List.cons_ne_nil _ _

/-- A unit is not cut again. -/
theorem units_unit {page : CodePage} {s u : List Char} (hu : u ∈ units page s) :
    units page u = [u] := by
  obtain ⟨a, b, h⟩ := List.append_of_mem hu
  have own : units page [u].flatten = [u] := units_of_append (by rw [h, List.append_cons])
  rwa [List.flatten_singleton] at own

/-- A unit with a character of ASCII takes one cell. -/
theorem cells_unit {page : CodePage} {s u : List Char} (hu : u ∈ units page s) {c : Char}
    (hc : c ∈ u) (ascii : c.toNat < 128) : cells page u = 1 := by
  by_cases thai : page = .tis620
  · have own := units_unit hu
    rw [units, if_pos thai] at own
    rw [cells, thai, own]
    rfl
  · obtain ⟨x, rfl⟩ := exists_char_of_mem_units thai hu
    obtain rfl := List.mem_singleton.1 hc
    unfold cells
    split
    · simp [charCells, ascii]
    · rfl

end Receipt.Text
