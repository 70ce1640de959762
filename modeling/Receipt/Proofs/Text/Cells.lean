import Mathlib.Algebra.BigOperators.Group.List.Basic
import Mathlib.Algebra.GroupWithZero.Nat
import Receipt.Proofs.Text.Boundaries

/-!
# Cells of units

A text takes the cells that its units take one by one (`cells_eq_sum`), and so do the parts that it
is cut into between its units, because neighbouring units are not cut in another way when they
stand alone. On a double-byte page a unit takes one cell or two, on every other page one.
-/

namespace Receipt.Text

section
variable {page : CodePage} {s u : List Char}

theorem charCells_range (page : CodePage) (c : Char) :
    1 ≤ charCells page c ∧ charCells page c ≤ 2 := by
  unfold charCells
  split <;> decide

theorem ne_thai_of_doubleByte (h : page.isDoubleByte = true) : page ≠ .tis620 := by
  rintro rfl
  cases h

/-- On a double-byte page every character counts for itself. -/
theorem cells_doubleByte (h : page.isDoubleByte = true) (s : List Char) :
    cells page s = (s.map (charCells page)).sum := by
  rw [cells, if_pos h]
  rfl

/-- On any other page there is a cell for each unit. -/
theorem cells_eq_length (h : page.isDoubleByte = false) (s : List Char) :
    cells page s = (units page s).length := by
  rw [cells, h, if_neg Bool.false_ne_true, units]
  split
  · rfl
  · exact (List.length_map _).symm

theorem cells_unit_eq_one (h : page.isDoubleByte = false) (hu : u ∈ units page s) :
    cells page u = 1 := by
  rw [cells_eq_length h, units_unit hu, List.length_singleton]

theorem cells_unit_range (hu : u ∈ units page s) : 1 ≤ cells page u ∧ cells page u ≤ 2 := by
  cases h : page.isDoubleByte with
  | true =>
    obtain ⟨c, rfl⟩ := exists_char_of_mem_units (ne_thai_of_doubleByte h) hu
    rw [cells_doubleByte h, List.map_singleton, List.sum_singleton]
    exact charCells_range page c
  | false =>
    rw [cells_unit_eq_one h hu]
    decide

/-- Text takes the cells of its units. -/
theorem cells_eq_sum (page : CodePage) (s : List Char) :
    cells page s = ((units page s).map (cells page)).sum := by
  cases h : page.isDoubleByte with
  | true =>
    have single : (cells page ∘ fun c => [c]) = charCells page := by
      funext c
      rw [Function.comp_apply, cells_doubleByte h, List.map_singleton, List.sum_singleton]
    rw [units_single (ne_thai_of_doubleByte h), List.map_map, single, cells_doubleByte h]
  | false =>
    have ones : (units page s).map (cells page) = List.replicate (units page s).length 1 :=
      List.eq_replicate_iff.2 ⟨List.length_map _, by
        intro n hn
        obtain ⟨u, hu, rfl⟩ := List.mem_map.1 hn
        exact cells_unit_eq_one h hu⟩
    rw [ones, List.sum_replicate_nat, Nat.mul_one, cells_eq_length h]

/-- Neighbouring units take as many cells together as one by one. -/
theorem cells_flatten {group : List (List Char)} {a b : List (List Char)}
    (h : units page s = a ++ group ++ b) :
    cells page group.flatten = (group.map (cells page)).sum := by
  rw [cells_eq_sum, units_of_append h]

theorem cells_groups {groups : List (List (List Char))} (h : groups.flatten = units page s) :
    cells page s = (groups.map fun group => cells page group.flatten).sum := by
  have own : ∀ group ∈ groups, cells page group.flatten = (group.map (cells page)).sum := by
    intro group mem
    obtain ⟨before, behind, rfl⟩ := List.append_of_mem mem
    refine cells_flatten (a := before.flatten) (b := behind.flatten) (s := s) ?_
    rw [← h]
    simp
  rw [List.map_congr_left own, cells_eq_sum, ← h, List.map_flatten, List.sum_flatten, List.map_map]
  rfl

theorem units_end_iff (page : CodePage) (before after : List Char) (c : Char) :
    (∃ k, ((units page (before ++ c :: after)).take k).flatten = before) ↔
      (page = .tis620 → Cluster.joins before.reverse c = false) := by
  by_cases thai : page = .tis620
  · rw [units, if_pos thai, clusters_end_iff]
    exact ⟨fun h _ => h, fun h => h thai⟩
  · refine ⟨fun _ h => absurd h thai, fun _ => ⟨before.length, ?_⟩⟩
    have all := flatten_units page before
    rw [units_single thai] at all ⊢
    rwa [← List.map_take, List.take_left]

end

/-- **Measuring agrees with cutting into units.** The units of a text spell the text; on the Thai
page a unit ends just where the rules for clusters, which look at all the text before, let it end,
and on every other page after each character. A unit takes one cell, or on a double-byte page two
at most, and the text takes the cells of its units. So it is as wide as the parts that it is cut
into between units, any number of them. -/
theorem cells_by_units (page : CodePage) (s : List Char) :
    (units page s).flatten = s ∧
      (∀ before c after, before ++ c :: after = s →
        ((∃ k, ((units page s).take k).flatten = before) ↔
          (page = .tis620 → Cluster.joins before.reverse c = false))) ∧
      (∀ u ∈ units page s, 1 ≤ cells page u ∧ cells page u ≤ 2 ∧
        (page.isDoubleByte = false → cells page u = 1)) ∧
      cells page s = ((units page s).map (cells page)).sum ∧
      ∀ groups : List (List (List Char)), groups.flatten = units page s →
        cells page s = (groups.map fun group => cells page group.flatten).sum := by
  refine ⟨flatten_units page s, ?ends, ?range, cells_eq_sum page s, fun groups => cells_groups⟩
  case ends =>
    rintro before c after rfl
    exact units_end_iff page before after c
  case range =>
    intro u hu
    have range := cells_unit_range hu
    exact ⟨range.1, range.2, fun single => cells_unit_eq_one single hu⟩

/-- A letter with its tone mark, a flag, and half a flag: three cells, two in front of a cut and one
behind it. -/
theorem cells_by_units_flags :
    [[['\u0e01', '\u0e48'], ['🇯', '🇵']], [['🇹']]].flatten =
        units .tis620 ['\u0e01', '\u0e48', '🇯', '🇵', '🇹'] ∧
      cells .tis620 ['\u0e01', '\u0e48', '🇯', '🇵', '🇹'] =
        cells .tis620 ['\u0e01', '\u0e48', '🇯', '🇵'] + cells .tis620 ['🇹'] := by
  have cut : [[['\u0e01', '\u0e48'], ['🇯', '🇵']], [['🇹']]].flatten =
      units .tis620 ['\u0e01', '\u0e48', '🇯', '🇵', '🇹'] := by decide +kernel
  have parts := (cells_by_units .tis620 ['\u0e01', '\u0e48', '🇯', '🇵', '🇹']).2.2.2.2 _ cut
  simp only [List.map_cons, List.map_nil, List.sum_cons, List.sum_nil, Nat.add_zero,
    List.flatten_cons, List.flatten_nil, List.append_nil, List.cons_append, List.nil_append] at parts
  exact ⟨cut, parts⟩

end Receipt.Text
