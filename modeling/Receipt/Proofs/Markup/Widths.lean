import Mathlib.Tactic.SplitIfs
import Receipt.Proofs.Markup.Reading

/-!
# The widths in force

A column is read with the width in force at its place. On a line of text these are the widths of the
settings in order, and none where there are no more of them; what is no text stands alone, as wide as
fixed columns are together, or as wide as the line if one of them takes what is left over.
-/

namespace Receipt.Markup

/-! ## One column -/

/-- A column as wide as the settings say of its place, standing as they say. -/
structure Column.Spans (c : Column) (s : State) (index : Nat) : Prop where
  width : c.width = s.widthAt index c.isText
  alignment : c.alignment = s.alignment

theorem readAlone_spans (raw : List Char) (s : State) :
    (readAlone raw s).1.Spans (readAlone raw s).2 0 := by
  simp only [readAlone]
  split
  · exact ⟨rfl, rfl⟩
  · split_ifs <;> exact ⟨rfl, rfl⟩

theorem readBeside_spans (s : State) (index : Nat) (raw : List Char) :
    (readBeside s index raw).Spans s index := by
  simp only [readBeside]
  split
  · exact ⟨rfl, rfl⟩
  · split_ifs <;> exact ⟨rfl, rfl⟩

theorem widthAt_text {s : State} (some : s.widths ≠ []) (index : Nat) :
    s.widthAt index true = s.widths.getD index 0 := by
  simp [State.widthAt, some]

theorem padding_spans {s : State} {count i : Nat} {c : Column} (h : (s.padding count)[i]? = some c) :
    c.Spans s (count + i) := by
  rw [State.padding, List.getElem?_map, List.getElem?_drop] at h
  obtain ⟨width, here, rfl⟩ := Option.map_eq_some_iff.1 h
  have some : s.widths ≠ [] := List.ne_nil_of_mem (List.mem_of_getElem? here)
  refine ⟨?_, rfl⟩
  show width = s.widthAt (count + i) true
  rw [widthAt_text some, List.getD_eq_getElem?_getD, here]
  rfl

/-! ## The whole line -/

theorem complete_spans {s : State} {columns : List Column}
    (h : ∀ (i : Nat) (c : Column), columns[i]? = some c → c.Spans s i) {i : Nat} {c : Column}
    (hc : (s.complete columns)[i]? = some c) : c.Spans s i := by
  unfold State.complete at hc
  split at hc
  · rcases Nat.lt_or_ge i columns.length with given | added
    · rw [List.getElem?_append_left given] at hc
      exact h i c hc
    · rw [List.getElem?_append_right added] at hc
      have spans := padding_spans hc
      rwa [Nat.add_sub_cancel' added] at spans
  · exact h i c hc

/-- **Every column has the width in force at its place.** -/
theorem readLine_spans (line : List Char) (s : State) {i : Nat} {c : Column}
    (hc : (readLine line s).1[i]? = some c) : c.Spans (readLine line s).2 i := by
  rcases h : divide line with ⟨raw, _ | ⟨next, more⟩⟩
  · rw [readLine_alone h] at hc ⊢
    refine complete_spans (fun i c hc => ?_) hc
    rw [List.getElem?_singleton] at hc
    split at hc
    · subst i
      exact Option.some.inj hc ▸ readAlone_spans raw s
    · cases hc
  · rw [readLine_beside h] at hc ⊢
    refine complete_spans (fun i c hc => ?_) hc
    rw [List.getElem?_mapIdx] at hc
    obtain ⟨raw, _, rfl⟩ := Option.map_eq_some_iff.1 hc
    exact readBeside_spans s i raw

theorem length_complete {s : State} {columns : List Column}
    (h : (s.complete columns).all Column.isText = true) :
    s.widths.length ≤ (s.complete columns).length := by
  unfold State.complete at h ⊢
  by_cases isText : columns.all Column.isText = true
  · rw [if_pos isText, List.length_append, State.padding, List.length_map, List.length_drop]
    omega
  · rw [if_neg isText] at h
    exact absurd h isText

/-- A line of text has a column for each width. -/
theorem length_readLine {line : List Char} {s : State}
    (h : (readLine line s).1.all Column.isText = true) :
    s.widths.length ≤ (readLine line s).1.length := by
  have same := readLine_text h
  rcases hl : divide line with ⟨raw, _ | ⟨next, more⟩⟩
  · rw [readLine_alone hl] at h same ⊢
    simp only at same
    rw [same] at h ⊢
    exact length_complete h
  · rw [readLine_beside hl] at h ⊢
    exact length_complete h

section
variable {line : List Char} {s : State}

theorem width_of_text (isText : (readLine line s).1.all Column.isText = true) {i : Nat} {c : Column}
    (hc : (readLine line s).1[i]? = some c) : c.width = s.widthAt i true := by
  have spans := readLine_spans line s hc
  rw [readLine_text isText] at spans
  rw [spans.width, List.all_eq_true.1 isText c (List.mem_of_getElem? hc)]

/-- Without widths in force, all columns of text are alike. -/
theorem widths_of_none (isText : (readLine line s).1.all Column.isText = true)
    (none : s.widths = []) : ∀ c ∈ (readLine line s).1, c.width = -1 := by
  intro c hc
  obtain ⟨i, hi⟩ := List.getElem?_of_mem hc
  rw [width_of_text isText hi]
  simp [State.widthAt, none]

/-- **The columns of text that are not left out have the widths in force,** in order. -/
theorem widths_of_some (isText : (readLine line s).1.all Column.isText = true)
    (some : s.widths ≠ []) :
    ((readLine line s).1.map Column.width).filter (· ≠ 0) = s.widths.filter (· ≠ 0) := by
  have count := length_readLine isText
  have all : (readLine line s).1.map Column.width =
      s.widths ++ List.replicate ((readLine line s).1.length - s.widths.length) 0 := by
    refine List.ext_getElem (by simp; omega) fun i hi _ => ?_
    rw [List.length_map] at hi
    rw [List.getElem_map, width_of_text isText (List.getElem?_eq_getElem hi), widthAt_text some,
      List.getD_eq_getElem?_getD]
    rcases Nat.lt_or_ge i s.widths.length with given | added
    · rw [List.getElem_append_left given, List.getElem?_eq_getElem given]
      rfl
    · rw [List.getElem_append_right added, List.getElem?_eq_none added, List.getElem_replicate]
      rfl
  rw [all, List.filter_append]
  simp

end

/-! ## What is no text -/

/-- The cells that fixed columns take together, with their borders. -/
def State.total (s : State) : Int :=
  let fixed := s.widths.filter (0 < ·)
  if fixed.isEmpty then 0 else borderCells s.border fixed.length + fixed.foldr (· + ·) 0

theorem widthAt_flexible {s : State} (h : s.widths = [] ∨ ∃ w ∈ s.widths, w < 0) (index : Nat) :
    s.widthAt index false = -1 := by
  unfold State.widthAt
  rcases h with none | flexible
  · simp [none]
  · simp [flexible]

/-- **What is no text is as wide as fixed columns are together,** if a column can be as wide. -/
theorem widthAt_fixed {s : State} (some : s.widths ≠ []) (fixed : ∀ w ∈ s.widths, 0 ≤ w)
    (index : Nat) : s.widthAt index false = min s.total Value.widest := by
  have rigid : s.widths.any (· < 0) = false := by simpa using fixed
  simp only [State.widthAt, State.total, List.isEmpty_eq_false_iff.2 some, rigid, Bool.false_eq_true,
    if_false]
  split
  · exact (Int.min_eq_left (Int.natCast_nonneg _)).symm
  · rfl

end Receipt.Markup
