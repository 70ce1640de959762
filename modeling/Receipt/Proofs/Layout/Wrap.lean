import Mathlib.Algebra.GroupWithZero.Nat
import Mathlib.Tactic.SplitIfs
import Receipt.Layout.Wrap
import Receipt.Proofs.Text.Units

/-!
# What is in a row

The runs of a row are cut out of the text that is wrapped, unit by unit, and with the cells that the
row has left they fill the column. Both hold of the row in progress at every unit (`Draft.Sound`),
so they hold of every row that is closed.
-/

namespace Receipt.Layout

open Markup (Segment)
open Text (CodePage)

/-- Cells that a run takes. -/
def Run.cells (page : CodePage) (run : Run) : Nat :=
  ((Text.units page run.text).map (glyph page run.decoration)).sum

/-- Text that is spelt by neighbouring units of a text among the segments. -/
def IsExcerpt (page : CodePage) (segments : List Segment) (s : List Char) : Prop :=
  ∃ t before us behind,
    Segment.text t ∈ segments ∧ Text.units page t = before ++ us ++ behind ∧ s = us.flatten

section
variable (page : CodePage) (width align : Nat) (segments : List Segment)

/-- Runs cut out of the segments that leave `space` cells of the column. -/
structure Filled (runs : List Run) (space : Nat) : Prop where
  excerpts : ∀ run ∈ runs, IsExcerpt page segments run.text
  full : (runs.map (Run.cells page)).sum + space = width

/-- What holds of the row in progress. -/
def Draft.Sound (draft : Draft) : Prop := Filled page width segments draft.runs draft.space

/-- What holds of a row: with the cells left over, from which its margin is made, its runs fill the
column. -/
def Row.Sound (row : Row) : Prop :=
  ∃ space, Filled page width segments row.runs space ∧ row.margin = marginOf space align

end

section
variable {page : CodePage} {width align : Nat} {segments : List Segment}

theorem Draft.Sound.finish {draft : Draft} (h : draft.Sound page width segments) :
    (draft.finish align).Sound page width align segments :=
  ⟨draft.space, h, rfl⟩

theorem sound_empty : Draft.Sound page width segments { space := width } where
  excerpts := by simp
  full := Nat.zero_add width

/-- A row in progress is sound with no units in its run in progress. -/
theorem Draft.Sound.start {draft : Draft} (h : draft.Sound page width segments) (d : Decoration) :
    Filled page width segments draft.runs
      ((([] : List (List Char)).map (glyph page d)).sum + draft.space) := by
  simpa [Draft.Sound] using h

/-- A unit that fits joins the run in progress. -/
theorem Filled.join {runs : List Run} {d : Decoration} {taken : List (List Char)} {u : List Char}
    {space : Nat} (h : Filled page width segments runs ((taken.map (glyph page d)).sum + space))
    (fits : glyph page d u ≤ space) :
    Filled page width segments runs
      (((u :: taken).map (glyph page d)).sum + (space - glyph page d u)) := by
  refine ⟨h.excerpts, ?_⟩
  have full := h.full
  simp only [List.map_cons, List.sum_cons]
  omega

/-- A unit that is no wider than the column starts a row. -/
theorem filled_singleton {d : Decoration} {u : List Char} (fits : glyph page d u ≤ width) :
    Filled page width segments [] (([u].map (glyph page d)).sum + (width - glyph page d u)) := by
  refine ⟨by simp, ?_⟩
  simp only [List.map_nil, List.sum_nil, List.map_singleton, List.sum_singleton]
  omega

/-- The units of the run in progress become a run of their own. -/
theorem Draft.Sound.add {draft : Draft} {d : Decoration} {t : List Char}
    {before taken behind : List (List Char)} (ht : Segment.text t ∈ segments)
    (hu : Text.units page t = before ++ taken.reverse ++ behind)
    (h : Filled page width segments draft.runs ((taken.map (glyph page d)).sum + draft.space)) :
    (draft.add d taken.reverse).Sound page width segments := by
  cases taken with
  | nil => simpa [Draft.add, Draft.Sound] using h
  | cons u r =>
    have own : Text.units page (u :: r).reverse.flatten = (u :: r).reverse :=
      Text.units_of_append hu
    have run : Run.cells page ⟨d, (u :: r).reverse.flatten⟩ = ((u :: r).map (glyph page d)).sum := by
      rw [Run.cells, own, List.map_reverse, List.sum_reverse]
    have some : (u :: r).reverse.isEmpty = false := by simp
    rw [Draft.add, some]
    constructor
    · intro x hx
      rcases List.mem_append.1 hx with hx | hx
      · exact h.excerpts x hx
      · rw [List.mem_singleton.1 hx]
        exact ⟨t, before, _, behind, ht, hu, rfl⟩
    · have full := h.full
      simp only [Bool.false_eq_true, if_false, List.map_append, List.sum_append, List.map_singleton,
        List.sum_singleton, run]
      omega

/-- Laying units closes sound rows only, and goes on with a sound row. -/
theorem layUnits_sound (align : Nat) (d : Decoration) {t : List Char}
    (ht : Segment.text t ∈ segments) (before taken us : List (List Char)) (draft : Draft)
    (hu : Text.units page t = before ++ taken.reverse ++ us)
    (h : Filled page width segments draft.runs ((taken.map (glyph page d)).sum + draft.space)) :
    (∀ row ∈ (layUnits width align page d taken draft us).1, row.Sound page width align segments) ∧
      (layUnits width align page d taken draft us).2.Sound page width segments := by
  induction us generalizing before taken draft with
  | nil =>
    have closed := Draft.Sound.add ht hu h
    simp only [layUnits]
    split_ifs
    · exact ⟨by simpa using closed.finish, sound_empty⟩
    · exact ⟨by simp, closed⟩
  | cons u r ih =>
    have closed := Draft.Sound.add ht hu h
    simp only [layUnits]
    split_ifs with fits wide
    · -- the unit joins the run in progress
      apply ih before
      · simpa using hu
      · exact h.join fits
    · -- the unit is left out
      apply ih (before ++ taken.reverse ++ [u])
      · simpa using hu
      · exact closed.start d
    · -- the unit starts a row
      have next := ih (before ++ taken.reverse) [u] { space := width - glyph page d u }
        (by simpa using hu) (filled_singleton (Nat.not_lt.1 wide))
      exact ⟨List.forall_mem_cons.2 ⟨closed.finish, next.1⟩, next.2⟩

/-- The rows of segments are sound from a sound row in progress on. -/
theorem wrapFrom_sound {rest : List Segment} (hr : ∀ t, Segment.text t ∈ rest → .text t ∈ segments)
    (d : Decoration) {draft : Draft} (h : draft.Sound page width segments) :
    ∀ row ∈ wrapFrom width align page d draft rest, row.Sound page width align segments := by
  induction rest generalizing d draft with
  | nil =>
    simp only [wrapFrom]
    split
    · simp
    · simpa using h.finish
  | cons s r ih =>
    have tail := ih fun t ht => hr t (List.mem_cons_of_mem _ ht)
    cases s with
    | text t =>
      have laid := layUnits_sound align d (hr t List.mem_cons_self) [] [] (Text.units page t) draft
        rfl (h.start d)
      intro row hrow
      rcases List.mem_append.1 hrow with hrow | hrow
      · exact laid.1 row hrow
      · exact tail d laid.2 row hrow
    | lineBreak => exact List.forall_mem_cons.2 ⟨h.finish, tail d sound_empty⟩
    | underline => exact tail _ h
    | emphasis => exact tail _ h
    | invert => exact tail _ h
    | scale n => exact tail _ h

/-- **Every row fills its column:** its runs are excerpts of the text, and with the cells left over
they are as wide as the column. -/
theorem wrap_sound (segments : List Segment) (width align : Nat) (page : CodePage) :
    ∀ row ∈ wrap segments width align page, row.Sound page width align segments :=
  wrapFrom_sound (fun _ ht => ht) _ sound_empty

end

/-! ## What is printed -/

/-- The texts of segments, each with the decoration in force. -/
def decorated : Decoration → List Segment → List (Decoration × List Char)
  | _, [] => []
  | d, .text t :: r => (d, t) :: decorated d r
  | d, s :: r => decorated (d.apply s) r

/-- The units of a text, each with its decoration. -/
def unitsOf (page : CodePage) (text : Decoration × List Char) : List (Decoration × List Char) :=
  (Text.units page text.2).map (text.1, ·)

/-- The units of runs, each with its decoration. -/
def printedUnits (page : CodePage) (runs : List Run) : List (Decoration × List Char) :=
  runs.flatMap fun run => unitsOf page (run.decoration, run.text)

/-- Whether a unit is no wider than a row. -/
def fitsRow (page : CodePage) (width : Nat) (unit : Decoration × List Char) : Bool :=
  glyph page unit.1 unit.2 ≤ width

section
variable {page : CodePage} {width : Nat}

@[simp] theorem printedUnits_append (a b : List Run) :
    printedUnits page (a ++ b) = printedUnits page a ++ printedUnits page b :=
  List.flatMap_append

@[simp] theorem space_add (draft : Draft) (d : Decoration) (text : List (List Char)) :
    (draft.add d text).space = draft.space := by
  unfold Draft.add
  split <;> rfl

/-- The run in progress prints its units. -/
theorem printedUnits_add {d : Decoration} {t : List Char} {before taken behind : List (List Char)}
    (hu : Text.units page t = before ++ taken.reverse ++ behind) (draft : Draft) :
    printedUnits page (draft.add d taken.reverse).runs =
      printedUnits page draft.runs ++ taken.reverse.map (d, ·) := by
  have own := Text.units_of_append hu
  unfold Draft.add
  split
  · rename_i none
    rw [List.isEmpty_iff.1 none]
    exact (List.append_nil _).symm
  · rw [printedUnits_append]
    simp [printedUnits, unitsOf, own]

/-- Laying units prints those that fit a row, after what the row in progress has. -/
theorem layUnits_units (align : Nat) (d : Decoration) {t : List Char}
    (before taken us : List (List Char)) (draft : Draft)
    (hu : Text.units page t = before ++ taken.reverse ++ us)
    (hs : draft.space ≤ width) :
    printedUnits page (((layUnits width align page d taken draft us).1.flatMap Row.runs)
          ++ (layUnits width align page d taken draft us).2.runs) =
        printedUnits page draft.runs ++ taken.reverse.map (d, ·)
          ++ (us.map (d, ·)).filter (fitsRow page width) ∧
      (layUnits width align page d taken draft us).2.space ≤ width := by
  induction us generalizing before taken draft with
  | nil =>
    have closed := printedUnits_add (d := d) hu draft
    simp only [layUnits]
    split_ifs
    · refine ⟨?_, Nat.le_refl width⟩
      simpa [Draft.finish] using closed
    · refine ⟨?_, by rwa [space_add]⟩
      simpa using closed
  | cons u r ih =>
    have closed := printedUnits_add (d := d) hu draft
    have fitsIff : fitsRow page width (d, u) = decide (glyph page d u ≤ width) := rfl
    simp only [layUnits]
    split_ifs with fits wide
    · -- the unit joins the run in progress
      have next := ih before (u :: taken)
        { draft with space := draft.space - glyph page d u } (by simpa using hu)
        (Nat.sub_le_of_le_add (by omega))
      have kept : fitsRow page width (d, u) = true := by
        rw [fitsIff, decide_eq_true_iff]
        omega
      simpa [kept] using next
    · -- the unit is left out
      have next := ih (before ++ taken.reverse ++ [u]) [] (draft.add d taken.reverse)
        (by simpa using hu) (by rwa [space_add])
      have dropped : fitsRow page width (d, u) = false := by
        rw [fitsIff, decide_eq_false_iff_not]
        omega
      simpa [dropped, closed] using next
    · -- the unit starts a row
      have next := ih (before ++ taken.reverse) [u] { space := width - glyph page d u }
        (by simpa using hu) (Nat.sub_le _ _)
      have kept : fitsRow page width (d, u) = true := by
        rw [fitsIff, decide_eq_true_iff]
        omega
      refine ⟨?_, next.2⟩
      rw [List.flatMap_cons, List.append_assoc, printedUnits_append, next.1]
      show printedUnits page (draft.add d taken.reverse).runs ++ _ = _
      rw [closed]
      simp [kept, printedUnits]

theorem wrapFrom_units (align : Nat) (d : Decoration) (draft : Draft) (rest : List Segment)
    (hs : draft.space ≤ width) :
    printedUnits page ((wrapFrom width align page d draft rest).flatMap Row.runs) =
      printedUnits page draft.runs
        ++ ((decorated d rest).flatMap (unitsOf page)).filter (fitsRow page width) := by
  induction rest generalizing d draft with
  | nil =>
    simp only [wrapFrom, decorated]
    split
    · rename_i none
      rw [List.isEmpty_iff.1 none]
      rfl
    · simp [Draft.finish]
  | cons s r ih =>
    cases s with
    | text t =>
      obtain ⟨laid, space⟩ := layUnits_units align d [] [] (Text.units page t) draft rfl hs
      simp only [wrapFrom, decorated, List.flatMap_append, List.flatMap_cons, List.filter_append]
      rw [printedUnits_append, ih d _ space, ← List.append_assoc, ← printedUnits_append, laid]
      simp [unitsOf]
    | lineBreak =>
      have next := ih d { space := width } (Nat.le_refl width)
      simp only [wrapFrom, decorated, List.flatMap_cons]
      rw [printedUnits_append, next]
      rfl
    | underline => exact ih _ _ hs
    | emphasis => exact ih _ _ hs
    | invert => exact ih _ _ hs
    | scale n => exact ih _ _ hs

end

section
variable (page : CodePage) (width align : Nat) (segments : List Segment)

/-- **Wrapping prints every unit that fits a row,** once, in order and decorated as written. -/
theorem wrap_units :
    printedUnits page ((wrap segments width align page).flatMap Row.runs) =
      ((decorated {} segments).flatMap (unitsOf page)).filter (fitsRow page width) :=
  wrapFrom_units align {} _ segments (Nat.le_refl width)

theorem mem_printedUnits (x : Char) (runs : List Run) :
    (∃ unit ∈ printedUnits page runs, x ∈ unit.2) ↔ ∃ run ∈ runs, x ∈ run.text := by
  constructor
  · rintro ⟨unit, hunit, hx⟩
    obtain ⟨run, hrun, hunit⟩ := List.mem_flatMap.1 hunit
    obtain ⟨u, hu, rfl⟩ := List.mem_map.1 hunit
    refine ⟨run, hrun, ?_⟩
    rw [← Text.flatten_units page run.text]
    exact List.mem_flatten.2 ⟨u, hu, hx⟩
  · rintro ⟨run, hrun, hx⟩
    rw [← Text.flatten_units page run.text] at hx
    obtain ⟨u, hu, hx⟩ := List.mem_flatten.1 hx
    exact ⟨(run.decoration, u), List.mem_flatMap.2 ⟨run, hrun, List.mem_map_of_mem hu⟩, hx⟩

/-- A character is printed with its unit, if that fits a row. -/
theorem mem_wrap_text (x : Char) :
    (∃ row ∈ wrap segments width align page, ∃ run ∈ row.runs, x ∈ run.text) ↔
      ∃ text ∈ decorated {} segments, ∃ u ∈ Text.units page text.2,
        glyph page text.1 u ≤ width ∧ x ∈ u := by
  have printed := wrap_units page width align segments
  constructor
  · rintro ⟨row, hrow, run, hrun, hx⟩
    obtain ⟨unit, hunit, hx⟩ := (mem_printedUnits page x _).2
      ⟨run, List.mem_flatMap.2 ⟨row, hrow, hrun⟩, hx⟩
    rw [printed] at hunit
    obtain ⟨hunit, fits⟩ := List.mem_filter.1 hunit
    obtain ⟨text, htext, hunit⟩ := List.mem_flatMap.1 hunit
    obtain ⟨u, hu, rfl⟩ := List.mem_map.1 hunit
    exact ⟨text, htext, u, hu, by simpa [fitsRow] using fits, hx⟩
  · rintro ⟨text, htext, u, hu, fits, hx⟩
    have hunit : (text.1, u) ∈ printedUnits page
        ((wrap segments width align page).flatMap Row.runs) := by
      rw [printed]
      exact List.mem_filter.2 ⟨List.mem_flatMap.2 ⟨text, htext, List.mem_map_of_mem hu⟩,
        by simpa [fitsRow] using fits⟩
    obtain ⟨run, hrun, hx⟩ := (mem_printedUnits page x _).1 ⟨_, hunit, hx⟩
    obtain ⟨row, hrow, hrun⟩ := List.mem_flatMap.1 hrun
    exact ⟨row, hrow, run, hrun, hx⟩

end

end Receipt.Layout
