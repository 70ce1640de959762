import Receipt.Proofs.Layout.Written
import Receipt.Proofs.Number.Nearest

/-!
# Rows hold all they can

A row ends for one of three reasons (`Ending`): the next unit does not fit it, a line break says so,
or there is no more text. Only a line break ends a row without text, and each ends one. A row that
nothing but its width has ended has no cell left, or the row after it starts with a unit that is
wider than what is left (`wrap_greedy`).
-/

namespace Receipt.Layout

open Markup (Segment)
open Number (nearest)
open Text (CodePage)

/-! ## Rows and what ends them -/

/-- What ends a row. -/
inductive Ending where
  /-- The row is full, or the next unit does not fit it. -/
  | full
  | lineBreak
  /-- There is no more text. -/
  | last
  deriving DecidableEq, Repr

section
variable (width align : Nat) (page : CodePage)

/-- The rows of segments from a draft on, each with what ends it. -/
def endedFrom : Decoration → Draft → List Segment → List (Row × Ending)
  | _, draft, [] => if draft.runs.isEmpty then [] else [(draft.finish align, .last)]
  | d, draft, .text t :: r =>
    let (rows, draft) := layUnits width align page d [] draft (Text.units page t)
    rows.map (·, .full) ++ endedFrom d draft r
  | d, draft, .lineBreak :: r =>
    (draft.finish align, .lineBreak) :: endedFrom d { space := width } r
  | d, draft, s :: r => endedFrom (d.apply s) draft r

theorem endedFrom_text (d : Decoration) (draft : Draft) (t : List Char) (r : List Segment) :
    endedFrom width align page d draft (.text t :: r) =
      (layUnits width align page d [] draft (Text.units page t)).1.map (·, .full) ++
        endedFrom width align page d
          (layUnits width align page d [] draft (Text.units page t)).2 r := rfl

theorem map_fst_endedFrom (d : Decoration) (draft : Draft) (rest : List Segment) :
    (endedFrom width align page d draft rest).map Prod.fst =
      wrapFrom width align page d draft rest := by
  induction rest generalizing d draft with
  | nil =>
    simp only [endedFrom, wrapFrom]
    split <;> rfl
  | cons s r ih =>
    cases s with
    | text t =>
      rw [endedFrom_text, List.map_append, List.map_map, ih]
      exact congrArg (· ++ _) (List.map_id _)
    | lineBreak => exact congrArg (_ :: ·) (ih _ _)
    | underline | emphasis | invert | scale => exact ih _ _

/-- The rows of a column, each with what ends it. -/
def endedRows (segments : List Segment) : List (Row × Ending) :=
  endedFrom width align page {} { space := width } segments

theorem map_fst_endedRows (segments : List Segment) :
    (endedRows width align page segments).map Prod.fst = wrap segments width align page :=
  map_fst_endedFrom width align page {} _ segments

end

/-! ## What is in a row -/

/-- Cells that the runs of a row take. -/
def Row.used (page : CodePage) (row : Row) : Nat := (row.runs.map (Run.cells page)).sum

/-- The height of the highest of runs, and 1 if none is higher. -/
def highest (runs : List Run) : Nat :=
  (runs.map fun run => run.decoration.heightFactor).foldl max 1

section
variable {page : CodePage} {width align : Nat} {segments : List Segment}

/-- The cells that a row leaves. -/
theorem Filled.left {row : Row} {space : Nat} (h : Filled page width segments row.runs space) :
    width - row.used page = space :=
  Nat.sub_eq_of_eq_add' h.full.symm

theorem Row.Sound.used_le {row : Row} (h : row.Sound page width align segments) :
    row.used page ≤ width := by
  obtain ⟨space, filled, -⟩ := h
  exact Nat.le.intro filled.full

theorem Row.Sound.margin_eq {row : Row} (h : row.Sound page width align segments) :
    row.margin = marginOf (width - row.used page) align := by
  obtain ⟨space, filled, margin⟩ := h
  rw [margin, filled.left]

/-- A draft without runs has all the cells of the column. -/
theorem Filled.eq_width {space : Nat} (h : Filled page width segments [] space) : space = width := by
  have full := h.full
  rwa [List.map_nil, List.sum_nil, Nat.zero_add] at full

theorem height_add {draft : Draft} (h : draft.height = highest draft.runs) (d : Decoration)
    (text : List (List Char)) :
    (draft.add d text).height = highest (draft.add d text).runs := by
  unfold Draft.add
  split
  · exact h
  · simp [highest, h]

theorem layUnits_height (page : CodePage) (width align : Nat) (d : Decoration)
    (taken us : List (List Char)) {draft : Draft} (h : draft.height = highest draft.runs) :
    (∀ row ∈ (layUnits width align page d taken draft us).1, row.height = highest row.runs) ∧
      (layUnits width align page d taken draft us).2.height =
        highest (layUnits width align page d taken draft us).2.runs := by
  induction us generalizing taken draft with
  | nil =>
    have closed := height_add h d taken.reverse
    simp only [layUnits]
    split_ifs
    · exact ⟨List.forall_mem_singleton.2 closed, rfl⟩
    · exact ⟨by simp, closed⟩
  | cons u r ih =>
    have closed := height_add h d taken.reverse
    simp only [layUnits]
    split_ifs
    · exact ih (u :: taken) h
    · exact ih [] closed
    · obtain ⟨rows, draft⟩ := ih [u] (rfl : Draft.height { space := width - glyph page d u } = _)
      exact ⟨List.forall_mem_cons.2 ⟨closed, rows⟩, draft⟩

theorem wrapFrom_height (d : Decoration) {draft : Draft} (h : draft.height = highest draft.runs)
    (rest : List Segment) :
    ∀ row ∈ wrapFrom width align page d draft rest, row.height = highest row.runs := by
  induction rest generalizing d draft with
  | nil =>
    simp only [wrapFrom]
    split
    · simp
    · exact List.forall_mem_singleton.2 h
  | cons s r ih =>
    cases s with
    | text t =>
      have laid := layUnits_height page width align d [] (Text.units page t) h
      exact List.forall_mem_append.2 ⟨laid.1, ih d laid.2⟩
    | lineBreak => exact List.forall_mem_cons.2 ⟨h, ih d rfl⟩
    | underline | emphasis | invert | scale => exact ih _ h

/-! ## Rows without text -/

/-- Text that takes no cells off a row is no text. -/
theorem runs_add_ne_nil {draft : Draft} {d : Decoration} {taken : List (List Char)}
    (h : Filled page width segments draft.runs ((taken.map (glyph page d)).sum + draft.space))
    (less : draft.space < width) : (draft.add d taken.reverse).runs ≠ [] := by
  unfold Draft.add
  split
  · rename_i none
    rw [List.isEmpty_reverse, List.isEmpty_iff] at none
    subst none
    intro empty
    rw [empty] at h
    have := h.eq_width
    simp only [List.map_nil, List.sum_nil] at this
    omega
  · simp

/-- A unit that does not fit ends a row with text. -/
theorem layUnits_ne_nil (align : Nat) (d : Decoration) {t : List Char}
    (ht : Segment.text t ∈ segments) (before taken us : List (List Char)) (draft : Draft)
    (hu : Text.units page t = before ++ taken.reverse ++ us)
    (h : Filled page width segments draft.runs ((taken.map (glyph page d)).sum + draft.space)) :
    ∀ row ∈ (layUnits width align page d taken draft us).1, row.runs ≠ [] := by
  induction us generalizing before taken draft with
  | nil =>
    simp only [layUnits]
    split_ifs with ends
    · refine List.forall_mem_singleton.2 ?_
      simp only [Bool.and_eq_true, Bool.not_eq_true', decide_eq_true_eq] at ends
      have some : taken.reverse.isEmpty = false := by rw [List.isEmpty_reverse, ends.1]
      simp [Draft.finish, Draft.add, some]
    · simp
  | cons u r ih =>
    simp only [layUnits]
    split_ifs with fits wide
    · exact ih before (u :: taken) _ (by simpa using hu) (h.join fits)
    · have closed := Draft.Sound.add ht hu h
      exact ih (before ++ taken.reverse ++ [u]) [] _ (by simpa using hu) (closed.start d)
    · -- the row that ends has text, as it has no room for a unit that a row has room for
      refine List.forall_mem_cons.2 ⟨runs_add_ne_nil h (by omega), ?_⟩
      exact ih (before ++ taken.reverse) [u] _ (by simpa using hu) (filled_singleton (Nat.not_lt.1 wide))

/-- **Only a line break ends a row without text.** -/
theorem endedFrom_blank {rest : List Segment} (hr : ∀ t, Segment.text t ∈ rest → .text t ∈ segments)
    (d : Decoration) {draft : Draft} (h : draft.Sound page width segments) :
    ∀ r ∈ endedFrom width align page d draft rest, r.1.runs = [] → r.2 = .lineBreak := by
  induction rest generalizing d draft with
  | nil =>
    simp only [endedFrom]
    split
    · simp
    · rename_i some
      exact List.forall_mem_singleton.2 fun none => absurd (List.isEmpty_iff.2 none) some
  | cons s r ih =>
    have tail := ih fun t ht => hr t (List.mem_cons_of_mem _ ht)
    cases s with
    | text t =>
      have text := hr t List.mem_cons_self
      have laid := (layUnits_sound align d text [] [] _ draft rfl (h.start d)).2
      refine List.forall_mem_append.2 ⟨?_, tail d laid⟩
      intro r hr none
      obtain ⟨row, hrow, rfl⟩ := List.mem_map.1 hr
      exact absurd none (layUnits_ne_nil align d text [] [] _ draft rfl (h.start d) row hrow)
    | lineBreak => exact List.forall_mem_cons.2 ⟨fun _ => rfl, tail d sound_empty⟩
    | underline | emphasis | invert | scale => exact tail _ h

end

/-! ## Line breaks -/

section
variable (page : CodePage) (width align : Nat)

/-- **Each line break ends a row.** -/
theorem count_endedFrom (d : Decoration) (draft : Draft) (rest : List Segment) :
    ((endedFrom width align page d draft rest).map Prod.snd).count .lineBreak =
      rest.count .lineBreak := by
  induction rest generalizing d draft with
  | nil =>
    simp only [endedFrom]
    split <;> rfl
  | cons s r ih =>
    cases s with
    | text t =>
      have none : (((layUnits width align page d [] draft (Text.units page t)).1.map
          ((·, Ending.full))).map Prod.snd).count .lineBreak = 0 := by
        simp [List.count_eq_zero]
      rw [List.count_cons_of_ne (by simp), endedFrom_text, List.map_append, List.count_append, none,
        ih, Nat.zero_add]
    | lineBreak => rw [endedFrom, List.map_cons, List.count_cons_self, List.count_cons_self, ih]
    | underline | emphasis | invert | scale =>
      rw [List.count_cons_of_ne (by simp)]
      exact ih _ _

/-- The row that a line break ends comes after the rows of the text before it, and the rest of that
text is in it. -/
theorem endedFrom_break (d : Decoration) (draft : Draft) (before after : List Segment)
    (hs : draft.space ≤ width) :
    ∃ front row, endedFrom width align page d draft (before ++ .lineBreak :: after) =
        front ++ (row, .lineBreak) ::
          endedFrom width align page (before.foldl Decoration.apply d) { space := width } after ∧
      (front.map Prod.snd).count .lineBreak = before.count .lineBreak ∧
      printedUnits page (front.flatMap (fun r => r.1.runs) ++ row.runs) =
        printedUnits page draft.runs
          ++ ((decorated d before).flatMap (unitsOf page)).filter (fitsRow page width) := by
  induction before generalizing d draft with
  | nil => exact ⟨[], draft.finish align, rfl, rfl, by simp [Draft.finish, decorated]⟩
  | cons s r ih =>
    cases s with
    | text t =>
      obtain ⟨laid, space⟩ := layUnits_units align d [] [] (Text.units page t) draft rfl hs
      obtain ⟨front, row, eq, count, units⟩ := ih d _ space
      refine ⟨(layUnits width align page d [] draft (Text.units page t)).1.map (·, .full) ++ front,
        row, ?_, ?_, ?_⟩
      · rw [List.cons_append, endedFrom_text, eq, List.append_assoc]
        rfl
      · rw [List.map_append, List.count_append, count, List.count_cons_of_ne (by simp)]
        simp [List.count_eq_zero]
      · rw [List.flatMap_append, List.append_assoc, printedUnits_append, units, ← List.append_assoc,
          List.flatMap_map, ← printedUnits_append, laid]
        simp [decorated, unitsOf]
    | lineBreak =>
      obtain ⟨front, row, eq, count, units⟩ := ih d { space := width } (Nat.le_refl width)
      refine ⟨(draft.finish align, .lineBreak) :: front, row, ?_, ?_, ?_⟩
      · rw [List.cons_append, endedFrom, eq]
        rfl
      · rw [List.map_cons, List.count_cons_self, List.count_cons_self, count]
      · rw [List.flatMap_cons, List.append_assoc, printedUnits_append, units]
        rfl
    | underline | emphasis | invert | scale =>
      obtain ⟨front, row, eq, count, units⟩ := ih _ draft hs
      exact ⟨front, row, eq, by rw [count, List.count_cons_of_ne (by simp)], units⟩

end

/-! ## Units that do not fit -/

section
variable (page : CodePage) (width : Nat)

/-- Whether units may come after a row: any after a line break, and none after the last row. A row
that is full has no cell left, or too few for the first of them. -/
def Leads (row : Row × Ending) (units : List (Decoration × List Char)) : Prop :=
  match row.2 with
  | .full => row.1.used page = width ∨
    ∃ unit ∈ units.head?, width - row.1.used page < glyph page unit.1 unit.2
  | .lineBreak => True
  | .last => False

/-- Whether a row may come after a row. -/
def LeadsTo (row next : Row × Ending) : Prop := Leads page width row (printedUnits page next.1.runs)

end

section
variable {page : CodePage} {width : Nat} {segments : List Segment}

theorem Leads.append {row : Row × Ending} {units : List (Decoration × List Char)}
    (h : Leads page width row units) (more : List (Decoration × List Char)) :
    Leads page width row (units ++ more) := by
  unfold Leads at h ⊢
  split
  · rename_i full
    rw [full] at h
    refine h.imp_right fun ⟨unit, first, wide⟩ => ⟨unit, ?_, wide⟩
    obtain ⟨rest, rfl⟩ := List.head?_eq_some_iff.1 first
    rfl
  · trivial
  · rename_i last
    rw [last] at h
    exact h

/-- Laying units leads from row to row, if it leads to the units that the draft starts with. -/
theorem layUnits_leads (align : Nat) (d : Decoration) {t : List Char}
    (ht : Segment.text t ∈ segments) (before taken us : List (List Char)) (draft : Draft)
    (hu : Text.units page t = before ++ taken.reverse ++ us)
    (h : Filled page width segments draft.runs ((taken.map (glyph page d)).sum + draft.space))
    {row : Row × Ending}
    (leads : Leads page width row (printedUnits page draft.runs ++ taken.reverse.map (d, ·)))
    {rows : List (Row × Ending)}
    (next : ∀ row,
      Leads page width row
        (printedUnits page (layUnits width align page d taken draft us).2.runs) →
      (row :: rows).IsChain (LeadsTo page width)) :
    (row :: ((layUnits width align page d taken draft us).1.map (·, .full) ++ rows)).IsChain
      (LeadsTo page width) := by
  induction us generalizing before taken draft row with
  | nil =>
    have closed := Draft.Sound.add ht hu h
    rw [← printedUnits_add hu] at leads
    revert next
    simp only [layUnits]
    split_ifs with ends
    · intro next
      simp only [Bool.and_eq_true, decide_eq_true_eq] at ends
      have full := closed.full
      rw [ends.2, Nat.add_zero] at full
      exact .cons_cons leads (next _ (Or.inl full))
    · exact fun next => next row leads
  | cons u r ih =>
    have closed := Draft.Sound.add ht hu h
    have units := printedUnits_add (d := d) hu draft
    revert next
    simp only [layUnits]
    split_ifs with fits wide
    · -- the unit joins the run in progress
      refine ih before (u :: taken) { draft with space := draft.space - glyph page d u }
        (by simpa using hu) (h.join fits) ?_
      simpa using leads.append [(d, u)]
    · -- the unit is left out
      refine ih (before ++ taken.reverse ++ [u]) [] _ (by simpa using hu) (closed.start d) ?_
      rw [units]
      simpa using leads
    · -- the unit starts a row: it is wider than what the row before has left
      intro next
      rw [← units] at leads
      refine .cons_cons leads (ih (before ++ taken.reverse) [u] _ (by simpa using hu)
        (filled_singleton (Nat.not_lt.1 wide)) (Or.inr ⟨(d, u), rfl, ?_⟩) next)
      have left : width - ((draft.add d taken.reverse).finish align).used page =
        (draft.add d taken.reverse).space := Filled.left closed
      rw [left, space_add]
      exact Nat.lt_of_not_le fits

theorem endedFrom_leads (align : Nat) {rest : List Segment}
    (hr : ∀ t, Segment.text t ∈ rest → .text t ∈ segments) (d : Decoration) {draft : Draft}
    (h : draft.Sound page width segments) {row : Row × Ending}
    (leads : Leads page width row (printedUnits page draft.runs)) :
    (row :: endedFrom width align page d draft rest).IsChain (LeadsTo page width) := by
  induction rest generalizing d draft row with
  | nil =>
    simp only [endedFrom]
    split
    · exact .singleton row
    · exact .cons_cons leads (.singleton _)
  | cons s r ih =>
    have texts (t) (ht : Segment.text t ∈ r) := hr t (List.mem_cons_of_mem _ ht)
    cases s with
    | text t =>
      have text := hr t List.mem_cons_self
      have laid := (layUnits_sound align d text [] [] _ draft rfl (h.start d)).2
      exact layUnits_leads align d text [] [] _ draft rfl (h.start d) (by simpa using leads)
        fun row leads => ih texts d laid leads
    | lineBreak => exact .cons_cons leads (ih texts d sound_empty trivial)
    | underline | emphasis | invert | scale => exact ih texts _ h leads

end

/-! ## The rows of a column -/

/-- What holds of the rows of a column, each with what ends it. -/
structure Greedy (page : CodePage) (width align : Nat) (segments : List Segment)
    (rows : List (Row × Ending)) : Prop where
  used_le : ∀ r ∈ rows, r.1.used page ≤ width
  /-- The cells left over times the alignment over two, each number rounded to a binary64 number -/
  margin : ∀ r ∈ rows, r.1.margin =
    ⟨false, nearest (nearest (nearest ((width - r.1.used page : Nat) : Rat) * align) / 2)⟩
  margin_exact : ∀ r ∈ rows,
    (align ≤ 2 ∧ width - r.1.used page ≤ 2 ^ 53 ∨ (width - r.1.used page) * align ≤ 2 ^ 53) →
    r.1.margin.size = ((width - r.1.used page : Nat) : Rat) * align / 2
  height : ∀ r ∈ rows, r.1.height = highest r.1.runs
  blank : ∀ r ∈ rows, r.1.runs = [] → r.2 = .lineBreak
  /-- As many rows are ended by line breaks as there are line breaks. -/
  count : (rows.map Prod.snd).count .lineBreak = segments.count .lineBreak
  /-- A line break ends the row in which the text before it ends. -/
  breaks : ∀ before after, segments = before ++ .lineBreak :: after →
    ∃ front row back, rows = front ++ (row, .lineBreak) :: back ∧
      (front.map Prod.snd).count .lineBreak = before.count .lineBreak ∧
      printedUnits page (front.flatMap (fun r => r.1.runs) ++ row.runs) =
        ((writtenTexts before).flatMap (unitsOf page)).filter (fitsRow page width)
  maximal : rows.IsChain (LeadsTo page width)

section
variable {page : CodePage} {width align : Nat} {segments : List Segment} {r : Row × Ending}

theorem mem_wrap_of_mem (hr : r ∈ endedRows width align page segments) :
    r.1 ∈ wrap segments width align page := by
  rw [← map_fst_endedRows width align page segments]
  exact List.mem_map_of_mem hr

theorem sound_of_mem (hr : r ∈ endedRows width align page segments) :
    r.1.Sound page width align segments :=
  wrap_sound segments width align page r.1 (mem_wrap_of_mem hr)

theorem margin_size (hr : r ∈ endedRows width align page segments)
    (small : align ≤ 2 ∧ width - r.1.used page ≤ 2 ^ 53 ∨
      (width - r.1.used page) * align ≤ 2 ^ 53) :
    r.1.margin.size = ((width - r.1.used page : Nat) : Rat) * align / 2 := by
  rw [(sound_of_mem hr).margin_eq]
  rcases small with ⟨half, cells⟩ | product
  · exact Number.Binary.half_size_exact cells half
  · exact Number.Binary.half_size_product product

end

/-- **Rows hold all they can,** and no more. -/
theorem wrap_greedy (segments : List Segment) (width align : Nat) (page : CodePage) :
    (endedRows width align page segments).map Prod.fst = wrap segments width align page ∧
      Greedy page width align segments (endedRows width align page segments) := by
  refine ⟨map_fst_endedRows width align page segments, ?_⟩
  exact
    { used_le := fun _ hr => (sound_of_mem hr).used_le
      margin := fun _ hr => (sound_of_mem hr).margin_eq
      margin_exact := fun _ hr small => margin_size hr small
      height := fun r hr => wrapFrom_height {} rfl segments r.1 (mem_wrap_of_mem hr)
      blank := endedFrom_blank (fun _ ht => ht) {} sound_empty
      count := count_endedFrom page width align {} _ segments
      breaks := by
        rintro before after rfl
        obtain ⟨front, row, eq, count, units⟩ :=
          endedFrom_break page width align {} { space := width } before after (Nat.le_refl width)
        rw [decorated_eq] at units
        exact ⟨front, row, _, eq, count, units⟩
      maximal := by
        -- the first row comes after a line break, as it were
        have any : Leads page width (Draft.finish { space := width } align, .lineBreak) [] := trivial
        exact (endedFrom_leads align (fun _ ht => ht) {} sound_empty any).tail }

/-- **A wide margin is rounded:** one of `2 ^ 53 + 1` cells is a cell short. -/
theorem wide_margin_rounded :
    ∃ row ∈ wrap [.text ['a']] (2 ^ 53 + 2) 2 .cp437, row.used .cp437 = 1 ∧
      row.margin.size ≠ ((2 ^ 53 + 2 - row.used .cp437 : Nat) : Rat) * (2 : Nat) / 2 := by
  decide +kernel

end Receipt.Layout
