import Receipt.Proofs.Page.Paper

/-!
# A rule between two rows

A rule that is due is drawn when the line below it is: the machine still remembers the row above, and
the place of the line is already known. Both stand on the same paper, so the area that holds them
does as well, and the offsets that the rule is drawn with lead from the edges of the row above to
those of the row below (`TiedIn`). Nothing else in a line is such a rule.
-/

namespace Receipt.Page

open Drawing (Op Program)
open Layout (Placement)
open Markup (Column State)
open Ruling (Edges)

/-! ## Where rules between rows come from -/

/-- A rule between two rows. -/
def IsTie : Op → Prop
  | .vrHr .. => True
  | _ => False

section
variable {cpl : Nat} {last current : Edges} {op : Op}

theorem not_tie_areaAt {e : Edges} (h : op ∈ areaAt e) : ¬ IsTie op := by
  simp only [areaAt, List.mem_cons, List.not_mem_nil, or_false] at h
  rcases h with rfl | rfl | rfl <;> exact id

theorem effect_of_tie {e : Ruling.Effect} (h : op ∈ drawEffect cpl last current e)
    (tie : IsTie op) : e = .tieIn := by
  cases e with
  | tieIn => rfl
  | cut =>
    rw [List.mem_singleton.1 h] at tie
    exact tie.elim
  | «open» | close | divider =>
    rcases List.mem_append.1 h with h | h
    · exact absurd tie (not_tie_areaAt h)
    · simp only [List.mem_cons, List.not_mem_nil, or_false] at h
      rcases h with rfl | rfl <;> exact tie.elim

/-- Only a line of text draws a rule between rows. -/
theorem not_tie_applyEvents {es : List Ruling.Event} (noText : .text ∉ es) (r : Ruling)
    (h : op ∈ (applyEvents cpl current r es).1) : ¬ IsTie op := by
  induction es generalizing r with
  | nil => cases h
  | cons e es ih =>
    rw [List.mem_cons, not_or] at noText
    rw [applyEvents_cons] at h
    rcases List.mem_append.1 h with h | h
    · obtain ⟨x, hx, h⟩ := List.mem_flatMap.1 h
      intro tie
      exact noText.1 (text_of_effect hx (Or.inr (effect_of_tie h tie))).symm
    · exact ih noText.2 _ h

theorem not_tie_drawRows {p : Printer} {placement : Placement} {ruled : Bool}
    (h : op ∈ drawRows p placement ruled) : ¬ IsTie op := by
  rcases mem_drawRows h with area | ⟨_, height, rules⟩ | inner | rfl
  · exact not_tie_areaAt area
  · simp only [drawRules, List.mem_cons, List.not_mem_nil, or_false] at rules
    rcases rules with rfl | rfl | rfl <;> exact id
  · cases op <;> first | exact inner.elim | exact id
  · exact id

end

/-! ## The place of both rows -/

/-- How a rule is drawn between two rows: in an area that holds both and no more, with the way from
either edge of the upper row to that of the lower. A device that draws the upper row at `max 0 (-dl)`
and the lower at `max 0 dl` in the area draws them where they stand. -/
structure TiedIn (cpl : Nat) (last current area : Edges) (dl dr : Int) : Prop where
  paper : area.left + area.width + area.right = cpl
  left : area.left = min last.left current.left
  right : area.left + area.width = max (last.left + last.width) (current.left + current.width)
  fromLeft : last.left + dl = current.left
  fromRight : (last.left + last.width : Nat) + dr = (current.left + current.width : Nat)
  upper : area.left + max 0 (-dl) = last.left
  lower : area.left + max 0 dl = current.left

/-- **Two rows on the same paper are tied in,** by the area and the offsets of the rule. -/
theorem tiedIn_hull {cpl : Nat} {last current : Edges} (above : Spans cpl last)
    (below : Spans cpl current) :
    TiedIn cpl last current (hull cpl current last) (current.left - last.left)
      (current.left - last.left + (current.width - last.width)) := by
  unfold Spans at above below
  have left : (hull cpl current last).left = min current.left last.left := rfl
  have right : (hull cpl current last).right = min current.right last.right := rfl
  have width : (hull cpl current last).width =
      cpl - (min current.left last.left + min current.right last.right) := rfl
  constructor <;> omega

/-! ## Lines -/

/-- What a line of text draws when a rule is due: the rule, its rows, and what a change of the border
draws. -/
theorem drawLine_due (p : Printer) {first : Column} {more : List Column} {s : State}
    (isText : (first :: more).all Column.isText = true) (due : s.ruling.state = .horizontal) :
    drawLine p (first :: more) s =
      let last := s.ruling.edges
      let current := (placed p (first :: more)).edges
      let toggled := applyEvents p.cpl current ⟨.running, current⟩
        (first.toggle.toList.map toggleEvent)
      (drawEffect p.cpl last current .tieIn ++
          (drawRows p (placed p (first :: more)) true ++ toggled.1),
        { s with ruling := toggled.2 }) := by
  have tie : (applyEvent p.cpl (placed p (first :: more)).edges s.ruling .text).1 =
      drawEffect p.cpl s.ruling.edges (placed p (first :: more)).edges .tieIn := by
    show (s.ruling.state.step .text).2.flatMap _ = _
    rw [due]
    exact List.append_nil _
  simp only [drawLine_isText p s isText, drawText_eq, tie, List.append_assoc, due]
  rfl

/-- **A rule that is due joins the rows on either side of it.** It is the first thing that a line of
text draws, and the only one of its kind. After the line the machine remembers the place of the line;
the table goes on, unless the first column brings about a change of the border, which then counts. -/
theorem tie_joins_rows (p : Printer) (first : Column) (more : List Column) (s : State)
    (isText : (first :: more).all Column.isText = true) (due : s.ruling.state = .horizontal)
    (paper : Spans p.cpl s.ruling.edges) :
    let last := s.ruling.edges
    let current := (placed p (first :: more)).edges
    let after := (drawLine p (first :: more) s).2.ruling
    (∃ (area : Edges) (dl dr : Int) (rest : Program),
      (drawLine p (first :: more) s).1 =
        [.normal, .area area.left area.width area.right, .align 0,
          .vrHr last.widths current.widths dl dr, .lf] ++ rest ∧
      (∀ op ∈ rest, ¬ IsTie op) ∧ TiedIn p.cpl last current area dl dr) ∧
    after.edges = current ∧
    after.state = stateAfter .running (first.toggle.toList.map toggleEvent) ∧
    (first.toggle = none → after.state = .running) := by
  intro last current after
  have drawn := drawLine_due p isText due
  have state : after.state = stateAfter .running (first.toggle.toList.map toggleEvent) := by
    simp only [after, drawn, applyEvents_state]
  refine ⟨⟨hull p.cpl current last, current.left - last.left,
    current.left - last.left + (current.width - last.width), _, congrArg Prod.fst drawn, ?_,
    tiedIn_hull paper (spans_placed p (first :: more))⟩, ?_, state, ?_⟩
  · intro op hop
    rcases List.mem_append.1 hop with rows | toggled
    · exact not_tie_drawRows rows
    · refine not_tie_applyEvents ?_ _ toggled
      cases first.toggle with
      | none => exact List.not_mem_nil
      | some t => cases t <;> simp [toggleEvent]
  · simp only [after, drawn, applyEvents_edges]
    rfl
  · intro none
    rw [state, none]
    rfl

/-- A wide row that reaches further to either side than the row above it. -/
theorem tie_joins_rows_wider :
    let column : Column :=
      { align := 0
        wrap := true
        border := -1
        width := 15
        alignment := .left
        payload := .text [.text "Tea".toList] }
    let s : State := { border := -1, ruling := ⟨.horizontal, ⟨10, 20, 18, [9, 8]⟩⟩ }
    [column, column].all Column.isText = true ∧ s.ruling.state = .horizontal ∧
      Spans Printer.wide.cpl s.ruling.edges ∧
      (∃ rest, (drawLine .wide [column, column] s).1 =
          [.normal, .area 0 33 15, .align 0, .vrHr [9, 8] [15, 15] (-10) 3, .lf] ++ rest ∧
        ∀ op ∈ rest, ¬ IsTie op) ∧
      (drawLine .wide [column, column] s).2.ruling = ⟨.running, ⟨0, 33, 15, [15, 15]⟩⟩ := by
  intro column s
  have isText : [column, column].all Column.isText = true := rfl
  have paper : Spans Printer.wide.cpl s.ruling.edges := rfl
  have current : (placed .wide [column, column]).edges = ⟨0, 33, 15, [15, 15]⟩ := by decide +kernel
  obtain ⟨⟨area, dl, dr, rest, drawn, once, tied⟩, edges, -, running⟩ :=
    tie_joins_rows .wide column [column] s isText rfl paper
  rw [current] at drawn tied edges
  obtain ⟨paper', left, right, fromLeft, fromRight, -, -⟩ := tied
  have whole : area.left = 0 ∧ area.width = 33 ∧ area.right = 15 ∧ dl = -10 ∧ dr = 3 := by
    simp only [s] at left right fromLeft fromRight
    simp only [Printer.wide] at paper'
    omega
  obtain ⟨hl, hw, hr, rfl, rfl⟩ := whole
  rw [hl, hw, hr] at drawn
  exact ⟨isText, rfl, paper, ⟨rest, drawn, once⟩, congrArg₂ Ruling.mk (running rfl) edges⟩

/-- **A change of the border counts after the rule is drawn:** text that brings one about leaves the
machine where the change takes it. -/
theorem tie_then_toggled :
    let column : Column :=
      { align := 1
        wrap := true
        border := -1
        width := -1
        alignment := .center
        payload := .text [.text "Tea".toList]
        toggle := some .start }
    let s : State := { border := -1, ruling := ⟨.horizontal, ⟨0, 48, 0, [46]⟩⟩ }
    [column].all Column.isText = true ∧ s.ruling.state = .horizontal ∧
      Spans Printer.wide.cpl s.ruling.edges ∧
      (drawLine .wide [column] s).2.ruling.state = .ready := by
  refine ⟨rfl, rfl, rfl, ?_⟩
  decide +kernel

end Receipt.Page
