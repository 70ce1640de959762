import Receipt.Page.Line
import Receipt.Proofs.Layout.Shrink

/-!
# What a line does to the table in progress

The parts a line is drawn in, and the machine after each of them. An event moves the state of the
machine alone; the place of the last row is set by a line of text, and by nothing else.
-/

namespace Receipt.Page

open Drawing (Op Program)
open Layout (Placement)
open Markup (Column State)
open Ruling (Edges)

/-! ## Events -/

@[simp] theorem applyEvent_state (cpl : Nat) (current : Edges) (r : Ruling) (e : Ruling.Event) :
    (applyEvent cpl current r e).2.state = (r.state.step e).1 := rfl

@[simp] theorem applyEvent_edges (cpl : Nat) (current : Edges) (r : Ruling) (e : Ruling.Event) :
    (applyEvent cpl current r e).2.edges = r.edges := rfl

/-- The state of the machine after events. -/
def stateAfter : Ruling.State → List Ruling.Event → Ruling.State
  | state, [] => state
  | state, e :: es => stateAfter (state.step e).1 es

@[simp] theorem applyEvents_nil (cpl : Nat) (current : Edges) (r : Ruling) :
    applyEvents cpl current r [] = ([], r) := rfl

theorem applyEvents_cons (cpl : Nat) (current : Edges) (r : Ruling) (e : Ruling.Event)
    (es : List Ruling.Event) :
    applyEvents cpl current r (e :: es) =
      ((applyEvent cpl current r e).1 ++
          (applyEvents cpl current (applyEvent cpl current r e).2 es).1,
        (applyEvents cpl current (applyEvent cpl current r e).2 es).2) := rfl

@[simp] theorem applyEvents_state (cpl : Nat) (current : Edges) (r : Ruling)
    (es : List Ruling.Event) :
    (applyEvents cpl current r es).2.state = stateAfter r.state es := by
  induction es generalizing r with
  | nil => rfl
  | cons e es ih => rw [applyEvents_cons, ih, applyEvent_state, stateAfter]

@[simp] theorem applyEvents_edges (cpl : Nat) (current : Edges) (r : Ruling)
    (es : List Ruling.Event) : (applyEvents cpl current r es).2.edges = r.edges := by
  induction es generalizing r with
  | nil => rfl
  | cons e es ih => rw [applyEvents_cons, ih, applyEvent_edges]

theorem stateAfter_append (state : Ruling.State) (es fs : List Ruling.Event) :
    stateAfter state (es ++ fs) = stateAfter (stateAfter state es) fs := by
  induction es generalizing state with
  | nil => rfl
  | cons e es ih => exact ih _

theorem step_text_running (state : Ruling.State) :
    decide ((state.step .text).1 = .running) = (state.step .text).1.isOpen := by
  cases state <;> rfl

/-! ## What a step can do -/

/-- Only an open table is closed, or goes on below a rule. -/
theorem isOpen_of_effect {state : Ruling.State} {e : Ruling.Event} {x : Ruling.Effect}
    (h : x ∈ (state.step e).2) (hx : x = .close ∨ x = .tieIn) : state.isOpen = true := by
  revert h
  rcases hx with rfl | rfl <;> cases state <;> cases e <;>
    simp [Ruling.State.step, Ruling.State.isOpen]

theorem close_of_finish (state : Ruling.State) {e : Ruling.Effect}
    (h : e ∈ (state.step .finish).2) : e = .close := by
  revert h
  cases state <;> simp [Ruling.State.step]

/-- A table that is open was open before, or a line of text opens it. -/
theorem isOpen_of_step {state : Ruling.State} {e : Ruling.Event} (he : e ≠ .text)
    (h : (state.step e).1.isOpen = true) : state.isOpen = true := by
  revert h he
  cases state <;> cases e <;> simp [Ruling.State.step, Ruling.State.isOpen]

/-- Only text opens a table or goes on with it below a rule. -/
theorem text_of_effect {state : Ruling.State} {e : Ruling.Event} {x : Ruling.Effect}
    (h : x ∈ (state.step e).2) (hx : x = .open ∨ x = .tieIn) : e = .text := by
  revert h
  rcases hx with rfl | rfl <;> cases state <;> cases e <;> simp [Ruling.State.step]

theorem text_not_mem_eventsOf (first : Column) : .text ∉ eventsOf first := by
  simp only [eventsOf, List.mem_append, List.mem_map, not_or, not_exists, not_and]
  constructor
  · split
    · rename_i m _
      cases m <;> simp [markEvent]
    · exact List.not_mem_nil
  · intro t _
    cases t <;> simp [toggleEvent]

/-! ## Inside a row -/

theorem rowCount_pos (wrap : Bool) (rows : List (List Layout.Row)) : 0 < rowCount wrap rows := by
  unfold rowCount
  split
  · exact (Layout.le_foldl_max _ 1).1
  · exact Nat.one_pos

/-- Instructions that print in the area they are in, and leave it. -/
def IsInner : Op → Prop
  | .absolute _ | .relative _ | .normal | .ul | .em | .iv | .wh _ | .text _ => True
  | _ => False

theorem isInner_drawRun (run : Layout.Run) : ∀ op ∈ drawRun run, IsInner op := by
  intro op hop
  simp only [drawRun, decorate, List.mem_cons, List.mem_append, List.mem_ite_nil_right,
    List.not_mem_nil, or_false] at hop
  rcases hop with (rfl | ((⟨_, rfl⟩ | ⟨_, rfl⟩) | ⟨_, rfl⟩) | ⟨_, rfl⟩) | rfl <;> exact trivial

theorem isInner_drawCell (position : Nat) (row : Option Layout.Row) :
    ∀ op ∈ drawCell position row, IsInner op := by
  intro op hop
  cases row with
  | none =>
    simp only [drawCell, List.mem_cons, List.not_mem_nil, or_false] at hop
    rcases hop with rfl | rfl | rfl <;> exact trivial
  | some row =>
    simp only [drawCell, List.mem_cons, List.mem_flatMap] at hop
    rcases hop with rfl | rfl | ⟨run, _, hop⟩
    · exact trivial
    · exact trivial
    · exact isInner_drawRun run op hop

theorem isInner_drawCells (border position : Nat) (cells : List (Nat × Option Layout.Row)) :
    ∀ op ∈ drawCells border position cells, IsInner op := by
  induction cells generalizing position with
  | nil => simp [drawCells]
  | cons cell r ih =>
    intro op hop
    rcases List.mem_append.1 hop with hop | hop
    · exact isInner_drawCell _ _ op hop
    · exact ih _ op hop

/-- What an instruction of the rows of a line is: it takes the area, draws the rules beside the
cells, prints inside a row or ends it. -/
theorem mem_drawRows {p : Printer} {placement : Placement} {ruled : Bool} {op : Op}
    (h : op ∈ drawRows p placement ruled) :
    op ∈ areaAt placement.edges ∨
      (ruled = true ∧ ∃ height, op ∈ drawRules placement.edges.widths height) ∨
      IsInner op ∨ op = .vrLf ruled := by
  unfold drawRows at h
  split at h
  · cases h
  · obtain ⟨j, _, h⟩ := List.mem_flatMap.1 h
    simp only [drawRow, List.mem_append, List.mem_ite_nil_right, List.mem_singleton] at h
    rcases h with ((area | ⟨between, rules⟩) | cells) | ending
    · exact Or.inl area
    · exact Or.inr (Or.inl ⟨between, _, rules⟩)
    · exact Or.inr (Or.inr (Or.inl (isInner_drawCells _ _ _ op cells)))
    · exact Or.inr (Or.inr (Or.inr ending))

/-! ## Things on their own -/

/-- Instructions that print something on its own. -/
def IsContent : Op → Prop
  | .image _ | .command _ | .barcode .. | .qrCode _ => True
  | _ => False

theorem isContent_of_content? {payload : Markup.Payload} {op : Op}
    (h : content? payload = some op) : IsContent op := by
  cases payload with
  | image data => cases h; trivial
  | command s => cases h; trivial
  | barcode symbol =>
    simp only [content?] at h
    split at h
    · cases h
    · cases h; trivial
  | matrix symbol =>
    obtain ⟨request, _, rfl⟩ := Option.map_eq_some_iff.1 h
    trivial
  | text | comment | mark | settings => cases h

/-! ## Parts of a line -/

/-- A line of text has its rows between rules just if a table is open. -/
theorem drawText_eq (p : Printer) (placement : Placement) (r : Ruling) :
    drawText p placement r =
      ((applyEvent p.cpl placement.edges r .text).1 ++
          drawRows p placement (r.state.step .text).1.isOpen,
        ⟨(r.state.step .text).1, placement.edges⟩) := by
  rw [← step_text_running]
  rfl

/-- The part of a line that is there only if the line is text. -/
def textPart (p : Printer) (placement : Placement) (isText : Bool) (r : Ruling) :
    Program × Ruling :=
  if isText then drawText p placement r else ([], r)

/-- The part of a line that is there only if the line is no text, and not at fault. -/
def contentPart (placement : Placement) (isText : Bool) (first : Column) : Program :=
  if isText || first.fault.isSome then [] else drawContent placement first

/-- The place of a line on the paper. -/
def placed (p : Printer) (columns : List Column) : Placement :=
  Layout.place columns p.cpl (columns.all Column.isText)

theorem drawLine_cons (p : Printer) (first : Column) (more : List Column) (s : State) :
    drawLine p (first :: more) s =
      let isText := (first :: more).all Column.isText
      let placement := placed p (first :: more)
      let text := textPart p placement isText s.ruling
      let rules := applyEvents p.cpl placement.edges text.2 (eventsOf first)
      (text.1 ++ rules.1 ++ contentPart placement isText first, { s with ruling := rules.2 }) := rfl

/-- A column of text brings about no event but that of its change of the border. -/
theorem eventsOf_isText {first : Column} (isText : first.isText = true) :
    eventsOf first = first.toggle.toList.map toggleEvent := by
  unfold eventsOf
  split
  · rename_i m mark
    rw [Column.isText, mark] at isText
    cases isText
  · rfl

/-- A line of text: the edges above it and its rows, and then what a change of the border draws. -/
theorem drawLine_isText (p : Printer) {first : Column} {more : List Column} (s : State)
    (isText : (first :: more).all Column.isText = true) :
    drawLine p (first :: more) s =
      let placement := placed p (first :: more)
      let text := drawText p placement s.ruling
      let rules := applyEvents p.cpl placement.edges text.2 (first.toggle.toList.map toggleEvent)
      (text.1 ++ rules.1, { s with ruling := rules.2 }) := by
  have textual : first.isText = true := List.all_eq_true.1 isText first List.mem_cons_self
  rw [drawLine_cons, ← eventsOf_isText textual]
  simp only [isText, textPart, contentPart, if_true, Bool.true_or, List.append_nil]

/-- A line that is no text, with nothing to print alone: what its events draw. -/
theorem drawLine_events (p : Printer) {first : Column} {more : List Column} (s : State)
    (isText : (first :: more).all Column.isText = false)
    (content : content? first.payload = none) :
    drawLine p (first :: more) s =
      let rules := applyEvents p.cpl (placed p (first :: more)).edges s.ruling (eventsOf first)
      (rules.1, { s with ruling := rules.2 }) := by
  have nothing : contentPart (placed p (first :: more)) false first = [] := by
    simp [contentPart, drawContent, content]
  rw [drawLine_cons, isText]
  simp only [textPart, nothing, List.append_nil]
  rfl

theorem textPart_state (p : Printer) (placement : Placement) (isText : Bool) (r : Ruling) :
    (textPart p placement isText r).2.state =
      if isText then (r.state.step .text).1 else r.state := by
  cases isText
  · rfl
  · rfl

end Receipt.Page
