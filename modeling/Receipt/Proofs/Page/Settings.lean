import Receipt.Proofs.Markup.Settings
import Receipt.Proofs.Page.Paper

/-!
# The settings of a session

Every setting has the value that its key was given last, by whichever line that was; drawing a line
and ending a document change nothing but the ruling (`drawSteps_settings`). The ruling is moved by
events, and these agree with the border that the settings ask for: a table is asked for or in
progress only while the border asks for rules, so a start finds the machine waiting
(`starts_drawSteps`).
-/

namespace Receipt.Page

open Markup (Column State blockOf? given? readLine)
open Ruling (Event)

/-! ## Values given by steps -/

/-- The value that a step gives to a key. -/
def Step.given? (key : String) : Step → Option (List Char)
  | .line l => Markup.given? key l
  | .finish => none

/-- The value that a key was given last. -/
def lastGiven (key : String) (steps : List Step) : Option (List Char) :=
  (steps.filterMap (Step.given? key)).getLast?

theorem lastGiven_cons (key : String) (step : Step) (r : List Step) :
    lastGiven key (step :: r) = (lastGiven key r).or (step.given? key) := by
  unfold lastGiven
  cases given : step.given? key with
  | none => simp [given]
  | some v => cases last : (r.filterMap (Step.given? key)).getLast? <;>
      simp [given, List.getLast?_cons, last]

/-- Drawing changes nothing but the ruling. -/
theorem drawLine_settings (p : Printer) (columns : List Column) (s : State) :
    (drawLine p columns s).2 = { s with ruling := (drawLine p columns s).2.ruling } := by
  cases columns <;> rfl

theorem step_settings (p : Printer) (step : Step) (s : State) :
    (step.draw p s).2 =
      { s.given (step.given? ·) with ruling := (step.draw p s).2.ruling } := by
  cases step with
  | line l =>
    have drawn := drawLine_settings p (readLine l s).1 (readLine l s).2
    show (drawNext p l s).2 = { s.given (given? · l) with ruling := (drawNext p l s).2.ruling }
    rw [← Markup.readLine_settings]
    exact drawn
  | finish => rfl

/-- **Each setting has the value that its key was given last.** -/
theorem drawSteps_settings (p : Printer) (steps : List Step) (s : State) :
    (drawSteps p steps s).2 =
      { s.given (lastGiven · steps) with ruling := (drawSteps p steps s).2.ruling } := by
  induction steps generalizing s with
  | nil => rfl
  | cons step r ih =>
    rw [drawSteps_cons]
    show (drawSteps p r (step.draw p s).2).2 = _
    have later := ih (step.draw p s).2
    have first : (step.draw p s).2.given (lastGiven · r) =
        { s.given (lastGiven · (step :: r)) with ruling := (step.draw p s).2.ruling } := by
      rw [step_settings]
      show { (s.given (step.given? ·)).given (lastGiven · r) with
        ruling := (step.draw p s).2.ruling } = _
      rw [Markup.given_given]
      simp only [lastGiven_cons]
    rw [first] at later
    exact later

/-! ## Events -/

/-- The events of a line: its text, if it is a line of text, and then those of its first column. -/
def eventsOfLine (columns : List Column) : List Event :=
  (if columns.all Column.isText && !columns.isEmpty then [.text] else [])
    ++ columns.head?.toList.flatMap eventsOf

/-- The events that a step sends to the ruling. -/
def Step.events : Step → State → List Event
  | .line l, s => eventsOfLine (readLine l s).1
  | .finish, _ => [.finish]

/-- The events of steps in turn. -/
def eventsOfSteps (p : Printer) : List Step → State → List Event
  | [], _ => []
  | step :: r, s => step.events s ++ eventsOfSteps p r (step.draw p s).2

theorem drawLine_state (p : Printer) (columns : List Column) (s : State) :
    (drawLine p columns s).2.ruling.state = stateAfter s.ruling.state (eventsOfLine columns) := by
  cases columns with
  | nil => rfl
  | cons first more =>
    rw [drawLine_cons]
    simp only [applyEvents_state, textPart_state, eventsOfLine, stateAfter_append]
    cases (first :: more).all Column.isText <;> simp [stateAfter]

/-- Events are all that moves the machine. -/
theorem step_state (p : Printer) (step : Step) (s : State) :
    (step.draw p s).2.ruling.state = stateAfter s.ruling.state (step.events s) := by
  cases step with
  | line l =>
    show (drawLine p (readLine l s).1 (readLine l s).2).2.ruling.state = _
    rw [drawLine_state, Markup.readLine_ruling]
    rfl
  | finish => rfl

theorem drawSteps_state (p : Printer) (steps : List Step) (s : State) :
    (drawSteps p steps s).2.ruling.state =
      stateAfter s.ruling.state (eventsOfSteps p steps s) := by
  induction steps generalizing s with
  | nil => rfl
  | cons step r ih =>
    rw [drawSteps_cons, eventsOfSteps, stateAfter_append, ← step_state]
    exact ih _

/-- Every start finds the machine waiting. -/
def StartsWaiting (state : Ruling.State) (es : List Event) : Prop :=
  ∀ before after, es = before ++ .start :: after → stateAfter state before = .waiting

theorem startsWaiting_of_no_start {es : List Event} (h : .start ∉ es) (state : Ruling.State) :
    StartsWaiting state es := by
  rintro before after rfl
  exact absurd (List.mem_append_right before List.mem_cons_self) h

theorem StartsWaiting.append {state : Ruling.State} {es fs : List Event}
    (hes : StartsWaiting state es) (hfs : StartsWaiting (stateAfter state es) fs) :
    StartsWaiting state (es ++ fs) := by
  intro before after split
  rcases List.append_eq_append_iff.1 split with ⟨middle, rfl, rest⟩ | ⟨middle, rfl, rest⟩
  · -- the start is among the later events
    rw [stateAfter_append]
    exact hfs middle after rest
  · cases middle with
    | nil =>
      -- it is the first of the later events
      rw [List.append_nil] at hfs
      exact hfs [] after rest.symm
    | cons e middle =>
      obtain ⟨rfl, -⟩ := List.cons.inj rest
      exact hes before middle rfl

/-- A line that tells of a change of the border sends a start to a machine that waits. -/
theorem startsWaiting_line {first : Column} {more : List Column} {state : Ruling.State}
    {was now : Bool} (toggle : first.toggle = Markup.toggle? was now)
    (h : state = .waiting ∨ was = true) :
    StartsWaiting state (eventsOfLine (first :: more)) := by
  obtain ⟨marks, noStart, events⟩ := eventsOf_eq first
  have text : .start ∉ (if (first :: more).all Column.isText && !(first :: more).isEmpty
      then [Event.text] else []) := by
    split <;> simp
  have quiet : .start ∉ (if (first :: more).all Column.isText && !(first :: more).isEmpty
      then [Event.text] else []) ++ marks := fun start =>
    (List.mem_append.1 start).elim text noStart
  have split : eventsOfLine (first :: more) =
      ((if (first :: more).all Column.isText && !(first :: more).isEmpty
        then [Event.text] else []) ++ marks) ++ first.toggle.toList.map toggleEvent := by
    simp only [eventsOfLine, List.head?_cons, Option.toList_some, List.flatMap_cons,
      List.flatMap_nil, List.append_nil, events, List.append_assoc]
  rw [split, toggle]
  refine (startsWaiting_of_no_start quiet state).append ?_
  cases was
  · obtain rfl : state = .waiting := by simpa using h
    rw [stateAfter_waiting quiet]
    rintro (_ | ⟨e, before⟩) after starts
    · rfl
    · -- a change of the border is a single event
      cases now <;> simp [Markup.toggle?] at starts
  · refine startsWaiting_of_no_start ?_ _
    cases now <;> simp [Markup.toggle?, toggleEvent]

theorem startsWaiting_step (step : Step) {s : State} (h : Steady s) :
    StartsWaiting s.ruling.state (step.events s) := by
  cases step with
  | line l =>
    obtain ⟨first, more, columns, toggle⟩ := Markup.readLine_first l s
    show StartsWaiting _ (eventsOfLine (readLine l s).1)
    rw [columns]
    exact startsWaiting_line toggle h
  | finish => exact startsWaiting_of_no_start (by simp [Step.events]) _

theorem startsWaiting_drawSteps (p : Printer) (steps : List Step) {s : State} (h : Steady s) :
    StartsWaiting s.ruling.state (eventsOfSteps p steps s) ∧ Steady (drawSteps p steps s).2 := by
  induction steps generalizing s with
  | nil => exact ⟨startsWaiting_of_no_start (by simp [eventsOfSteps]) _, h⟩
  | cons step r ih =>
    obtain ⟨starts, steady⟩ := ih (step_takes p step h).2
    rw [step_state] at starts
    exact ⟨(startsWaiting_step step h).append starts, steady⟩

/-! ## The place of the last row -/

/-- A line of text takes its place on the paper, and no other step moves the place of the last row
off it. -/
theorem drawNext_spans (p : Printer) (line : List Char) (s : State)
    (h : (readLine line s).1.all Column.isText = true ∨ Spans p.cpl s.ruling.edges) :
    Spans p.cpl (drawNext p line s).2.ruling.edges := by
  obtain ⟨first, more, columns, -⟩ := Markup.readLine_first line s
  have ruling := Markup.readLine_ruling line s
  rw [columns] at h
  simp only [drawNext, columns, drawLine_cons, ruling, applyEvents_edges]
  cases isText : (first :: more).all Column.isText
  · exact h.resolve_left (by simp [isText])
  · simp only [textPart, if_true, drawText_eq]
    exact spans_placed p (first :: more)

theorem step_spans (p : Printer) (step : Step) {s : State} (h : Spans p.cpl s.ruling.edges) :
    Spans p.cpl (step.draw p s).2.ruling.edges := by
  cases step with
  | line l => exact drawNext_spans p l s (Or.inr h)
  | finish => exact h

theorem drawSteps_spans (p : Printer) (steps : List Step) {s : State}
    (h : Spans p.cpl s.ruling.edges) : Spans p.cpl (drawSteps p steps s).2.ruling.edges := by
  induction steps generalizing s with
  | nil => exact h
  | cons step r ih => exact ih (step_spans p step h)

/-! ## Sessions -/

/-- The settings that steps leave behind: of each key, the value given last, or the initial one. -/
structure LastCounts (p : Printer) (steps : List Step) (s : State) : Prop where
  wrap : s.wrap = ((lastGiven "text" steps).map Markup.Value.wrap).getD (State.initial p).wrap
  border : s.border =
    ((lastGiven "border" steps).map Markup.Value.border).getD (State.initial p).border
  widths : s.widths =
    ((lastGiven "width" steps).map Markup.Value.widths).getD (State.initial p).widths
  alignment : s.alignment =
    ((lastGiven "align" steps).map Markup.Value.alignment).getD (State.initial p).alignment
  codes : s.codes =
    ((lastGiven "option" steps).map (Markup.Value.codeStyle p.quietZone)).getD
      (State.initial p).codes

/-- **The last value given counts, and the ruling follows the border.** In every session each
setting is what its parser makes of the last value that a line gave to its key, and lines of two or
more columns and lines that are no block give none. So settings stay in their ranges and the quiet
zone is the printer's. The machine, moved by the events of the session alone, is out of waiting only
while the border asks for rules, is waiting whenever a start comes, and remembers a place on the
paper from the first line of text on. -/
theorem last_given_counts (p : Printer) (steps : List Step) :
    LastCounts p steps (session p steps).2 ∧
      (∀ line s, (Markup.divide line).2 ≠ [] ∨
          Markup.Block.inner? (Text.trim (Markup.divide line).1) = none →
        (drawNext p line s).2 = { s with ruling := (drawNext p line s).2.ruling }) ∧
      (session p steps).2.InRange ∧
      (session p steps).2.codes.quietZone = p.quietZone ∧
      ((session p steps).2.ruling.state =
          stateAfter .waiting (eventsOfSteps p steps (.initial p)) ∧
        ((session p steps).2.ruling.state ≠ .waiting → (session p steps).2.border = -1) ∧
        StartsWaiting .waiting (eventsOfSteps p steps (.initial p))) ∧
      ∀ before line after, steps = before ++ .line line :: after →
        (readLine line (session p before).2).1.all Column.isText = true →
        Spans p.cpl (session p steps).2.ruling.edges := by
  have settings := drawSteps_settings p steps (.initial p)
  obtain ⟨starts, steady⟩ := startsWaiting_drawSteps p steps (s := .initial p) (Or.inl rfl)
  have inRange : (session p steps).2.InRange := by
    have given := (Markup.inRange_initial p).given (lastGiven · steps)
    rw [session, settings]
    exact ⟨given.border, given.widths, given.module, given.height, given.cell⟩
  refine ⟨?_, ?_, inRange, ?_, ⟨drawSteps_state p steps _, ?_, starts⟩, ?_⟩
  · rw [session, settings]
    exact ⟨rfl, rfl, rfl, rfl, rfl⟩
  · intro line s none
    have noBlock : blockOf? line = Option.none := by
      rcases lined : Markup.divide line with ⟨raw, _ | ⟨next, more⟩⟩
      · simpa [blockOf?, lined] using none
      · simp only [blockOf?, lined]
    show (drawLine p (readLine line s).1 (readLine line s).2).2 = _
    rw [drawLine_settings, Markup.readLine_of_no_block noBlock]
    simp only [drawNext, Markup.readLine_of_no_block noBlock]
  · rw [session, settings]
    exact Markup.given_quietZone (.initial p) (lastGiven · steps)
  · intro busy
    have ruled : (session p steps).2.border < 0 := of_decide_eq_true (steady.resolve_left busy)
    rcases inRange.border with h | h | h | h <;> omega
  · rintro before line after rfl isText
    rw [session_append, drawSteps_cons]
    exact drawSteps_spans p after (drawNext_spans p line _ (Or.inl isText))

end Receipt.Page
