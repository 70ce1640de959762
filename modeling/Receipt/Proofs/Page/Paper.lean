import Receipt.Proofs.Layout.Placement
import Receipt.Proofs.Page.Bracketing

/-!
# Everything stands on the paper

An area, with the cells to either side of it, is as wide as the paper. For a line that is how it is
placed, and for a tie between two rows the place of either; the last row of a table is on the paper
because only a line of text opens a table, and the machine remembers its place (`Framed`).
-/

namespace Receipt.Page

open Drawing (Op Program)
open Layout (Placement)
open Markup (Column State)
open Ruling (Edges)

/-! ## Areas -/

/-- Edges that are as wide as the paper. -/
def Spans (cpl : Nat) (e : Edges) : Prop := e.left + e.width + e.right = cpl

/-- Instructions whose area, if they have one, is as wide as the paper. -/
def IsOnPaper (cpl : Nat) : Op → Prop
  | .area left width right => left + width + right = cpl
  | _ => True

section
variable {cpl : Nat}

theorem spans_placed (p : Printer) (columns : List Column) :
    Spans p.cpl (placed p columns).edges :=
  Layout.place_cpl p.cpl _ columns

/-- The place of two rows is on the paper if that of one of them is. -/
theorem spans_hull {a : Edges} (h : Spans cpl a) (b : Edges) : Spans cpl (hull cpl a b) := by
  simp only [Spans, hull] at h ⊢
  omega

theorem onPaper_areaAt {e : Edges} (h : Spans cpl e) : ∀ op ∈ areaAt e, IsOnPaper cpl op := by
  simpa [areaAt, IsOnPaper, Spans] using h

theorem onPaper_of_inner {op : Op} (h : IsInner op) : IsOnPaper cpl op := by
  cases op <;> first | exact trivial | exact h.elim

theorem onPaper_append {p q : Program} (hp : ∀ op ∈ p, IsOnPaper cpl op)
    (hq : ∀ op ∈ q, IsOnPaper cpl op) : ∀ op ∈ p ++ q, IsOnPaper cpl op := fun op hop =>
  (List.mem_append.1 hop).elim (hp op) (hq op)

/-- Of the effects, only the bottom edge of a table stands where the last row stood. -/
theorem onPaper_drawEffect {last current : Edges} {e : Ruling.Effect} (hc : Spans cpl current)
    (hl : e = .close → Spans cpl last) :
    ∀ op ∈ drawEffect cpl last current e, IsOnPaper cpl op := by
  cases e with
  | «open» => exact onPaper_append (onPaper_areaAt hc) (by simp [IsOnPaper])
  | tieIn => exact onPaper_append (onPaper_areaAt (spans_hull hc last)) (by simp [IsOnPaper])
  | close => exact onPaper_append (onPaper_areaAt (hl rfl)) (by simp [IsOnPaper])
  | divider => exact onPaper_append (onPaper_areaAt hc) (by simp [IsOnPaper])
  | cut => simp [drawEffect, IsOnPaper]

theorem onPaper_applyEvent {current : Edges} {r : Ruling} (e : Ruling.Event)
    (hc : Spans cpl current) (hr : r.state.isOpen = true → Spans cpl r.edges) :
    ∀ op ∈ (applyEvent cpl current r e).1, IsOnPaper cpl op := by
  intro op hop
  obtain ⟨x, hx, hop⟩ := List.mem_flatMap.1 hop
  exact onPaper_drawEffect hc (fun hclose => hr (isOpen_of_effect hx (Or.inl hclose))) op hop

theorem onPaper_applyEvents {current : Edges} {r : Ruling} {es : List Ruling.Event}
    (he : .text ∉ es) (hc : Spans cpl current) (hr : r.state.isOpen = true → Spans cpl r.edges) :
    (∀ op ∈ (applyEvents cpl current r es).1, IsOnPaper cpl op) ∧
      ((applyEvents cpl current r es).2.state.isOpen = true → Spans cpl r.edges) := by
  induction es generalizing r with
  | nil => exact ⟨by simp, hr⟩
  | cons e es ih =>
    rw [List.mem_cons, not_or] at he
    rw [applyEvents_cons]
    have rest := ih (r := (applyEvent cpl current r e).2) he.2
      fun h => hr (isOpen_of_step (Ne.symm he.1) h)
    exact ⟨onPaper_append (onPaper_applyEvent e hc hr) rest.1, rest.2⟩

end

/-! ## Lines -/

section
variable {p : Printer} {placement : Placement}

theorem onPaper_drawRows (h : Spans p.cpl placement.edges) (ruled : Bool) :
    ∀ op ∈ drawRows p placement ruled, IsOnPaper p.cpl op := by
  intro op hop
  rcases mem_drawRows hop with area | ⟨_, height, rules⟩ | inner | rfl
  · exact onPaper_areaAt h op area
  · simp only [drawRules, List.mem_cons, List.not_mem_nil, or_false] at rules
    rcases rules with rfl | rfl | rfl <;> trivial
  · exact onPaper_of_inner inner
  · trivial

theorem onPaper_textPart (h : Spans p.cpl placement.edges) (isText : Bool) {r : Ruling}
    (hr : r.state.isOpen = true → Spans p.cpl r.edges) :
    (∀ op ∈ (textPart p placement isText r).1, IsOnPaper p.cpl op) ∧
      ((textPart p placement isText r).2.state.isOpen = true →
        Spans p.cpl (textPart p placement isText r).2.edges) := by
  cases isText
  · exact ⟨by simp [textPart], hr⟩
  · simp only [textPart, if_true, drawText_eq]
    exact ⟨onPaper_append (onPaper_applyEvent .text h hr) (onPaper_drawRows h _), fun _ => h⟩

theorem onPaper_contentPart (h : Spans p.cpl placement.edges) (isText : Bool) (first : Column) :
    ∀ op ∈ contentPart placement isText first, IsOnPaper p.cpl op := by
  unfold contentPart drawContent
  split
  · simp
  · split
    · simp
    · rename_i op hcontent
      have content := isContent_of_content? hcontent
      simp only [List.forall_mem_cons]
      refine ⟨trivial, h, trivial, ?_, by simp⟩
      cases op <;> first | exact trivial | exact content.elim

end

/-! ## The settings of a session -/

/-- What holds of the settings all through a session: a table is in progress only while the border
asks for rules, which it does in one way, and the last row of an open table is on the paper. -/
structure Framed (p : Printer) (s : State) : Prop where
  steady : Steady s
  border : -1 ≤ s.border
  spans : s.ruling.state.isOpen = true → Spans p.cpl s.ruling.edges

theorem framed_initial (p : Printer) : Framed p (.initial p) where
  steady := Or.inl rfl
  border := by
    show (-1 : Int) ≤ 1
    omega
  spans h := Bool.noConfusion h

theorem drawNext_onPaper (p : Printer) (line : List Char) {s : State} (h : Framed p s) :
    (∀ op ∈ (drawNext p line s).1, IsOnPaper p.cpl op) ∧ Framed p (drawNext p line s).2 := by
  have steady := (drawNext_takes p line h.steady).2
  obtain ⟨first, more, columns, _⟩ := Markup.readLine_first line s
  have ruling := Markup.readLine_ruling line s
  have border := Markup.neg_one_le_readLine_border line h.border
  simp only [drawNext, columns, drawLine_cons, ruling] at steady ⊢
  have spans := spans_placed p (first :: more)
  generalize (first :: more).all Column.isText = isText at steady ⊢
  generalize placed p (first :: more) = placement at spans steady ⊢
  obtain ⟨text, hr⟩ := onPaper_textPart spans isText h.spans
  obtain ⟨rules, hr⟩ := onPaper_applyEvents (text_not_mem_eventsOf first) spans hr
  refine ⟨onPaper_append (onPaper_append text rules) (onPaper_contentPart spans isText first),
    steady, border, ?_⟩
  simpa using hr

theorem drawEnd_onPaper (p : Printer) {s : State} (h : Framed p s) :
    (∀ op ∈ (drawEnd s).1, IsOnPaper p.cpl op) ∧ Framed p (drawEnd s).2 := by
  have closed := (drawEnd_takes s).2
  refine ⟨?_, Or.inl closed, h.border, fun hopen => ?_⟩
  · -- the bottom edge of an open table is all that an end draws
    have bottom : s.ruling.state.isOpen = true → ∀ op ∈ drawEffect 0 s.ruling.edges s.ruling.edges
        .close, IsOnPaper p.cpl op := fun hopen =>
      onPaper_append (onPaper_areaAt (h.spans hopen)) (by simp [IsOnPaper])
    intro op hop
    obtain ⟨e, he, hop⟩ := List.mem_flatMap.1 hop
    obtain rfl := close_of_finish s.ruling.state he
    exact bottom (isOpen_of_effect he (Or.inl rfl)) op hop
  · rw [closed] at hopen
    exact Bool.noConfusion hopen

theorem step_onPaper (p : Printer) (step : Step) {s : State} (h : Framed p s) :
    (∀ op ∈ (step.draw p s).1, IsOnPaper p.cpl op) ∧ Framed p (step.draw p s).2 := by
  cases step with
  | line l => exact drawNext_onPaper p l h
  | finish => exact drawEnd_onPaper p h

theorem drawSteps_onPaper (p : Printer) (steps : List Step) {s : State} (h : Framed p s) :
    ∀ op ∈ (drawSteps p steps s).1, IsOnPaper p.cpl op := by
  induction steps generalizing s with
  | nil => simp [drawSteps]
  | cons step r ih =>
    obtain ⟨paper, framed⟩ := step_onPaper p step h
    exact onPaper_append paper (ih framed)

/-- **Everything stands on the paper.** -/
theorem program_onPaper (p : Printer) (document : List Char) :
    ∀ op ∈ program p document, IsOnPaper p.cpl op := by
  rw [program_eq]
  refine onPaper_append (onPaper_append (p := [.open p]) (by simp [IsOnPaper]) ?_)
    (by simp [IsOnPaper])
  exact drawSteps_onPaper p (documentSteps document) (framed_initial p)

end Receipt.Page
