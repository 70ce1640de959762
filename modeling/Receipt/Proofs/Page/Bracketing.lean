import Receipt.Proofs.Markup.Reading
import Receipt.Proofs.Page.Line
import Receipt.Proofs.Page.Session

/-!
# Tables open and close in turn

The drawing program of a session is read with a flag that tells whether a table is open. The
machine alone does not keep the flag right: a change of the border makes any state `ready` without
closing a table. It does so only where no table is in progress, because a table is in progress only
while the border asks for rules (`Steady`). With that invariant every step takes the flag from the
openness of the machine before it to the openness after it (`step_takes`).
-/

namespace Receipt.Page

open Drawing (Op Program)
open Markup (Column State)
open Ruling (Edges)

/-! ## The flag -/

/-- Whether a table is open after an instruction. -/
def tableAfter (isOpen : Bool) : Op → Bool
  | .vrStart _ => true
  | .vrStop _ => false
  | _ => isOpen

/-- What an instruction asks of the table: its edges and rules belong where they are, a row ends
between rules just if the table is open, and what has no table is drawn outside one. -/
def Suits (isOpen : Bool) : Op → Prop
  | .vrStart _ | .hr _ | .cut | .close => isOpen = false
  | .vrStop _ | .vr .. | .vrHr .. => isOpen = true
  | .vrLf ruled => ruled = isOpen
  | _ => True

/-- Whether a table is open after instructions. -/
def openAfter (isOpen : Bool) (p : Program) : Bool := p.foldl tableAfter isOpen

/-- Every instruction suits the table it finds. -/
inductive Bracketed : Bool → Program → Prop
  | nil (isOpen : Bool) : Bracketed isOpen []
  | cons {isOpen : Bool} {op : Op} {r : Program} :
    Suits isOpen op → Bracketed (tableAfter isOpen op) r → Bracketed isOpen (op :: r)

/-- Instructions that suit the table they find and leave it as `after` says. -/
structure Takes (before : Bool) (p : Program) (after : Bool) : Prop where
  bracketed : Bracketed before p
  ends : openAfter before p = after

theorem Takes.nil (b : Bool) : Takes b [] b := ⟨.nil b, rfl⟩

theorem Takes.cons {a b : Bool} {op : Op} {p : Program} (h : Suits a op)
    (hp : Takes (tableAfter a op) p b) : Takes a (op :: p) b :=
  ⟨.cons h hp.bracketed, hp.ends⟩

theorem Takes.append {a b c : Bool} {p q : Program} (hp : Takes a p b) (hq : Takes b q c) :
    Takes a (p ++ q) c := by
  induction p generalizing a with
  | nil =>
    obtain rfl : a = b := hp.ends
    exact hq
  | cons op r ih =>
    obtain ⟨_ | ⟨suits, bracketed⟩, ends⟩ := hp
    exact .cons suits (ih ⟨bracketed, ends⟩)

/-- Instructions that have nothing to do with tables. -/
def IsPlain : Op → Prop
  | .vrStart _ | .vrStop _ | .vr .. | .vrHr .. | .vrLf _ | .hr _ | .cut | .close => False
  | _ => True

theorem takes_of_plain {p : Program} (h : ∀ op ∈ p, IsPlain op) (b : Bool) : Takes b p b := by
  induction p with
  | nil => exact .nil b
  | cons op r ih =>
    have hr := ih fun op hop => h op (List.mem_cons_of_mem _ hop)
    have hop := h op List.mem_cons_self
    cases op <;> first | exact hop.elim | exact .cons trivial hr

theorem takes_flatMap {α : Type} {f : α → Program} {b : Bool} {l : List α}
    (h : ∀ a ∈ l, Takes b (f a) b) : Takes b (l.flatMap f) b := by
  induction l with
  | nil => exact .nil b
  | cons a r ih =>
    exact (h a List.mem_cons_self).append (ih fun x hx => h x (List.mem_cons_of_mem _ hx))

/-! ## Rows -/

theorem isPlain_of_inner {op : Op} (h : IsInner op) : IsPlain op := by
  cases op <;> first | exact trivial | exact h.elim

theorem isPlain_drawCells (border position : Nat) (cells : List (Nat × Option Layout.Row)) :
    ∀ op ∈ drawCells border position cells, IsPlain op := by
  intro op hop
  exact isPlain_of_inner (isInner_drawCells border position cells op hop)

theorem isPlain_areaAt (e : Edges) : ∀ op ∈ areaAt e, IsPlain op := by
  simp [areaAt, IsPlain]

/-- A row is drawn between rules just if the table is open. -/
theorem takes_drawRow (placement : Layout.Placement) (ruled : Bool) (border : Nat)
    (rows : List (List Layout.Row)) (j : Nat) :
    Takes ruled (drawRow placement ruled border rows j) ruled := by
  have rules : Takes ruled
      (if ruled then
        drawRules (placement.columns.map Layout.Placed.width)
          (ruleHeight (rows.map fun column => column[j]?))
      else []) ruled := by
    cases ruled
    · exact .nil _
    · exact .cons trivial (.cons trivial (.cons rfl (.nil _)))
  exact (((takes_of_plain (isPlain_areaAt _) _).append rules).append
    (takes_of_plain (isPlain_drawCells _ _ _) _)).append (.cons rfl (.nil _))

theorem takes_drawRows (p : Printer) (placement : Layout.Placement) (ruled : Bool) :
    Takes ruled (drawRows p placement ruled) ruled := by
  unfold drawRows
  split
  · exact .nil _
  · exact takes_flatMap fun j _ => takes_drawRow _ _ _ _ j

/-! ## Things on their own -/

theorem isPlain_of_content {op : Op} (h : IsContent op) : IsPlain op := by
  cases op <;> first | exact trivial | exact h.elim

theorem isPlain_drawContent (placement : Layout.Placement) (column : Column) :
    ∀ op ∈ drawContent placement column, IsPlain op := by
  intro op hop
  unfold drawContent at hop
  split at hop
  · cases hop
  · rename_i content h
    simp only [List.mem_cons, List.not_mem_nil, or_false] at hop
    rcases hop with rfl | rfl | rfl | rfl
    · trivial
    · trivial
    · trivial
    · exact isPlain_of_content (isContent_of_content? h)

theorem isPlain_contentPart (placement : Layout.Placement) (isText : Bool) (first : Column) :
    ∀ op ∈ contentPart placement isText first, IsPlain op := by
  unfold contentPart
  split
  · simp
  · exact isPlain_drawContent placement first

/-! ## Events -/

/-- The flag that an effect needs, and the flag that it leaves. -/
def effectFlags : Ruling.Effect → Bool × Bool
  | .open => (false, true)
  | .tieIn => (true, true)
  | .close => (true, false)
  | .divider | .cut => (false, false)

theorem takes_drawEffect (cpl : Nat) (last current : Edges) (e : Ruling.Effect) :
    Takes (effectFlags e).1 (drawEffect cpl last current e) (effectFlags e).2 := by
  have around (edges : Edges) (b : Bool) := takes_of_plain (isPlain_areaAt edges) b
  cases e with
  | «open» => exact (around current _).append (.cons rfl (.cons rfl (.nil _)))
  | tieIn => exact (around _ _).append (.cons rfl (.cons trivial (.nil _)))
  | close => exact (around last _).append (.cons rfl (.cons rfl (.nil _)))
  | divider => exact (around current _).append (.cons rfl (.cons trivial (.nil _)))
  | cut => exact .cons rfl (.nil _)

/-- An event takes the table from the openness of the machine to that after it. A start is the
exception: it forgets a table in progress. -/
theorem takes_applyEvent (cpl : Nat) (current : Edges) (r : Ruling) (e : Ruling.Event)
    (h : e = .start → r.state.isOpen = false) :
    Takes r.state.isOpen (applyEvent cpl current r e).1
      (applyEvent cpl current r e).2.state.isOpen := by
  obtain ⟨state, edges⟩ := r
  have draws := takes_drawEffect cpl edges current
  -- what the machine draws is nothing, one effect, or a close and a cut
  have one (x : Ruling.Effect) : Takes (effectFlags x).1
      ([x].flatMap (drawEffect cpl edges current)) (effectFlags x).2 := by
    simpa using draws x
  have closeCut : Takes true
      ([.close, .cut].flatMap (drawEffect cpl edges current)) false := by
    simpa only [List.flatMap_cons, List.flatMap_nil, List.append_nil, effectFlags]
      using (draws .close).append (draws .cut)
  cases e with
  | start =>
    cases state with
    | waiting | ready => exact .nil _
    | running | horizontal => exact Bool.noConfusion (h rfl)
  | stop =>
    cases state with
    | waiting | ready => exact .nil _
    | running | horizontal => exact one .close
  | text =>
    cases state with
    | waiting | running => exact .nil _
    | ready => exact one .open
    | horizontal => exact one .tieIn
  | horizontalRule =>
    cases state with
    | waiting => exact one .divider
    | ready | running | horizontal => exact .nil _
  | cut =>
    cases state with
    | waiting | ready => exact one .cut
    | running | horizontal => exact closeCut
  | finish =>
    cases state with
    | waiting | ready => exact .nil _
    | running | horizontal => exact one .close

/-- Events of which a start comes only where no table is in progress. -/
def Calm : Ruling.State → List Ruling.Event → Prop
  | _, [] => True
  | state, e :: es => (e = .start → state.isOpen = false) ∧ Calm (state.step e).1 es

theorem Calm.append {state : Ruling.State} {es fs : List Ruling.Event} (hes : Calm state es)
    (hfs : Calm (stateAfter state es) fs) : Calm state (es ++ fs) := by
  induction es generalizing state with
  | nil => exact hfs
  | cons e es ih => exact ⟨hes.1, ih hes.2 hfs⟩

theorem calm_of_no_start {es : List Ruling.Event} (h : .start ∉ es) (state : Ruling.State) :
    Calm state es := by
  induction es generalizing state with
  | nil => trivial
  | cons e es ih =>
    rw [List.mem_cons, not_or] at h
    exact ⟨fun he => absurd he.symm h.1, ih h.2 _⟩

theorem takes_applyEvents (cpl : Nat) (current : Edges) (r : Ruling) (es : List Ruling.Event)
    (h : Calm r.state es) :
    Takes r.state.isOpen (applyEvents cpl current r es).1
      (applyEvents cpl current r es).2.state.isOpen := by
  induction es generalizing r with
  | nil => exact .nil _
  | cons e es ih =>
    rw [applyEvents_cons]
    exact (takes_applyEvent cpl current r e h.1).append (ih _ h.2)

/-! ## The machine and the border -/

/-- Every event but a start leaves a waiting machine waiting. -/
theorem step_waiting {e : Ruling.Event} (h : e ≠ .start) :
    (Ruling.State.step .waiting e).1 = .waiting := by
  cases e with
  | start => exact absurd rfl h
  | stop | text | horizontalRule | cut | finish => rfl

theorem markEvent_ne_start (m : Markup.Mark) : markEvent m ≠ .start := by
  cases m <;> simp [markEvent]

theorem stateAfter_waiting {es : List Ruling.Event} (h : .start ∉ es) :
    stateAfter .waiting es = .waiting := by
  induction es with
  | nil => rfl
  | cons e es ih =>
    rw [List.mem_cons, not_or] at h
    rw [stateAfter, step_waiting (Ne.symm h.1), ih h.2]

/-- A line brings about the event of its mark, if any, and then that of a change of the border. -/
theorem eventsOf_eq (first : Column) :
    ∃ marks, .start ∉ marks ∧ eventsOf first = marks ++ first.toggle.toList.map toggleEvent := by
  refine ⟨_, ?_, rfl⟩
  split
  · rename_i m _
    rw [List.mem_singleton]
    exact (markEvent_ne_start m).symm
  · exact List.not_mem_nil

/-- The events of a line whose first column tells of a change from one border to another: a start
comes to a waiting machine if the machine waited while the border asked for no rules, and the
machine waits again if the border asks for none. -/
theorem eventsOf_steady {first : Column} {state : Ruling.State} {was now : Bool}
    (toggle : first.toggle = Markup.toggle? was now) (h : state = .waiting ∨ was = true) :
    Calm state (eventsOf first) ∧ (stateAfter state (eventsOf first) = .waiting ∨ now = true) := by
  obtain ⟨marks, noStart, events⟩ := eventsOf_eq first
  have calm := calm_of_no_start noStart state
  rw [events, toggle, stateAfter_append]
  cases was <;> cases now
  · -- no rules before and after
    obtain rfl : state = .waiting := by simpa using h
    refine ⟨calm.append trivial, Or.inl ?_⟩
    exact stateAfter_waiting noStart
  · -- a start, which finds the machine waiting
    obtain rfl : state = .waiting := by simpa using h
    refine ⟨calm.append ⟨fun _ => ?_, trivial⟩, Or.inr rfl⟩
    rw [stateAfter_waiting noStart]
    rfl
  · -- a stop
    refine ⟨calm.append ⟨fun he => Ruling.Event.noConfusion he, trivial⟩, Or.inl ?_⟩
    show ((stateAfter state marks).step .stop).1 = .waiting
    cases stateAfter state marks <;> rfl
  · exact ⟨calm.append trivial, Or.inr rfl⟩

/-- A table is in progress only while the border asks for rules. -/
def Steady (s : State) : Prop := s.ruling.state = .waiting ∨ s.isRuled = true

/-! ## Steps -/

theorem takes_textPart (p : Printer) (placement : Layout.Placement) (isText : Bool) (r : Ruling) :
    Takes r.state.isOpen (textPart p placement isText r).1
      (textPart p placement isText r).2.state.isOpen := by
  cases isText
  · exact .nil _
  · simp only [textPart, if_true, drawText_eq]
    exact (takes_applyEvent p.cpl placement.edges r .text (by simp)).append
      (takes_drawRows p placement _)

theorem takes_contentPart (placement : Layout.Placement) (isText : Bool) (first : Column)
    (b : Bool) : Takes b (contentPart placement isText first) b :=
  takes_of_plain (isPlain_contentPart placement isText first) b

/-- A text part leaves a waiting machine waiting. -/
theorem textPart_steady (p : Printer) (placement : Layout.Placement) (isText : Bool) {r : Ruling}
    {b : Bool} (h : r.state = .waiting ∨ b = true) :
    (textPart p placement isText r).2.state = .waiting ∨ b = true := by
  refine h.imp_left fun hr => ?_
  rw [textPart_state, hr]
  cases isText <;> rfl

/-- **A line takes the table from the openness of the machine to that after it,** and a table is
in progress after it only if the border asks for rules. -/
theorem drawNext_takes (p : Printer) (line : List Char) {s : State} (h : Steady s) :
    Takes s.ruling.state.isOpen (drawNext p line s).1 (drawNext p line s).2.ruling.state.isOpen ∧
      Steady (drawNext p line s).2 := by
  obtain ⟨first, more, columns, toggle⟩ := Markup.readLine_first line s
  have ruling := Markup.readLine_ruling line s
  simp only [drawNext, columns, drawLine_cons, ruling]
  generalize (Markup.readLine line s).2 = t at toggle ruling
  generalize (first :: more).all Column.isText = isText
  generalize placed p (first :: more) = placement
  have text := takes_textPart p placement isText s.ruling
  have steady := textPart_steady p placement isText h
  obtain ⟨calm, waits⟩ := eventsOf_steady toggle steady
  have rules := takes_applyEvents p.cpl placement.edges _ _ calm
  refine ⟨(text.append rules).append (takes_contentPart placement isText first _), ?_⟩
  refine waits.imp_left fun hw => ?_
  rw [← hw]
  exact applyEvents_state ..

/-- An end of the document closes a table. -/
theorem drawEnd_takes (s : State) :
    Takes s.ruling.state.isOpen (drawEnd s).1 (drawEnd s).2.ruling.state.isOpen ∧
      (drawEnd s).2.ruling.state = .waiting := by
  refine ⟨takes_applyEvent 0 s.ruling.edges s.ruling .finish (by simp), ?_⟩
  show (s.ruling.state.step .finish).1 = .waiting
  cases s.ruling.state <;> rfl

theorem step_takes (p : Printer) (step : Step) {s : State} (h : Steady s) :
    Takes s.ruling.state.isOpen (step.draw p s).1 (step.draw p s).2.ruling.state.isOpen ∧
      Steady (step.draw p s).2 := by
  cases step with
  | line l => exact drawNext_takes p l h
  | finish => exact ⟨(drawEnd_takes s).1, Or.inl (drawEnd_takes s).2⟩

/-! ## Sessions -/

theorem drawSteps_takes (p : Printer) (steps : List Step) {s : State} (h : Steady s) :
    Takes s.ruling.state.isOpen (drawSteps p steps s).1
      (drawSteps p steps s).2.ruling.state.isOpen := by
  induction steps generalizing s with
  | nil => exact .nil _
  | cons step r ih =>
    obtain ⟨takes, steady⟩ := step_takes p step h
    exact takes.append (ih steady)

theorem session_takes (p : Printer) (steps : List Step) :
    Takes false (session p steps).1 (session p steps).2.ruling.state.isOpen :=
  drawSteps_takes p steps (s := .initial p) (Or.inl rfl)

/-- No table is open where a session has just ended a document. -/
theorem session_finish_closed (p : Printer) (steps : List Step) :
    openAfter false (session p (steps ++ [.finish])).1 = false := by
  rw [(session_takes p _).ends]
  rw [session_append, drawSteps_cons]
  show ((drawEnd (session p steps).2).2.ruling.state.isOpen) = false
  rw [(drawEnd_takes _).2]
  rfl

/-- **Tables are bracketed.** Every instruction of a document and of a session finds the table as
it needs it: edges and rules open and close in turn, rows end between rules just while a table is
open, and what has no table, the closing of the document included, is drawn outside one. No table
is open where a document ends, wherever a session ends it. -/
theorem tables_bracketed (p : Printer) :
    (∀ document, ∃ body, program p document = body ++ [.close] ∧
      Bracketed false (body ++ [.close]) ∧ openAfter false body = false) ∧
    ∀ steps, Bracketed false (session p steps).1 ∧
      ∀ before after, steps = before ++ .finish :: after →
        ∃ rest, (session p steps).1 = (session p (before ++ [.finish])).1 ++ rest ∧
          openAfter false (session p (before ++ [.finish])).1 = false := by
  constructor
  · intro document
    refine ⟨.open p :: (session p (documentSteps document)).1, program_eq p document, ?_⟩
    have closed : openAfter false (session p (documentSteps document)).1 = false := by
      rw [documentSteps, session_finish_closed]
    have steps : Takes false (session p (documentSteps document)).1 false :=
      ⟨(session_takes p _).bracketed, closed⟩
    have body : Takes false (.open p :: (session p (documentSteps document)).1) false :=
      .cons trivial steps
    have closing : Takes false [.close] false := .cons rfl (.nil _)
    exact ⟨(body.append closing).bracketed, body.ends⟩
  · intro steps
    refine ⟨(session_takes p steps).bracketed, ?_⟩
    rintro before after rfl
    have split : (session p (before ++ .finish :: after)).1 =
        (session p (before ++ [.finish])).1
          ++ (drawSteps p after (session p (before ++ [.finish])).2).1 := by
      rw [List.append_cons before, session_append]
    exact ⟨_, split, session_finish_closed p before⟩

end Receipt.Page
