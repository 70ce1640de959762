import Receipt.Proofs.Page.Paper
import Receipt.Proofs.Page.Rows

/-!
# The edges of a table and the rows they border

An edge is drawn before the row below it is, and lines after the row above it; its widths come from
what the machine remembers. `lastRow` and `nextWidths` read the rows between rules off the
instructions themselves. While a table is open the machine remembers the last of these rows if it
remembers any columns at all (`Tracks`); it remembers none after a line of text of which no column
is printed, and then the next edge is divided in no way.
-/

namespace Receipt.Page

open Drawing (Op Program)
open Layout (Placement Row)
open Markup (Column State)
open Ruling (Edges)

/-! ## Rows between rules -/

/-- The widths of a row between rules, which the row has with its rules. -/
def ruledWidths? : Op → Option (List Nat)
  | .vr widths _ => some widths
  | _ => none

/-- The area in force, and the place of the last row between rules. -/
structure Ground where
  area : Edges := {}
  row : Option Edges := none
  deriving DecidableEq, Repr

def Ground.step (g : Ground) : Op → Ground
  | .area left width right => { g with area := { left, width, right } }
  | .vr widths _ => { g with row := some { g.area with widths } }
  | _ => g

/-- The last row between rules. -/
def lastRow (p : Program) : Option Edges := (p.foldl Ground.step {}).row

/-- The widths of the next row between rules. -/
def nextWidths (p : Program) : Option (List Nat) := p.findSome? ruledWidths?

/-! ## Edges -/

/-- The widths of an edge that are those of the row above it. -/
def aboveWidths? : Op → Option (List Nat)
  | .vrStop widths | .vrHr widths _ _ _ => some widths
  | _ => none

/-- The widths of an edge that are those of the row below it. -/
def belowWidths? : Op → Option (List Nat)
  | .vrStart widths | .vrHr _ widths _ _ => some widths
  | _ => none

/-- An edge below a row has its widths, and the bottom edge has its area as well, which is taken
two instructions earlier. -/
def MatchesAbove (before : Program) : Op → Prop
  | .vrStop widths => ∃ row ∈ lastRow before,
      row.widths = widths ∧ [.area row.left row.width row.right, .align 0] <:+ before
  | .vrHr widths _ _ _ => ∃ row ∈ lastRow before, row.widths = widths
  | _ => True

/-- An edge above a row has its widths. -/
def MatchesBelow (after : Program) (op : Op) : Prop :=
  ∀ widths ∈ belowWidths? op, nextWidths after = some widths

/-! ## Reading rows on -/

theorem Ground.step_row {op : Op} (h : ruledWidths? op = none) (g : Ground) :
    (g.step op).row = g.row := by
  cases op with
  | vr widths height => cases h
  | _ => rfl

theorem Ground.foldl_row {p : Program} (h : ∀ op ∈ p, ruledWidths? op = none) (g : Ground) :
    (p.foldl Ground.step g).row = g.row := by
  induction p generalizing g with
  | nil => rfl
  | cons op r ih =>
    rw [List.foldl_cons, ih fun x hx => h x (List.mem_cons_of_mem _ hx)]
    exact Ground.step_row (h op List.mem_cons_self) g

/-- Instructions without a row between rules leave the last such row what it was. -/
theorem lastRow_append {p : Program} (h : ∀ op ∈ p, ruledWidths? op = none) (before : Program) :
    lastRow (before ++ p) = lastRow before := by
  rw [lastRow, List.foldl_append]
  exact Ground.foldl_row h _

theorem nextWidths_append {p : Program} {widths : List Nat} (h : nextWidths p = some widths)
    (q : Program) : nextWidths (p ++ q) = some widths := by
  rw [nextWidths] at h ⊢
  rw [List.findSome?_append, h]
  rfl

/-- The last row is one of the rows. -/
theorem ruledWidths_of_lastRow {p : Program} {row : Edges} (h : lastRow p = some row) :
    ∃ op ∈ p, ruledWidths? op = some row.widths := by
  have reading (g : Ground) (hg : (p.foldl Ground.step g).row = some row) :
      g.row = some row ∨ ∃ op ∈ p, ruledWidths? op = some row.widths := by
    clear h
    induction p generalizing g with
    | nil => exact Or.inl hg
    | cons op r ih =>
      rcases ih (g.step op) hg with here | ⟨x, hx, widths⟩
      · cases op with
        | vr widths height =>
          obtain rfl := Option.some.inj here
          exact Or.inr ⟨_, List.mem_cons_self, rfl⟩
        | _ => exact Or.inl here
      · exact Or.inr ⟨x, List.mem_cons_of_mem _ hx, widths⟩
  exact (reading {} h).resolve_left (Option.some_ne_none row ∘ Eq.symm)

/-! ## Parts of a program -/

/-- Instructions, after others, whose edges have the widths of the rows they border where they have
any widths; their rows between rules have some. -/
inductive Joined : Program → Program → Prop
  | nil (before : Program) : Joined before []
  | cons {before r : Program} {op : Op} :
    (aboveWidths? op ≠ some [] → MatchesAbove before op) →
    (belowWidths? op ≠ some [] → MatchesBelow r op) → ruledWidths? op ≠ some [] →
    Joined (before ++ [op]) r → Joined before (op :: r)

section
variable {before p q : Program}

theorem MatchesBelow.append {op : Op} (h : MatchesBelow p op) (q : Program) :
    MatchesBelow (p ++ q) op := fun widths hw => nextWidths_append (h widths hw) q

theorem Joined.append (hp : Joined before p) (hq : Joined (before ++ p) q) :
    Joined before (p ++ q) := by
  induction hp with
  | nil before => rwa [List.append_nil] at hq
  | cons above below ruled _ ih =>
    refine .cons above (fun h => (below h).append q) ruled (ih ?_)
    rwa [List.append_assoc]

theorem Joined.at {after : Program} {op : Op} (h : Joined before (p ++ op :: after)) :
    (aboveWidths? op ≠ some [] → MatchesAbove (before ++ p) op) ∧
      (belowWidths? op ≠ some [] → MatchesBelow after op) ∧ ruledWidths? op ≠ some [] := by
  induction p generalizing before with
  | nil =>
    obtain _ | ⟨above, below, ruled, _⟩ := h
    rw [List.append_nil]
    exact ⟨above, below, ruled⟩
  | cons x r ih =>
    obtain _ | ⟨_, _, _, rest⟩ := h
    rw [List.append_cons]
    exact ih rest

theorem joined_flatMap {α : Type} {f : α → Program} {l : List α}
    (h : ∀ a ∈ l, ∀ before, Joined before (f a)) : Joined before (l.flatMap f) := by
  induction l generalizing before with
  | nil => exact .nil before
  | cons a r ih =>
    exact (h a List.mem_cons_self before).append (ih fun x hx => h x (List.mem_cons_of_mem _ hx))

/-- Instructions that are neither an edge nor the rules of a row. -/
structure IsBare (op : Op) : Prop where
  above : aboveWidths? op = none
  below : belowWidths? op = none
  ruled : ruledWidths? op = none

theorem isBare_of_plain {op : Op} (h : IsPlain op) : IsBare op := by
  cases op <;> first | exact ⟨rfl, rfl, rfl⟩ | exact h.elim

/-- What has no widths matches anything. -/
theorem matchesAbove_of_none {op : Op} (h : aboveWidths? op = none) : MatchesAbove before op := by
  cases op with
  | vrStop widths => cases h
  | vrHr widths below left right => cases h
  | _ => trivial

theorem matchesBelow_of_none {op : Op} (h : belowWidths? op = none) : MatchesBelow p op := by
  intro widths hw
  rw [h] at hw
  cases hw

theorem Joined.bare {op : Op} (h : IsBare op) (hr : Joined (before ++ [op]) p) :
    Joined before (op :: p) :=
  .cons (fun _ => matchesAbove_of_none h.above) (fun _ => matchesBelow_of_none h.below)
    (by simp [h.ruled]) hr

theorem joined_of_bare (h : ∀ op ∈ p, IsBare op) : Joined before p := by
  induction p generalizing before with
  | nil => exact .nil before
  | cons op r ih =>
    exact .bare (h op List.mem_cons_self) (ih fun x hx => h x (List.mem_cons_of_mem _ hx))

theorem joined_of_plain (h : ∀ op ∈ p, IsPlain op) : Joined before p :=
  joined_of_bare fun op hop => isBare_of_plain (h op hop)

theorem lastRow_append_plain (h : ∀ op ∈ p, IsPlain op) (before : Program) :
    lastRow (before ++ p) = lastRow before :=
  lastRow_append (fun op hop => (isBare_of_plain (h op hop)).ruled) before

end

/-! ## Rows -/

section
variable {placement : Placement}

/-- A row between rules, cut where its widths are told. -/
theorem drawRow_ruled (placement : Placement) (border : Nat) (rows : List (List Row)) (j : Nat) :
    ∃ height cells, (∀ op ∈ cells, IsPlain op) ∧
      drawRow placement true border rows j =
        areaAt placement.edges ++ .normal :: .absolute 0 :: .vr placement.edges.widths height ::
          (cells ++ [.vrLf true]) := by
  let cells := rows.map fun column => column[j]?
  let printed := drawCells border 1 ((placement.columns.map Layout.Placed.width).zip cells)
  refine ⟨ruleHeight cells, printed, isPlain_drawCells border 1 _, ?_⟩
  simp only [drawRow, drawRules, if_true, List.append_assoc, List.cons_append, List.nil_append]
  rfl

theorem lastRow_drawRow (before : Program) (border : Nat) (rows : List (List Row)) (j : Nat) :
    lastRow (before ++ drawRow placement true border rows j) = some placement.edges := by
  obtain ⟨height, cells, plain, row⟩ := drawRow_ruled placement border rows j
  have after : ∀ op ∈ cells ++ [.vrLf true], ruledWidths? op = none := by
    intro op hop
    rcases List.mem_append.1 hop with hop | hop
    · exact (isBare_of_plain (plain op hop)).ruled
    · obtain rfl := List.mem_singleton.1 hop
      rfl
  rw [row, lastRow, List.foldl_append, List.foldl_append]
  simp only [List.foldl_cons]
  rw [Ground.foldl_row after]
  rfl

theorem nextWidths_drawRow (border : Nat) (rows : List (List Row)) (j : Nat) :
    nextWidths (drawRow placement true border rows j) = some placement.edges.widths := by
  obtain ⟨height, cells, _, row⟩ := drawRow_ruled placement border rows j
  rw [row]
  rfl

theorem isBare_vrLf (ruled : Bool) : IsBare (.vrLf ruled) := ⟨rfl, rfl, rfl⟩

theorem joined_drawRow (printed : placement.edges.widths ≠ []) (ruled : Bool) (border : Nat)
    (rows : List (List Row)) (j : Nat) (before : Program) :
    Joined before (drawRow placement ruled border rows j) := by
  cases ruled with
  | false =>
    refine ((joined_of_plain ?_).append (joined_of_plain ?_)).append (.bare (isBare_vrLf _) (.nil _))
    · simpa using isPlain_areaAt placement.edges
    · exact isPlain_drawCells _ _ _
  | true =>
    obtain ⟨height, cells, plain, row⟩ := drawRow_ruled placement border rows j
    rw [row]
    refine (joined_of_plain (isPlain_areaAt _)).append ?_
    refine .bare ⟨rfl, rfl, rfl⟩ (.bare ⟨rfl, rfl, rfl⟩ ?_)
    refine .cons (fun _ => trivial) (fun _ => matchesBelow_of_none rfl) ?_ ?_
    · simpa [ruledWidths?] using printed
    · exact (joined_of_plain plain).append (.bare (isBare_vrLf _) (.nil _))

/-- A line of text of which a column is printed has a first row, and a last one. -/
theorem drawRows_eq (p : Printer) (ruled : Bool) (printed : placement.columns ≠ []) :
    ∃ border rows n, drawRows p placement ruled =
      (List.range (n + 1)).flatMap (drawRow placement ruled border rows) := by
  unfold drawRows
  split
  · rename_i none
    exact absurd none printed
  · rename_i first more _
    let rows := placement.columns.map (rowsOf p)
    obtain ⟨n, count⟩ := Nat.exists_eq_add_one.2 (rowCount_pos first.column.wrap rows)
    refine ⟨first.column.border.natAbs, rows, n, ?_⟩
    rw [← count]

/-- The rows of a line between rules are the last rows from then on. -/
theorem lastRow_drawRows (p : Printer) (printed : placement.columns ≠ []) (before : Program) :
    lastRow (before ++ drawRows p placement true) = some placement.edges := by
  obtain ⟨border, rows, n, drawn⟩ := drawRows_eq p true printed
  rw [drawn, List.range_succ, List.flatMap_append, List.flatMap_singleton, ← List.append_assoc]
  exact lastRow_drawRow _ border rows n

theorem nextWidths_drawRows (p : Printer) (printed : placement.columns ≠ []) :
    nextWidths (drawRows p placement true) = some placement.edges.widths := by
  obtain ⟨border, rows, n, drawn⟩ := drawRows_eq p true printed
  rw [drawn, List.range_succ_eq_map, List.flatMap_cons]
  exact nextWidths_append (nextWidths_drawRow border rows 0) _

theorem widths_ne_nil_iff : placement.edges.widths ≠ [] ↔ placement.columns ≠ [] :=
  not_congr List.map_eq_nil_iff

theorem joined_drawRows (p : Printer) (ruled : Bool) (before : Program) :
    Joined before (drawRows p placement ruled) := by
  by_cases printed : placement.columns = []
  · simp only [drawRows, printed]
    exact .nil before
  · obtain ⟨border, rows, n, drawn⟩ := drawRows_eq p ruled printed
    rw [drawn]
    exact joined_flatMap fun j _ =>
      joined_drawRow (widths_ne_nil_iff.2 printed) ruled border rows j

end

/-! ## Lines of text -/

/-- While a table is open, the row that the machine remembers is the last one, unless it has no
columns. -/
def Tracks (before : Program) (r : Ruling) : Prop :=
  r.state.isOpen = true → r.edges.widths ≠ [] → lastRow before = some r.edges

theorem Tracks.append {before p : Program} {r : Ruling} (tracks : Tracks before r)
    (h : ∀ op ∈ p, ruledWidths? op = none) : Tracks (before ++ p) r := by
  intro hopen columns
  rw [lastRow_append h]
  exact tracks hopen columns

theorem tracks_of_closed {before : Program} {r : Ruling} (h : r.state.isOpen = false) :
    Tracks before r := by
  intro hopen
  rw [h] at hopen
  exact Bool.noConfusion hopen

section
variable {before : Program} {r : Ruling}

/-- An edge at the left of its area, with what comes after it. -/
theorem joined_edge {e : Edges} {edge : Op} {rest : Program}
    (above : aboveWidths? edge ≠ some [] → MatchesAbove (before ++ areaAt e) edge)
    (below : belowWidths? edge ≠ some [] → MatchesBelow rest edge) (ruled : ruledWidths? edge = none)
    (after : ∀ before, Joined before rest) : Joined before (areaAt e ++ edge :: rest) :=
  (joined_of_plain (isPlain_areaAt e)).append
    (.cons above below (by simp [ruled]) (after _))

/-- The edges of a line of text come right before its rows. -/
theorem joined_drawText (p : Printer) (placement : Placement) (tracks : Tracks before r) :
    Joined before (drawText p placement r).1 := by
  obtain ⟨state, edges⟩ := r
  rw [drawText_eq]
  have rows (ruled : Bool) (last : Op) (bare : IsBare last) (before : Program) :
      Joined before (last :: drawRows p placement ruled) :=
    .bare bare (joined_drawRows p ruled _)
  have below (last : Op) (bare : IsBare last) (printed : placement.edges.widths ≠ []) :
      nextWidths (last :: drawRows p placement true) = some placement.edges.widths := by
    rw [nextWidths, List.findSome?_cons, bare.ruled]
    exact nextWidths_drawRows p (widths_ne_nil_iff.1 printed)
  cases state with
  | waiting | running => exact joined_drawRows p _ before
  | ready =>
    refine joined_edge ?_ ?_ rfl (rows true (.vrLf true) (isBare_vrLf true))
    · intro _
      trivial
    · intro columns widths hw
      obtain rfl := Option.some.inj hw
      exact below _ (isBare_vrLf true) (mt (congrArg some) columns)
  | horizontal =>
    have bare : IsBare .lf := ⟨rfl, rfl, rfl⟩
    refine joined_edge ?_ ?_ rfl (rows true .lf bare)
    · intro columns
      refine ⟨edges, ?_, rfl⟩
      rw [lastRow_append_plain (isPlain_areaAt _)]
      exact tracks rfl (mt (congrArg some) columns)
    · intro columns widths hw
      obtain rfl := Option.some.inj hw
      exact below _ bare (mt (congrArg some) columns)

/-- After a line of text the machine remembers the row that was drawn last, if one was drawn. -/
theorem tracks_drawText (p : Printer) (placement : Placement) (before : Program) (r : Ruling) :
    Tracks (before ++ (drawText p placement r).1) (drawText p placement r).2 := by
  rw [drawText_eq]
  intro hopen printed
  rw [show (r.state.step .text).1.isOpen = true from hopen, ← List.append_assoc]
  exact lastRow_drawRows p (widths_ne_nil_iff.1 printed) _

/-! ## Events -/

theorem ruledWidths_drawEffect (cpl : Nat) (last current : Edges) (e : Ruling.Effect) :
    ∀ op ∈ drawEffect cpl last current e, ruledWidths? op = none := by
  cases e <;> simp [drawEffect, areaAt, ruledWidths?]

theorem ruledWidths_applyEvent (cpl : Nat) (current : Edges) (r : Ruling) (e : Ruling.Event) :
    ∀ op ∈ (applyEvent cpl current r e).1, ruledWidths? op = none := by
  intro op hop
  obtain ⟨x, _, hop⟩ := List.mem_flatMap.1 hop
  exact ruledWidths_drawEffect cpl r.edges current x op hop

/-- A bottom edge is as wide as the last row, and in its area. -/
theorem joined_drawEffect {cpl : Nat} {last current : Edges} {x : Ruling.Effect}
    (notText : x ≠ .open ∧ x ≠ .tieIn)
    (row : x = .close → last.widths ≠ [] → lastRow before = some last) :
    Joined before (drawEffect cpl last current x) := by
  cases x with
  | «open» => exact absurd rfl notText.1
  | tieIn => exact absurd rfl notText.2
  | divider =>
    refine (joined_of_plain (isPlain_areaAt current)).append ?_
    exact .bare ⟨rfl, rfl, rfl⟩ (.bare ⟨rfl, rfl, rfl⟩ (.nil _))
  | cut => exact .bare ⟨rfl, rfl, rfl⟩ (.nil _)
  | close =>
    refine joined_edge ?_ ?_ rfl fun _ => .bare (isBare_vrLf false) (.nil _)
    · intro columns
      refine ⟨last, ?_, rfl, before ++ [.normal], by simp [areaAt]⟩
      rw [lastRow_append_plain (isPlain_areaAt last)]
      exact row rfl (mt (congrArg some) columns)
    · intro _
      exact matchesBelow_of_none rfl

theorem joined_applyEvent {e : Ruling.Event} (cpl : Nat) (current : Edges) (he : e ≠ .text)
    (tracks : Tracks before r) : Joined before (applyEvent cpl current r e).1 := by
  have effect (x : Ruling.Effect) (hx : x ∈ (r.state.step e).2) {before : Program}
      (tracks : Tracks before r) : Joined before (drawEffect cpl r.edges current x) := by
    have notText : x ≠ .open ∧ x ≠ .tieIn := by
      rw [← not_or]
      intro edge
      exact he (text_of_effect hx edge)
    refine joined_drawEffect notText ?_
    intro close
    exact tracks (isOpen_of_effect hx (Or.inl close))
  show Joined before ((r.state.step e).2.flatMap (drawEffect cpl r.edges current))
  revert effect
  generalize (r.state.step e).2 = effects
  intro effect
  -- no effect draws a row, so that the machine still tracks the last row at the next effect
  induction effects generalizing before with
  | nil => exact .nil before
  | cons x effects ih =>
    have later := tracks.append (ruledWidths_drawEffect cpl r.edges current x)
    exact (effect x List.mem_cons_self tracks).append (ih later fun y hy => effect y (.tail x hy))

/-- Events other than text leave the last row, and what the machine remembers of it. -/
theorem Tracks.event (tracks : Tracks before r) {e : Ruling.Event} (cpl : Nat) (current : Edges)
    (he : e ≠ .text) :
    Tracks (before ++ (applyEvent cpl current r e).1) (applyEvent cpl current r e).2 := by
  intro hopen columns
  exact tracks.append (ruledWidths_applyEvent cpl current r e) (isOpen_of_step he hopen) columns

theorem joined_applyEvents {es : List Ruling.Event} (cpl : Nat) (current : Edges)
    (hes : .text ∉ es) (tracks : Tracks before r) :
    Joined before (applyEvents cpl current r es).1 ∧
      Tracks (before ++ (applyEvents cpl current r es).1) (applyEvents cpl current r es).2 := by
  induction es generalizing before r with
  | nil =>
    rw [applyEvents_nil, List.append_nil]
    exact ⟨.nil before, tracks⟩
  | cons e es ih =>
    rw [List.mem_cons, not_or] at hes
    have he : e ≠ .text := Ne.symm hes.1
    obtain ⟨rest, after⟩ := ih hes.2 (tracks.event cpl current he)
    rw [applyEvents_cons, ← List.append_assoc]
    exact ⟨(joined_applyEvent cpl current he tracks).append rest, after⟩

end

/-! ## Lines -/

section
variable {before : Program}

theorem joined_textPart (p : Printer) (placement : Placement) (isText : Bool) {r : Ruling}
    (tracks : Tracks before r) :
    Joined before (textPart p placement isText r).1 ∧
      Tracks (before ++ (textPart p placement isText r).1) (textPart p placement isText r).2 := by
  cases isText with
  | false =>
    refine ⟨.nil before, ?_⟩
    simpa [textPart] using tracks
  | true => exact ⟨joined_drawText p placement tracks, tracks_drawText p placement before r⟩

/-- **A line draws edges like the rows they border,** and the machine remembers the row it was to
draw last. -/
theorem drawNext_joined (p : Printer) (line : List Char) {s : State}
    (tracks : Tracks before s.ruling) :
    Joined before (drawNext p line s).1 ∧
      Tracks (before ++ (drawNext p line s).1) (drawNext p line s).2.ruling := by
  obtain ⟨first, more, columns, _⟩ := Markup.readLine_first line s
  have ruling := Markup.readLine_ruling line s
  simp only [drawNext, columns, drawLine_cons, ruling]
  generalize (first :: more).all Column.isText = isText
  generalize placed p (first :: more) = placement
  obtain ⟨text, tracks⟩ := joined_textPart p placement isText tracks
  obtain ⟨rules, tracks⟩ :=
    joined_applyEvents p.cpl placement.edges (text_not_mem_eventsOf first) tracks
  have content := isPlain_contentPart placement isText first
  rw [List.append_assoc] at tracks
  refine ⟨(text.append rules).append (joined_of_plain content), ?_⟩
  rw [← List.append_assoc]
  exact tracks.append fun op hop => (isBare_of_plain (content op hop)).ruled

theorem drawEnd_joined {s : State} (tracks : Tracks before s.ruling) :
    Joined before (drawEnd s).1 ∧ Tracks (before ++ (drawEnd s).1) (drawEnd s).2.ruling := by
  have he : Ruling.Event.finish ≠ .text := by simp
  exact ⟨joined_applyEvent 0 s.ruling.edges he tracks, tracks.event 0 s.ruling.edges he⟩

theorem step_joined (p : Printer) (step : Step) {s : State} (tracks : Tracks before s.ruling) :
    Joined before (step.draw p s).1 ∧
      Tracks (before ++ (step.draw p s).1) (step.draw p s).2.ruling := by
  cases step with
  | line l => exact drawNext_joined p l tracks
  | finish => exact drawEnd_joined tracks

theorem drawSteps_joined (p : Printer) (steps : List Step) {s : State}
    (tracks : Tracks before s.ruling) :
    Joined before (drawSteps p steps s).1 ∧
      Tracks (before ++ (drawSteps p steps s).1) (drawSteps p steps s).2.ruling := by
  induction steps generalizing before s with
  | nil =>
    refine ⟨.nil before, ?_⟩
    simpa [drawSteps] using tracks
  | cons step r ih =>
    obtain ⟨here, tracks⟩ := step_joined p step tracks
    obtain ⟨rest, tracks⟩ := ih tracks
    rw [drawSteps_cons]
    refine ⟨here.append rest, ?_⟩
    rwa [List.append_assoc] at tracks

end

theorem program_joined (p : Printer) (document : List Char) : Joined [] (program p document) := by
  rw [program_eq]
  have closed : Tracks [.open p] (State.initial p).ruling := tracks_of_closed rfl
  have steps := (drawSteps_joined p (documentSteps document) closed).1
  exact (Joined.bare ⟨rfl, rfl, rfl⟩ steps).append (.bare ⟨rfl, rfl, rfl⟩ (.nil _))

/-! ## Edges without columns -/

/-- An edge with columns, or no edge. -/
def IsDivided (op : Op) : Prop := aboveWidths? op ≠ some [] ∧ belowWidths? op ≠ some []

theorem isDivided_of_plain {op : Op} (h : IsPlain op) : IsDivided op := by
  obtain ⟨above, below, _⟩ := isBare_of_plain h
  simp [IsDivided, above, below]

theorem isDivided_drawRows (p : Printer) (placement : Placement) (ruled : Bool) :
    ∀ op ∈ drawRows p placement ruled, IsDivided op := by
  intro op hop
  rcases mem_drawRows hop with area | ⟨_, height, rules⟩ | inner | rfl
  · exact isDivided_of_plain (isPlain_areaAt _ op area)
  · simp only [drawRules, List.mem_cons, List.not_mem_nil, or_false] at rules
    rcases rules with rfl | rfl | rfl <;> simp [IsDivided, aboveWidths?, belowWidths?]
  · exact isDivided_of_plain (isPlain_of_inner inner)
  · simp [IsDivided, aboveWidths?, belowWidths?]

theorem isDivided_drawEffect {cpl : Nat} {last current : Edges} {x : Ruling.Effect}
    (above : x = .close ∨ x = .tieIn → last.widths ≠ [])
    (below : x = .open ∨ x = .tieIn → current.widths ≠ []) :
    ∀ op ∈ drawEffect cpl last current x, IsDivided op := by
  cases x with
  | «open» =>
    have := below (Or.inl rfl)
    simpa [drawEffect, areaAt, IsDivided, aboveWidths?, belowWidths?]
  | tieIn =>
    have := below (Or.inr rfl)
    have := above (Or.inr rfl)
    simp [drawEffect, areaAt, IsDivided, aboveWidths?, belowWidths?, *]
  | close =>
    have := above (Or.inl rfl)
    simpa [drawEffect, areaAt, IsDivided, aboveWidths?, belowWidths?]
  | divider => simp [drawEffect, areaAt, IsDivided, aboveWidths?, belowWidths?]
  | cut => simp [drawEffect, IsDivided, aboveWidths?, belowWidths?]

/-- What the machine remembers of an open table has columns. -/
def Remembers (r : Ruling) : Prop := r.state.isOpen = true → r.edges.widths ≠ []

section
variable {r : Ruling}

theorem isDivided_applyEvent (cpl : Nat) (current : Edges) (e : Ruling.Event)
    (remembers : Remembers r)
    (columns : e = .text → (r.state.step e).1.isOpen = true → current.widths ≠ []) :
    ∀ op ∈ (applyEvent cpl current r e).1, IsDivided op := by
  intro op hop
  obtain ⟨x, hx, hop⟩ := List.mem_flatMap.1 hop
  refine isDivided_drawEffect ?_ ?_ op hop
  · intro edge
    exact remembers (isOpen_of_effect hx edge)
  · intro edge
    obtain rfl := text_of_effect hx edge
    refine columns rfl ?_
    obtain ⟨state, edges⟩ := r
    cases state with
    | waiting | running => cases hx
    | ready | horizontal => rfl

theorem isDivided_applyEvents (cpl : Nat) (current : Edges) {es : List Ruling.Event}
    (hes : .text ∉ es) (remembers : Remembers r) :
    (∀ op ∈ (applyEvents cpl current r es).1, IsDivided op) ∧
      Remembers (applyEvents cpl current r es).2 := by
  induction es generalizing r with
  | nil => exact ⟨by simp, remembers⟩
  | cons e es ih =>
    rw [List.mem_cons, not_or] at hes
    have he : e ≠ .text := Ne.symm hes.1
    obtain ⟨rest, after⟩ := ih (r := (applyEvent cpl current r e).2) hes.2
      fun hopen => remembers (isOpen_of_step he hopen)
    rw [applyEvents_cons]
    have here := isDivided_applyEvent cpl current e remembers fun text => absurd text he
    exact ⟨List.forall_mem_append.2 ⟨here, rest⟩, after⟩

theorem isDivided_textPart (p : Printer) {placement : Placement} {isText : Bool}
    (remembers : Remembers r)
    (kept : isText = true → (r.state.step .text).1.isOpen = true → placement.columns ≠ []) :
    (∀ op ∈ (textPart p placement isText r).1, IsDivided op) ∧
      Remembers (textPart p placement isText r).2 := by
  cases isText with
  | false => exact ⟨by simp [textPart], remembers⟩
  | true =>
    have columns (hopen : (r.state.step .text).1.isOpen = true) : placement.edges.widths ≠ [] :=
      widths_ne_nil_iff.2 (kept rfl hopen)
    simp only [textPart, if_true, drawText_eq]
    have edges := isDivided_applyEvent p.cpl _ .text remembers fun _ => columns
    exact ⟨List.forall_mem_append.2 ⟨edges, isDivided_drawRows p placement _⟩, columns⟩

end

/-- A line of text prints a row if a table is open for it. -/
def KeepsRow (p : Printer) (line : List Char) (s : State) : Prop :=
  (Markup.readLine line s).1.all Column.isText = true →
    (s.ruling.state.step .text).1.isOpen = true → (placed p (Markup.readLine line s).1).columns ≠ []

instance (p : Printer) (line : List Char) (s : State) : Decidable (KeepsRow p line s) :=
  inferInstanceAs (Decidable ((Markup.readLine line s).1.all Column.isText = true →
    (s.ruling.state.step .text).1.isOpen = true →
      (placed p (Markup.readLine line s).1).columns ≠ []))

theorem isDivided_drawNext {p : Printer} {line : List Char} {s : State}
    (remembers : Remembers s.ruling) (keeps : KeepsRow p line s) :
    (∀ op ∈ (drawNext p line s).1, IsDivided op) ∧ Remembers (drawNext p line s).2.ruling := by
  obtain ⟨first, more, columns, _⟩ := Markup.readLine_first line s
  have ruling := Markup.readLine_ruling line s
  rw [KeepsRow, columns] at keeps
  simp only [drawNext, columns, drawLine_cons, ruling]
  generalize (first :: more).all Column.isText = isText at keeps
  generalize placed p (first :: more) = placement at keeps
  obtain ⟨text, after⟩ := isDivided_textPart p remembers keeps
  obtain ⟨rules, after⟩ :=
    isDivided_applyEvents p.cpl placement.edges (text_not_mem_eventsOf first) after
  have content : ∀ op ∈ contentPart placement isText first, IsDivided op := by
    intro op hop
    exact isDivided_of_plain (isPlain_contentPart _ _ _ op hop)
  exact ⟨List.forall_mem_append.2 ⟨List.forall_mem_append.2 ⟨text, rules⟩, content⟩, after⟩

theorem isDivided_drawSteps {p : Printer} {lines : List (List Char)} {s : State}
    (remembers : Remembers s.ruling) (keeps : ∀ r ∈ readings p lines s, KeepsRow p r.1 r.2) :
    ∀ op ∈ (drawSteps p (lines.map .line ++ [.finish]) s).1, IsDivided op := by
  induction lines generalizing s with
  | nil =>
    show ∀ op ∈ (drawEnd s).1 ++ [], IsDivided op
    rw [List.append_nil]
    exact isDivided_applyEvent 0 _ .finish remembers (by simp)
  | cons line r ih =>
    obtain ⟨here, rest⟩ := List.forall_mem_cons.1 keeps
    obtain ⟨divided, remembers⟩ := isDivided_drawNext remembers here
    rw [List.map_cons, List.cons_append, drawSteps_cons]
    exact List.forall_mem_append.2 ⟨divided, ih remembers rest⟩

theorem isDivided_program {p : Printer} {document : List Char}
    (keeps : ∀ r ∈ readings p (linesOf document) (.initial p), KeepsRow p r.1 r.2) :
    ∀ op ∈ program p document, IsDivided op := by
  rw [program_eq]
  have opening : IsDivided (.open p) := isDivided_of_plain trivial
  have steps := isDivided_drawSteps (fun hopen => Bool.noConfusion hopen) keeps
  refine List.forall_mem_append.2 ⟨List.forall_mem_cons.2 ⟨opening, steps⟩, ?_⟩
  simp [IsDivided, aboveWidths?, belowWidths?]

/-! ## Edges and their rows -/

theorem Joined.ruled {before p : Program} (h : Joined before p) :
    ∀ op ∈ p, ruledWidths? op ≠ some [] := by
  intro op hop
  obtain ⟨front, back, rfl⟩ := List.append_of_mem hop
  exact h.at.2.2

theorem lastRow_ne_nil {p : Program} (h : ∀ op ∈ p, ruledWidths? op ≠ some []) {row : Edges}
    (last : lastRow p = some row) : row.widths ≠ [] := by
  intro none
  obtain ⟨op, hop, widths⟩ := ruledWidths_of_lastRow last
  exact h op hop (none ▸ widths)

/-- Edges that match a row have columns, since rows between rules have. -/
theorem Joined.match_iff {before after : Program} {op : Op}
    (h : Joined [] (before ++ op :: after)) :
    (MatchesAbove before op ↔ aboveWidths? op ≠ some []) ∧
      (MatchesBelow after op ↔ belowWidths? op ≠ some []) := by
  obtain ⟨above, below, _⟩ := h.at
  obtain ⟨ruledBefore, ruledAfter⟩ := List.forall_mem_append.1 h.ruled
  refine ⟨⟨?_, above⟩, ⟨?_, below⟩⟩
  · intro matched none
    have row : ∃ row ∈ lastRow before, row.widths = [] := by
      cases op with
      | vrStop widths =>
        obtain rfl := Option.some.inj none
        obtain ⟨row, last, widths, _⟩ := matched
        exact ⟨row, last, widths⟩
      | vrHr widths below left right =>
        obtain rfl := Option.some.inj none
        exact matched
      | _ => cases none
    obtain ⟨row, last, none⟩ := row
    exact lastRow_ne_nil ruledBefore last none
  · intro matched none
    obtain ⟨x, hx, widths⟩ := List.exists_of_findSome?_eq_some (matched [] none)
    exact ruledAfter x (List.mem_cons_of_mem _ hx) widths

/-- **An edge of a table matches the row it borders just if it has columns,** and every edge has if
the lines of text in open tables print their rows. While a table is open, the machine remembers the
last row between rules just if what it remembers has columns. -/
theorem edges_match_iff (p : Printer) :
    (∀ document before op after, program p document = before ++ op :: after →
      (MatchesAbove before op ↔ aboveWidths? op ≠ some []) ∧
        (MatchesBelow after op ↔ belowWidths? op ≠ some [])) ∧
    (∀ document, (∀ r ∈ readings p (linesOf document) (.initial p), KeepsRow p r.1 r.2) →
      ∀ before op after, program p document = before ++ op :: after →
        MatchesAbove before op ∧ MatchesBelow after op) ∧
    ∀ steps, (session p steps).2.ruling.state.isOpen = true →
      (lastRow (session p steps).1 = some (session p steps).2.ruling.edges ↔
        (session p steps).2.ruling.edges.widths ≠ []) := by
  have joined {document : List Char} {before after : Program} {op : Op}
      (drawn : program p document = before ++ op :: after) : Joined [] (before ++ op :: after) := by
    rw [← drawn]
    exact program_joined p document
  refine ⟨?_, ?_, ?_⟩
  · intro document before op after drawn
    exact (joined drawn).match_iff
  · intro document keeps before op after drawn
    have hop : op ∈ program p document := by
      rw [drawn]
      exact List.mem_append_right _ List.mem_cons_self
    obtain ⟨above, below⟩ := isDivided_program keeps op hop
    exact ⟨(joined drawn).match_iff.1.2 above, (joined drawn).match_iff.2.2 below⟩
  · intro steps hopen
    have closed : Tracks [] (State.initial p).ruling := tracks_of_closed rfl
    obtain ⟨joined, tracks⟩ := drawSteps_joined p steps closed
    exact ⟨lastRow_ne_nil joined.ruled, tracks hopen⟩

/-- A table of two rows with a rule between them, and its edges. -/
theorem edges_match_table :
    (program .narrow "{border:line}\n|Tea|4.50|\n---\n|Cake|".toList).filterMap aboveWidths? =
        [[14, 15], [30]] ∧
      ∀ before op after,
        program .narrow "{border:line}\n|Tea|4.50|\n---\n|Cake|".toList = before ++ op :: after →
          MatchesAbove before op ∧ MatchesBelow after op :=
  ⟨by decide +kernel, (edges_match_iff .narrow).2.1 _ (by decide +kernel)⟩

/-- **A line of which nothing is printed takes the columns from the bottom edge:** below a row of
two columns it has no widths. -/
theorem unprinted_line_takes_columns :
    ∃ before after,
      program .wide "{border:line}\n|a|b|\n{width:0}\nx".toList =
          before ++ .vrStop [] :: after ∧
        lastRow before = some ⟨0, 48, 0, [22, 23]⟩ ∧ ¬MatchesAbove before (.vrStop []) := by
  have edge : ∃ before after,
      program .wide "{border:line}\n|a|b|\n{width:0}\nx".toList =
          before ++ .vrStop [] :: after ∧
        lastRow before = some ⟨0, 48, 0, [22, 23]⟩ :=
    ⟨(program .wide "{border:line}\n|a|b|\n{width:0}\nx".toList).take 24,
      (program .wide "{border:line}\n|a|b|\n{width:0}\nx".toList).drop 25,
      by decide +kernel, by decide +kernel⟩
  obtain ⟨before, after, drawn, last⟩ := edge
  have joined := program_joined .wide "{border:line}\n|a|b|\n{width:0}\nx".toList
  rw [drawn] at joined
  exact ⟨before, after, drawn, last, fun matched => joined.match_iff.1.1 matched rfl⟩

end Receipt.Page
