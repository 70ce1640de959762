import Receipt.Proofs.Markup.Faults
import Receipt.Proofs.Page.Line

/-!
# What is printed of a line at fault

A line whose columns at fault have a brace in their text is printed as if these columns were empty,
and the others keep their text. A block at fault takes the whole line with it: a line with a block
is no text, so that nothing of it is printed and no table goes on (`faults_local_iff`).
-/

namespace Receipt.Page

open Drawing (Op Program)
open Layout (Placement)
open Markup (Column HasBlock Payload State readBeside readLine)

/-! ## When nothing is drawn -/

theorem drawRow_ne_nil (placement : Placement) (ruled : Bool) (border : Nat)
    (rows : List (List Layout.Row)) (j : Nat) : drawRow placement ruled border rows j ≠ [] := by
  simp [drawRow]

/-- A line of text prints a row if one of its columns is placed. -/
theorem drawRows_eq_nil_iff (p : Printer) (placement : Placement) (ruled : Bool) :
    drawRows p placement ruled = [] ↔ placement.columns = [] := by
  unfold drawRows
  split
  · rename_i none
    simp [none]
  · rename_i first more columns
    simp only [columns, List.flatMap_eq_nil_iff, List.mem_range, reduceCtorEq, iff_false, not_forall]
    exact ⟨0, rowCount_pos _ _, drawRow_ne_nil _ _ _ _ 0⟩

theorem drawEffect_ne_nil (cpl : Nat) (last current : Ruling.Edges) (e : Ruling.Effect) :
    drawEffect cpl last current e ≠ [] := by
  cases e <;> simp [drawEffect]

/-- Text draws an edge of a table if it is the first of its table or comes after a rule. -/
theorem applyEvent_text_eq_nil_iff (cpl : Nat) (current : Ruling.Edges) (r : Ruling) :
    (applyEvent cpl current r .text).1 = [] ↔ r.state = .waiting ∨ r.state = .running := by
  obtain ⟨state, edges⟩ := r
  have one (e : Ruling.Effect) : [e].flatMap (drawEffect cpl edges current) ≠ [] := by
    simpa using drawEffect_ne_nil cpl edges current e
  cases state with
  | waiting => exact ⟨fun _ => Or.inl rfl, fun _ => rfl⟩
  | ready => exact ⟨fun none => absurd none (one .open), by simp⟩
  | running => exact ⟨fun _ => Or.inr rfl, fun _ => rfl⟩
  | horizontal => exact ⟨fun none => absurd none (one .tieIn), by simp⟩

theorem drawText_eq_nil_iff (p : Printer) (placement : Placement) (r : Ruling) :
    (drawText p placement r).1 = [] ↔
      placement.columns = [] ∧ (r.state = .waiting ∨ r.state = .running) := by
  rw [drawText_eq, List.append_eq_nil_iff, applyEvent_text_eq_nil_iff, drawRows_eq_nil_iff, and_comm]

/-! ## Lines of columns -/

/-- A line of text without a mark and without a change of the border. -/
theorem drawLine_text {p : Printer} {first : Column} {more : List Column} (s : State)
    (isText : (first :: more).all Column.isText = true) (quiet : eventsOf first = []) :
    (drawLine p (first :: more) s).1 =
      (drawText p (placed p (first :: more)) s.ruling).1 := by
  rw [drawLine_cons]
  simp only [isText, quiet, textPart, contentPart, applyEvents_nil, if_true, Bool.true_or,
    List.append_nil]

/-- A line that is no text, has no mark and no change of the border, and nothing to print alone. -/
theorem drawLine_nothing {p : Printer} {first : Column} {more : List Column} (s : State)
    (isText : (first :: more).all Column.isText = false) (quiet : eventsOf first = [])
    (content : content? first.payload = none) : drawLine p (first :: more) s = ([], s) := by
  rw [drawLine_events p s isText content, quiet]
  rfl

theorem eventsOf_text {first : Column} (isText : first.isText = true) (toggle : first.toggle = none) :
    eventsOf first = [] := by
  rw [eventsOf_isText isText, toggle]
  rfl

/-- A column among others brings about no event, and prints nothing alone. -/
theorem readBeside_quiet (s : State) (index : Nat) (raw : List Char) :
    eventsOf (readBeside s index raw) = [] ∧ content? (readBeside s index raw).payload = none := by
  have toggle := Markup.readBeside_toggle s index raw
  by_cases block : (Markup.Block.inner? (Text.trim raw)).isSome = true
  · have settings := Markup.readBeside_block block s index
    rw [eventsOf, settings, toggle]
    exact ⟨rfl, rfl⟩
  · have isText := (Markup.readBeside_text block s index).1
    refine ⟨eventsOf_text isText toggle, ?_⟩
    unfold Column.isText at isText
    cases payload : (readBeside s index raw).payload <;> rw [payload] at isText <;>
      first | rfl | cases isText

/-- An emptied line is a line of text. -/
theorem drawLine_emptied {p : Printer} {first : Column} {more : List Column} (s : State)
    (rest : ∀ c ∈ first :: more, c.fault = none → c.isText = true) (toggle : first.toggle = none) :
    (drawLine p ((first :: more).map Column.emptied) s).1 =
      (drawText p (placed p ((first :: more).map Column.emptied)) s.ruling).1 := by
  have text : ∀ c ∈ (first :: more).map Column.emptied, c.isText = true :=
    List.forall_mem_map.2 fun c hc => Markup.emptied_isText (rest c hc)
  have quiet : eventsOf first.emptied = [] :=
    eventsOf_text (text _ List.mem_cons_self) ((Markup.emptied_toggle first).trans toggle)
  exact drawLine_text s (List.all_eq_true.2 text) quiet

/-- **Which faults stay in their column.** Of a line of two or more columns, text where they are not
at fault, the instructions are those of the line with its columns at fault emptied just if none of
its columns is a block, or if the emptied line has nothing to print either. With a block, nothing is
printed and no settings change. -/
theorem faults_local_iff (p : Printer) (line : List Char) (s : State) {columns : List Column}
    {t : State} (read : readLine line s = (columns, t)) (two : 2 ≤ columns.length)
    (rest : ∀ c ∈ columns, c.fault = none → c.isText = true) :
    ((drawLine p columns t).1 = (drawLine p (columns.map Column.emptied) t).1 ↔
      ¬HasBlock line ∨
        (placed p (columns.map Column.emptied)).columns = [] ∧
          (t.ruling.state = .waiting ∨ t.ruling.state = .running)) ∧
      (HasBlock line → drawLine p columns t = ([], t)) := by
  have columns_eq : (readLine line s).1 = columns := congrArg Prod.fst read
  rcases Markup.readLine_cases (columns_eq ▸ two) with ⟨noBlock, text⟩ | ⟨block, raw, more, lined, noText⟩
  · -- every fault is a brace in text, and its column is empty as it is
    rw [columns_eq] at text
    rw [Markup.map_emptied_eq_self fun c hc => (text c hc).2]
    exact ⟨iff_of_true rfl (Or.inl noBlock), fun block => absurd block noBlock⟩
  · obtain ⟨rfl, rfl⟩ := Prod.mk.inj (read.symm.trans lined)
    obtain ⟨quiet, content⟩ := readBeside_quiet t 0 raw
    have nothing := drawLine_nothing (p := p) t noText quiet content
    refine ⟨?_, fun _ => nothing⟩
    rw [nothing, drawLine_emptied t rest (Markup.readBeside_toggle t 0 raw), eq_comm,
      drawText_eq_nil_iff]
    exact ⟨Or.inr, fun none => none.resolve_left fun noBlock => noBlock block⟩

/-- A brace in the second of two columns: the first is printed as beside an empty column. -/
theorem faults_local_brace :
    ∃ columns t, readLine "Tea|\x7b4.50".toList (.initial .wide) = (columns, t) ∧
      2 ≤ columns.length ∧ (∃ c ∈ columns, c.fault.isSome = true) ∧
      (∀ c ∈ columns, c.fault = none → c.isText = true) ∧
      (drawLine .wide columns t).1 = (drawLine .wide (columns.map Column.emptied) t).1 := by
  have two : 2 ≤ (readLine "Tea|\x7b4.50".toList (.initial .wide)).1.length := by decide +kernel
  have rest : ∀ c ∈ (readLine "Tea|\x7b4.50".toList (.initial .wide)).1,
      c.fault = none → c.isText = true := by decide +kernel
  have here := faults_local_iff .wide "Tea|\x7b4.50".toList (.initial .wide) rfl two rest
  exact ⟨_, _, rfl, two, by decide +kernel, rest, here.1.2 (Or.inl (by decide +kernel))⟩

/-- **A block at fault hides the text beside it.** -/
theorem fault_hides_text :
    ∃ columns t, readLine "a|{b}".toList (.initial .wide) = (columns, t) ∧
      2 ≤ columns.length ∧ (∃ c ∈ columns, c.fault.isSome = true) ∧
      (∀ c ∈ columns, c.fault = none → c.isText = true) ∧
      (drawLine .wide columns t).1 = [] ∧
      .text ['a'] ∈ (drawLine .wide (columns.map Column.emptied) t).1 :=
  ⟨_, _, rfl, by decide +kernel, by decide +kernel, by decide +kernel, by decide +kernel,
    by decide +kernel⟩

end Receipt.Page
