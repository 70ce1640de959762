import Receipt.Proofs.Layout.Wrap
import Receipt.Proofs.Page.Line
import Receipt.Proofs.Page.Session

/-!
# Offsets are margins

The only offsets in the program of a document are the margins in front of its rows, so no offset
leads back (`program_forward`).
-/

namespace Receipt.Page

open Drawing (Op Program)
open Layout (Placement Row marginOf)
open Markup (Column State)
open Ruling (Edges)

/-- Every offset is the margin of a row. -/
def Margined (p : Program) : Prop :=
  ∀ offset, .relative offset ∈ p → ∃ space align, offset = marginOf space align

/-! ## Programs without offsets -/

theorem Margined.nil : Margined [] := fun _ h => absurd h List.not_mem_nil

theorem Margined.append {p q : Program} (hp : Margined p) (hq : Margined q) : Margined (p ++ q) :=
  fun offset h => (List.mem_append.1 h).elim (hp offset) (hq offset)

theorem Margined.flatMap {α : Type} {xs : List α} {f : α → Program} (h : ∀ x ∈ xs, Margined (f x)) :
    Margined (xs.flatMap f) := by
  intro offset hop
  obtain ⟨x, hx, hop⟩ := List.mem_flatMap.1 hop
  exact h x hx offset hop

theorem margined_of_none {p : Program} (h : ∀ offset, .relative offset ∉ p) : Margined p :=
  fun offset hop => absurd hop (h offset)

theorem margined_drawEffect (cpl : Nat) (last current : Edges) (e : Ruling.Effect) :
    Margined (drawEffect cpl last current e) := by
  cases e <;> exact margined_of_none (by simp [drawEffect, areaAt])

theorem margined_applyEvent (cpl : Nat) (current : Edges) (r : Ruling) (e : Ruling.Event) :
    Margined (applyEvent cpl current r e).1 :=
  .flatMap fun effect _ => margined_drawEffect cpl r.edges current effect

theorem margined_applyEvents (cpl : Nat) (current : Edges) (r : Ruling) (es : List Ruling.Event) :
    Margined (applyEvents cpl current r es).1 := by
  induction es generalizing r with
  | nil => exact .nil
  | cons e es ih =>
    rw [applyEvents_cons]
    exact (margined_applyEvent cpl current r e).append (ih _)

theorem margined_contentPart (placement : Placement) (isText : Bool) (first : Column) :
    Margined (contentPart placement isText first) := by
  unfold contentPart drawContent
  split
  · exact .nil
  · split
    · exact .nil
    · rename_i op hcontent
      have content := isContent_of_content? hcontent
      refine margined_of_none fun offset hop => ?_
      simp only [List.mem_cons, reduceCtorEq, List.not_mem_nil, or_false, false_or] at hop
      subst hop
      exact content

/-! ## Rows -/

theorem margined_drawRun (run : Layout.Run) : Margined (drawRun run) := by
  refine margined_of_none fun offset hop => ?_
  simp [drawRun, decorate] at hop

theorem margined_drawCell {position : Nat} {row : Option Row}
    (h : ∀ r ∈ row, ∃ space align, r.margin = marginOf space align) :
    Margined (drawCell position row) := by
  cases row with
  | none => exact margined_of_none (by simp [drawCell])
  | some row =>
    intro offset hop
    simp only [drawCell, List.mem_cons, reduceCtorEq, false_or] at hop
    rcases hop with same | hop
    · rw [Op.relative.inj same]
      exact h row rfl
    · exact Margined.flatMap (fun run _ => margined_drawRun run) offset hop

theorem margined_drawCells {border position : Nat} {cells : List (Nat × Option Row)}
    (h : ∀ c ∈ cells, ∀ r ∈ c.2, ∃ space align, r.margin = marginOf space align) :
    Margined (drawCells border position cells) := by
  induction cells generalizing position with
  | nil => exact .nil
  | cons cell r ih =>
    obtain ⟨first, rest⟩ := List.forall_mem_cons.1 h
    exact (margined_drawCell first).append (ih rest)

/-- The margin of a row is made of the cells it leaves. -/
theorem margin_rowsOf {p : Printer} {c : Layout.Placed} :
    ∀ row ∈ rowsOf p c, ∃ space align, row.margin = marginOf space align := by
  intro row hrow
  unfold rowsOf at hrow
  split at hrow
  · obtain ⟨space, -, margin⟩ := Layout.wrap_sound _ _ _ _ row hrow
    exact ⟨space, _, margin⟩
  · cases hrow

theorem margined_drawRow (p : Printer) (placement : Placement) (ruled : Bool) (border j : Nat) :
    Margined (drawRow placement ruled border (placement.columns.map (rowsOf p)) j) := by
  have cells : ∀ c ∈ (placement.columns.map Layout.Placed.width).zip
      ((placement.columns.map (rowsOf p)).map fun column => column[j]?),
      ∀ r ∈ c.2, ∃ space align, r.margin = marginOf space align := by
    intro c hc r hr
    obtain ⟨rows, hrows, eq⟩ := List.mem_map.1 (List.of_mem_zip hc).2
    obtain ⟨placed, -, rfl⟩ := List.mem_map.1 hrows
    exact margin_rowsOf r (List.mem_of_getElem? (eq.trans hr))
  unfold drawRow
  refine Margined.append (.append (.append ?_ ?_) (margined_drawCells cells)) ?_
  · exact margined_of_none (by simp [areaAt])
  · split
    · exact margined_of_none (by simp [drawRules])
    · exact .nil
  · exact margined_of_none (by simp)

theorem margined_drawRows (p : Printer) (placement : Placement) (ruled : Bool) :
    Margined (drawRows p placement ruled) := by
  unfold drawRows
  split
  · exact .nil
  · exact .flatMap fun j _ => margined_drawRow p placement ruled _ j

/-! ## Documents -/

theorem margined_textPart (p : Printer) (placement : Placement) (isText : Bool) (r : Ruling) :
    Margined (textPart p placement isText r).1 := by
  cases isText with
  | false => exact .nil
  | true =>
    simp only [textPart, if_true, drawText_eq]
    exact (margined_applyEvent _ _ _ _).append (margined_drawRows p placement _)

theorem margined_drawLine (p : Printer) (columns : List Column) (s : State) :
    Margined (drawLine p columns s).1 := by
  cases columns with
  | nil => exact .nil
  | cons first more =>
    rw [drawLine_cons]
    exact ((margined_textPart _ _ _ _).append (margined_applyEvents _ _ _ _)).append
      (margined_contentPart _ _ _)

theorem margined_drawSteps (p : Printer) (steps : List Step) (s : State) :
    Margined (drawSteps p steps s).1 := by
  induction steps generalizing s with
  | nil => exact .nil
  | cons step r ih =>
    have first : Margined (step.draw p s).1 := by
      cases step with
      | line l => exact margined_drawLine p _ _
      | finish => exact margined_applyEvent 0 _ _ _
    exact first.append (ih _)

/-- **Offsets of a document are margins,** and so never lead back. -/
theorem program_forward {p : Printer} {document : List Char} {offset : Number.Binary}
    (h : .relative offset ∈ program p document) : offset.negative = false := by
  have margined : Margined (program p document) := by
    rw [program_eq]
    have steps := margined_drawSteps p (documentSteps document) (.initial p)
    have opening : Margined [.open p] := margined_of_none (by simp)
    have closing : Margined [.close] := margined_of_none (by simp)
    exact (opening.append steps).append closing
  obtain ⟨space, align, rfl⟩ := margined offset h
  rfl

end Receipt.Page
