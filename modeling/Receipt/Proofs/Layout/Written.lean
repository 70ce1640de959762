import Mathlib.Data.List.Forall2
import Receipt.Proofs.Layout.Wrap

/-!
# What is written is what is printed

The decoration of a text is counted off the segments in front of it (`Decoration.after`): a mark
that is there an odd number of times is on, and the scale is what the carets left. Wrapping prints
every text under this decoration in pieces of its own, in order; the pieces are neighbouring units of
the text, and together they are the units of it that fit a row.
-/

namespace Receipt.Layout

open Markup (Segment)
open Text (CodePage)

/-! ## Decorations as written -/

/-- The scale after a segment. Carets of the scale in force take it back. -/
def scaleAfter (scale : Nat) : Segment → Nat
  | .scale n => if scale = min n 7 then 0 else min n 7
  | _ => scale

/-- The decoration of what comes after these segments. -/
def Decoration.after (before : List Segment) : Decoration where
  underline := before.count .underline % 2 = 1
  emphasis := before.count .emphasis % 2 = 1
  invert := before.count .invert % 2 = 1
  scale := before.foldl scaleAfter 0

/-- One more mark turns an odd number even, and an even one odd. -/
theorem odd_succ (n : Nat) : decide ((n + 1) % 2 = 1) = !decide (n % 2 = 1) := by
  rw [← decide_not, decide_eq_decide]
  omega

theorem after_concat (before : List Segment) (s : Segment) :
    Decoration.after (before ++ [s]) = (Decoration.after before).apply s := by
  simp only [Decoration.after, List.count_append, List.foldl_append]
  cases s with
  | underline | emphasis | invert => simp [Decoration.apply, scaleAfter, odd_succ]
  | text t | scale n | lineBreak => rfl

/-- The texts among segments, each with the decoration that the segments before it give. -/
def writtenTexts (segments : List Segment) : List (Decoration × List Char) :=
  segments.zipIdx.filterMap fun
    | (.text t, i) => some (.after (segments.take i), t)
    | _ => none

theorem decorated_after (before rest : List Segment) :
    decorated (.after before) rest =
      (rest.zipIdx before.length).filterMap fun
        | (.text t, i) => some (.after ((before ++ rest).take i), t)
        | _ => none := by
  induction rest generalizing before with
  | nil => rfl
  | cons s r ih =>
    have next := ih (before ++ [s])
    rw [after_concat, List.append_assoc, List.singleton_append, List.length_append,
      List.length_singleton] at next
    rw [List.zipIdx_cons]
    cases s with
    | text t =>
      rw [List.filterMap_cons_some (b := (Decoration.after before, t)) (by simp), ← next]
      rfl
    | _ => exact next

/-- **The decoration in force is the one that is written.** -/
theorem decorated_eq (segments : List Segment) : decorated {} segments = writtenTexts segments :=
  decorated_after [] segments

/-! ## Texts and their runs -/

/-- A run of neighbouring units of a decorated text. -/
def IsCut (page : CodePage) (text : Decoration × List Char) (run : Run) : Prop :=
  run.decoration = text.1 ∧ ∃ us, us ≠ [] ∧ us <:+: Text.units page text.2 ∧ run.text = us.flatten

/-- Runs that print a decorated text, what does not fit a row aside. -/
structure Prints (page : CodePage) (width : Nat) (text : Decoration × List Char) (runs : List Run) :
    Prop where
  units : printedUnits page runs = (unitsOf page text).filter (fitsRow page width)
  cut : ∀ run ∈ runs, IsCut page text run

section
variable {page : CodePage} {width : Nat}

theorem IsCut.text_ne_nil {text : Decoration × List Char} {run : Run} (h : IsCut page text run) :
    run.text ≠ [] := by
  obtain ⟨-, us, some, infix', eq⟩ := h
  obtain ⟨u, hu⟩ := List.exists_mem_of_ne_nil us some
  rw [eq]
  exact fun none =>
    Text.ne_nil_of_mem_units (infix'.subset hu) (List.flatten_eq_nil_iff.1 none u hu)

/-- The run in progress is cut out of its text. -/
theorem exists_cut_add {d : Decoration} {t : List Char} {before taken behind : List (List Char)}
    (hu : Text.units page t = before ++ taken.reverse ++ behind) (draft : Draft) :
    ∃ runs, (draft.add d taken.reverse).runs = draft.runs ++ runs ∧
      ∀ run ∈ runs, IsCut page (d, t) run := by
  unfold Draft.add
  split
  · exact ⟨[], (List.append_nil _).symm, by simp⟩
  · rename_i some
    refine ⟨[⟨d, taken.reverse.flatten⟩], rfl, List.forall_mem_singleton.2 ⟨rfl, taken.reverse, ?_⟩⟩
    exact ⟨fun none => some (List.isEmpty_iff.2 none), ⟨before, behind, hu.symm⟩, rfl⟩

/-- Laying units adds runs that are cut out of their text. -/
theorem exists_cut_layUnits (width align : Nat) (d : Decoration) {t : List Char}
    (before taken us : List (List Char)) (draft : Draft)
    (hu : Text.units page t = before ++ taken.reverse ++ us) :
    ∃ runs, ((layUnits width align page d taken draft us).1.flatMap Row.runs)
          ++ (layUnits width align page d taken draft us).2.runs = draft.runs ++ runs ∧
      ∀ run ∈ runs, IsCut page (d, t) run := by
  induction us generalizing before taken draft with
  | nil =>
    obtain ⟨runs, closed, cut⟩ := exists_cut_add (d := d) hu draft
    refine ⟨runs, ?_, cut⟩
    simp only [layUnits]
    split_ifs
    · simpa [Draft.finish] using closed
    · exact closed
  | cons u r ih =>
    obtain ⟨runs, closed, cut⟩ := exists_cut_add (d := d) hu draft
    simp only [layUnits]
    split_ifs with fits wide
    · -- the unit joins the run in progress
      exact ih before (u :: taken) { draft with space := draft.space - glyph page d u }
        (by simpa using hu)
    · -- the unit is left out
      obtain ⟨more, laid, cuts⟩ := ih (before ++ taken.reverse ++ [u]) []
        (draft.add d taken.reverse) (by simpa using hu)
      refine ⟨runs ++ more, ?_, List.forall_mem_append.2 ⟨cut, cuts⟩⟩
      rw [laid, closed, List.append_assoc]
    · -- the unit starts a row
      obtain ⟨more, laid, cuts⟩ := ih (before ++ taken.reverse) [u]
        { space := width - glyph page d u } (by simpa using hu)
      refine ⟨runs ++ more, ?_, List.forall_mem_append.2 ⟨cut, cuts⟩⟩
      rw [List.flatMap_cons, List.append_assoc, laid]
      show (draft.add d taken.reverse).runs ++ more = _
      rw [closed, List.append_assoc]

/-- Laying the units of a text prints the text. -/
theorem exists_prints_layUnits (align : Nat) (d : Decoration) (t : List Char) (draft : Draft)
    (hs : draft.space ≤ width) :
    ∃ runs, ((layUnits width align page d [] draft (Text.units page t)).1.flatMap Row.runs)
          ++ (layUnits width align page d [] draft (Text.units page t)).2.runs = draft.runs ++ runs ∧
      Prints page width (d, t) runs := by
  obtain ⟨runs, laid, cut⟩ := exists_cut_layUnits width align d [] [] (Text.units page t) draft rfl
  refine ⟨runs, laid, ?_, cut⟩
  have units := (layUnits_units align d [] [] (Text.units page t) draft rfl hs).1
  rw [laid, printedUnits_append, List.reverse_nil, List.map_nil, List.append_nil] at units
  exact List.append_cancel_left units

theorem exists_prints_wrapFrom (page : CodePage) (align : Nat) (d : Decoration) (draft : Draft)
    (rest : List Segment) (hs : draft.space ≤ width) :
    ∃ pieces : List (List Run),
      (wrapFrom width align page d draft rest).flatMap Row.runs = draft.runs ++ pieces.flatten ∧
        List.Forall₂ (Prints page width) (decorated d rest) pieces := by
  induction rest generalizing d draft with
  | nil =>
    refine ⟨[], ?_, .nil⟩
    simp only [wrapFrom]
    split
    · rename_i none
      rw [List.isEmpty_iff.1 none]
      rfl
    · simp [Draft.finish]
  | cons s r ih =>
    cases s with
    | text t =>
      obtain ⟨runs, laid, prints⟩ := exists_prints_layUnits align d t draft hs
      have space := (layUnits_units align d [] [] (Text.units page t) draft rfl hs).2
      obtain ⟨pieces, rows, more⟩ := ih d _ space
      refine ⟨runs :: pieces, ?_, .cons prints more⟩
      simp only [wrapFrom, List.flatMap_append]
      rw [rows, ← List.append_assoc, laid, List.flatten_cons, List.append_assoc]
    | lineBreak =>
      obtain ⟨pieces, rows, more⟩ := ih d { space := width } (Nat.le_refl width)
      refine ⟨pieces, ?_, more⟩
      simp only [wrapFrom, List.flatMap_cons]
      rw [rows]
      rfl
    | underline => exact ih _ _ hs
    | emphasis => exact ih _ _ hs
    | invert => exact ih _ _ hs
    | scale n => exact ih _ _ hs

/-- What prints texts has no empty run. -/
theorem text_ne_nil_of_prints {texts : List (Decoration × List Char)} {pieces : List (List Run)}
    (h : List.Forall₂ (Prints page width) texts pieces) : ∀ run ∈ pieces.flatten, run.text ≠ [] := by
  induction h with
  | nil => simp
  | cons first _ ih =>
    exact List.forall_mem_append.2 ⟨fun run hrun => (first.cut run hrun).text_ne_nil, ih⟩

end

/-- **Wrapping prints what is written:** every unit that fits a row, once, in order and with the
decoration that the segments before it give. Each text has runs of its own, cut out of it; no run is
empty. -/
theorem wrap_written (segments : List Segment) (width align : Nat) (page : CodePage) :
    printedUnits page ((wrap segments width align page).flatMap Row.runs) =
        ((writtenTexts segments).flatMap (unitsOf page)).filter (fitsRow page width) ∧
      (∃ pieces : List (List Run),
        (wrap segments width align page).flatMap Row.runs = pieces.flatten ∧
          List.Forall₂ (Prints page width) (writtenTexts segments) pieces) ∧
      ∀ row ∈ wrap segments width align page, ∀ run ∈ row.runs, run.text ≠ [] := by
  obtain ⟨pieces, rows, prints⟩ :=
    exists_prints_wrapFrom page align {} { space := width } segments (Nat.le_refl width)
  rw [decorated_eq] at prints
  refine ⟨?_, ⟨pieces, rows, prints⟩, fun row hrow run hrun => ?_⟩
  · rw [wrap_units, decorated_eq]
  · refine text_ne_nil_of_prints prints run ?_
    rw [← show (wrap segments width align page).flatMap Row.runs = pieces.flatten from rows]
    exact List.mem_flatMap.2 ⟨row, hrow, hrun⟩

end Receipt.Layout
