import Receipt.Proofs.Markup.Settings
import Receipt.Proofs.Page.Faults
import Receipt.Proofs.Page.Session

/-!
# Lines that do nothing

A comment, an empty block, a block of unknown keys or of malformed members sets nothing and prints
nothing. It is no line of text either, so the ruling is told nothing of it and the place of the last
row stays. Wherever such a line is put in, a session draws the same and goes on from the same
settings (`inert_invisible`).
-/

namespace Receipt.Page

open Markup (Block Column State blockOf? readLine)

/-- The keys of members that set or print something. -/
def activeKeys : List String := Markup.settingKeys ++ ["image", "code", "command"]

/-- A line that is one block and has none of these keys, under their short or their full names. -/
def IsInert (line : List Char) : Prop :=
  ∃ inside, blockOf? line = some inside ∧
    ∀ e ∈ Block.entries inside, ∀ key ∈ activeKeys, e.1 ≠ key.toList

theorem get?_inert {inside : List Char}
    (h : ∀ e ∈ Block.entries inside, ∀ key ∈ activeKeys, e.1 ≠ key.toList) :
    ∀ key ∈ activeKeys, (Block.ofInner inside).get? key = none := by
  intro key hkey
  rw [Block.get?_ofInner]
  exact Block.lastOf_eq_none fun e he => h e he key hkey

/-- A block without an image, a code or a command prints nothing, and is no mark. -/
theorem payload_inert {b : Block} (h : ∀ key ∈ ["image", "code", "command"], b.get? key = none)
    (codes : Markup.CodeStyle) :
    content? (b.payload codes) = none ∧ ∀ m, b.payload codes ≠ .mark m := by
  simp only [List.forall_mem_cons, List.not_mem_nil, false_imp_iff, implies_true, and_true] at h
  obtain ⟨image, code, command⟩ := h
  cases comment : b.get? "comment" <;>
    simp [Block.payload, image, code, command, comment, content?]

/-- **An inert line draws nothing and leaves everything as it was,** the ruling included. -/
theorem drawNext_inert (p : Printer) {line : List Char} (inert : IsInert line) (s : State) :
    drawNext p line s = ([], s) := by
  obtain ⟨inside, block, keys⟩ := inert
  have absent := get?_inert keys
  have kept : s.apply (Block.ofInner inside) = s :=
    Markup.apply_eq_self s fun key hkey => absent key (List.mem_append_left _ hkey)
  have prints := payload_inert (fun key hkey => absent key (List.mem_append_right _ hkey)) s.codes
  obtain ⟨align, read⟩ := Markup.readLine_of_block block s
  simp only [kept, Markup.toggle?_self] at read
  simp only [drawNext, read]
  -- a malformed block carries no payload at all
  split
  · exact drawLine_nothing s rfl rfl rfl
  · refine drawLine_nothing s ?_ ?_ prints.1
    · simp [Column.isText, State.column, Markup.payload_isText]
    · unfold eventsOf
      split
      · rename_i m mark
        exact absurd mark (prints.2 m)
      · rfl

/-- A step that does nothing can be put in anywhere. -/
theorem session_insert (p : Printer) {line : List Char} (inert : IsInert line)
    (before after : List Step) :
    session p (before ++ .line line :: after) = session p (before ++ after) := by
  rw [session_append, session_append, drawSteps_cons]
  simp only [Step.draw, drawNext_inert p inert, List.nil_append]

/-- **Inert lines are invisible.** Put in between any lines of a session that is closed at its end,
such a line changes neither the instructions nor the settings after any later line. -/
theorem inert_invisible (p : Printer) {line : List Char} (inert : IsInert line)
    (before after : List (List Char)) :
    let closed (lines : List (List Char)) := session p (lines.map .line ++ [.finish])
    (closed (before ++ line :: after)).1 = (closed (before ++ after)).1 ∧
      ∀ n, (session p ((before ++ line :: after.take n).map .line)).2 =
        (session p ((before ++ after.take n).map .line)).2 := by
  intro closed
  constructor
  · have inserted := session_insert p inert (before.map .line) (after.map .line ++ [.finish])
    show (session p ((before ++ line :: after).map .line ++ [.finish])).1 =
      (session p ((before ++ after).map .line ++ [.finish])).1
    simp only [List.map_append, List.map_cons, List.append_assoc, List.cons_append, inserted]
  · intro n
    have inserted := session_insert p inert (before.map .line) ((after.take n).map .line)
    simp only [List.map_append, List.map_cons, inserted]

/-- A block of a comment, an unknown key and a malformed member, between a rule and the row below. -/
theorem inert_invisible_tie :
    IsInert "\x7b_: to do; font:b; border\x7d".toList ∧
      (session .wide (["\x7bb:line\x7d", "|a|b|", "---", "\x7b_: to do; font:b; border\x7d",
          "|c|"].map (Step.line ·.toList) ++ [.finish])).1 =
        (session .wide (["\x7bb:line\x7d", "|a|b|", "---",
          "|c|"].map (Step.line ·.toList) ++ [.finish])).1 ∧
      (session .wide (["\x7bb:line\x7d", "|a|b|", "---", "\x7b_: to do; font:b; border\x7d",
          "|c|"].map (Step.line ·.toList))).2 =
        (session .wide (["\x7bb:line\x7d", "|a|b|", "---", "|c|"].map (Step.line ·.toList))).2 := by
  have inert : IsInert "\x7b_: to do; font:b; border\x7d".toList := ⟨_, rfl, by decide⟩
  have same := inert_invisible .wide inert
    ["\x7bb:line\x7d".toList, "|a|b|".toList, "---".toList] ["|c|".toList]
  exact ⟨inert, same.1, same.2 1⟩

end Receipt.Page
