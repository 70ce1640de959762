import Receipt.Proofs.Page.Failing
import Receipt.Proofs.Page.Offsets
import Receipt.Proofs.Wire.Drawing

/-!
# Programs replayed

A program that is written as text, read back and carried out by a recording device is recorded as it
was, instruction by instruction, except for offsets that their tenths do not bring back.
-/

namespace Receipt.Drawing

open Number (Survives fromTenths)
open Page (Device)
open Text (CodePage)

/-- What is recorded of a program that is given as text: the instructions and the fault. -/
def replay (page : CodePage) (text : List Char) : Option (Array Op × Option Fault) :=
  ((Json.read? text).bind Program.ofJson?).map fun p => (Device.recording.carryOut page).play p #[]

/-- The text of a program, compact or with one entry per line. -/
def Program.IsText (p : Program) (text : List Char) : Prop :=
  text = (Program.toJson p).compact ∨ text = (Program.toJson p).pretty 0

/-- An instruction comes back as it was unless it is an offset that does not survive. -/
theorem Op.reread_eq_iff {op : Op} (halves : ∀ offset, op = .relative offset → IsHalves offset) :
    op.reread = op ↔ ∀ negative k, op = .relative ⟨negative, (k : Nat) / 2⟩ → Survives k := by
  cases op with
  | relative offset =>
    obtain ⟨negative, size⟩ := offset
    obtain ⟨k, hk, rfl⟩ : ∃ k : Nat, k < 2 ^ 53 ∧ size = k / 2 := halves _ rfl
    have back := Number.fromTenths_eq_iff hk
    simp only [reread, Op.relative.injEq, Number.Binary.mk.injEq, true_and, back]
    constructor
    · rintro survives _ m ⟨-, same⟩
      have : k = m := by
        have : (k : Rat) = m := (div_left_inj' (by norm_num)).1 same
        exact_mod_cast this
      exact this ▸ survives
    · intro all
      exact all negative k ⟨rfl, rfl⟩
  | _ => exact iff_of_true rfl fun _ _ => nofun

theorem Program.reread_eq_iff {p : Program}
    (halves : ∀ offset, .relative offset ∈ p → IsHalves offset) :
    p.map Op.reread = p ↔ ∀ negative k, .relative ⟨negative, (k : Nat) / 2⟩ ∈ p → Survives k := by
  have self := List.map_eq_map_iff (f := Op.reread) (g := id) (l := p)
  rw [List.map_id] at self
  rw [self]
  constructor
  · intro same negative k hop
    have own := Op.reread_eq_iff fun offset eq => halves offset (eq ▸ hop)
    exact own.1 (same _ hop) negative k rfl
  · intro all op hop
    have own := Op.reread_eq_iff fun offset eq => halves offset (eq ▸ hop)
    exact own.2 fun negative k eq => all negative k (eq ▸ hop)

theorem replay_text {p : Program} {text : List Char} (ht : p.IsText text)
    (fits : ∀ op ∈ p, op.Fits) (halves : ∀ offset, .relative offset ∈ p → IsHalves offset)
    (page : CodePage) : replay page text = some ((p.map Op.reread).toArray, none) := by
  obtain ⟨compact, pretty⟩ := Program.read?_text fits halves
  rcases ht with rfl | rfl
  · rw [replay, compact, Option.map_some, Page.play_recording]
  · rw [replay, pretty, Option.map_some, Page.play_recording]

/-- **A program replays as itself just if its offsets survive.** -/
theorem replay_iff {p : Program} {text : List Char} (ht : p.IsText text)
    (fits : ∀ op ∈ p, op.Fits) (halves : ∀ offset, .relative offset ∈ p → IsHalves offset)
    (page : CodePage) :
    replay page text = some ((p.map Op.reread).toArray, none) ∧
      (replay page text = some (p.toArray, none) ↔
        ∀ negative k, .relative ⟨negative, (k : Nat) / 2⟩ ∈ p → Survives k) ∧
      ∀ printer document offset, .relative offset ∈ Page.program printer document →
        offset.negative = false := by
  have replayed := replay_text ht fits halves page
  refine ⟨replayed, ?_, fun _ _ _ => Page.program_forward⟩
  rw [replayed, ← Program.reread_eq_iff halves]
  simp

/-- A program of instructions of all shapes, two offsets among them, that replays as itself. -/
theorem replay_iff_shapes :
    let form : Bars.Form :=
      { widths := [20, 2, 4], length := 26, height := 72, hri := some "A\n".toList,
        text := ['A'], check := some (.code93 46 3) }
    let p : Program :=
      [.open .narrow, .area 1 46 1, .align 1, .absolute 3, .relative ⟨true, (3 : Nat) / 2⟩,
        .relative ⟨false, (0 : Nat) / 2⟩, .vr [] 1, .vrHr [22, 23] [46] (-1) 2, .wh 3,
        .text "\"é\\".toList, .vrLf true, .qrCode ⟨['Q'], .m, 3, false⟩,
        .barcode { data := ['A'], symbology := .code93, quietZone := true } form, .cut, .close]
    (∀ op ∈ p, op.Fits) ∧ (∀ offset, .relative offset ∈ p → IsHalves offset) ∧
      replay .cp932 ((Program.toJson p).pretty 0) = some (p.toArray, none) := by
  intro form p
  have offsets : ∀ offset, .relative offset ∈ p →
      offset = ⟨true, (3 : Nat) / 2⟩ ∨ offset = ⟨false, (0 : Nat) / 2⟩ := by
    intro offset hop
    simpa only [p, List.mem_cons, reduceCtorEq, Op.relative.injEq, List.not_mem_nil, or_false,
      false_or] using hop
  have fits : ∀ op ∈ p, op.Fits := by
    have printer : Printer.narrow.Fits := by constructor <;> decide
    have check : ∀ c ∈ some (Bars.Check.code93 46 3), c.Fits := fun c hc =>
      Option.some.inj hc ▸ ⟨by decide, by decide⟩
    have drawn : form.Fits := ⟨by decide, by decide, by decide, check⟩
    have asked : Bars.Symbol.Fits { data := ['A'], symbology := .code93, quietZone := true } :=
      ⟨by decide, by decide⟩
    have code : Matrix.Symbol.Fits ⟨['Q'], .m, 3, false⟩ := by unfold Matrix.Symbol.Fits; decide
    simp [p, Op.Fits, FitAll, printer, drawn, asked, code]
  have halves : ∀ offset, .relative offset ∈ p → IsHalves offset := by
    intro offset hop
    rcases offsets offset hop with rfl | rfl
    · exact ⟨3, by norm_num, rfl⟩
    · exact ⟨0, by norm_num, rfl⟩
  refine ⟨fits, halves, (replay_iff (.inr rfl) fits halves .cp932).2.1.2 fun negative k hop => ?_⟩
  have few : (k : Rat) / 2 ≤ (3 : Nat) / 2 := by
    rcases offsets _ hop with same | same
    · exact (congrArg Number.Binary.size same).le
    · exact (congrArg Number.Binary.size same).le.trans (by norm_num)
  have few : k ≤ 3 := by
    have := (div_le_div_iff_of_pos_right (by norm_num : (0 : Rat) < 2)).1 few
    exact_mod_cast this
  exact .inl (by omega)

/-- **Half a cell comes back an eighth of a cell further on** where ten times the offset takes more
than 53 binary digits. -/
theorem half_comes_back_off :
    let p : Program := [.relative ⟨false, 1801439850948199 / 2⟩]
    (∀ op ∈ p, op.Fits) ∧ (∀ offset, .relative offset ∈ p → IsHalves offset) ∧
      replay .cp437 (Program.toJson p).compact =
        some (#[.relative ⟨false, 1801439850948199 / 2 + 1 / 8⟩], none) ∧
      replay .cp437 (Program.toJson p).compact ≠ some (p.toArray, none) := by
  refine ⟨?_, ?_, ?_, ?_⟩
  · simp [Op.Fits]
  · intro offset hop
    obtain rfl := Op.relative.inj (List.mem_singleton.1 hop)
    exact ⟨1801439850948199, by norm_num, rfl⟩
  · decide +kernel
  · decide +kernel

end Receipt.Drawing
