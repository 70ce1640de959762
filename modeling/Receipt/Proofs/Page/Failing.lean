import Receipt.Page.Device
import Receipt.Proofs.Page.Session

/-!
# What a failing device has done

A document is one program for every sink (`print_eq_play`), and a program ends with the first call
that fails. So a device that fails at the `n`-th call has carried out the instructions before the
`n`-th and is not called again, however these are spread over the lines of the document.
-/

namespace Receipt.Page

open Drawing (Op Program)
open Device (Counted recording)
open Text (CodePage)

section
variable {σ : Type}

/-! ## One call -/

theorem failing_fails (d : Device σ) (page : CodePage) (op : Op) (i : Nat) (s : σ) :
    (d.failing i).carryOut page op ⟨i, s⟩ = (⟨i + 1, s⟩, some (.sink op.name)) := by
  rw [Device.failing, Device.carryOut_around, Device.unlessNth, if_pos rfl]

theorem failing_passes (d : Device σ) (page : CodePage) (op : Op) {n i : Nat} (h : i ≠ n) (s : σ) :
    (d.failing n).carryOut page op ⟨i, s⟩ =
      (⟨i + 1, (d.carryOut page op s).1⟩, (d.carryOut page op s).2) := by
  rw [Device.failing, Device.carryOut_around, Device.unlessNth, if_neg h]

/-! ## A program -/

/-- The sink never fails. -/
def Sink.IsSound (k : Sink σ) : Prop := ∀ op s, (k op s).2 = none

theorem play_cons_of_sound {k : Sink σ} (sound : k.IsSound) (op : Op) (r : Program) (s : σ) :
    k.play (op :: r) s = k.play r (k op s).1 := by
  have quiet := sound op s
  simp only [Sink.play, Act.andThen]
  generalize k op s = result at quiet
  obtain ⟨s, fault⟩ := result
  obtain rfl : fault = none := quiet
  rfl

/-- **A device that fails after `m` calls more** has carried out the `m` instructions to come, if
there are so many, and no other. -/
theorem play_failing {d : Device σ} {page : CodePage} (sound : (d.carryOut page).IsSound)
    (m : Nat) (p : Program) (i : Nat) (s : σ) :
    ((d.failing (i + m)).carryOut page).play p ⟨i, s⟩ =
      match p[m]? with
      | some op =>
        (⟨i + m + 1, ((d.carryOut page).play (p.take m) s).1⟩, some (.sink op.name))
      | none => (⟨i + p.length, ((d.carryOut page).play p s).1⟩, none) := by
  induction p generalizing m i s with
  | nil => rfl
  | cons op r ih =>
    cases m with
    | zero =>
      rw [Sink.play_cons, Act.andThen, Nat.add_zero, failing_fails]
      rfl
    | succ m =>
      have here : i ≠ i + (m + 1) := by omega
      have rest := ih m (i + 1) (d.carryOut page op s).1
      rw [show i + 1 + m = i + (m + 1) by omega] at rest
      rw [Sink.play_cons, Act.andThen, failing_passes d page op here, sound op s]
      simp only [rest, List.getElem?_cons_succ, List.take_succ_cons, play_cons_of_sound sound,
        List.length_cons, Nat.add_assoc, Nat.add_comm 1]

end

/-! ## A document -/

theorem recording_isSound (page : CodePage) : (recording.carryOut page).IsSound := by
  rw [Device.carryOut_recording]
  exact fun _ _ => rfl

theorem play_recording (page : CodePage) (p : Program) :
    (recording.carryOut page).play p #[] = (p.toArray, none) := by
  rw [Device.carryOut_recording, play_recorder, Array.empty_append]

/-- A sink that fails once its record has `n` instructions is the recording device that fails at the
`n`-th call. -/
theorem play_failingAt (n : Nat) (page : CodePage) (p : Program) (s : Array Op) :
    (failingAt n).play p s =
      ((((recording.failing n).carryOut page).play p ⟨s.size, s⟩).1.state,
        (((recording.failing n).carryOut page).play p ⟨s.size, s⟩).2) := by
  induction p generalizing s with
  | nil => rfl
  | cons op r ih =>
    rw [Sink.play_cons, Sink.play_cons, Act.andThen, Act.andThen, failingAt]
    by_cases last : s.size = n
    · rw [if_pos last, last, failing_fails]
    · rw [if_neg last, failing_passes recording page op last, Device.carryOut_recording]
      have rest := ih (s.push op)
      rw [Array.size_push] at rest
      exact rest

/-- **A device that fails leaves exactly the instructions before the failure.** A recording device
is given the program of the document. One that fails at the `n`-th call ends the document there, if
the program has such an instruction, with the name of the method that failed; it has then been
called for no instruction after that one, and once for each before. If the program is shorter, the
document is printed as if nothing could fail. The sink that fails by the size of its record does the
same. -/
theorem failing_leaves_prefix (n : Nat) (p : Printer) (document : List Char) :
    let full := program p document
    print (recording.carryOut p.page) p document #[] = (full.toArray, none) ∧
      print ((recording.failing n).carryOut p.page) p document ⟨0, #[]⟩ =
        (match full[n]? with
        | some op => (⟨n + 1, (full.take n).toArray⟩, some (.sink op.name))
        | none => (⟨full.length, full.toArray⟩, none)) ∧
      print (failingAt n) p document #[] =
        match full[n]? with
        | some op => ((full.take n).toArray, some (.sink op.name))
        | none => (full.toArray, none) := by
  intro full
  have failing := play_failing (recording_isSound p.page) n full 0 #[]
  simp only [play_recording, Nat.zero_add] at failing
  refine ⟨?_, ?_, ?_⟩
  · rw [print_eq_play, play_recording]
  · rw [print_eq_play]
    exact failing
  · rw [print_eq_play, play_failingAt n p.page]
    simp only [Array.size_empty]
    rw [failing]
    cases full[n]? <;> rfl

/-- A line without text: the opening, then its area, which fails. -/
example : print ((recording.failing 2).carryOut .cp437) .wide [] ⟨0, #[]⟩ =
    (⟨3, #[.open .wide, .normal]⟩, some (.sink "area".toList)) := by
  decide +kernel

end Receipt.Page
