import Mathlib.Algebra.GroupWithZero.Nat
import Receipt.Proofs.Page.Failing

/-!
# Documents one after another

Documents sent through one sink in turn are one program for it, the programs of the documents put
together (`printAll_of_sound`). What is recorded of a document is therefore what is recorded of it
on its own, whatever went before: no table, no border, no width and no decoration is carried over.
-/

namespace Receipt.Page

open Drawing (Op Program)

section
variable {σ : Type} {k : Sink σ}

theorem play_of_sound (sound : k.IsSound) (p : Program) (s : σ) : (k.play p s).2 = none := by
  induction p generalizing s with
  | nil => rfl
  | cons op r ih =>
    rw [play_cons_of_sound sound]
    exact ih _

theorem play_append_of_sound (sound : k.IsSound) (p q : Program) (s : σ) :
    k.play (p ++ q) s = k.play q (k.play p s).1 := by
  have quiet := play_of_sound sound p s
  rw [Sink.play_append, Act.andThen]
  generalize k.play p s = result at quiet
  obtain ⟨s, fault⟩ := result
  obtain rfl : fault = none := quiet
  rfl

/-- A sink that never fails goes on to the next document as the last one left it. -/
theorem printAll_cons_of_sound (sound : k.IsSound) (p : Printer) (document : List Char)
    (r : List (List Char)) (s : σ) :
    printAll k p (document :: r) s =
      k.play (program p document) s :: printAll k p r (k.play (program p document) s).1 := by
  have quiet := play_of_sound sound (program p document) s
  rw [printAll, print_eq_play]
  generalize k.play (program p document) s = result at quiet
  obtain ⟨s, fault⟩ := result
  obtain rfl : fault = none := quiet
  rfl

theorem length_printAll (sound : k.IsSound) (p : Printer) (documents : List (List Char)) (s : σ) :
    (printAll k p documents s).length = documents.length := by
  induction documents generalizing s with
  | nil => rfl
  | cons document r ih => rw [printAll_cons_of_sound sound, List.length_cons, ih, List.length_cons]

/-- **Documents in turn are one program.** After each of them the sink is as if it had carried out
the programs of the documents so far. -/
theorem printAll_of_sound (sound : k.IsSound) (p : Printer) {documents : List (List Char)} {n : Nat}
    (h : n < documents.length) (s : σ) :
    (printAll k p documents s)[n]? =
      some (k.play ((documents.take (n + 1)).flatMap (program p)) s) := by
  induction documents generalizing n s with
  | nil => exact absurd h (Nat.not_lt_zero n)
  | cons document r ih =>
    rw [printAll_cons_of_sound sound]
    cases n with
    | zero => simp
    | succ n =>
      rw [List.getElem?_cons_succ, ih (Nat.lt_of_succ_lt_succ h), List.take_succ_cons,
        List.flatMap_cons, play_append_of_sound sound]

end

theorem recorder_isSound : Sink.IsSound recorder := fun _ _ => rfl

/-- What is recorded when documents have been printed in turn through one sink. -/
def recordOf (p : Printer) (documents : List (List Char)) : Program :=
  (((printAll recorder p documents #[]).getLast?).map fun (ops, _) => ops.toList).getD []

theorem recordOf_eq (p : Printer) (documents : List (List Char)) :
    recordOf p documents = documents.flatMap (program p) := by
  rcases List.eq_nil_or_concat documents with rfl | ⟨earlier, last, rfl⟩
  · rfl
  · have size := length_printAll recorder_isSound p (earlier.concat last) #[]
    have inside : earlier.length < (earlier.concat last).length := by simp
    have final := printAll_of_sound recorder_isSound p inside #[]
    rw [List.length_concat] at size
    rw [recordOf, List.getLast?_eq_getElem?, size, Nat.add_sub_cancel, final,
      List.take_of_length_le (by simp), play_recorder]
    simp

/-- **Documents through one sink do not touch each other.** For each document that has been printed
there is a record and no fault. After each of them the record is what the documents so far give on
their own through a fresh sink, put together, and its length the sum of theirs. So what a document
adds is the same after any earlier documents, and the same as on its own. -/
theorem documents_apart (p : Printer) (documents : List (List Char)) :
    let after := printAll recorder p documents #[]
    after.length = documents.length ∧
      (∀ n < documents.length,
        ∃ ops, after[n]? = some (ops, none) ∧
          ops.toList = (documents.take (n + 1)).flatMap (fun document => recordOf p [document]) ∧
          ops.size = ((documents.take (n + 1)).map fun document =>
            (recordOf p [document]).length).sum) ∧
      ∀ earlier document, recordOf p [document] = program p document ∧
        recordOf p (earlier ++ [document]) = recordOf p earlier ++ recordOf p [document] := by
  intro after
  have alone : (fun document => recordOf p [document]) = program p := by
    funext document
    simp [recordOf_eq]
  refine ⟨length_printAll recorder_isSound p documents #[], ?_, ?_⟩
  · intro n hn
    have recorded := printAll_of_sound recorder_isSound p hn #[]
    rw [play_recorder] at recorded
    refine ⟨_, recorded, ?_, ?_⟩
    · rw [alone]
      simp
    · simp [← alone, List.length_flatMap]
  · intro earlier document
    simp [recordOf_eq]

end Receipt.Page
