import Receipt.Drawing.Op
import Receipt.Fault

/-!
# Sinks

A sink carries out instructions one at a time, and may fail at one. The first failure ends a
program: no later instruction is carried out.

`Sink.play` is `play` of `ir/dispatch`, and `recorder` keeps what `Recorder` of `sink` keeps.
-/

namespace Receipt.Page

open Drawing (Op Program)

/-- Something done to a state: the state after it, and a fault if it failed. -/
abbrev Act (σ : Type) := σ → σ × Option Fault

/-- One thing after another; the second is not begun if the first fails. -/
def Act.andThen {σ : Type} (a b : Act σ) : Act σ := fun s =>
  match a s with
  | (s, none) => b s
  | (s, some f) => (s, some f)

/-- How one instruction is carried out. -/
abbrev Sink (σ : Type) := Op → Act σ

/-- Carries out a program. -/
def Sink.play {σ : Type} (k : Sink σ) : Program → Act σ
  | [], s => (s, none)
  | op :: r, s => (k op).andThen (k.play r) s

theorem Sink.play_cons {σ : Type} (k : Sink σ) (op : Op) (r : Program) :
    k.play (op :: r) = (k op).andThen (k.play r) := rfl

theorem Sink.play_singleton {σ : Type} (k : Sink σ) (op : Op) : k.play [op] = k op := by
  funext s
  simp only [Sink.play, Act.andThen]
  rcases k op s with ⟨s, _ | f⟩ <;> rfl

theorem Sink.play_append {σ : Type} (k : Sink σ) (p q : Program) :
    k.play (p ++ q) = (k.play p).andThen (k.play q) := by
  funext s
  induction p generalizing s with
  | nil => rfl
  | cons op r ih =>
    simp only [List.cons_append, Sink.play, Act.andThen]
    cases h : k op s with
    | mk s f =>
      cases f with
      | none => exact ih s
      | some f => rfl

/-- Writes down every instruction. -/
def recorder : Sink (Array Op) := fun op s => (s.push op, none)

theorem play_recorder (p : Program) (s : Array Op) :
    Sink.play recorder p s = (s ++ p.toArray, none) := by
  induction p generalizing s with
  | nil => simp [Sink.play]
  | cons op r ih => simp [Sink.play, Act.andThen, recorder, ih]

/-- Writes down instructions up to the `n`-th, counted from zero, and fails at that one. -/
def failingAt (n : Nat) : Sink (Array Op) := fun op s =>
  if s.size = n then (s, some (.sink op.name)) else (s.push op, none)

end Receipt.Page
