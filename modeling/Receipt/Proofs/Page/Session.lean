import Receipt.Page.Document

/-!
# Sessions

A printer is sent lines one after another, and may be told at any moment that the document ends.
A document is the session of its lines with a single end, the last step of all (`program_eq`); what
every step of a session keeps therefore holds all through a document.
-/

namespace Receipt.Page

open Drawing (Op Program)
open Markup (State)

/-- What a session is made of. -/
inductive Step where
  | line (s : List Char)
  /-- The end of a document -/
  | finish
  deriving DecidableEq, Repr

/-- What a step draws, and the settings after it. -/
def Step.draw (p : Printer) : Step → State → Program × State
  | .line l, s => drawNext p l s
  | .finish, s => drawEnd s

/-- What steps draw in turn, and the settings after them. -/
def drawSteps (p : Printer) : List Step → State → Program × State
  | [], s => ([], s)
  | step :: r, s =>
    let (drawn, s) := step.draw p s
    let (rest, s) := drawSteps p r s
    (drawn ++ rest, s)

/-- A session that starts with the settings of a new document. -/
def session (p : Printer) (steps : List Step) : Program × State :=
  drawSteps p steps (.initial p)

/-- The steps of a document. -/
def documentSteps (document : List Char) : List Step :=
  (linesOf document).map .line ++ [.finish]

/-! ## Running steps -/

theorem drawSteps_cons (p : Printer) (step : Step) (r : List Step) (s : State) :
    drawSteps p (step :: r) s =
      ((step.draw p s).1 ++ (drawSteps p r (step.draw p s).2).1,
        (drawSteps p r (step.draw p s).2).2) := rfl

theorem drawSteps_append (p : Printer) (a b : List Step) (s : State) :
    drawSteps p (a ++ b) s =
      ((drawSteps p a s).1 ++ (drawSteps p b (drawSteps p a s).2).1,
        (drawSteps p b (drawSteps p a s).2).2) := by
  induction a generalizing s with
  | nil => rfl
  | cons step r ih => simp [drawSteps_cons, ih]

theorem session_append (p : Printer) (a b : List Step) :
    session p (a ++ b) =
      ((session p a).1 ++ (drawSteps p b (session p a).2).1,
        (drawSteps p b (session p a).2).2) :=
  drawSteps_append p a b _

/-! ## Documents -/

section
variable {σ : Type}

/-- Lines are printed as the program of their steps, and with no more calls. -/
theorem printLines_eq_play (k : Sink σ) (p : Printer) (lines : List (List Char)) (s : State) :
    printLines k p lines s = k.play (drawSteps p (lines.map .line ++ [.finish]) s).1 := by
  induction lines generalizing s with
  | nil => simp [printLines, drawSteps, Step.draw]
  | cons line r ih =>
    rw [List.map_cons, List.cons_append, drawSteps_cons, Sink.play_append]
    show (k.play (drawNext p line s).1).andThen (printLines k p r (drawNext p line s).2) = _
    rw [ih]
    rfl

theorem print_eq_play_session (k : Sink σ) (p : Printer) (document : List Char) :
    print k p document =
      k.play (.open p :: (session p (documentSteps document)).1 ++ [.close]) := by
  rw [List.cons_append, Sink.play_cons, Sink.play_append, Sink.play_singleton, print, printLines_eq_play,
    documentSteps, session]

/-- **A document is a session** between its opening and its closing. -/
theorem program_eq (p : Printer) (document : List Char) :
    program p document =
      .open p :: (session p (documentSteps document)).1 ++ [.close] := by
  simp [program, print_eq_play_session, play_recorder]

/-- **Every sink is given the same program:** what is recorded is what any sink carries out. -/
theorem print_eq_play (k : Sink σ) (p : Printer) (document : List Char) :
    print k p document = k.play (program p document) := by
  rw [program_eq, print_eq_play_session]

end

end Receipt.Page
