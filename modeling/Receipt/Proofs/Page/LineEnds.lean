import Mathlib.Data.List.Chain
import Receipt.Page.Document

/-!
# Line ends

A line may end in a line feed, a carriage return, or both. Whatever ends its lines have, a document
is read as just these lines (`lines_of_joined`), as long as no lone carriage return comes right in
front of a line feed, which makes one line end of both. The text is composed before it is split;
where it is in composed form, nothing but the mark in front of it gets lost.
-/

namespace Receipt.Page

/-- What a line ends in. -/
inductive LineEnd where
  | lf | crlf | cr
  deriving DecidableEq, Repr

def LineEnd.text : LineEnd → List Char
  | lf => ['\n']
  | crlf => ['\r', '\n']
  | cr => ['\r']

/-- Lines one after another: the first, and each further one with the line end in front of it. -/
def joinLines (line : List Char) : List (LineEnd × List Char) → List Char
  | [] => line
  | (lineEnd, next) :: more => line ++ lineEnd.text ++ joinLines next more

/-- Whether a line is free of line ends. -/
def IsLine (line : List Char) : Prop := '\r' ∉ line ∧ '\n' ∉ line

instance (line : List Char) : Decidable (IsLine line) := inferInstanceAs (Decidable (_ ∧ _))

/-- Whether no lone CR has the LF of the next line end right behind it. -/
def Apart (more : List (LineEnd × List Char)) : Prop :=
  more.IsChain fun one next => one = (.cr, []) → next.1 ≠ .lf

/-! ## Splitting -/

section
variable {c : Char} {line r : List Char}

theorem splitLines_cons (hr : c ≠ '\r') (hn : c ≠ '\n') (r : List Char) :
    splitLines (c :: r) = (c :: (splitLines r).1, (splitLines r).2) := by
  rw [splitLines]
  · simp [hr]
  · simp [hn]
  · simp [hr]

/-- A CR makes one line end with an LF behind it. -/
theorem splitLines_lineEnd (lineEnd : LineEnd) (h : lineEnd = .cr → r.head? ≠ some '\n') :
    splitLines (lineEnd.text ++ r) = ([], (splitLines r).1 :: (splitLines r).2) := by
  cases lineEnd with
  | lf | crlf => rfl
  | cr =>
    cases r with
    | nil => rfl
    | cons c r =>
      have ne : c ≠ '\n' := by simpa using h rfl
      show splitLines ('\r' :: c :: r) = _
      rw [splitLines]
      simpa using ne

theorem splitLines_append (h : IsLine line) (r : List Char) :
    splitLines (line ++ r) = (line ++ (splitLines r).1, (splitLines r).2) := by
  induction line with
  | nil => rfl
  | cons c line ih =>
    simp only [IsLine, List.mem_cons, not_or] at h
    rw [List.cons_append, splitLines_cons (Ne.symm h.1.1) (Ne.symm h.2.1), ih ⟨h.1.2, h.2.2⟩]
    rfl

theorem head?_joinLines {more : List (LineEnd × List Char)} (h : IsLine line)
    (first : line = [] → ∀ next ∈ more.head?, next.1 ≠ .lf) :
    (joinLines line more).head? ≠ some '\n' := by
  cases line with
  | nil =>
    cases more with
    | nil => simp [joinLines]
    | cons next more =>
      obtain ⟨lineEnd, next⟩ := next
      have ne := first rfl _ rfl
      cases lineEnd with
      | lf => exact absurd rfl ne
      | crlf | cr => simp [joinLines, LineEnd.text]
  | cons c line =>
    have ne : c ≠ '\n' := fun hc => h.2 (by simp [hc])
    cases more <;> simpa [joinLines] using ne

/-- **Joined lines are split again.** -/
theorem splitLines_joinLines {line : List Char} {more : List (LineEnd × List Char)}
    (h : IsLine line) (hm : ∀ next ∈ more, IsLine next.2) (apart : Apart more) :
    splitLines (joinLines line more) = (line, more.map Prod.snd) := by
  induction more generalizing line with
  | nil => simpa [joinLines, splitLines] using splitLines_append h []
  | cons next more ih =>
    obtain ⟨lineEnd, next⟩ := next
    rw [List.forall_mem_cons] at hm
    rw [Apart, List.isChain_cons] at apart
    have rest := ih hm.1 hm.2 apart.2
    -- behind a CR comes the next line or, where that is empty, the line end after it
    have ended : lineEnd = .cr → (joinLines next more).head? ≠ some '\n' := by
      rintro rfl
      refine head?_joinLines hm.1 ?_
      rintro rfl following hf
      exact apart.1 following hf rfl
    rw [joinLines, List.append_assoc, splitLines_append h, splitLines_lineEnd lineEnd ended, rest]
    simp

/-- What splitting makes of a text: lines, which the right line ends make into the text again. -/
def Splits (s : List Char) (split : List Char × List (List Char)) : Prop :=
  IsLine split.1 ∧ (∀ line ∈ split.2, IsLine line) ∧
    ∃ more, more.map Prod.snd = split.2 ∧ joinLines split.1 more = s

theorem Splits.lineEnd {split : List Char × List (List Char)} (h : Splits r split)
    (lineEnd : LineEnd) : Splits (lineEnd.text ++ r) ([], split.1 :: split.2) := by
  obtain ⟨line, rest, more, lines, whole⟩ := h
  refine ⟨⟨List.not_mem_nil, List.not_mem_nil⟩, List.forall_mem_cons.2 ⟨line, rest⟩,
    (lineEnd, split.1) :: more, ?_, ?_⟩
  · rw [List.map_cons, lines]
  · rw [joinLines, whole]
    rfl

theorem Splits.cons {split : List Char × List (List Char)} (h : Splits r split) (hr : c ≠ '\r')
    (hn : c ≠ '\n') : Splits (c :: r) (c :: split.1, split.2) := by
  obtain ⟨line, rest, more, lines, whole⟩ := h
  refine ⟨?_, rest, more, lines, ?_⟩
  · exact ⟨List.not_mem_cons_of_ne_of_not_mem hr.symm line.1,
      List.not_mem_cons_of_ne_of_not_mem hn.symm line.2⟩
  · rw [← whole]
    cases more <;> rfl

theorem splits_splitLines (s : List Char) : Splits s (splitLines s) := by
  fun_induction splitLines s with
  | case1 => exact ⟨by decide, by simp, [], rfl, rfl⟩
  | case2 r line rest split ih =>
    rw [split] at ih
    exact ih.lineEnd .crlf
  | case3 r line rest split ih =>
    rw [split] at ih
    exact ih.lineEnd .lf
  | case4 r apart line rest split ih =>
    rw [split] at ih
    exact ih.lineEnd .cr
  | case5 c r apart notFeed notReturn line rest split ih =>
    rw [split] at ih
    exact ih.cons notReturn notFeed

theorem dropMark_of_head {s : List Char} (h : s.head? ≠ some '\ufeff') : dropMark s = s := by
  cases s with
  | nil => rfl
  | cons c s =>
    have ne : c ≠ '\ufeff' := by simpa using h
    rw [dropMark]
    simpa using ne

theorem linesOf_joinLines {more : List (LineEnd × List Char)} (h : IsLine line)
    (hm : ∀ next ∈ more, IsLine next.2) (apart : Apart more) {document : List Char}
    (composed : Text.composed (dropMark document) = joinLines line more) :
    linesOf document = line :: more.map Prod.snd := by
  rw [linesOf, composed, splitLines_joinLines h hm apart]

end

/-- **Splitting a document undoes joining its lines,** whatever ends each of them, with a byte order
mark in front or without. Every document has such lines: its composed text is made of them. -/
theorem lines_of_joined :
    (∀ (line : List Char) (more : List (LineEnd × List Char)),
      (∀ l ∈ line :: more.map Prod.snd, IsLine l) → Apart more →
      Text.composed (joinLines line more) = joinLines line more →
      ((joinLines line more).head? ≠ some '\ufeff' →
        linesOf (joinLines line more) = line :: more.map Prod.snd) ∧
      linesOf ('\ufeff' :: joinLines line more) = line :: more.map Prod.snd) ∧
    ∀ document, (∀ line ∈ linesOf document, IsLine line) ∧
      ∃ line more, linesOf document = line :: more.map Prod.snd ∧
        joinLines line more = Text.composed (dropMark document) := by
  constructor
  · intro line more lines apart composed
    rw [List.forall_mem_cons, List.forall_mem_map] at lines
    refine ⟨fun unmarked => ?_, linesOf_joinLines lines.1 lines.2 apart composed⟩
    refine linesOf_joinLines lines.1 lines.2 apart ?_
    rw [dropMark_of_head unmarked, composed]
  · intro document
    obtain ⟨line, rest, more, lines, whole⟩ :=
      splits_splitLines (Text.composed (dropMark document))
    exact ⟨List.forall_mem_cons.2 ⟨line, rest⟩, _, more, by rw [lines]; rfl, whole⟩

/-- All three line ends, with a composite, an empty line between two line ends and one last. -/
theorem lines_of_joined_mixed :
    let more : List (LineEnd × List Char) := [(.cr, []), (.crlf, ['é']), (.lf, [])]
    joinLines ['a'] more = "a\r\r\né\n".toList ∧ Apart more ∧
      linesOf "a\r\r\né\n".toList = [['a'], [], ['é'], []] ∧
      linesOf ('\ufeff' :: "a\r\r\né\n".toList) = [['a'], [], ['é'], []] := by
  have apart : Apart [(.cr, []), (.crlf, ['é']), (.lf, [])] := by simp [Apart]
  have lines := lines_of_joined.1 ['a'] [(.cr, []), (.crlf, ['é']), (.lf, [])]
    (by decide) apart (by decide +kernel)
  exact ⟨by decide, apart, lines.1 (by decide), lines.2⟩

end Receipt.Page
