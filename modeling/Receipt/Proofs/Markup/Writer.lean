import Mathlib.Data.List.Chain
import Receipt.Proofs.Markup.Passes
import Receipt.Proofs.Markup.Reading
import Receipt.Proofs.Markup.Segments
import Receipt.Proofs.Text.Blank

/-!
# Writing a line

A line of cells can be written so that reading it gives the cells back. Every character of the
markup is escaped, so the passes of the reader find nothing in a text but characters: written, each
of them is spelt in one way after another (`spell`), up to itself.
-/

namespace Receipt.Markup

/-! ## Cells -/

/-- Whether two neighbours would be read as one segment. -/
def Segment.merges : Segment → Segment → Bool
  | .text _, .text _ | .scale _, .scale _ => true
  | _, _ => false

/-- Whether a segment is read back: text is there and has no controls, and carets are no more than
can be told apart. -/
def Segment.isLegible : Segment → Bool
  | .text t => !t.isEmpty && t.all (!isControl ·)
  | .scale n => 1 ≤ n && n ≤ 7
  | _ => true

/-- What a column of a line can carry: segments in normal form, and where they stand. -/
structure Cell where
  /-- 0 at the left edge of the column, 1 in the middle, 2 at the right edge -/
  align : Nat
  segments : List Segment
  align_le : align ≤ 2
  some : segments ≠ []
  legible : ∀ s ∈ segments, s.isLegible = true
  apart : segments.IsChain fun a b => a.merges b = false

/-! ## The writer -/

/-- A segment whose texts are spelt character by character. -/
def spell (char : Char → List Char) (lineBreak : List Char) : Segment → List Char
  | .text t => t.flatMap char
  | .underline => ['_']
  | .emphasis => ['"']
  | .invert => ['\x60']
  | .lineBreak => lineBreak
  | .scale n => List.replicate n '^'

/-- A character of a text: a blank is written as a tilde, a character of the markup is escaped. -/
def writeChar (c : Char) : List Char :=
  if c = ' ' then ['~'] else if isDelimiter c || isDecoration c then ['\\', c] else [c]

def writeSegment : Segment → List Char := spell writeChar ['\\', 'n']

/-- What is written, and a blank on the side that the cell does not stand at. -/
def padded (align : Nat) (s : List Char) : List Char :=
  (if align = 2 then [' '] else []) ++ s ++ (if align = 0 then [' '] else [])

def writeCell (c : Cell) : List Char := padded c.align (c.segments.flatMap writeSegment)

/-- A line of cells between pipes. -/
def writeRow (first : Cell) (more : List Cell) : List Char :=
  '|' :: Text.join '|' (writeCell first) (more.map writeCell) ++ ['|']

/-! ## What the passes make of it -/

/-- A character of a text once delimiters are protected. -/
def shieldChar (c : Char) : List Char :=
  if c = ' ' then ['~']
  else if isDelimiter c then placeholder c
  else if isDecoration c then ['\\', c]
  else [c]

/-- A character of a text made ready. -/
def readyChar (c : Char) : List Char :=
  if isDelimiter c || isDecoration c then placeholder c else [c]

theorem toNat_lt_of_special {c : Char} (h : (isDelimiter c || isDecoration c) = true) :
    c.toNat < 256 := by
  have all : (['\\', '{', '|', '}'] ++ ['-', '=', '_', '"', '\x60', '^', '~']).all
      (·.toNat < 256) = true := by decide
  rw [Bool.or_eq_true, isDelimiter_iff, isDecoration_iff, ← List.mem_append] at h
  simpa using List.all_eq_true.1 all c h

theorem ne_backslash {c : Char} (h : isDelimiter c = false) : c ≠ '\\' := by
  rintro rfl
  cases h

theorem ne_tilde {c : Char} (h : isDecoration c = false) : c ≠ '~' := by
  rintro rfl
  cases h

theorem protect_writeChar (c : Char) : Turns protect (writeChar c) (shieldChar c) := by
  unfold writeChar shieldChar
  by_cases blank : c = ' '
  · rw [if_pos blank, if_pos blank]
    exact protect_plain (by decide)
  · rw [if_neg blank, if_neg blank]
    cases delimiter : isDelimiter c with
    | true => exact protect_delimiter delimiter
    | false =>
      cases decoration : isDecoration c with
      | true => exact protect_escaped delimiter
      | false => exact protect_plain (ne_backslash delimiter)

theorem prepareVisible_shieldChar (c : Char) :
    Turns prepareVisible (shieldChar c) (readyChar c) := by
  unfold shieldChar readyChar
  by_cases blank : c = ' '
  · subst c
    exact prepareVisible_tilde
  · rw [if_neg blank]
    cases delimiter : isDelimiter c with
    | true => exact prepareVisible_placeholder delimiter
    | false =>
      cases decoration : isDecoration c with
      | true => exact prepareVisible_decoration decoration
      | false => exact prepareVisible_plain (ne_backslash delimiter) (ne_tilde decoration)

theorem decode_readyChar (c : Char) : Turns decode (readyChar c) [c] := by
  unfold readyChar
  split
  · exact fun r => decode_placeholder (toNat_lt_of_special ‹_›) r
  · rename_i plain
    rw [Bool.or_eq_true, not_or, Bool.not_eq_true, Bool.not_eq_true] at plain
    exact decode_plain (ne_backslash plain.1)

/-- A pass goes through a segment as it goes through its characters. -/
theorem turns_spell {pass : List Char → List Char} {f g : Char → List Char} {a b : List Char}
    (char : ∀ c, Turns pass (f c) (g c)) (lineBreak : Turns pass a b)
    (marks : ∀ c ∈ ['_', '"', '\x60', '^'], Turns pass [c] [c]) (s : Segment) :
    Turns pass (spell f a s) (spell g b s) := by
  cases s with
  | text t => exact .flatMap fun c _ => char c
  | underline => exact marks '_' (by decide)
  | emphasis => exact marks '"' (by decide)
  | invert => exact marks '\x60' (by decide)
  | lineBreak => exact lineBreak
  | scale n => exact .replicate (marks '^' (by decide)) n

/-- The segments of a cell once delimiters are protected. -/
def shielded (c : Cell) : List Char := c.segments.flatMap (spell shieldChar ['\\', 'n'])

/-- The segments of a cell made ready. -/
def ready (c : Cell) : List Char := c.segments.flatMap (spell readyChar ['\n'])

theorem protect_padded (c : Cell) : Turns protect (writeCell c) (padded c.align (shielded c)) := by
  have blank : Turns protect [' '] [' '] := protect_plain (by decide)
  have body : Turns protect (c.segments.flatMap writeSegment) (shielded c) :=
    .flatMap fun s _ => turns_spell protect_writeChar (protect_escaped (by decide))
      (fun d hd => protect_plain (by rintro rfl; exact absurd hd (by decide))) s
  unfold writeCell padded
  refine .append (.append ?_ body) ?_
  · split
    · exact blank
    · exact .nil
  · split
    · exact blank
    · exact .nil

theorem protect_writeRow (first : Cell) (more : List Cell) :
    protect (writeRow first more) =
      '|' :: Text.join '|' (padded first.align (shielded first))
        (more.map fun c => padded c.align (shielded c)) ++ ['|'] := by
  have pipe : Turns protect ['|'] ['|'] := protect_plain (by decide)
  have cells : Turns protect (more.flatMap fun c => ['|'] ++ writeCell c)
      (more.flatMap fun c => ['|'] ++ padded c.align (shielded c)) :=
    .flatMap fun c _ => pipe.append (protect_padded c)
  have row := ((pipe.append ((protect_padded first).append cells)).append pipe).whole rfl
  simpa [writeRow, Text.join, List.flatMap_map] using row

theorem prepareVisible_shielded (c : Cell) : prepareVisible (shielded c) = ready c := by
  refine Turns.whole (.flatMap fun s _ => turns_spell prepareVisible_shieldChar
    prepareVisible_lineFeed (fun d hd => prepareVisible_plain ?_ ?_) s) rfl
  · rintro rfl
    exact absurd hd (by decide)
  · rintro rfl
    exact absurd hd (by decide)

theorem decode_ready (t : List Char) : decode (t.flatMap readyChar) = t := by
  have turned : Turns decode (t.flatMap readyChar) (t.flatMap fun c => [c]) :=
    .flatMap fun c _ => decode_readyChar c
  rw [turned.whole rfl, List.flatMap_singleton']

/-! ## What is in a protected cell -/

/-- A character that is no blank, no control and no pipe or brace. -/
def isBare (c : Char) : Bool := !isControl c && c ≠ ' ' && c ≠ '{' && c ≠ '|' && c ≠ '}'

theorem isBare_of_mem_shieldChar {c x : Char} (hc : isControl c = false) (hx : x ∈ shieldChar c) :
    isBare x = true := by
  unfold shieldChar at hx
  split at hx
  · obtain rfl := List.mem_singleton.1 hx
    decide
  · split at hx
    · have all : ['\\', '{', '|', '}'].all (fun d => (placeholder d).all isBare) = true := by
        decide
      exact List.all_eq_true.1 (List.all_eq_true.1 all c (isDelimiter_iff.1 ‹_›)) x hx
    · split at hx
      · have all : ['-', '=', '_', '"', '\x60', '^', '~'].all
            (fun d => ['\\', d].all isBare) = true := by decide
        exact List.all_eq_true.1 (List.all_eq_true.1 all c (isDecoration_iff.1 ‹_›)) x hx
      · rename_i blank delimiter _
        obtain rfl := List.mem_singleton.1 hx
        rw [isDelimiter_iff] at delimiter
        simp only [List.mem_cons, List.not_mem_nil, or_false, not_or] at delimiter
        simp [isBare, hc, blank, delimiter]

theorem isBare_of_mem_shielded {c : Cell} {x : Char} (hx : x ∈ shielded c) : isBare x = true := by
  obtain ⟨s, hs, hx⟩ := List.mem_flatMap.1 hx
  have legible := c.legible s hs
  cases s with
  | text t =>
    obtain ⟨d, hd, hx⟩ := List.mem_flatMap.1 hx
    simp only [Segment.isLegible, Bool.and_eq_true, List.all_eq_true] at legible
    exact isBare_of_mem_shieldChar (by simpa using legible.2 d hd) hx
  | scale n =>
    obtain rfl := List.eq_of_mem_replicate hx
    decide
  | underline | emphasis | invert =>
    obtain rfl := List.mem_singleton.1 hx
    decide
  | lineBreak =>
    have all : ['\\', 'n'].all isBare = true := by decide
    exact List.all_eq_true.1 all x hx

/-- A protected cell starts with a character, and not with one of a rule. -/
theorem shielded_head (c : Cell) : ∃ x r, shielded c = x :: r ∧ x ≠ '-' ∧ x ≠ '=' := by
  obtain ⟨s, more, segments⟩ := List.exists_cons_of_ne_nil c.some
  have legible := c.legible s (segments ▸ List.mem_cons_self)
  have starts {y : Char} {t : List Char} (h : spell shieldChar ['\\', 'n'] s = y :: t)
      (ne : y ≠ '-' ∧ y ≠ '=') : ∃ x r, shielded c = x :: r ∧ x ≠ '-' ∧ x ≠ '=' := by
    refine ⟨y, t ++ more.flatMap (spell shieldChar ['\\', 'n']), ?_, ne⟩
    rw [shielded, segments, List.flatMap_cons, h]
    rfl
  cases s with
  | text t =>
    simp only [Segment.isLegible, Bool.and_eq_true] at legible
    obtain ⟨d, t, rfl⟩ := List.exists_cons_of_ne_nil
      (List.isEmpty_eq_false_iff.1 (by simpa using legible.1))
    have first : ∃ y u, shieldChar d = y :: u ∧ y ≠ '-' ∧ y ≠ '=' := by
      unfold shieldChar
      split
      · exact ⟨'~', [], rfl, by decide⟩
      · split
        · exact ⟨'\\', _, rfl, by decide⟩
        · split
          · exact ⟨'\\', _, rfl, by decide⟩
          · rename_i decoration
            rw [isDecoration_iff] at decoration
            simp only [List.mem_cons, List.not_mem_nil, or_false, not_or] at decoration
            exact ⟨d, [], rfl, decoration.1, decoration.2.1⟩
    obtain ⟨y, u, hd, ne⟩ := first
    exact starts (t := u ++ t.flatMap shieldChar) (by simp [spell, hd]) ne
  | scale n =>
    simp only [Segment.isLegible, Bool.and_eq_true, decide_eq_true_eq] at legible
    obtain ⟨k, rfl⟩ := Nat.exists_eq_add_of_le' legible.1
    exact starts rfl (by decide)
  | underline | emphasis | invert | lineBreak => exact starts rfl (by decide)

theorem isBlank_of_bare {x : Char} (h : isBare x = true) : Text.isBlank x = false := by
  unfold Text.isBlank
  rw [Bool.or_eq_false_iff, decide_eq_false_iff_not, decide_eq_false_iff_not]
  constructor
  · rintro rfl
    cases h
  · rintro rfl
    cases h

/-! ## Reading a cell -/

section
variable (c : Cell)

theorem shielded_ne_nil : shielded c ≠ [] := by
  obtain ⟨x, r, hx, _⟩ := shielded_head c
  rw [hx]
  exact List.cons_ne_nil x r

theorem isBlank_of_mem_shielded {x : Char} (hx : x ∈ shielded c) : Text.isBlank x = false :=
  isBlank_of_bare (isBare_of_mem_shielded hx)

theorem trim_padded : Text.trim (padded c.align (shielded c)) = shielded c := by
  have blanks (b : Prop) [Decidable b] : ∀ x ∈ (if b then [' '] else []), Text.isBlank x = true := by
    intro x hx
    split at hx
    · obtain rfl := List.mem_singleton.1 hx
      rfl
    · cases hx
  exact Text.trimBy_append (blanks _) (blanks _) (shielded_ne_nil c)
    fun x hx => isBlank_of_mem_shielded c hx

theorem alignOf_padded : alignOf (padded c.align (shielded c)) = c.align := by
  have front : Text.startsBlank (padded c.align (shielded c)) = decide (c.align = 2) := by
    obtain ⟨x, r, hx, _⟩ := shielded_head c
    have bare := isBlank_of_mem_shielded c (hx ▸ List.mem_cons_self)
    unfold padded
    rw [hx]
    split
    · simp [*, Text.startsBlank, Text.isBlank]
    · simp [*, Text.startsBlank]
  have back : Text.endsBlank (padded c.align (shielded c)) = decide (c.align = 0) := by
    obtain ⟨y, hy⟩ := Option.ne_none_iff_exists'.1
      (mt List.getLast?_eq_none_iff.1 (shielded_ne_nil c))
    have bare := isBlank_of_mem_shielded c (List.mem_of_getLast? hy)
    by_cases left : c.align = 0
    · simp [padded, left, Text.endsBlank, Text.isBlank]
    · simp [padded, left, Text.endsBlank, List.getLast?_append, hy, bare]
  have := c.align_le
  rw [alignOf, front, back]
  simp only [decide_eq_true_eq]
  split <;> split <;> omega

theorem inner?_shielded : Block.inner? (shielded c) = none := by
  obtain ⟨x, r, hx, _⟩ := shielded_head c
  have bare := isBare_of_mem_shielded (c := c) (hx ▸ List.mem_cons_self)
  rw [hx]
  unfold Block.inner?
  split
  · rename_i heq
    obtain ⟨rfl, _⟩ := List.cons.inj heq
    cases bare
  · rfl

theorem contains_shielded {x : Char} (hx : isBare x = false) : (shielded c).contains x = false := by
  rw [← Bool.not_eq_true, List.contains_iff_mem]
  intro h
  rw [isBare_of_mem_shielded h] at hx
  cases hx

theorem hasBrace_shielded : hasBrace (shielded c) = false := by
  rw [hasBrace, contains_shielded c (by decide), contains_shielded c (by decide)]
  rfl

theorem isRuleOf_shielded :
    isRuleOf '-' (shielded c) = false ∧ isRuleOf '=' (shielded c) = false := by
  obtain ⟨x, r, hx, dash, equal⟩ := shielded_head c
  rw [hx]
  simp [isRuleOf, dash, equal]

theorem prepare_shielded : prepare (shielded c) = ready c := by
  have kept : (shielded c).filter (fun x => !isControl x) = shielded c := by
    refine List.filter_eq_self.2 fun x hx => ?_
    have bare := isBare_of_mem_shielded hx
    simp only [isBare, Bool.and_eq_true] at bare
    exact bare.1.1.1.1
  rw [prepare, kept, prepareVisible_shielded]

end

/-! ## Cutting text into segments -/

/-- A segment with its text as it is when made ready. -/
def readySegment : Segment → Segment
  | .text t => .text (t.flatMap readyChar)
  | s => s

theorem merges_readySegment (a b : Segment) : (readySegment a).merges (readySegment b) = a.merges b := by
  cases a <;> cases b <;> rfl

/-- No character made ready marks anything. -/
theorem ofChar?_readyChar {c x : Char} (hc : isControl c = false) (hx : x ∈ readyChar c) :
    Segment.ofChar? x = none := by
  unfold readyChar at hx
  split at hx
  · have all : (['\\', '{', '|', '}'] ++ ['-', '=', '_', '"', '\x60', '^', '~']).all
        (fun d => (placeholder d).all fun y => Segment.ofChar? y = none) = true := by decide
    rename_i special
    rw [Bool.or_eq_true, isDelimiter_iff, isDecoration_iff, ← List.mem_append] at special
    have unmarked := List.all_eq_true.1 (List.all_eq_true.1 all c special) x hx
    simpa using unmarked
  · rename_i plain
    obtain rfl := List.mem_singleton.1 hx
    unfold Segment.ofChar?
    split
    · exact absurd rfl plain
    · exact absurd rfl plain
    · exact absurd rfl plain
    · cases hc
    · exact absurd rfl plain
    · rfl

theorem merges_text (t u : List Char) (s : Segment) :
    Segment.merges (.text t) s = Segment.merges (.text u) s := by
  cases s <;> rfl

theorem merges_scale (m n : Nat) (s : Segment) :
    Segment.merges (.scale m) s = Segment.merges (.scale n) s := by
  cases s <;> rfl

/-- Text is cut into one segment if no other comes after it. -/
theorem cut_text {t r : List Char} (some : t ≠ []) (plain : ∀ c ∈ t, Segment.ofChar? c = none)
    (apart : ∀ s ∈ (cut r).head?, Segment.merges (.text t) s = false) :
    cut (t ++ r) = .text t :: cut r := by
  induction t with
  | nil => exact absurd rfl some
  | cons c t ih =>
    have none := plain c List.mem_cons_self
    rw [List.cons_append, cut_cons]
    cases t with
    | nil =>
      rw [List.nil_append]
      generalize cut r = rest at apart
      unfold Segment.cons
      rw [none]
      cases rest with
      | nil => rfl
      | cons s rest =>
        have other := apart s rfl
        cases s with
        | text u => cases other
        | underline | emphasis | invert | lineBreak | scale => rfl
    | cons d t =>
      have later := ih (List.cons_ne_nil d t) (fun x hx => plain x (List.mem_cons_of_mem _ hx))
        fun s hs => by rw [merges_text _ (c :: d :: t), apart s hs]
      rw [later]
      simp only [Segment.cons, none]

/-- Carets are cut into one segment if no others come after them. -/
theorem cut_scale {n : Nat} {r : List Char} (h : 1 ≤ n ∧ n ≤ 7)
    (apart : ∀ s ∈ (cut r).head?, Segment.merges (.scale n) s = false) :
    cut (List.replicate n '^' ++ r) = .scale n :: cut r := by
  obtain ⟨k, rfl⟩ := Nat.exists_eq_add_of_le' h.1
  have small := h.2
  clear h
  induction k with
  | zero =>
    show Segment.cons '^' (cut r) = _
    generalize cut r = rest at apart
    cases rest with
    | nil => rfl
    | cons s rest =>
      have other := apart s rfl
      cases s with
      | scale u => cases other
      | underline | emphasis | invert | lineBreak | text => rfl
  | succ k ih =>
    show Segment.cons '^' (cut (List.replicate (k + 1) '^' ++ r)) = _
    have fewer := ih (fun s hs => by rw [merges_scale _ (k + 1 + 1), apart s hs]) (by omega)
    rw [fewer]
    show Segment.scale (min 7 (k + 1 + 1)) :: cut r = _
    rw [Nat.min_eq_right small]

/-- **Segments made ready are cut apart again.** -/
theorem cut_ready {segments : List Segment} (legible : ∀ s ∈ segments, s.isLegible = true)
    (apart : segments.IsChain fun a b => a.merges b = false) :
    cut (segments.flatMap (spell readyChar ['\n'])) = segments.map readySegment := by
  induction segments with
  | nil => rfl
  | cons s more ih =>
    have rest := ih (fun x hx => legible x (List.mem_cons_of_mem _ hx)) apart.tail
    have next : ∀ x ∈ (more.map readySegment).head?, (readySegment s).merges x = false := by
      intro x hx
      rw [List.head?_map] at hx
      obtain ⟨y, hy, rfl⟩ := Option.map_eq_some_iff.1 hx
      rw [merges_readySegment]
      exact (List.isChain_cons.1 apart).1 y hy
    have own := legible s List.mem_cons_self
    rw [List.flatMap_cons, List.map_cons]
    rw [← rest] at next ⊢
    cases s with
    | text t =>
      simp only [Segment.isLegible, Bool.and_eq_true, List.all_eq_true] at own
      refine cut_text ?_ ?_ next
      · intro none
        change t.flatMap readyChar = [] at none
        have written := decode_ready t
        rw [none] at written
        rw [← written] at own
        exact absurd own.1 (by decide)
      · intro x hx
        obtain ⟨c, hc, hx⟩ := List.mem_flatMap.1 hx
        exact ofChar?_readyChar (by simpa using own.2 c hc) hx
    | scale n =>
      simp only [Segment.isLegible, Bool.and_eq_true, decide_eq_true_eq] at own
      exact cut_scale own next
    | underline | emphasis | invert | lineBreak => rfl

theorem segments_shielded (c : Cell) : Markup.segments (shielded c) = c.segments := by
  rw [segments_eq, prepare_shielded, ready, cut_ready c.legible c.apart, List.map_map]
  refine List.map_id'' (fun s => ?_) _
  cases s with
  | text t => exact congrArg Segment.text (decode_ready t)
  | underline | emphasis | invert | lineBreak | scale => rfl

/-! ## Reading a line -/

theorem pipe_not_mem_padded (c : Cell) : '|' ∉ padded c.align (shielded c) := by
  have body : '|' ∉ shielded c := fun h => absurd (isBare_of_mem_shielded h) (by decide)
  unfold padded
  split <;> split <;> simp [body]

/-- Pipes at both ends divide nothing and attract nothing. -/
theorem padEdges_row (head : List Char) (more : List (List Char)) (hh : '|' ∉ head)
    (hm : ∀ piece ∈ more, '|' ∉ piece) :
    padEdges ('|' :: Text.join '|' head more ++ ['|']) = '|' :: Text.join '|' head more ++ ['|'] := by
  have row : '|' :: Text.join '|' head more ++ ['|'] =
      Text.join '|' [] (head :: (more ++ [[]])) := by
    rw [Text.join_cons, Text.join_concat]
    rfl
  have pieces : ∀ piece ∈ head :: (more ++ [[]]), '|' ∉ piece := by
    simp only [List.mem_cons, List.mem_append, List.not_mem_nil, or_false]
    rintro piece (rfl | hp | rfl)
    · exact hh
    · exact hm piece hp
    · exact List.not_mem_nil
  have divided : Text.split '|' (Text.join '|' [] (head :: (more ++ [[]]))) = _ :=
    Text.split_join List.not_mem_nil pieces
  rw [← row] at divided
  unfold padEdges
  rw [divided]
  have last : (head :: (more ++ [[]])).getLast?.getD [] = [] := by
    rw [← List.cons_append, List.getLast?_concat]
    rfl
  dsimp only
  rw [last]
  simp [touchesFirst, touchesLast]

theorem dropEdges_row (s : List Char) : dropEdges ('|' :: s ++ ['|']) = s := by
  simp [dropEdges]

theorem divide_writeRow (first : Cell) (more : List Cell) :
    divide (writeRow first more) =
      (padded first.align (shielded first), more.map fun c => padded c.align (shielded c)) := by
  have trimmed : Text.trim (writeRow first more) = writeRow first more := by
    refine Text.trimBy_of_ends ?_ ?_
    · rintro c ⟨rfl⟩
      rfl
    · intro c hc
      rw [writeRow, List.getLast?_concat] at hc
      obtain rfl := Option.some.inj hc
      rfl
  have pieces : ∀ piece ∈ more.map fun c => padded c.align (shielded c), '|' ∉ piece := by
    intro piece hp
    obtain ⟨c, _, rfl⟩ := List.mem_map.1 hp
    exact pipe_not_mem_padded c
  rw [divide, trimmed, protect_writeRow, padEdges_row _ _ (pipe_not_mem_padded first) pieces,
    dropEdges_row, Text.split_join (pipe_not_mem_padded first) pieces]

theorem readBeside_padded (s : State) (index : Nat) (c : Cell) :
    readBeside s index (padded c.align (shielded c)) =
      s.column c.align index (.text c.segments) none none := by
  simp only [readBeside, trim_padded, alignOf_padded, inner?_shielded, hasBrace_shielded,
    segments_shielded, Bool.false_eq_true, if_false]

theorem readAlone_padded (s : State) (c : Cell) :
    readAlone (padded c.align (shielded c)) s =
      (s.column c.align 0 (.text c.segments) none none, s) := by
  simp only [readAlone, trim_padded, alignOf_padded, inner?_shielded, hasBrace_shielded,
    isRuleOf_shielded c, segments_shielded, Bool.false_eq_true, if_false]

/-- The columns that carry cells. -/
def State.columnsOf (s : State) (cells : List Cell) : List Column :=
  cells.mapIdx fun i c => s.column c.align i (.text c.segments) none none

theorem mapIdx_readBeside (s : State) (cells : List Cell) :
    (cells.map fun c => padded c.align (shielded c)).mapIdx (readBeside s) = s.columnsOf cells := by
  refine List.ext_getElem? fun i => ?_
  simp [State.columnsOf, readBeside_padded, Function.comp_def]

theorem all_isText_columnsOf (s : State) (cells : List Cell) :
    (s.columnsOf cells).all Column.isText = true := by
  rw [List.all_eq_true]
  intro c hc
  obtain ⟨i, hi, rfl⟩ := List.mem_mapIdx.1 hc
  rfl

theorem carried_columnsOf (s : State) (cells : List Cell) :
    (s.columnsOf cells).map (fun c => (c.align, c.payload)) =
      cells.map fun c => (c.align, .text c.segments) := by
  refine List.ext_getElem? fun i => ?_
  simp [State.columnsOf, State.column, Function.comp_def]

/-- A written line is read as the columns that carry its cells, and blanks for the widths left. -/
theorem readLine_eq (first : Cell) (more : List Cell) (s : State) :
    readLine (writeRow first more) s =
      (s.columnsOf (first :: more) ++ s.padding (more.length + 1), s) := by
  have columns : s.complete (s.columnsOf (first :: more)) =
      s.columnsOf (first :: more) ++ s.padding (more.length + 1) := by
    rw [State.complete, if_pos (all_isText_columnsOf s _), State.columnsOf, List.length_mapIdx,
      List.length_cons]
  rw [← columns]
  cases more with
  | nil =>
    rw [readLine_alone (divide_writeRow first []), readAlone_padded]
    rfl
  | cons next more =>
    rw [readLine_beside (divide_writeRow first (next :: more)), ← mapIdx_readBeside]
    rfl

/-- **A written line is read back.** The settings stay as they are, the first columns are the cells,
without a fault or a change of the border, and the columns after them are blanks. -/
theorem readLine_writeRow (first : Cell) (more : List Cell) (s : State) :
    ∃ columns blanks, readLine (writeRow first more) s = (columns ++ blanks, s) ∧
      columns.map (fun c => (c.align, c.payload)) =
        (first :: more).map (fun c => (c.align, .text c.segments)) ∧
      (∀ c ∈ columns, c.fault = none ∧ c.toggle = none) ∧
      blanks.length = s.widths.length - (more.length + 1) ∧
      ∀ c ∈ blanks, c.align = 2 ∧ c.payload = .text [] ∧ c.fault = none ∧ c.toggle = none := by
  refine ⟨_, _, readLine_eq first more s, carried_columnsOf s _, ?_, ?_, ?_⟩
  · intro c hc
    obtain ⟨i, hi, rfl⟩ := List.mem_mapIdx.1 hc
    exact ⟨rfl, rfl⟩
  · rw [State.padding, List.length_map, List.length_drop]
  · intro c hc
    obtain ⟨width, _, rfl⟩ := List.mem_map.1 hc
    exact ⟨rfl, rfl, rfl, rfl⟩

/-- A cell of emphasised text that has a pipe in it. -/
theorem readLine_writeRow_pipe :
    ∃ cell : Cell, writeRow cell [] = "|\"a\\|b |".toList ∧
      ∃ columns blanks,
        readLine "|\"a\\|b |".toList (.initial .wide) = (columns ++ blanks, .initial .wide) ∧
        columns.map (fun c => (c.align, c.payload)) =
          [(0, .text [.emphasis, .text "a|b".toList])] := by
  let cell : Cell := ⟨0, [.emphasis, .text "a|b".toList], by decide, by simp, by decide, by decide⟩
  have written : writeRow cell [] = "|\"a\\|b |".toList := by decide
  obtain ⟨columns, blanks, read, carried, _⟩ := readLine_writeRow cell [] (.initial .wide)
  rw [written] at read
  exact ⟨cell, written, columns, blanks, read, carried⟩

end Receipt.Markup
