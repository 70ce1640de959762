import Receipt.Text.Cluster.Table

/-!
# Grapheme clusters

A cluster is what a reader takes for one character: a letter with its marks, a Hangul syllable, a
pictograph sequence, a pair of regional indicators. `clusters` cuts text from the left. What
decides the next cut is a `Context` that starts anew with each cluster, so a cluster cut out of
its text is not cut again; nothing is lost by cutting (`flatten_clusters`).

The rules are those of `graphemes` in `unicode_segmentation`, by which `array_from` of `text/width`
cuts.
-/

namespace Receipt.Text

namespace Cluster

inductive Class where
  | other | carriageReturn | lineFeed | control | extending | joiner | regional | prepended
  | spacingMark | leading | vowel | trailing | leadingVowel | fullSyllable | pictograph
  deriving DecidableEq, Repr

/-- The class of a Hangul letter or syllable. The vowels of Kirat Rai are put together in the same
way. -/
def hangul? (n : Nat) : Option Class :=
  if (0x1100 ≤ n && n ≤ 0x115f) || (0xa960 ≤ n && n ≤ 0xa97c) then some .leading
  else if (0x1160 ≤ n && n ≤ 0x11a7) || (0xd7b0 ≤ n && n ≤ 0xd7c6) || n = 0x16d63
      || (0x16d67 ≤ n && n ≤ 0x16d6a) then some .vowel
  else if (0x11a8 ≤ n && n ≤ 0x11ff) || (0xd7cb ≤ n && n ≤ 0xd7fb) then some .trailing
  else if 0xac00 ≤ n && n ≤ 0xd7a3 then
    some (if (n - 0xac00) % 28 = 0 then .leadingVowel else .fullSyllable)
  else none

def Class.of (c : Char) : Class :=
  if c = '\r' then .carriageReturn
  else if c = '\n' then .lineFeed
  else if ' ' ≤ c && c ≤ '~' then .other
  else if c = '\u200d' then .joiner
  else match hangul? c.toNat with
    | some k => k
    | none =>
      if 0x1f1e6 ≤ c.toNat && c.toNat ≤ 0x1f1ff then .regional
      else if controls.has c then .control
      else if extendingMarks.has c then .extending
      else if spacingMarks.has c then .spacingMark
      else if prependedSigns.has c then .prepended
      else if pictographs.has c then .pictograph
      else .other

/-- How far a sequence of pictographs has come. -/
inductive Joining where
  | none
  /-- A pictograph and marks -/
  | open
  /-- A pictograph, marks and a joiner -/
  | joined
  deriving DecidableEq, Repr

/-- How far a conjunct of consonants has come. -/
inductive Conjunct where
  | none
  /-- A consonant and marks -/
  | open
  /-- A consonant and marks, a linker among them -/
  | linked
  deriving DecidableEq, Repr

def isLinker (c : Char) : Bool := linkers.contains c.toNat

def isConsonant (c : Char) : Bool := consonants.has c

/-- What the end of a cluster says about the next character. -/
structure Context where
  last : Class
  /-- Whether an unpaired regional indicator comes last. -/
  unpaired : Bool
  joining : Joining
  conjunct : Conjunct
  deriving DecidableEq, Repr

namespace Context

/-- The context after the first character of a cluster. -/
def first (c : Char) : Context where
  last := .of c
  unpaired := Class.of c = .regional
  joining := if Class.of c = .pictograph then .open else .none
  conjunct := if isConsonant c then .open else .none

/-- The context after one more character of the same cluster. -/
def next (x : Context) (c : Char) : Context where
  last := .of c
  unpaired := Class.of c = .regional && !x.unpaired
  joining := match Class.of c, x.joining with
    | .pictograph, _ => .open
    | .extending, .open => .open
    | .joiner, .open => .joined
    | _, _ => .none
  conjunct :=
    if isConsonant c then .open
    else if isLinker c then (if x.conjunct = .none then .none else .linked)
    else if c ≠ '\u200c' && (Class.of c = .extending || Class.of c = .joiner) then x.conjunct
    else .none

/-- Whether the classes alone keep two neighbours together. -/
def holds : Class → Class → Bool
  | .carriageReturn, .lineFeed => true
  | .carriageReturn, _ | .lineFeed, _ | .control, _ => false
  | _, .carriageReturn | _, .lineFeed | _, .control => false
  | _, .extending | _, .joiner | _, .spacingMark => true
  | .prepended, _ => true
  | .leading, .leading | .leading, .vowel | .leading, .leadingVowel
  | .leading, .fullSyllable => true
  | .leadingVowel, .vowel | .leadingVowel, .trailing | .vowel, .vowel | .vowel, .trailing => true
  | .fullSyllable, .trailing | .trailing, .trailing => true
  | _, _ => false

/-- Whether `c` continues the cluster. -/
def continues (x : Context) (c : Char) : Bool :=
  holds x.last (.of c)
    || (x.conjunct = .linked && isConsonant c)
    || (x.joining = .joined && Class.of c = .pictograph)
    || (x.unpaired && Class.of c = .regional)

end Context

/-- The rest of the cluster in progress, and the clusters after it. -/
def cut (x : Context) : List Char → List Char × List (List Char)
  | [] => ([], [])
  | c :: r =>
    if x.continues c then
      let (piece, more) := cut (x.next c) r
      (c :: piece, more)
    else
      let (piece, more) := cut (.first c) r
      ([], (c :: piece) :: more)

theorem cut_flatten (x : Context) (s : List Char) : (cut x s).1 ++ (cut x s).2.flatten = s := by
  induction s generalizing x with
  | nil => rfl
  | cons c r ih =>
    by_cases h : x.continues c
    · simpa [cut, h] using ih (x.next c)
    · simpa [cut, h] using ih (.first c)

end Cluster

/-- The clusters of a text, in order. -/
def clusters : List Char → List (List Char)
  | [] => []
  | c :: r =>
    let (piece, more) := Cluster.cut (.first c) r
    (c :: piece) :: more

theorem flatten_clusters (s : List Char) : (clusters s).flatten = s := by
  cases s with
  | nil => rfl
  | cons c r => simpa [clusters] using Cluster.cut_flatten (.first c) r

end Receipt.Text
