import Receipt.Text.Composed.Table

/-!
# The composed form

Text has one canonical composed form: every character is taken apart, the marks on a letter are
put in order of their combining class, and what forms a composite is put together again. Hangul
syllables are counted out instead of listed.

The form is that of `nfc` in `unicode_normalization`, which `split_lines` of `transform` asks for.
-/

namespace Receipt.Text.Composed

/-! ## Characters -/

/-- The canonical combining class: 0 for a letter, the place of attachment for a mark. -/
def combiningClass (c : Char) : Nat :=
  if c.toNat < 0x300 then 0
  else match classes.find? fun (first, last, _) => first ≤ c.toNat && c.toNat ≤ last with
    | some (_, _, k) => k
    | none => 0

/-- The letters of a Hangul syllable. -/
def hangulParts (c : Char) : List Char :=
  let i := c.toNat - 0xac00
  let trail := if i % 28 = 0 then [] else [Char.ofNat (0x11a7 + i % 28)]
  Char.ofNat (0x1100 + i / 588) :: Char.ofNat (0x1161 + i % 588 / 28) :: trail

/-- The characters that `c` stands for, one step deep; none if it stands for itself. -/
def parts? (c : Char) : Option (List Char) :=
  let n := c.toNat
  if n < 0xc0 then none
  else if 0xac00 ≤ n && n ≤ 0xd7a3 then some (hangulParts c)
  else if 0xf900 ≤ n && n ≤ 0xfad9 then
    (ideographs[n - 0xf900]?).bind fun d => if d = c then none else some [d]
  else if 0x2f800 ≤ n && n ≤ 0x2fa1d then
    (furtherIdeographs[n - 0x2f800]?).bind fun d => if d = c then none else some [d]
  else match composites.find? (·.2.2 = n) with
    | some (a, b, _) => some [Char.ofNat a, Char.ofNat b]
    | none => (separated.lookup n).map fun ps => ps.map Char.ofNat

/-- `c` taken apart `depth` steps deep. -/
def expand : Nat → Char → List Char
  | 0, c => [c]
  | depth + 1, c =>
    match parts? c with
    | none => [c]
    | some ps => ps.flatMap (expand depth)

/-- `c` fully taken apart; no character needs more than four steps. -/
def decomposeChar (c : Char) : List Char := expand 4 c

/-- The composite of two Hangul letters, or of a syllable and a final letter. -/
def hangulComposite? (a b : Nat) : Option Char :=
  if 0x1100 ≤ a && a < 0x1113 && 0x1161 ≤ b && b < 0x1176 then
    some (Char.ofNat (0xac00 + ((a - 0x1100) * 21 + (b - 0x1161)) * 28))
  else if 0xac00 ≤ a && a ≤ 0xd7a3 && (a - 0xac00) % 28 = 0 && 0x11a7 < b && b < 0x11c3 then
    some (Char.ofNat (a + (b - 0x11a7)))
  else none

/-- The one character that two characters form, if they do. No second part lies below U+0300. -/
def composite? (a b : Char) : Option Char :=
  if b.toNat < 0x300 then none
  else match hangulComposite? a.toNat b.toNat with
    | some c => some c
    | none =>
      (composites.find? fun (x, y, _) => x = a.toNat && y = b.toNat).map fun t =>
        Char.ofNat t.2.2

/-! ## Text -/

/-- `c` in front of ordered text, moved behind the marks of a lower class. -/
def place (c : Char) : List Char → List Char
  | [] => [c]
  | d :: r =>
    if 0 < combiningClass d && combiningClass d < combiningClass c then d :: place c r
    else c :: d :: r

/-- Marks in order of their class; marks of one class keep their order. -/
def order (s : List Char) : List Char := s.foldr place []

/-- Composes from a letter on: `marks` follow it so far, the last of class `last`. A character
joins the letter unless a mark of its class or a higher one stands between them. -/
def composeFrom (letter : Char) (marks : List Char) (last : Nat) : List Char → List Char
  | [] => letter :: marks
  | c :: r =>
    let k := combiningClass c
    match if marks.isEmpty || last < k then composite? letter c else none with
    | some whole => composeFrom whole marks last r
    | none =>
      if k = 0 then letter :: marks ++ composeFrom c [] 0 r
      else composeFrom letter (marks ++ [c]) k r

/-- Composes ordered text; marks before the first letter stay. -/
def compose : List Char → List Char
  | [] => []
  | c :: r => if combiningClass c = 0 then composeFrom c [] 0 r else c :: compose r

end Composed

/-- The canonical composed form of a text. -/
def composed (s : List Char) : List Char :=
  Composed.compose (Composed.order (s.flatMap Composed.decomposeChar))

end Receipt.Text
