import Mathlib.Tactic.SplitIfs
import Receipt.Text.Digits
import Receipt.Text.Quoted

/-!
# Quotations read back

`read?` is a reader of quotations that knows their escapes, but neither how they are written nor
which characters have to be spelled out: it puts the character meant in the place of an escape and
stops at the first quotation mark that is not escaped. What is written between quotation marks is
what it finds there, whatever comes after them (`unquote?_quoted`), and no line is ended inside of
them (`lineFeed_not_mem_quoted`).
-/

namespace Receipt.Text

namespace Quoted

/-! ## The reader -/

/-- The character that a letter after a backslash stands for. -/
def named? : Char → Option Char
  | '0' => some '\x00'
  | 't' => some '\t'
  | 'r' => some '\r'
  | 'n' => some '\n'
  | '"' => some '"'
  | '\'' => some '\''
  | '\\' => some '\\'
  | _ => none

/-- The character with this code point; surrogates are none. -/
def ofCodePoint? (n : Nat) : Option Char := if n.isValidChar then some (Char.ofNat n) else none

/-- Where in a quotation a reader is. -/
inductive Place where
  /-- Between characters -/
  | text
  /-- After a backslash -/
  | escape
  /-- Where the brace of a code point is to open -/
  | brace
  /-- In a code point, after the digits that write this number, if there were any -/
  | digits (n? : Option Nat)
  deriving DecidableEq, Repr

/-- The text from here to the closing quotation mark, and what comes after the mark. -/
def read? : Place → List Char → Option (List Char × List Char)
  | _, [] => none
  | .text, c :: r =>
    if c = '"' then some ([], r)
    else if c = '\\' then read? .escape r
    else (read? .text r).map (Prod.map (c :: ·) id)
  | .escape, c :: r =>
    if c = 'u' then read? .brace r
    else (named? c).bind fun d => (read? .text r).map (Prod.map (d :: ·) id)
  | .brace, c :: r => if c = '{' then read? (.digits none) r else none
  | .digits n?, c :: r =>
    if c = '}' then
      (n?.bind ofCodePoint?).bind fun d => (read? .text r).map (Prod.map (d :: ·) id)
    else (hexDigit? c).bind fun d => read? (.digits (some (n?.getD 0 * 16 + d))) r

end Quoted

/-- The text of a quotation, and what comes after it. -/
def unquote? : List Char → Option (List Char × List Char)
  | '"' :: r => Quoted.read? .text r
  | _ => none

namespace Quoted

/-! ## Escapes -/

theorem ofCodePoint?_toNat (c : Char) : ofCodePoint? c.toNat = some c := by
  have valid : c.toNat.isValidChar := c.valid
  rw [ofCodePoint?, if_pos valid, Char.ofNat_toNat]

theorem read?_digit {n : Nat} (h : n < 16) (n? : Option Nat) (r : List Char) :
    read? (.digits n?) (Nat.digitChar n :: r) = read? (.digits (some (n?.getD 0 * 16 + n))) r := by
  have inside : Nat.digitChar n ≠ '}' := by
    intro brace
    have digit := hexDigit?_digitChar h
    rw [brace] at digit
    cases digit
  rw [read?, if_neg inside, hexDigit?_digitChar h, Option.bind_some]

/-- Hexadecimal digits are read as the number they write. -/
theorem read?_toDigits (n : Nat) (r : List Char) :
    read? (.digits none) (Nat.toDigits 16 n ++ r) = read? (.digits (some n)) r := by
  induction n using Nat.strongRecOn generalizing r with
  | ind n ih =>
    rcases Nat.lt_or_ge n 16 with small | large
    · rw [Nat.toDigits_of_lt_base small, List.singleton_append, read?_digit small]
      simp
    · have last : n % 16 < 16 := Nat.mod_lt n (by decide)
      have whole : n / 16 * 16 + n % 16 = n := Nat.div_add_mod' n 16
      rw [Nat.toDigits_of_base_le (by decide) large, List.append_assoc, List.singleton_append,
        ih (n / 16) (by omega), read?_digit last, Option.getD_some, whole]

theorem read?_codePoint (c : Char) (r : List Char) :
    read? .text (codePoint c ++ r) = (read? .text r).map (Prod.map (c :: ·) id) := by
  show read? .text ('\\' :: 'u' :: '{' :: (Nat.toDigits 16 c.toNat ++ ['}']) ++ r) = _
  rw [List.cons_append, List.cons_append, List.cons_append, List.append_assoc]
  show read? (.digits none) (Nat.toDigits 16 c.toNat ++ '}' :: r) = _
  rw [read?_toDigits, read?, if_pos rfl, Option.bind_some, ofCodePoint?_toNat, Option.bind_some]

/-- Every character is read back from the way it is written. -/
theorem read?_escape (c : Char) (r : List Char) :
    read? .text (escape c ++ r) = (read? .text r).map (Prod.map (c :: ·) id) := by
  unfold escape
  split_ifs with nul tab cr lf quote backslash visible spelled
  · rw [nul]; rfl
  · rw [tab]; rfl
  · rw [cr]; rfl
  · rw [lf]; rfl
  · rw [quote]; rfl
  · rw [backslash]; rfl
  · rw [List.singleton_append, read?, if_neg quote, if_neg backslash]
  · exact read?_codePoint c r
  · rw [List.singleton_append, read?, if_neg quote, if_neg backslash]

theorem read?_escapes (s r : List Char) :
    read? .text (s.flatMap escape ++ r) = (read? .text r).map (Prod.map (s ++ ·) id) := by
  induction s with
  | nil =>
    show read? .text r = (read? .text r).map id
    rw [Option.map_id, id]
  | cons c s ih =>
    rw [List.flatMap_cons, List.append_assoc, read?_escape, ih, Option.map_map]
    rfl

/-! ## Line feeds -/

theorem isHexDigit_of_mem_toDigits {n : Nat} {c : Char} (h : c ∈ Nat.toDigits 16 n) :
    (hexDigit? c).isSome = true := by
  induction n using Nat.strongRecOn with
  | ind n ih =>
    rcases Nat.lt_or_ge n 16 with small | large
    · rw [Nat.toDigits_of_lt_base small] at h
      rw [List.mem_singleton.1 h, hexDigit?_digitChar small]
      rfl
    · rw [Nat.toDigits_of_base_le (by decide) large] at h
      rcases List.mem_append.1 h with front | last
      · exact ih (n / 16) (by omega) front
      · rw [List.mem_singleton.1 last, hexDigit?_digitChar (Nat.mod_lt n (by decide))]
        rfl

theorem lineFeed_not_mem_codePoint (c : Char) : '\n' ∉ codePoint c := by
  intro h
  rcases List.mem_append.1 h with front | brace
  · rcases List.mem_append.1 front with sign | digits
    · revert sign
      decide
    · cases isHexDigit_of_mem_toDigits digits
  · revert brace
    decide

theorem lineFeed_not_mem_escape (c : Char) : '\n' ∉ escape c := by
  unfold escape
  split_ifs with nul tab cr lf quote backslash visible spelled
  · decide
  · decide
  · decide
  · decide
  · decide
  · decide
  · exact fun h => lf (List.mem_singleton.1 h).symm
  · exact lineFeed_not_mem_codePoint c
  · exact fun h => lf (List.mem_singleton.1 h).symm

end Quoted

/-- **What was quoted is read back**, and the reader stops behind the quotation, whatever the text
is and whatever comes after it. -/
theorem unquote?_quoted (s rest : List Char) : unquote? (quoted s ++ rest) = some (s, rest) := by
  show Quoted.read? .text (s.flatMap Quoted.escape ++ ['"'] ++ rest) = _
  rw [List.append_assoc, Quoted.read?_escapes]
  show (some ([], rest)).map (Prod.map (s ++ ·) id) = _
  simp

theorem lineFeed_not_mem_quoted (s : List Char) : '\n' ∉ quoted s := by
  simp [quoted, Quoted.lineFeed_not_mem_escape]

end Receipt.Text
