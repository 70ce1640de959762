import Receipt.Json.Numeral
import Receipt.Text.Digits

/-!
# Tokens of JSON text

Text is cut into marks, strings and words; a word is whatever stands between marks, blanks and
strings, and must be a numeral or one of the three names.

The grammar is the one of `from_str` in `serde_json`.
-/

namespace Receipt.Json

inductive Token where
  | arrayOpen | arrayClose | objectOpen | objectClose | comma | colon
  | text (s : Option (List Char))
  | word (v : Json)

namespace Token

open Text (hexDigit?)

def isWhite (c : Char) : Bool := c = ' ' || c = '\n' || c = '\t' || c = '\r'

def mark? : Char → Option Token
  | '[' => some arrayOpen
  | ']' => some arrayClose
  | '{' => some objectOpen
  | '}' => some objectClose
  | ',' => some comma
  | ':' => some colon
  | _ => none

def word? (w : List Char) : Option Token :=
  if w = "null".toList then some (word .null)
  else if w = "true".toList then some (word (.bool true))
  else if w = "false".toList then some (word (.bool false))
  else (Numeral.read? w).map fun n => word (.numeral n)

/-! ## Strings -/

/-- A string in the making: its characters, last first, and the first half of a surrogate pair
whose second half must come next. -/
structure Draft where
  chars : Option (List Char)
  half : Option Nat

namespace Draft

def empty : Draft := ⟨some [], none⟩

def char (d : Draft) (c : Char) : Draft :=
  ⟨if d.half.isSome then none else d.chars.map (c :: ·), none⟩

/-- Adds a 16-bit unit. -/
def unit (d : Draft) (n : Nat) : Draft :=
  let isLow := 0xdc00 ≤ n && n ≤ 0xdfff
  match d.half with
  | some h =>
    if isLow then ⟨d.chars.map (Char.ofNat (0x10000 + (h - 0xd800) * 0x400 + (n - 0xdc00)) :: ·), none⟩
    else ⟨none, none⟩
  | none =>
    if isLow then ⟨none, none⟩
    else if 0xd800 ≤ n && n ≤ 0xdbff then ⟨d.chars, some n⟩
    else d.char (Char.ofNat n)

def finish (d : Draft) : Option (List Char) :=
  if d.half.isSome then none else d.chars.map List.reverse

end Draft

def unit? (a b c d : Char) : Option Nat := do
  return (((← hexDigit? a) * 16 + (← hexDigit? b)) * 16 + (← hexDigit? c)) * 16 + (← hexDigit? d)

def escaped? : Char → Option Char
  | '"' => some '"'
  | '\\' => some '\\'
  | '/' => some '/'
  | 'b' => some '\x08'
  | 'f' => some '\x0c'
  | 'n' => some '\n'
  | 'r' => some '\r'
  | 't' => some '\t'
  | _ => none

/-! ## Scanning -/

inductive Mode where
  | between
  /-- Inside a word, its characters last first -/
  | word (w : List Char)
  | text (d : Draft)

/-- What a character outside words and strings is: a finished token, if any, and the mode after
it. -/
def start (c : Char) : List Token × Mode :=
  if isWhite c then ([], .between)
  else if c = '"' then ([], .text .empty)
  else match mark? c with
    | some m => ([m], .between)
    | none => ([], .word [c])

/-- Whether `c` goes on with a word. -/
def isWord (c : Char) : Bool := !isWhite c && c ≠ '"' && (mark? c).isNone

def scan : Mode → List Char → Option (List Token)
  | .between, [] => some []
  | .between, c :: r => (scan (start c).2 r).map ((start c).1 ++ ·)
  | .word w, [] => (word? w.reverse).map ([·])
  | .word w, c :: r =>
    if isWord c then scan (.word (c :: w)) r
    else (word? w.reverse).bind fun t => (scan (start c).2 r).map (t :: (start c).1 ++ ·)
  | .text d, '"' :: r => (scan .between r).map (text d.finish :: ·)
  | .text d, '\\' :: 'u' :: a :: b :: c :: e :: r =>
    (unit? a b c e).bind fun n => scan (.text (d.unit n)) r
  | .text d, '\\' :: e :: r => (escaped? e).bind fun c => scan (.text (d.char c)) r
  | .text d, c :: r => if c < ' ' then none else scan (.text (d.char c)) r
  | .text _, [] => none

/-- Outside words and strings every character starts something. -/
theorem scan_between (c : Char) (r : List Char) :
    scan .between (c :: r) = (scan (start c).2 r).map ((start c).1 ++ ·) := by rw [scan]

end Token

end Receipt.Json
