import Receipt.Markup.Column
import Receipt.Text.Digits

/-!
# Property values

What the value of each setting means. No value is refused: one that cannot be understood means the
usual setting.

| here | in `markup/property` |
| --- | --- |
| `tokens`, `number?` | `tokens`, `number` |
| `border` | `parse_border` |
| `widest`, `width`, `widths` | `MAX_WIDTH`, `parse_widths` |
| `alignment` | `parse_align` |
| `wrap` | `parse_wrap` |
| `codeStyle` | `parse_option` |
| `image` | `sanitize_image` |
-/

namespace Receipt.Markup.Value

open Text (lower words)

/-- The words of a value, between blanks and commas. -/
def tokens (s : List Char) : List (List Char) :=
  words (fun c => Text.isBlank c || c = ',') (lower s)

/-- A number of digits only, at most the largest of 32 bits. -/
def number? (s : List Char) : Option Nat := (Text.decimal? s).map (min · (UInt32.size - 1))

/-- The first number of the value that lies between bounds. -/
def firstWithin (least most default : Nat) (ts : List (List Char)) : Nat :=
  ((ts.filterMap number?).find? fun n => least ≤ n && n ≤ most).getD default

def border (s : List Char) : Int :=
  let s := lower s
  if s = "line".toList then -1
  else if s = "space".toList then 1
  else if s = "none".toList then 0
  else match number? s with
    | some n => if n ≤ 2 then n else 1
    | none => 1

/-- The widest a column can be asked to be. -/
def widest : Nat := 65535

def width (token : List Char) : Int :=
  if token = ['*'] then -1 else ((number? token).map (min · widest)).getD 0

/-- A width for each column; none at all if one is `auto`. -/
def widths (s : List Char) : List Int :=
  let ts := tokens s
  if ts.contains "auto".toList then [] else ts.map width

def alignment (s : List Char) : Alignment :=
  let s := lower s
  if s = "left".toList then .left
  else if s = "right".toList then .right
  else .center

def wrap (s : List Char) : Bool := lower s ≠ "nowrap".toList

/-- How codes are drawn; what is not named takes its usual value. -/
def codeStyle (quietZone : Bool) (s : List Char) : CodeStyle :=
  let ts := tokens s
  { symbology := (ts.findSome? Symbology.ofKeyword?).getD .code128
    module := firstWithin 2 4 2 ts
    height := firstWithin 24 240 72 ts
    hri := ts.contains "hri".toList
    cell := firstWithin 3 8 3 ts
    level := (ts.findSome? Matrix.Level.ofLetter?).getD .l
    quietZone }

/-! ## Images -/

def isBase64 (c : Char) : Bool := c.isAlphanum || c = '+' || c = '/'

/-- Base64 characters filled up to whole groups of four; a single one too many is dropped. -/
def fillGroups (s : List Char) : List Char :=
  match s.length % 4 with
  | 1 => s.dropLast
  | 2 => s ++ ['=', '=']
  | 3 => s ++ ['=']
  | _ => s

/-- The base64 characters in front of any padding, padded anew. -/
def image (s : List Char) : List Char := fillGroups ((s.takeWhile (· ≠ '=')).filter isBase64)

end Receipt.Markup.Value
