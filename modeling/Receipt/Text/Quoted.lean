import Receipt.Text.Quoted.Table
import Receipt.Text.Ranges

/-!
# Quoted text

A listing shows a string between quotation marks, on one line and unmistakably: quotation marks,
backslashes and the common controls have short escapes, every other character that cannot be seen
is spelled out by its code point, and so is every mark that combines with the character before it.

This is how `Op::fmt` of `ir/ops` shows a string.
-/

namespace Receipt.Text.Quoted

/-- A code point written out. -/
def codePoint (c : Char) : List Char := "\\u\x7b".toList ++ Nat.toDigits 16 c.toNat ++ ['}']

/-- How `c` is written inside quotation marks. -/
def escape (c : Char) : List Char :=
  if c = '\x00' then "\\0".toList
  else if c = '\t' then "\\t".toList
  else if c = '\r' then "\\r".toList
  else if c = '\n' then "\\n".toList
  else if c = '"' then "\\\"".toList
  else if c = '\\' then "\\\\".toList
  else if ' ' ≤ c && c ≤ '~' then [c]
  else if unprintable.has c || combining.has c then codePoint c
  else [c]

end Quoted

/-- `s` between quotation marks. -/
def quoted (s : List Char) : List Char := '"' :: s.flatMap Quoted.escape ++ ['"']

end Receipt.Text
