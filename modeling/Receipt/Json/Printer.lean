import Receipt.Json.Value
import Receipt.Text.Digits

/-!
# Writing JSON text

Two layouts of the same value: compact, and with one entry per line, indented by two spaces.

The layouts are those of `to_string` and `to_string_pretty` in `serde_json`.
-/

namespace Receipt.Json

/-- Binary numbers keep a decimal, and use an exponent of a sign and two digits or more from 1e16 on
and below 1e-5. -/
def numberStyle : Number.Style where
  whole? := some 16
  zeros? := some 4
  wholeEnd := ['.', '0']
  tie := .even
  plus := ['+']
  powerDigits := 2

/-- A number out of range has no text of its own and is written as absent. -/
def Numeral.write : Numeral → List Char
  | .integer i => (if i < 0 then ['-'] else []) ++ Nat.toDigits 10 i.natAbs
  | .real (some x) => numberStyle.render x
  | .real none => "null".toList

/-- How a character is written in a string. -/
def escape (c : Char) : List Char :=
  if c = '"' then "\\\"".toList
  else if c = '\\' then "\\\\".toList
  else if c = '\x08' then "\\b".toList
  else if c = '\x0c' then "\\f".toList
  else if c = '\n' then "\\n".toList
  else if c = '\r' then "\\r".toList
  else if c = '\t' then "\\t".toList
  else if c < ' ' then "\\u00".toList ++ Text.hexByte c.toNat
  else [c]

def writeText (s : List Char) : List Char := '"' :: s.flatMap escape ++ ['"']

mutual

/-- The text of a value without blanks. -/
def compact : Json → List Char
  | .null => "null".toList
  | .bool b => (if b then "true" else "false").toList
  | .numeral n => n.write
  | .text s => writeText (s.getD [])
  | .array [] => "[]".toList
  | .array (v :: r) => '[' :: compact v ++ compactItems r
  | .object [] => ['{', '}']
  | .object ((name, v) :: r) => '{' :: writeText (name.getD []) ++ ':' :: compact v ++ compactMembers r

/-- The items after the first one. -/
def compactItems : List Json → List Char
  | [] => [']']
  | v :: r => ',' :: compact v ++ compactItems r

/-- The members after the first one. -/
def compactMembers : List (Option (List Char) × Json) → List Char
  | [] => ['}']
  | (name, v) :: r => ',' :: writeText (name.getD []) ++ ':' :: compact v ++ compactMembers r

end

def lineBreak (depth : Nat) : List Char := '\n' :: List.replicate (2 * depth) ' '

mutual

/-- The text of a value inside `depth` others, one entry per line. -/
def pretty (depth : Nat) : Json → List Char
  | .null => "null".toList
  | .bool b => (if b then "true" else "false").toList
  | .numeral n => n.write
  | .text s => writeText (s.getD [])
  | .array [] => "[]".toList
  | .array (v :: r) =>
    '[' :: lineBreak (depth + 1) ++ pretty (depth + 1) v ++ prettyItems depth r
  | .object [] => ['{', '}']
  | .object ((name, v) :: r) =>
    '{' :: lineBreak (depth + 1) ++ writeText (name.getD []) ++ ':' :: ' ' :: pretty (depth + 1) v
      ++ prettyMembers depth r

def prettyItems (depth : Nat) : List Json → List Char
  | [] => lineBreak depth ++ [']']
  | v :: r => ',' :: lineBreak (depth + 1) ++ pretty (depth + 1) v ++ prettyItems depth r

def prettyMembers (depth : Nat) : List (Option (List Char) × Json) → List Char
  | [] => lineBreak depth ++ ['}']
  | (name, v) :: r =>
    ',' :: lineBreak (depth + 1) ++ writeText (name.getD []) ++ ':' :: ' ' :: pretty (depth + 1) v
      ++ prettyMembers depth r

end

end Receipt.Json
