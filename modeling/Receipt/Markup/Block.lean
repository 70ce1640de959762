import Receipt.Markup.Escape
import Receipt.Text.Blank

/-!
# Property blocks

A column in braces is a block of members, `key: value`, between semicolons. A key has a short form
of one letter; of several members with one key the last one counts.

| here | in `markup/property` |
| --- | --- |
| `Block`, `get?` | `PropertyBlock`, `get` |
| `inner?` | `is_block` |
| `member?`, `value?` | `MEMBER` |
| `shortKeys`, `fullKey` | `expand_key` |
| `add`, `ofInner` | `parse_block` |
-/

namespace Receipt.Markup

open Text (isBlank)

/-- Values by key, and whether any member was not of the form `key: value`. -/
structure Block where
  members : List (List Char × List Char) := []
  isFaulty : Bool := false
  deriving DecidableEq, Repr

namespace Block

def get? (b : Block) (key : String) : Option (List Char) := b.members.lookup key.toList

/-- The value `v` for `key`, in place of any earlier one. -/
def set (b : Block) (key v : List Char) : Block :=
  { b with members := (key, v) :: b.members.filter (·.1 ≠ key) }

/-- What stands between the braces of a block. -/
def inner? : List Char → Option (List Char)
  | '{' :: r =>
    let inside := r.dropLast
    if r.getLast? = some '}' && !inside.contains '{' && !inside.contains '}' then some inside
    else none
  | _ => none

/-- Short keys and their full forms. -/
def shortKeys : List (Char × String) :=
  [('a', "align"), ('b', "border"), ('c', "code"), ('i', "image"), ('o', "option"), ('t', "text"),
    ('w', "width"), ('x', "command"), ('_', "comment")]

def fullKey : List Char → List Char
  | [c] => ((shortKeys.lookup c).map String.toList).getD [c]
  | key => key

def isKeyStart (c : Char) : Bool := ('A' ≤ c && c ≤ 'Z') || ('a' ≤ c && c ≤ 'z') || c = '_'

def isKeyChar (c : Char) : Bool := isKeyStart c || ('0' ≤ c && c ≤ '9')

/-- A value without the blanks around it. It is not empty, and only its first character may be a
line feed. -/
def value? (s : List Char) : Option (List Char) :=
  match s.dropWhile isBlank with
  | [] => none
  | c :: r =>
    let r := Text.dropEndWhile isBlank r
    if r.contains '\n' then none else some (c :: r)

/-- The key and the value of a member, as written. -/
def member? (s : List Char) : Option (List Char × List Char) :=
  let s := s.dropWhile isBlank
  if s.head?.any isKeyStart then
    match (s.dropWhile isKeyChar).dropWhile isBlank with
    | ':' :: r => (value? r).map fun v => (s.takeWhile isKeyChar, v)
    | _ => none
  else none

/-- `\n` becomes a line feed. -/
def breakLines : List Char → List Char
  | [] => []
  | '\\' :: 'n' :: r => '\n' :: breakLines r
  | c :: r => c :: breakLines r

/-- Adds a member; a blank one adds nothing. -/
def add (b : Block) (s : List Char) : Block :=
  if s.all isBlank then b
  else match member? s with
    | some (key, v) => b.set (fullKey key) (decode (breakLines v))
    | none => { b with isFaulty := true }

/-- The block with these members inside its braces. -/
def ofInner (s : List Char) : Block :=
  (Text.pieces ';' (protectSemicolons s)).foldl add {}

end Block

end Receipt.Markup
