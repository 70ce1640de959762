import Receipt.Json.Value

/-!
# Shapes of values

What a value must look like to be read as a number, a record, one case of several. A record may
come as an object, whose members are found by name and may be joined by unknown ones, or as an
array of its fields in order. A case is its bare name, or an object with that name as its only
member.

These are the rules of derived `Deserialize` instances: `fields?` for a structure, `cases?` for a
type of several cases, `tagged?` for one whose case is a member.
-/

namespace Receipt.Json

def bool? : Json → Option Bool
  | .bool b => some b
  | _ => none

def text? : Json → Option (List Char)
  | .text s => s
  | _ => none

/-- An integer from `least` to `most`. -/
def int? (least most : Int) : Json → Option Int
  | .numeral (.integer i) => if least ≤ i && i ≤ most then some i else none
  | _ => none

/-- A natural number of so many bits. -/
def nat? (bits : Nat) (j : Json) : Option Nat := (j.int? 0 (Int.pow 2 bits - 1)).map Int.toNat

/-- A signed number of so many bits. -/
def signed? (bits : Nat) (j : Json) : Option Int :=
  j.int? (-Int.pow 2 (bits - 1)) (Int.pow 2 (bits - 1) - 1)

def binary? : Json → Option Number.Binary
  | .numeral (.integer i) => some (.ofInt i)
  | .numeral (.real x) => x
  | _ => none

def list? {α : Type} (read : Json → Option α) : Json → Option (List α)
  | .array items => items.mapM read
  | _ => none

/-- A value that is absent when it is null. -/
def maybe? {α : Type} (read : Json → Option α) : Json → Option (Option α)
  | .null => some none
  | j => (read j).map some

/-! ## Records -/

/-- The members of an object whose names are all text. -/
def names? (members : List (Option (List Char) × Json)) : Option (List (List Char × Json)) :=
  members.mapM fun (name, value) => name.map fun n => (n, value)

/-- The values of one field: at most one. -/
def field? (members : List (List Char × Json)) (name : List Char) : Option (Option Json) :=
  match members.filter (·.1 = name) with
  | [] => some none
  | [(_, value)] => some (some value)
  | _ => none

/-- The fields of a record in order; a member that is missing is `none`. An array may end early if
the record is `open`. -/
def fields? (isOpen : Bool) (names : List String) : Json → Option (List (Option Json))
  | .object members => do
    let members ← names? members
    names.mapM fun name => field? members name.toList
  | .array items =>
    if items.length = names.length || (isOpen && items.length < names.length) then
      some (items.map some ++ List.replicate (names.length - items.length) none)
    else none
  | _ => none

/-- A field that must be there. -/
def needed? {α : Type} (read : Json → Option α) (field : Option Json) : Option α := field.bind read

/-- A field that may be missing or null. -/
def optional? {α : Type} (read : Json → Option α) : Option Json → Option (Option α)
  | none => some none
  | some j => maybe? read j

/-- A field with a value of its own where it is missing. -/
def default? {α : Type} (value : α) (read : Json → Option α) : Option Json → Option α
  | none => some value
  | some j => read j

/-! ## Cases -/

/-- The name of a case and what it carries. -/
def case? : Json → Option (List Char × Option Json)
  | .text s => s.map fun name => (name, none)
  | .object [(name, value)] => name.map fun n => (n, some value)
  | _ => none

/-- A case that carries nothing. -/
def bare? {α : Type} (a : α) : Option Json → Option α
  | none | some .null => some a
  | some _ => none

/-- A case that carries a value. -/
def carrying? {α β : Type} (read : Json → Option α) (f : α → β) (content : Option Json) : Option β :=
  content.bind fun j => (read j).map f

/-- One of several cases that carry nothing, found by name. -/
def choice? {α : Type} (find : List Char → Option α) (j : Json) : Option α :=
  j.case?.bind fun (name, content) => (find name).bind fun a => bare? a content

/-- One of several cases, each with a reader for what it carries. -/
def cases? {α : Type} (readers : List (List Char × (Option Json → Option α))) (j : Json) : Option α :=
  j.case?.bind fun (name, content) => (readers.lookup name).bind fun read => read content

/-! ## Tagged records -/

mutual

/-- Whether every part of a value exists, so that it could be read. -/
def isWhole : Json → Bool
  | .numeral (.real none) => false
  | .text none => false
  | .array items => isWholeItems items
  | .object members => isWholeMembers members
  | _ => true

def isWholeItems : List Json → Bool
  | [] => true
  | v :: r => isWhole v && isWholeItems r

def isWholeMembers : List (Option (List Char) × Json) → Bool
  | [] => true
  | (name, v) :: r => name.isSome && isWhole v && isWholeMembers r

end

/-- A record that names its case in one of its own fields: the case, and the record without it. As
an array the case comes first. All its parts must exist, used or not. -/
def tagged? (tag : String) : Json → Option (List Char × Json)
  | .object members =>
    match members.filter (·.1 = some tag.toList) with
    | [(_, value)] =>
      let rest := members.filter (·.1 ≠ some tag.toList)
      if isWholeMembers rest then (value.text?).map fun name => (name, .object rest) else none
    | _ => none
  | .array (value :: rest) =>
    if isWholeItems rest then (value.text?).map fun name => (name, .array rest) else none
  | _ => none

end Receipt.Json
