import Receipt.Json.Token

/-!
# Reading JSON text

The reader keeps the open arrays and objects on a stack and takes one token at a time; each token
is either what its `Place` calls for, or the text is refused.

The texts that are taken are those that `from_str` of `serde_json` takes.
-/

namespace Receipt.Json

/-- An open array or object, its finished entries last first. -/
inductive Frame where
  | items (done : List Json)
  | members (done : List (Option (List Char) × Json)) (name : Option (List Char))

/-- Where the reader stands. -/
inductive Place where
  /-- A value comes next. -/
  | value
  /-- An array has just been opened. -/
  | firstItem
  /-- An object has just been opened. -/
  | firstMember
  /-- A member comes next in an object with these members, last first. -/
  | member (done : List (Option (List Char) × Json))
  /-- The name of a member has been read. -/
  | named (done : List (Option (List Char) × Json)) (name : Option (List Char))
  /-- A value has been read. -/
  | after (v : Json)

/-- Reads the rest of a text. -/
def readFrom : List Frame → Place → List Token → Option Json
  | .items [] :: stack, .firstItem, .arrayClose :: r => readFrom stack (.after (.array [])) r
  | stack, .value, t :: r | stack, .firstItem, t :: r =>
    match t with
    | .text s => readFrom stack (.after (.text s)) r
    | .word v => readFrom stack (.after v) r
    | .arrayOpen => readFrom (.items [] :: stack) .firstItem r
    | .objectOpen => readFrom stack .firstMember r
    | _ => none
  | stack, .firstMember, .objectClose :: r => readFrom stack (.after (.object [])) r
  | stack, .firstMember, .text s :: r => readFrom stack (.named [] s) r
  | stack, .member done, .text s :: r => readFrom stack (.named done s) r
  | stack, .named done s, .colon :: r => readFrom (.members done s :: stack) .value r
  | .items done :: stack, .after v, t :: r =>
    match t with
    | .comma => readFrom (.items (v :: done) :: stack) .value r
    | .arrayClose => readFrom stack (.after (.array (v :: done).reverse)) r
    | _ => none
  | .members done s :: stack, .after v, t :: r =>
    match t with
    | .comma => readFrom stack (.member ((s, v) :: done)) r
    | .objectClose => readFrom stack (.after (.object ((s, v) :: done).reverse)) r
    | _ => none
  | [], .after v, [] => some v
  | _, _, _ => none

/-- The value a text denotes, blanks around it aside. -/
def read? (s : List Char) : Option Json := (Token.scan .between s).bind (readFrom [] .value)

end Receipt.Json
