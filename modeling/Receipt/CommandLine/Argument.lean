import Receipt.Text.Digits

/-!
# Command line arguments

Arguments are values in order, options that take a value and flags. The value of an option is the
next argument, or stands behind an equals sign; after `--` everything is a value. An argument that
begins with a hyphen is never a value otherwise, save the hyphen alone.

These are the arguments of `Cli` and `Commands` in `main`, as their derived parser takes them.
-/

namespace Receipt.CommandLine

inductive Argument where
  | value (s : List Char)
  | option (name value : List Char)
  | flag (name : List Char)
  deriving DecidableEq, Repr

/-- The names of the options and the flags of a command, without their hyphens. -/
structure Names where
  options : List String
  flags : List String

def Names.isOption (n : Names) (s : List Char) : Bool := n.options.any (·.toList = s)

def Names.isFlag (n : Names) (s : List Char) : Bool := n.flags.any (·.toList = s)

/-- Whether an argument begins with a hyphen and is not the hyphen alone. -/
def isHyphenated : List Char → Bool
  | '-' :: _ :: _ => true
  | _ => false

/-- What stands behind the first equals sign. -/
def attached? (s : List Char) : Option (List Char) :=
  match s.dropWhile (· ≠ '=') with
  | _ :: v => some v
  | [] => none

/-- Reads the arguments of a command; none if one of them is unknown or lacks its value. -/
def Argument.scan (n : Names) : List (List Char) → Option (List Argument)
  | [] => some []
  | a :: r =>
    if a = ['-', '-'] then some (r.map .value)
    else if !isHyphenated a then (scan n r).map (.value a :: ·)
    else if a.take 2 ≠ ['-', '-'] then none
    else
      let name := (a.drop 2).takeWhile (· ≠ '=')
      match attached? a with
      | some v => if n.isOption name then (scan n r).map (.option name v :: ·) else none
      | none =>
        if n.isFlag name then (scan n r).map (.flag name :: ·)
        else if n.isOption name then
          match r with
          | v :: r => if isHyphenated v then none else (scan n r).map (.option name v :: ·)
          | [] => none
        else none

def Argument.value? : Argument → Option (List Char)
  | value s => some s
  | _ => none

/-- The values among arguments. -/
def values (as : List Argument) : List (List Char) := as.filterMap Argument.value?

def Argument.valueOf? (name : String) : Argument → Option (List Char)
  | option n v => if n = name.toList then some v else none
  | _ => none

/-- An option that may be missing but not repeated, its value read. -/
def option? {α : Type} (as : List Argument) (name : String) (read : List Char → Option α) :
    Option (Option α) :=
  match as.filterMap (Argument.valueOf? name) with
  | [] => some none
  | [v] => (read v).map some
  | _ => none

/-- A flag that may be missing but not repeated. -/
def flag? (as : List Argument) (name : String) : Option Bool :=
  match as.count (.flag name.toList) with
  | 0 => some false
  | 1 => some true
  | _ => none

/-! ## Values -/

/-- A natural number of 64 bits, with or without a plus sign. -/
def natural? (s : List Char) : Option Nat :=
  (Text.decimal? (if s.head? = some '+' then s.drop 1 else s)).filter (· < UInt64.size)

/-- A natural number of 32 bits; zero may have a minus sign. -/
def small? (s : List Char) : Option Nat :=
  if s.head? = some '-' then (Text.decimal? (s.drop 1)).filter (· = 0)
  else (natural? s).filter (· < UInt32.size)

/-- The name of a file; it is not empty. -/
def path? (s : List Char) : Option (List Char) := if s.isEmpty then none else some s

end Receipt.CommandLine
