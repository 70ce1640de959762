import Receipt.Proofs.Bars.Elements

/-!
# Reading Code 93

The reader knows the elements of the symbols, which characters have a symbol of their own and what
the letters stand for after each of the four shift symbols. It finds the data and both check symbols
again in the dots of every bar code whose dots 32 bits can count (`read?_encode_code93`): a shift
symbol is no character, so the symbols of a text can be told apart from the left
(`interpret?_symbols`), whatever the check symbols after them happen to be.
-/

namespace Receipt.Bars.Code93

/-! ## The reader -/

/-- The elements of every symbol, the one at the start and the end last. -/
def alphabet : List (List Nat) := table ++ [guard]

/-- The symbol of the guard. -/
def guardSymbol : Nat := 47

/-- The symbols that elements spell: six to each, then a final bar of one module. -/
def spelled? : List Nat → Option (List Nat)
  | [1] => some []
  | a :: b :: c :: d :: e :: f :: r => do
    let v ← alphabet.idxOf? [a, b, c, d, e, f]
    let vs ← spelled? r
    return v :: vs
  | _ => none

/-- The characters with a symbol of their own, by symbol. -/
def characters : List Char := "0123456789ABCDEFGHIJKLMNOPQRSTUVWXYZ-. $/+%".toList

/-- The codes of ASCII that the letters from `A` to `Z` stand for after a shift symbol. -/
def lettersAfter (shift : Nat) : List (Option Nat) :=
  let codes (first count : Nat) := (List.range' first count).map some
  if shift = dollar then codes 1 26
  else if shift = percent then
    codes 27 5 ++ codes 59 5 ++ codes 91 5 ++ codes 123 5 ++ [some 0, some 64, some 96]
  else if shift = slash then codes 33 15 ++ List.replicate 10 none ++ [some 58]
  else if shift = plus then codes 97 26
  else []

/-- The character of a shift symbol and the symbol of a letter. -/
def shifted? (shift letter : Nat) : Option Char :=
  if letter < 10 then none else ((lettersAfter shift)[letter - 10]?.join).map Char.ofNat

/-- The characters that symbols stand for. -/
def interpret? : List Nat → Option (List Char)
  | [] => some []
  | v :: r =>
    match characters[v]?, r with
    | some c, r => (interpret? r).map (c :: ·)
    | none, w :: r => do
      let c ← shifted? v w
      let s ← interpret? r
      return c :: s
    | none, [] => none

/-- What a check symbol must be: the symbols weighed from the last one back, with the weights from
1 to `cycle` over and over. -/
def remainder (cycle : Nat) (symbols : List Nat) : Nat :=
  (symbols.reverse.mapIdx fun i v => (i % cycle + 1) * v).foldr (· + ·) 0 % 47

/-- What a scanner makes of a bar code. -/
structure Reading where
  data : List Char
  c : Nat
  k : Nat
  deriving DecidableEq, Repr

/-- Reads a bar code off its dots; one without the guard at both ends, or with a check symbol that
is not right, is refused. -/
def read? (module : Nat) (widths : List Nat) : Option Reading := do
  let start :: rest ← spelled? (modulesOf module widths) | none
  let stop :: k :: c :: backwards := rest.reverse | none
  let symbols := backwards.reverse
  if start = guardSymbol ∧ stop = guardSymbol ∧ c = remainder 20 symbols ∧
      k = remainder 15 (symbols ++ [c]) then
    let data ← interpret? symbols
    return ⟨data, c, k⟩
  else none

/-! ## Elements -/

/-- Whether the reader takes symbols for the character they are for. -/
def isRead (c : Char) : List Nat → Bool
  | [v] => v < 47 && characters[v]? = some c
  | [v, w] => v < 47 && w < 47 && characters[v]? = none && shifted? v w = some c
  | _ => false

/-- Every ASCII character has symbols, and the reader takes them for it. -/
theorem symbols?_ascii {c : Char} (h : c.toNat < 128) :
    ∃ vs, symbols? c = some vs ∧ isRead c vs = true := by
  -- The encoder goes by ranges of codes and the reader by tables: all codes are tried.
  have all : ∀ n < 128, (symbols? (Char.ofNat n)).any (isRead (Char.ofNat n)) = true := by
    decide +kernel
  have read := all c.toNat h
  rw [Char.ofNat_toNat, Option.any_eq_true] at read
  exact read

/-- No other character has symbols. -/
theorem symbols?_eq_none {c : Char} (h : 128 ≤ c.toNat) : symbols? c = none := by
  have small : signs.all (·.toNat < 128) = true := by decide
  have sign : signs.contains c = false := by
    rw [← Bool.not_eq_true, List.contains_iff_mem]
    intro hc
    have ascii : c.toNat < 128 := by simpa using List.all_eq_true.1 small c hc
    omega
  simp only [symbols?, sign, Bool.and_eq_true, decide_eq_true_eq, Bool.false_eq_true, if_false]
  repeat rw [if_neg (by omega)]

/-- The reader takes the symbols of a character for it. -/
theorem isRead_symbols {c : Char} {vs : List Nat} (h : symbols? c = some vs) :
    isRead c vs = true := by
  rcases Nat.lt_or_ge c.toNat 128 with ascii | other
  · obtain ⟨ws, same, read⟩ := symbols?_ascii ascii
    obtain rfl : vs = ws := Option.some.inj (h.symm.trans same)
    exact read
  · rw [symbols?_eq_none other] at h
    cases h

theorem interpret?_isRead {c : Char} {vs : List Nat} (h : isRead c vs = true) (r : List Nat) :
    interpret? (vs ++ r) = (interpret? r).map (c :: ·) ∧ ∀ v ∈ vs, v < 47 := by
  match vs with
  | [] => cases h
  | [v] =>
    simp only [isRead, Bool.and_eq_true, decide_eq_true_eq] at h
    refine ⟨?_, by simpa using h.1⟩
    rw [List.singleton_append, interpret?.eq_def]
    simp only [h.2]
  | [v, w] =>
    simp only [isRead, Bool.and_eq_true, decide_eq_true_eq] at h
    obtain ⟨⟨⟨hv, hw⟩, shift⟩, char⟩ := h
    refine ⟨?_, by simp [hv, hw]⟩
    show interpret? (v :: w :: r) = _
    rw [interpret?.eq_def]
    simp only [shift, char]
    cases interpret? r <;> rfl
  | _ :: _ :: _ :: _ => cases h

/-- **The symbols of a text stand for it alone.** -/
theorem interpret?_symbols {s : List Char} {parts : List (List Nat)}
    (h : s.mapM symbols? = some parts) :
    interpret? parts.flatten = some s ∧ ∀ v ∈ parts.flatten, v < 47 := by
  induction s generalizing parts with
  | nil =>
    obtain rfl : [] = parts := by simpa using h
    exact ⟨rfl, fun v hv => absurd hv List.not_mem_nil⟩
  | cons c s ih =>
    obtain ⟨vs, rest, first, more, rfl⟩ := mapM_cons_eq_some.1 h
    obtain ⟨read, small⟩ := ih more
    obtain ⟨front, smallFront⟩ := interpret?_isRead (isRead_symbols first) rest.flatten
    rw [List.flatten_cons]
    refine ⟨by rw [front, read]; rfl, fun v hv => ?_⟩
    rcases List.mem_append.1 hv with hv | hv
    · exact smallFront v hv
    · exact small v hv

/-- Just the ASCII characters have symbols. -/
theorem isSome_symbols (c : Char) : (symbols? c).isSome = true ↔ c.toNat < 128 := by
  rcases Nat.lt_or_ge c.toNat 128 with ascii | other
  · obtain ⟨vs, first, _⟩ := symbols?_ascii ascii
    simp [first, ascii]
  · simp [symbols?_eq_none other, Nat.not_lt.2 other]

theorem mapM_symbols?_isSome (s : List Char) :
    (s.mapM symbols?).isSome = true ↔ ∀ c ∈ s, c.toNat < 128 := by
  simp only [isSome_mapM, isSome_symbols]

/-! ## The check symbols -/

theorem weigh_eq (cycle i : Nat) (vs : List Nat) :
    weigh cycle i vs = (vs.mapIdx fun j v => ((j + i) % cycle + 1) * v).foldr (· + ·) 0 := by
  induction vs generalizing i with
  | nil => rfl
  | cons v r ih =>
    rw [weigh, ih, List.mapIdx_cons, List.foldr_cons, Nat.zero_add, Nat.mul_comm]
    simp only [Nat.add_assoc, Nat.add_comm 1 i]

/-- The encoder's check symbols are those the reader asks for. -/
theorem check_eq (cycle : Nat) (vs : List Nat) : check cycle vs = remainder cycle vs := by
  simp only [check, weigh_eq, remainder, Nat.add_zero]

theorem remainder_lt (cycle : Nat) (vs : List Nat) : remainder cycle vs < 47 :=
  Nat.mod_lt _ (by decide)

/-! ## Whole bar codes -/

theorem encode?_isNone (data : List Char) :
    (encode? data).isNone = false ↔ data ≠ [] ∧ ∀ c ∈ data, c.toNat < 128 := by
  rw [← mapM_symbols?_isSome]
  cases data with
  | nil => simp [encode?]
  | cons c r =>
    cases hs : (c :: r).mapM symbols? <;> simp [encode?, hs]

/-- The symbols of the characters, and two check symbols, between guards. -/
theorem encode?_eq {data : List Char} {parts : List (List Nat)} (some : data ≠ [])
    (h : data.mapM symbols? = .some parts) :
    let vs := parts.flatten
    let c := remainder 20 vs
    let k := remainder 15 (vs ++ [c])
    encode? data = .some
      { modules := guard ++ (vs ++ [c, k]).flatMap elements ++ guard ++ [1]
        text := data
        check := .some (.code93 c k) } := by
  simp only [encode?, List.isEmpty_eq_false_iff.2 some, h, check_eq]
  rfl

end Receipt.Bars.Code93
