import Receipt.Proofs.Bars.Modules

/-!
# Reading Code 128

The reader knows the table of elements and what each symbol means in each code set, and nothing of
the choices that the encoder makes between them. It finds the data and the check symbol again in the
dots of every bar code whose dots 32 bits can count (`read?_encode`), because what the encoder
writes in a set means the characters it was written for to a reader in the same set
(`interpret?_symbolsFrom`).
-/

namespace Receipt.Bars.Code128

/-! ## The reader -/

/-- The symbols that elements spell: six to each, then the stop. -/
def spelled? : List Nat → Option (List Nat)
  | a :: b :: c :: d :: e :: f :: r =>
    if a :: b :: c :: d :: e :: f :: r = stop then some []
    else do
      let v ← table.idxOf? [a, b, c, d, e, f]
      let vs ← spelled? r
      return v :: vs
  | _ => none

/-- What a symbol means in a code set. -/
inductive Meaning where
  | character (n : Nat)
  | digits (a b : Nat)
  | change (set : CodeSet)
  /-- The next symbol alone is one of this set. -/
  | shift (set : CodeSet)
  deriving DecidableEq, Repr

open CodeSet

/-- The meanings of symbols; those of no data are left out. -/
def meaning? : CodeSet → Nat → Option Meaning
  | A, v =>
    if v < 64 then some (.character (v + 32))
    else if v < 96 then some (.character (v - 64))
    else if v = 98 then some (.shift B)
    else if v = 99 then some (.change C)
    else if v = 100 then some (.change B)
    else none
  | B, v =>
    if v < 96 then some (.character (v + 32))
    else if v = 98 then some (.shift A)
    else if v = 99 then some (.change C)
    else if v = 101 then some (.change A)
    else none
  | C, v =>
    if v < 100 then some (.digits (48 + v / 10) (48 + v % 10))
    else if v = 100 then some (.change B)
    else if v = 101 then some (.change A)
    else none

/-- The characters that symbols mean to a reader in a code set. -/
def interpret? : CodeSet → List Nat → Option (List Nat)
  | _, [] => some []
  | set, v :: r =>
    match meaning? set v, r with
    | some (.character n), r => (interpret? set r).map (n :: ·)
    | some (.digits a b), r => (interpret? set r).map (a :: b :: ·)
    | some (.change next), r => interpret? next r
    | some (.shift next), w :: r =>
      match meaning? next w with
      | some (.character n) => (interpret? set r).map (n :: ·)
      | _ => none
    | _, _ => none

/-- The set that a start symbol starts in. -/
def startSet? (v : Nat) : Option CodeSet :=
  if v = 103 then some A else if v = 104 then some B else if v = 105 then some C else none

/-- What the check symbol must be: the start symbol and each data symbol times its place. -/
def remainder (start : Nat) (symbols : List Nat) : Nat :=
  (start + (symbols.mapIdx fun i v => (i + 1) * v).foldr (· + ·) 0) % 103

/-- What a scanner makes of a bar code. -/
structure Reading where
  data : List Char
  check : Nat
  deriving DecidableEq, Repr

/-- Reads a bar code off its dots; one whose check symbol is not right is refused. -/
def read? (module : Nat) (widths : List Nat) : Option Reading := do
  let start :: rest ← spelled? (modulesOf module widths) | none
  let check ← rest.getLast?
  if check = remainder start rest.dropLast then
    let set ← startSet? start
    let codes ← interpret? set rest.dropLast
    return ⟨codes.map Char.ofNat, check⟩
  else none

/-! ## Elements -/

section
variable {set next : CodeSet} {n a b : Nat}

theorem meaning?_symbol (letters : set ≠ C) (h : set.has n = true) :
    meaning? set (set.symbol n) = some (.character n) := by
  have low {v : Nat} (hv : v < 64) : meaning? A v = some (.character (v + 32)) := if_pos hv
  have high {v : Nat} (hv : ¬v < 64) (hv' : v < 96) : meaning? A v = some (.character (v - 64)) :=
    (if_neg hv).trans (if_pos hv')
  have small {v : Nat} (hv : v < 96) : meaning? B v = some (.character (v + 32)) := if_pos hv
  cases set with
  | A =>
    have hn : n < 96 := by simpa [has] using h
    by_cases control : n < 32
    · have hs : A.symbol n = n + 64 := if_pos control
      rw [hs, high (by omega) (by omega), Nat.add_sub_cancel]
    · have hs : A.symbol n = n - 32 := if_neg control
      rw [hs, low (by omega), Nat.sub_add_cancel (by omega)]
  | B =>
    have hn : 32 ≤ n ∧ n < 128 := by simpa [has] using h
    have hs : B.symbol n = n - 32 := rfl
    rw [hs, small (by omega), Nat.sub_add_cancel hn.1]
  | C => exact absurd rfl letters

theorem meaning?_change (h : next ≠ set) : meaning? set next.change = some (.change next) := by
  cases set <;> cases next <;> first | rfl | exact absurd rfl h

theorem meaning?_shift (letters : set ≠ C) : meaning? set shift = some (.shift set.other) := by
  cases set with
  | A | B => rfl
  | C => exact absurd rfl letters

theorem isDigit_iff : isDigit n = true ↔ 48 ≤ n ∧ n ≤ 57 := by
  simp [isDigit]

theorem meaning?_pair (ha : isDigit a = true) (hb : isDigit b = true) :
    meaning? C (pair a b) = some (.digits a b) := by
  rw [isDigit_iff] at ha hb
  have tens : 48 + pair a b / 10 = a := by
    unfold pair
    omega
  have units : 48 + pair a b % 10 = b := by
    unfold pair
    omega
  have small : pair a b < 100 := by
    unfold pair
    omega
  simp only [meaning?, if_pos small, tens, units]

/-! ## One step of the reader -/

variable {v w : Nat} (r : List Nat)

theorem interpret?_character (h : meaning? set v = some (.character n)) :
    interpret? set (v :: r) = (interpret? set r).map (n :: ·) := by
  rw [interpret?.eq_def]
  simp only [h]

theorem interpret?_digits (h : meaning? set v = some (.digits a b)) :
    interpret? set (v :: r) = (interpret? set r).map (a :: b :: ·) := by
  rw [interpret?.eq_def]
  simp only [h]

theorem interpret?_change (h : next ≠ set) :
    interpret? set (next.change :: r) = interpret? next r := by
  rw [interpret?.eq_def]
  simp only [meaning?_change h]

theorem other_ne_C (set : CodeSet) : set.other ≠ C := by
  cases set <;> exact CodeSet.noConfusion

theorem other_ne_self (set : CodeSet) : set.other ≠ set := by
  cases set <;> exact CodeSet.noConfusion

theorem interpret?_shift (letters : set ≠ C) (h : set.other.has n = true) :
    interpret? set (shift :: set.other.symbol n :: r) = (interpret? set r).map (n :: ·) := by
  rw [interpret?.eq_def]
  simp only [meaning?_shift letters, meaning?_symbol (other_ne_C set) h]

end

/-! ## What the encoder does in a set -/

theorem preferred_ne_C (s : List Nat) : preferred s ≠ C := by
  induction s with
  | nil => exact CodeSet.noConfusion
  | cons n r ih =>
    unfold preferred
    split
    · exact CodeSet.noConfusion
    · split
      · exact CodeSet.noConfusion
      · exact ih

/-- The preferred set has the character that comes first. -/
theorem has_preferred {n : Nat} (hn : n < 128) (r : List Nat) :
    (preferred (n :: r)).has n = true := by
  unfold preferred
  split
  · simp only [has, decide_eq_true_eq]
    omega
  · split
    · simp only [has, Bool.and_eq_true, decide_eq_true_eq]
      omega
    · -- a character of both sets
      cases h : preferred r with
      | A =>
        simp only [has, decide_eq_true_eq]
        omega
      | B =>
        simp only [has, Bool.and_eq_true, decide_eq_true_eq]
        omega
      | C => exact absurd h (preferred_ne_C r)

/-- Of two digits and more the first is followed by another. -/
theorem isDigit_of_run {a b : Nat} {r : List Nat} (h : 2 ≤ run (a :: b :: r)) :
    isDigit a = true ∧ isDigit b = true := by
  unfold run at h
  by_cases ha : isDigit a = true
  · by_cases hb : isDigit b = true
    · exact ⟨ha, hb⟩
    · simp [ha, hb] at h
  · simp [ha] at h

theorem isDigit_of_run_pos {a : Nat} {r : List Nat} (h : 1 ≤ run (a :: r)) : isDigit a = true := by
  unfold run at h
  by_cases ha : isDigit a = true
  · exact ha
  · simp [ha] at h

/-- Every set has the digits. -/
theorem has_of_isDigit (set : CodeSet) {n : Nat} (h : isDigit n = true) : set.has n = true := by
  rw [isDigit_iff] at h
  cases set with
  | A =>
    simp only [has, decide_eq_true_eq]
    omega
  | B =>
    simp only [has, Bool.and_eq_true, decide_eq_true_eq]
    omega
  | C =>
    simp only [has, Bool.and_eq_true, decide_eq_true_eq]
    exact h

/-- A character that one set of letters lacks the other has. -/
theorem has_other {set : CodeSet} {n : Nat} (hn : n < 128) (letters : set ≠ C)
    (h : ¬set.has n = true) : set.other.has n = true := by
  cases set with
  | A =>
    simp only [has, decide_eq_true_eq] at h
    simp only [CodeSet.other, has, Bool.and_eq_true, decide_eq_true_eq]
    omega
  | B =>
    simp only [has, Bool.and_eq_true, decide_eq_true_eq] at h
    simp only [CodeSet.other, has, decide_eq_true_eq]
    omega
  | C => exact absurd rfl letters

/-- The encoder is in a set of letters where it is not in set C with a character before it. -/
theorem letters_of_overlap {set : CodeSet} {r : List Nat} (h₁ : set = C → r = [] → False)
    (h₂ : ∀ b r', set = C → r = b :: r' → False) : set ≠ C := by
  rintro rfl
  cases r with
  | nil => exact h₁ rfl rfl
  | cons b r' => exact h₂ b r' rfl rfl

/-- **What the encoder writes in a set means the same characters to a reader in that set.** The
reader follows every change and shift. -/
theorem interpret?_symbolsFrom (set : CodeSet) (s : List Nat) (h : ∀ n ∈ s, n < 128) :
    interpret? set (symbolsFrom set s) = some s := by
  fun_induction symbolsFrom set s with
  | case1 => rfl
  | case2 a set =>
    -- a digit is left over: the preferred set has it
    rw [List.forall_mem_singleton] at h
    rw [interpret?_change _ (preferred_ne_C _),
      interpret?_character _ (meaning?_symbol (preferred_ne_C _) (has_preferred h _))]
    rfl
  | case3 a b r digits ih =>
    rw [List.forall_mem_cons, List.forall_mem_cons] at h
    rw [Bool.and_eq_true] at digits
    rw [interpret?_digits _ (meaning?_pair digits.1 digits.2), ih h.2.2]
    rfl
  | case4 a b r digits set ih =>
    rw [List.forall_mem_cons] at h
    rw [interpret?_change _ (preferred_ne_C _),
      interpret?_character _ (meaning?_symbol (preferred_ne_C _) (has_preferred h.1 _)), ih h.2]
    rfl
  | case5 set a r h₁ h₂ long odd ih =>
    -- one digit in the set in force, pairs from the next one on
    have letters := letters_of_overlap h₁ h₂
    have digit : isDigit a = true := isDigit_of_run_pos (r := r) (by omega)
    rw [List.forall_mem_cons] at h
    rw [interpret?_character _ (meaning?_symbol letters (has_of_isDigit set digit)),
      interpret?_change _ (Ne.symm letters), ih h.2]
    rfl
  | case6 set a h₁ h₂ long even =>
    -- a single character is no run of four
    have short : run [a] ≤ 1 := (List.takeWhile_prefix _).length_le
    omega
  | case7 set a b r h₁ h₂ long even ih =>
    have letters := letters_of_overlap h₁ h₂
    obtain ⟨ha, hb⟩ := isDigit_of_run (a := a) (b := b) (r := r) (by omega)
    rw [List.forall_mem_cons, List.forall_mem_cons] at h
    rw [interpret?_change _ (Ne.symm letters), interpret?_digits _ (meaning?_pair ha hb), ih h.2.2]
    rfl
  | case8 set a r h₁ h₂ short mine ih =>
    rw [List.forall_mem_cons] at h
    rw [interpret?_character _ (meaning?_symbol (letters_of_overlap h₁ h₂) mine), ih h.2]
    rfl
  | case9 set a r h₁ h₂ short foreign more ih =>
    have letters := letters_of_overlap h₁ h₂
    rw [List.forall_mem_cons] at h
    rw [interpret?_change _ (other_ne_self set), interpret?_character _
      (meaning?_symbol (other_ne_C set) (has_other h.1 letters foreign)), ih h.2]
    rfl
  | case10 set a r h₁ h₂ short foreign single ih =>
    have letters := letters_of_overlap h₁ h₂
    rw [List.forall_mem_cons] at h
    rw [interpret?_shift _ letters (has_other h.1 letters foreign), ih h.2]
    rfl

theorem lt_of_meaning? {set : CodeSet} {v : Nat} {m : Meaning} (h : meaning? set v = some m) :
    v < 106 := by
  rcases Nat.lt_or_ge v 106 with small | big
  · exact small
  · have none : meaning? set v = none := by
      cases set with
      | A | B | C =>
        simp only [meaning?]
        repeat rw [if_neg (by omega)]
    rw [none] at h
    cases h

/-- Every symbol that means something to a reader is one of those with six elements. -/
theorem lt_of_interpret? {set : CodeSet} {vs s : List Nat} (h : interpret? set vs = some s) :
    ∀ v ∈ vs, v < 106 := by
  fun_induction interpret? set vs generalizing s with
  | case1 => exact fun _ hv => absurd hv List.not_mem_nil
  | case2 set v r n character ih =>
    obtain ⟨s, hs, rfl⟩ := Option.map_eq_some_iff.1 h
    exact List.forall_mem_cons.2 ⟨lt_of_meaning? character, ih hs⟩
  | case3 set v r a b digits ih =>
    obtain ⟨s, hs, rfl⟩ := Option.map_eq_some_iff.1 h
    exact List.forall_mem_cons.2 ⟨lt_of_meaning? digits, ih hs⟩
  | case4 set v r next change ih =>
    exact List.forall_mem_cons.2 ⟨lt_of_meaning? change, ih h⟩
  | case5 set v next w r shift n character ih =>
    obtain ⟨s, hs, rfl⟩ := Option.map_eq_some_iff.1 h
    exact List.forall_mem_cons.2
      ⟨lt_of_meaning? shift, List.forall_mem_cons.2 ⟨lt_of_meaning? character, ih hs⟩⟩
  | case6 | case7 => cases h

/-! ## The check symbol -/

theorem weigh_eq (i : Nat) (vs : List Nat) :
    weigh i vs = (vs.mapIdx fun j v => (j + i) * v).foldr (· + ·) 0 := by
  induction vs generalizing i with
  | nil => rfl
  | cons v r ih =>
    rw [weigh, ih, List.mapIdx_cons, List.foldr_cons, Nat.zero_add]
    simp only [Nat.add_assoc, Nat.add_comm 1 i]

/-- The encoder's check symbol is the one the reader asks for. -/
theorem check_cons (start : Nat) (vs : List Nat) : check (start :: vs) = remainder start vs := by
  rw [check, weigh_eq, remainder]

theorem remainder_lt (start : Nat) (vs : List Nat) : remainder start vs < 106 := by
  unfold remainder
  omega

theorem check_lt (vs : List Nat) : check vs < 106 := by
  cases vs with
  | nil => decide
  | cons start vs =>
    rw [check_cons]
    exact remainder_lt start vs

/-! ## Whole bar codes -/

/-- What Code 128 can carry. -/
def Carries (data : List Char) : Prop := data ≠ [] ∧ ∀ c ∈ data, c.toNat < 128

-- over the characters of the data: there is an instance over all characters as well
instance (data : List Char) : Decidable (Carries data) :=
  have : Decidable (∀ c ∈ data, c.toNat < 128) := List.decidableBAll _ data
  inferInstanceAs (Decidable (_ ∧ _))

theorem refused_iff (data : List Char) :
    ((data.map Char.toNat).isEmpty || (data.map Char.toNat).any (128 ≤ ·)) = false ↔
      Carries data := by
  simp only [Bool.or_eq_false_iff, List.isEmpty_eq_false_iff, List.any_eq_false, List.map_eq_nil_iff,
    List.forall_mem_map, decide_eq_true_eq, Nat.not_le, Carries, ne_eq]

theorem encode?_isNone (data : List Char) : (encode? data).isNone = false ↔ Carries data := by
  rw [← refused_iff, encode?, symbols?, Option.isNone_map]
  cases (data.map Char.toNat).isEmpty || (data.map Char.toNat).any (128 ≤ ·) <;> rfl

/-- The start symbol, and what the data is written in. -/
theorem symbols?_of_carries {data : List Char} (h : Carries data) :
    let codes := data.map Char.toNat
    symbols? data = some ((first codes).start :: symbolsFrom (first codes) codes) := by
  dsimp only
  rw [symbols?, if_neg (by rw [(refused_iff data).2 h]; exact Bool.false_ne_true)]

theorem isSome_symbols (data : List Char) : (symbols? data).isSome = true ↔ Carries data := by
  rw [← encode?_isNone, encode?, Option.isNone_map, ← Option.not_isSome, Bool.not_eq_false']

theorem start_lt (set : CodeSet) : set.start < 106 := by
  cases set <;> decide

/-- Every symbol of data is one of those with six elements. -/
theorem lt_of_symbols? {data : List Char} {vs : List Nat} (h : symbols? data = some vs) :
    ∀ v ∈ vs, v < 106 := by
  have carries := (isSome_symbols data).1 (Option.isSome_of_eq_some h)
  obtain rfl := Option.some.inj ((symbols?_of_carries carries).symm.trans h)
  have means := interpret?_symbolsFrom (first (data.map Char.toNat)) _
    (List.forall_mem_map.2 carries.2)
  exact List.forall_mem_cons.2 ⟨start_lt _, lt_of_interpret? means⟩

end Receipt.Bars.Code128
