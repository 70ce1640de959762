import Receipt.Proofs.Bars.Elements

/-!
# Reading retail codes

The reader finds guards and digits in the modules, and the digit that no code shows in the number
sets of the left half: the first of EAN-13, the number system and the check digit of UPC-E. Whatever
data is taken, it reads the printed number (`read?_encode_retail`), and this number is the digits of
the data with the check digit that brings the weighted sum to a multiple of ten.
-/

namespace Receipt.Bars.Retail

open NumberSet

/-! ## The reader -/

/-- The digit that has these elements in a number set. -/
def digitOf? (set : NumberSet) (elements : List Nat) : Option Digit :=
  (List.finRange 10).find? fun d => set.draw d = elements

/-- A digit of the left half, with its set. -/
def left? (elements : List Nat) : Option (NumberSet × Digit) :=
  ((digitOf? A elements).map (A, ·)).or ((digitOf? B elements).map (B, ·))

/-- The digits of the left half, and what comes after them. -/
def lefts : List Nat → List (NumberSet × Digit) × List Nat
  | a :: b :: c :: d :: r =>
    match left? [a, b, c, d] with
    | some digit => (digit :: (lefts r).1, (lefts r).2)
    | none => ([], a :: b :: c :: d :: r)
  | r => ([], r)

/-- The digits of the right half, up to the guard. -/
def rights? : List Nat → Option (List Digit)
  | a :: b :: c :: d :: r => do
    let digit ← digitOf? C [a, b, c, d]
    let more ← rights? r
    return digit :: more
  | r => if r = guardBars then some [] else none

/-- What a scanner sees between the guards. -/
structure Halves where
  /-- The sets of the digits at the left -/
  sets : List NumberSet
  left : List Digit
  /-- The digits at the right; a short code ends where it would have its centre. -/
  right : Option (List Digit)
  deriving DecidableEq, Repr

def halves? (modules : List Nat) : Option Halves :=
  let (left, rest) := lefts (modules.drop 3)
  if modules.take 3 ≠ guardBars then none
  else if rest = endBars then some ⟨left.map Prod.fst, left.map Prod.snd, none⟩
  else if rest.take 5 = centreBars then
    (rights? (rest.drop 5)).map fun right => ⟨left.map Prod.fst, left.map Prod.snd, some right⟩
  else none

/-- The first digit of EAN-13, from the sets of the left half. -/
def firstOf? (sets : List NumberSet) : Option Digit :=
  (List.finRange 10).find? fun d => leftSets d = sets

/-- The number system and the check digit of UPC-E, from the sets of its digits. -/
def shortOf? (sets : List NumberSet) : Option (Nat × Digit) :=
  (((List.finRange 10).find? fun d => shortSets d = sets).map (0, ·)).or
    (((List.finRange 10).find? fun d => (shortSets d).map swap = sets).map (1, ·))

/-- What a scanner makes of a bar code, every digit included. -/
inductive Reading where
  | ean13 (ds : List Digit)
  | ean8 (ds : List Digit)
  | upcA (ds : List Digit)
  | upcE (system : Nat) (six : List Digit) (check : Digit)
  deriving DecidableEq, Repr

/-- The left half of UPC-A is in set A, as that of EAN-13 is with the first digit 0. -/
def Halves.read? : Symbology → Halves → Option Reading
  | .ean, ⟨sets, left, some right⟩ =>
    if sets = List.replicate 4 A ∧ right.length = 4 then some (.ean8 (left ++ right))
    else if right.length = 6 then
      (firstOf? sets).map fun first => .ean13 (first :: left ++ right)
    else none
  | .upc, ⟨sets, left, some right⟩ =>
    if sets = List.replicate 6 A ∧ right.length = 6 then some (.upcA (left ++ right)) else none
  | .upc, ⟨sets, left, none⟩ =>
    (shortOf? sets).map fun (system, check) => .upcE system left check
  | _, _ => none

def scan? (symbology : Symbology) (modules : List Nat) : Option Reading :=
  (halves? modules).bind (Halves.read? symbology)

/-- The number as printed. -/
def Reading.number : Reading → List Char
  | ean13 ds | ean8 ds | upcA ds => text ds
  | upcE system six check => Nat.digitChar system :: text (six ++ [check])

/-- The eleven digits of a short code: the zeros left out go back where its last digit says. -/
def fillZeros (system : Nat) (six : List Nat) : List Nat :=
  let shown := six.take 5
  let zeros (count : Nat) : List Nat := List.replicate count 0
  match six.drop 5 with
  | [last] =>
    if last < 3 then system :: shown.take 2 ++ [last] ++ zeros 4 ++ shown.drop 2
    else if last = 3 then system :: shown.take 3 ++ zeros 5 ++ shown.drop 3
    else if last = 4 then system :: shown.take 4 ++ zeros 5 ++ shown.drop 4
    else system :: shown ++ zeros 4 ++ [last]
  | _ => []

/-- The number without zeros left out: that of UPC-E has the twelve digits of UPC-A. -/
def Reading.inFull : Reading → List Nat
  | ean13 ds | ean8 ds | upcA ds => ds.map Fin.val
  | upcE system six check => fillZeros system (six.map Fin.val) ++ [check.val]

/-- The digits weighted 1, 3, 1, … from the right. -/
def weighted (ds : List Nat) : Nat :=
  (ds.reverse.mapIdx fun i d => (if i % 2 = 0 then 1 else 3) * d).foldr (· + ·) 0

/-! ## Reading digits -/

section
variable {sets : List NumberSet} {ds : List Digit}

/-- Digits in two halves about a centre, the left one in these sets. -/
def twoHalves (sets : List NumberSet) (ds : List Digit) : List Nat :=
  guardBars ++ draw sets (ds.take sets.length) ++ centreBars
    ++ draw (List.replicate sets.length C) (ds.drop sets.length) ++ guardBars

theorem exists_four (set : NumberSet) (d : Digit) : ∃ a b c e, set.draw d = [a, b, c, e] := by
  have four : (set.draw d).length = 4 := by cases set <;> revert d <;> decide
  match set.draw d, four with
  | [a, b, c, e], _ => exact ⟨a, b, c, e, rfl⟩

/-- No digit of set A has the elements of one of set B, nor any those of another in its own set. -/
theorem left?_draw {set : NumberSet} (left : set ≠ C) (d : Digit) :
    left? (set.draw d) = some (set, d) := by
  cases set with
  | A => revert d; decide
  | B => revert d; decide
  | C => exact absurd rfl left

theorem digitOf?_draw (d : Digit) : digitOf? C (C.draw d) = some d := by
  revert d
  decide

theorem draw_cons (set : NumberSet) (d : Digit) :
    draw (set :: sets) (d :: ds) = set.draw d ++ draw sets ds := rfl

/-- The left half is read up to bars that are no digit. -/
theorem lefts_draw (left : ∀ set ∈ sets, set ≠ C) (size : sets.length = ds.length) (r : List Nat) :
    lefts (draw sets ds ++ 1 :: 1 :: 1 :: 1 :: r) = (sets.zip ds, 1 :: 1 :: 1 :: 1 :: r) := by
  induction sets generalizing ds with
  -- Four elements of one module are no digit: here the reader stops.
  | nil => rfl
  | cons set sets ih =>
    cases ds with
    | nil => simp at size
    | cons d ds =>
      rw [List.forall_mem_cons] at left
      have rest := ih left.2 (by simpa using size)
      have digit := left?_draw left.1 d
      rw [draw_cons, List.append_assoc]
      obtain ⟨a, b, c, e, four⟩ := exists_four set d
      rw [four] at digit ⊢
      simp only [List.cons_append, List.nil_append, lefts, digit, rest]
      rfl

/-- The right half is read up to the guard. -/
theorem rights?_draw (ds : List Digit) :
    rights? (draw (List.replicate ds.length C) ds ++ guardBars) = some ds := by
  induction ds with
  | nil => rfl
  | cons d ds ih =>
    have digit := digitOf?_draw d
    rw [List.length_cons, List.replicate_succ, draw_cons, List.append_assoc]
    obtain ⟨a, b, c, e, four⟩ := exists_four C d
    rw [four] at digit ⊢
    simp only [List.cons_append, List.nil_append, rights?, digit, ih]
    rfl

/-- Guard and left half are found in front of what has the four bars of a centre or an end. -/
theorem halves?_eq {left : List Digit} (letters : ∀ set ∈ sets, set ≠ C)
    (size : sets.length = left.length) (r : List Nat) :
    halves? (guardBars ++ (draw sets left ++ 1 :: 1 :: 1 :: 1 :: r)) =
      if 1 :: 1 :: 1 :: 1 :: r = endBars then some ⟨sets, left, none⟩
      else if (1 :: 1 :: 1 :: 1 :: r).take 5 = centreBars then
        (rights? ((1 :: 1 :: 1 :: 1 :: r).drop 5)).map fun right => ⟨sets, left, some right⟩
      else none := by
  have guarded (m : List Nat) : (guardBars ++ m).take 3 = guardBars ∧ (guardBars ++ m).drop 3 = m :=
    ⟨rfl, rfl⟩
  have first : (sets.zip left).map Prod.fst = sets := List.map_fst_zip (by omega)
  have second : (sets.zip left).map Prod.snd = left := List.map_snd_zip (by omega)
  simp only [halves?, guarded, lefts_draw letters size, first, second, ne_eq, not_true_eq_false,
    if_false]

theorem halves?_short {six : List Digit} (letters : ∀ set ∈ sets, set ≠ C)
    (size : sets.length = six.length) :
    halves? (guardBars ++ draw sets six ++ endBars) = some ⟨sets, six, none⟩ := by
  rw [List.append_assoc]
  exact halves?_eq letters size [1, 1]

theorem halves?_twoHalves (sets : List NumberSet) (ds : List Digit)
    (letters : ∀ set ∈ sets, set ≠ C) (size : ds.length = 2 * sets.length) :
    halves? (twoHalves sets ds) =
      some ⟨sets, ds.take sets.length, some (ds.drop sets.length)⟩ := by
  have left : sets.length = (ds.take sets.length).length := by
    rw [List.length_take]
    omega
  have right : sets.length = (ds.drop sets.length).length := by
    rw [List.length_drop]
    omega
  have centred (m : List Nat) : guardBars ++ draw sets (ds.take sets.length) ++ centreBars ++ m =
      guardBars ++ (draw sets (ds.take sets.length) ++ 1 :: 1 :: 1 :: 1 :: 1 :: m) := by
    simp [centreBars]
  -- With a right half there is always more than the end of a short code.
  have more (m : List Nat) : 1 :: 1 :: 1 :: 1 :: 1 :: (m ++ guardBars) ≠ endBars := by
    intro h
    have length := congrArg List.length h
    simp [guardBars, endBars] at length
  have read := rights?_draw (ds.drop sets.length)
  rw [← right] at read
  rw [twoHalves, List.append_assoc _ _ guardBars, centred, halves?_eq letters left,
    if_neg (more _)]
  simp only [List.take_succ_cons, List.take_zero, List.drop_succ_cons, List.drop_zero, read]
  rfl

end

/-! ## Numbers -/

/-- What retail data says: the digits of a number in one of the four codes, the check digit
aside. -/
inductive Number where
  | ean13 (body : List Digit) (size : body.length = 12)
  | ean8 (body : List Digit) (size : body.length = 7)
  | upcA (body : List Digit) (size : body.length = 11)
  | upcE (system : Digit) (six : List Digit) (low : system.val ≤ 1) (size : six.length = 6)

namespace Number

def symbology : Number → Symbology
  | ean13 _ _ | ean8 _ _ => .ean
  | upcA _ _ | upcE _ _ _ _ => .upc

/-- The digits that data gives. -/
def digits : Number → List Digit
  | ean13 body _ | ean8 body _ | upcA body _ => body
  | upcE system six _ _ => system :: six

/-- The check digit: that of a short code is the one of its eleven digits. -/
def check : Number → Digit
  | ean13 body _ | ean8 body _ | upcA body _ => checkDigit body
  | upcE system six _ _ => checkDigit (expand system six)

/-- The number sets of a short code. -/
def sets (system check : Digit) : List NumberSet :=
  if system.val = 1 then (shortSets check).map swap else shortSets check

def modules (n : Number) : List Nat :=
  match n with
  | ean13 body _ => bars13 (body ++ [n.check])
  | ean8 body _ => bars8 (body ++ [n.check])
  | upcA body _ => twoHalves (List.replicate 6 A) (body ++ [n.check])
  | upcE system six _ _ => guardBars ++ draw (sets system n.check) six ++ endBars

def pattern (n : Number) : Pattern :=
  ⟨n.modules, text (n.digits ++ [n.check]), some (.digit n.check.val)⟩

def reading (n : Number) : Reading :=
  match n with
  | ean13 body _ => .ean13 (body ++ [n.check])
  | ean8 body _ => .ean8 (body ++ [n.check])
  | upcA body _ => .upcA (body ++ [n.check])
  | upcE system six _ _ => .upcE system.val six n.check

theorem reading_number (n : Number) : n.reading.number = text (n.digits ++ [n.check]) := by
  cases n <;> rfl

end Number

/-! ## What is drawn is read -/

theorem leftSets_spec (d : Digit) :
    (leftSets d).length = 6 ∧ (∀ set ∈ leftSets d, set ≠ C) ∧ firstOf? (leftSets d) = some d := by
  revert d
  decide +kernel

theorem sets_spec {system : Digit} (low : system.val ≤ 1) (check : Digit) :
    (Number.sets system check).length = 6 ∧ (∀ set ∈ Number.sets system check, set ≠ C) ∧
      shortOf? (Number.sets system check) = some (system.val, check) := by
  revert check low system
  decide +kernel

/-- The bars of thirteen digits show the last twelve, and the first one in the number sets. -/
theorem bars13_eq (first : Digit) (ds : List Digit) :
    bars13 (first :: ds) = twoHalves (leftSets first) ds := by
  rw [bars13, twoHalves, (leftSets_spec first).1]

theorem halves?_six (sets : List NumberSet) (six : sets.length = 6) (letters : ∀ set ∈ sets, set ≠ C)
    {ds : List Digit} (size : ds.length = 12) :
    halves? (twoHalves sets ds) = some ⟨sets, ds.take 6, some (ds.drop 6)⟩ ∧
      (ds.drop 6).length = 6 := by
  have read := halves?_twoHalves sets ds letters (by omega)
  rw [six] at read
  exact ⟨read, by rw [List.length_drop, size]⟩

/-- **Every number that is drawn is read.** -/
theorem scan?_modules (n : Number) : scan? n.symbology n.modules = some n.reading := by
  cases n with
  | ean13 body size =>
    obtain ⟨first, rest, rfl⟩ := List.exists_cons_of_length_eq_add_one size
    generalize hc : checkDigit (first :: rest) = check
    obtain ⟨six, letters, known⟩ := leftSets_spec first
    have twelve : (rest ++ [check]).length = 12 := by simpa using size
    obtain ⟨read, right⟩ := halves?_six _ six letters twelve
    simp only [scan?, Number.symbology, Number.modules, Number.check, Number.reading, hc,
      List.cons_append, bars13_eq, read, Option.bind_some, Halves.read?, right, known]
    simp [List.take_append_drop]
  | ean8 body size =>
    generalize hc : checkDigit body = check
    have eight : (body ++ [check]).length = 8 := by simpa using size
    have read : halves? (bars8 (body ++ [check])) = _ :=
      halves?_twoHalves (List.replicate 4 A) _ (by decide) eight
    have right : ((body ++ [check]).drop 4).length = 4 := by rw [List.length_drop, eight]
    simp only [scan?, Number.symbology, Number.modules, Number.check, Number.reading, hc, read,
      Option.bind_some, Halves.read?, List.length_replicate, right, List.take_append_drop]
    rfl
  | upcA body size =>
    generalize hc : checkDigit body = check
    have twelve : (body ++ [check]).length = 12 := by simpa using size
    obtain ⟨read, right⟩ := halves?_six (List.replicate 6 A) rfl (by decide) twelve
    simp only [scan?, Number.symbology, Number.modules, Number.check, Number.reading, hc, read,
      Option.bind_some, Halves.read?, right, List.take_append_drop]
    rfl
  | upcE system six low size =>
    generalize hc : checkDigit (expand system six) = check
    obtain ⟨length, letters, short⟩ := sets_spec low check
    have read := halves?_short letters (length.trans size.symm)
    simp only [scan?, Number.symbology, Number.modules, Number.check, Number.reading, hc, read,
      Option.bind_some, Halves.read?, short]
    rfl

/-! ## The check digit -/

theorem weigh_eq (ds : List Digit) : weigh ds =
    ((ds.map Fin.val).mapIdx fun i d => (if i % 2 = 0 then 3 else 1) * d).foldr (· + ·) 0 := by
  fun_induction weigh ds with
  | case1 => rfl
  | case2 d => simp
  | case3 d e r ih =>
    rw [ih, List.map_cons, List.map_cons, List.mapIdx_cons, List.mapIdx_cons]
    simp [Nat.add_assoc]

/-- **The check digit completes the weighted sum.** -/
theorem weighted_checkDigit (ds : List Digit) :
    weighted (ds.map Fin.val ++ [(checkDigit ds).val]) % 10 = 0 := by
  have total : weighted (ds.map Fin.val ++ [(checkDigit ds).val]) =
      (checkDigit ds).val + weigh ds.reverse := by
    -- The check digit is the first from the right, so every other one goes on by one place.
    have turn (i : Nat) : (if (i + 1) % 2 = 0 then 1 else 3) = if i % 2 = 0 then 3 else 1 := by
      split <;> split <;> omega
    rw [weigh_eq, weighted, List.reverse_concat, List.mapIdx_cons, List.foldr_cons,
      List.map_reverse]
    simp only [turn, Nat.zero_mod, if_true, Nat.one_mul]
  have digit : (checkDigit ds).val = (10 - weigh ds.reverse % 10) % 10 := rfl
  omega

/-- A short code leaves out zeros, and nothing else. -/
theorem expand_eq (system : Digit) {six : List Digit} (size : six.length = 6) :
    (expand system six).map Fin.val = fillZeros system.val (six.map Fin.val) := by
  match six, size with
  | [a, b, c, d, e, f], _ =>
    have low : f ≤ 2 ↔ f.val < 3 := Nat.lt_succ_iff.symm
    have isThree : f = 3 ↔ f.val = 3 := Fin.ext_iff
    have isFour : f = 4 ↔ f.val = 4 := Fin.ext_iff
    simp only [expand, low, isThree, isFour]
    by_cases two : f.val < 3
    · simp [fillZeros, two]
    by_cases three : f.val = 3
    · simp [fillZeros, three]
    by_cases four : f.val = 4
    · simp [fillZeros, four]
    · simp [fillZeros, two, three, four]

theorem weighted_inFull (n : Number) : weighted n.reading.inFull % 10 = 0 := by
  cases n with
  | ean13 body size | ean8 body size | upcA body size =>
    show weighted ((body ++ [checkDigit body]).map Fin.val) % 10 = 0
    rw [List.map_append]
    exact weighted_checkDigit body
  | upcE system six low size =>
    show weighted (fillZeros system.val (six.map Fin.val) ++ _) % 10 = 0
    rw [← expand_eq system size]
    exact weighted_checkDigit _

theorem length_expand (system : Digit) {six : List Digit} (size : six.length = 6) :
    (expand system six).length = 11 := by
  match six, size with
  | [a, b, c, d, e, f], _ =>
    simp only [expand, apply_ite List.length, List.length_cons, List.length_nil, ite_self]

/-- UPC-E stands for a number of UPC-A. -/
theorem length_inFull (n : Number) (upc : n.symbology = .upc) : n.reading.inFull.length = 12 := by
  cases n with
  | ean13 body size | ean8 body size => cases upc
  | upcA body size => simp [Number.reading, Reading.inFull, size]
  | upcE system six low size =>
    have eleven := length_expand system size
    simp [Number.reading, Reading.inFull, ← expand_eq system size, eleven]

/-! ## Digits as text -/

section
variable {s : List Char} {ds body tail : List Digit}

@[simp] theorem length_text (ds : List Digit) : (text ds).length = ds.length := List.length_map _

@[simp] theorem text_append (ds es : List Digit) : text (ds ++ es) = text ds ++ text es :=
  List.map_append

theorem digit?_digitChar (d : Digit) : digit? (Nat.digitChar d.val) = some d := by
  revert d
  decide

theorem digitChar_of_digit? {c : Char} {d : Digit} (h : digit? c = some d) :
    Nat.digitChar d.val = c := by
  unfold digit? at h
  split at h
  · rename_i range
    obtain rfl := Option.some.inj h
    apply Char.toNat_inj.1
    rw [Nat.toNat_digitChar_of_lt_ten (by dsimp only; omega)]
    dsimp only
    omega
  · cases h

theorem digits?_text (ds : List Digit) : digits? (text ds) = some ds := by
  induction ds with
  | nil => rfl
  | cons d ds ih => exact mapM_cons_eq_some.2 ⟨d, ds, digit?_digitChar d, ih, rfl⟩

theorem text_of_digits? (h : digits? s = some ds) : text ds = s := by
  induction s generalizing ds with
  | nil =>
    obtain rfl : [] = ds := by simpa [digits?] using h
    rfl
  | cons c s ih =>
    obtain ⟨d, r, hd, hr, rfl⟩ := mapM_cons_eq_some.1 h
    rw [text, List.map_cons, digitChar_of_digit? hd]
    exact congrArg (c :: ·) (ih hr)

theorem isSome_digit (c : Char) : (digit? c).isSome = true ↔ c ∈ "0123456789".toList := by
  constructor
  · intro h
    obtain ⟨d, hd⟩ := Option.isSome_iff_exists.1 h
    have shown : ∀ d : Digit, Nat.digitChar d.val ∈ "0123456789".toList := by decide
    rw [← digitChar_of_digit? hd]
    exact shown d
  · intro h
    have all : "0123456789".toList.all (fun c => (digit? c).isSome) = true := by decide
    exact List.all_eq_true.1 all c h

/-- Data of digits alone is the text of some digits. -/
theorem exists_text (h : ∀ c ∈ s, c ∈ "0123456789".toList) : ∃ ds, s = text ds := by
  obtain ⟨ds, hds⟩ := exists_mapM fun c hc => (isSome_digit c).2 (h c hc)
  exact ⟨ds, (text_of_digits? hds).symm⟩

theorem mem_text {c : Char} (h : c ∈ text ds) : c ∈ "0123456789".toList := by
  rw [← isSome_digit]
  obtain ⟨d, _, rfl⟩ := List.mem_map.1 h
  rw [digit?_digitChar]
  rfl

/-- Digits show as they are. -/
theorem legible_text (ds : List Digit) : legible (text ds) = text ds := by
  have shown : ∀ d : Digit, (if isControl (Nat.digitChar d.val) then ' ' else Nat.digitChar d.val) =
      Nat.digitChar d.val := by decide
  rw [legible, text, List.map_map]
  exact List.map_congr_left fun d _ => shown d

end

/-! ## Data and numbers -/

/-- The numbers that digits of data say: a check digit may come after the digits of a number,
whatever it is, and the number system 0 may be left out. -/
inductive Spells : List Digit → Number → Prop
  | given (n : Number) {tail : List Digit} (one : tail.length ≤ 1) : Spells (n.digits ++ tail) n
  | implied {six : List Digit} (size : six.length = 6) : Spells six (.upcE 0 six (by decide) size)

section
variable {body tail : List Digit} {size : Nat}

theorem checked?_text (hb : body.length + 1 = size) (one : tail.length ≤ 1) :
    checked? size (text (body ++ tail)) = some (body ++ [checkDigit body], checkDigit body) := by
  have length : (body ++ tail).length = size ∨ (body ++ tail).length + 1 = size := by
    rw [List.length_append]
    omega
  have taken : (body ++ tail).take (size - 1) = body := List.take_left' (by omega)
  simp only [checked?, digits?_text, Option.bind_eq_bind, Option.bind_some, taken]
  rw [if_pos (by simpa using length)]

theorem exists_of_checked? {s : List Char} {r : List Digit × Digit} (h : checked? size s = some r)
    (pos : 0 < size) :
    ∃ body tail, s = text (body ++ tail) ∧ body.length + 1 = size ∧ tail.length ≤ 1 := by
  simp only [checked?, Option.bind_eq_bind, Option.bind_eq_some_iff] at h
  obtain ⟨ds, hds, h⟩ := h
  split at h
  · rename_i length
    simp only [Bool.or_eq_true, decide_eq_true_eq] at length
    refine ⟨ds.take (size - 1), ds.drop (size - 1), ?_, ?_, ?_⟩
    · rw [List.take_append_drop, text_of_digits? hds]
    · rw [List.length_take]
      omega
    · rw [List.length_drop]
      omega
  · cases h

end

section
variable {system : Digit} {six ds : List Digit}

theorem short?_given (size : six.length = 6) {tail : List Digit} (one : tail.length ≤ 1) :
    short? (system :: six ++ tail) = some (system, six) := by
  match six, size, tail, one with
  | [_, _, _, _, _, _], _, [], _ => rfl
  | [_, _, _, _, _, _], _, [_], _ => rfl

theorem short?_implied (size : six.length = 6) : short? six = some (0, six) := by
  match six, size with
  | [_, _, _, _, _, _], _ => rfl

theorem exists_of_short? (h : short? ds = some (system, six)) : six.length = 6 ∧
    ((∃ tail, ds = system :: six ++ tail ∧ tail.length ≤ 1) ∨ system = 0 ∧ ds = six) := by
  unfold short? at h
  split at h
  · cases h
    exact ⟨rfl, Or.inr ⟨rfl, rfl⟩⟩
  · cases h
    exact ⟨rfl, Or.inl ⟨[], rfl, by decide⟩⟩
  · rename_i last
    cases h
    exact ⟨rfl, Or.inl ⟨[last], rfl, by simp⟩⟩
  · cases h

theorem upcE?_text (low : system.val ≤ 1) (size : six.length = 6)
    (h : short? ds = some (system, six)) :
    upcE? (text ds) = some (Number.upcE system six low size).pattern := by
  have one : system = 1 ↔ system.val = 1 := Fin.ext_iff
  simp only [upcE?, digits?_text, Option.bind_some, h, Option.bind_eq_bind, one]
  rw [if_neg (Fin.not_lt.2 low)]
  rfl

end

/-- What is drawn for data is the pattern of the number that it says. -/
theorem pattern?_of_spells {ds : List Digit} {n : Number} (h : Spells ds n) :
    pattern? n.symbology (text ds) = some n.pattern := by
  cases h with
  | given n one =>
    rename_i tail
    cases n with
    | ean13 body size =>
      have long : ¬(text (body ++ tail)).length < 9 := by simp; omega
      show ean? (text (body ++ tail)) = _
      rw [ean?, if_neg long, ean13?, checked?_text (by omega) one]
      rfl
    | ean8 body size =>
      have short : (text (body ++ tail)).length < 9 := by simp; omega
      show ean? (text (body ++ tail)) = _
      rw [ean?, if_pos short, ean8?, checked?_text (by omega) one]
      rfl
    | upcA body size =>
      have long : ¬(text (body ++ tail)).length < 9 := by simp; omega
      show upc? (text (body ++ tail)) = _
      rw [upc?, if_neg long, upcA?, checked?_text (by omega) one]
      rfl
    | upcE system six low size =>
      have short : (text (system :: six ++ tail)).length < 9 := by simp; omega
      show upc? (text (system :: six ++ tail)) = _
      rw [upc?, if_pos short, upcE?_text low size (short?_given size one)]
  | implied size =>
    have short : (text ds).length < 9 := by simp [size]
    show upc? (text ds) = _
    rw [upc?, if_pos short, upcE?_text _ size (short?_implied size)]

/-- Data that is drawn says a number. -/
theorem exists_spells_of_pattern? {symbology : Symbology} {s : List Char} {p : Pattern}
    (retail : symbology = .upc ∨ symbology = .ean) (h : pattern? symbology s = some p) :
    ∃ ds n, s = text ds ∧ n.symbology = symbology ∧ Spells ds n := by
  have checked {size : Nat} {f : List Digit × Digit → Pattern} (pos : 0 < size)
      (h : (checked? size s).map f = some p) :
      ∃ body tail, s = text (body ++ tail) ∧ body.length + 1 = size ∧ tail.length ≤ 1 := by
    obtain ⟨r, hr, _⟩ := Option.map_eq_some_iff.1 h
    exact exists_of_checked? hr pos
  rcases retail with rfl | rfl
  · change upc? s = some p at h
    unfold upc? at h
    -- Fewer than nine characters are a short code, whose system is checked last.
    split at h
    · simp only [upcE?, Option.bind_eq_bind, Option.bind_eq_some_iff, Prod.exists] at h
      obtain ⟨system, six, ⟨ds, hds, short⟩, h⟩ := h
      split at h
      · cases h
      · rename_i low
        obtain ⟨size, ⟨tail, rfl, one⟩ | ⟨rfl, rfl⟩⟩ := exists_of_short? short
        · exact ⟨_, _, (text_of_digits? hds).symm, rfl,
            .given (.upcE system six (Fin.not_lt.1 low) size) one⟩
        · exact ⟨_, _, (text_of_digits? hds).symm, rfl, .implied size⟩
    · obtain ⟨body, tail, rfl, size, one⟩ := checked (by decide) h
      exact ⟨_, _, rfl, rfl, .given (.upcA body (by omega)) one⟩
  · change ean? s = some p at h
    unfold ean? at h
    split at h
    · obtain ⟨body, tail, rfl, size, one⟩ := checked (by decide) h
      exact ⟨_, _, rfl, rfl, .given (.ean8 body (by omega)) one⟩
    · obtain ⟨body, tail, rfl, size, one⟩ := checked (by decide) h
      exact ⟨_, _, rfl, rfl, .given (.ean13 body (by omega)) one⟩

/-! ## Which data is taken -/

/-- Retail data: digits, so many as a code has, with its check digit or without. A short code of UPC
has the number system 0 or 1. -/
def Carries (symbology : Symbology) (data : List Char) : Prop :=
  (∀ c ∈ data, c ∈ "0123456789".toList) ∧
    (symbology = .upc ∧ (data.length ∈ [6, 11, 12] ∨
        data.length ∈ [7, 8] ∧ data.head? ∈ [some '0', some '1']) ∨
      symbology = .ean ∧ data.length ∈ [7, 8, 12, 13])

/-- Whether data brings its check digit. -/
def bringsCheck (symbology : Symbology) (data : List Char) : Bool :=
  data.length = 8 || data.length = if symbology = .upc then 12 else 13

/-- The digits of data: without the check digit that it brings, and with the number system that it
leaves out. -/
def dataDigits (symbology : Symbology) (data : List Char) : List Char :=
  if bringsCheck symbology data then data.dropLast
  else if symbology = .upc ∧ data.length = 6 then '0' :: data
  else data

section
variable {symbology : Symbology} {ds : List Digit} {n : Number}

theorem head_system : ∀ system : Digit,
    some (Nat.digitChar system.val) ∈ [some '0', some '1'] ↔ system.val ≤ 1 := by
  decide

/-- Digits say the number that they begin with, if at most one of them comes after it. -/
theorem spells_of_take (size : Nat) (front : ds.take size = n.digits) (h : ds.length ≤ size + 1) :
    Spells ds n := by
  have back : (ds.drop size).length ≤ 1 := by
    rw [List.length_drop]
    omega
  have spells := Spells.given n back
  rwa [← front, List.take_append_drop] at spells

/-- Data of the right length says a number. -/
theorem exists_spells_of_carries {s : List Char} (h : Carries symbology s) :
    ∃ ds n, s = text ds ∧ n.symbology = symbology ∧ Spells ds n := by
  obtain ⟨digits, kind⟩ := h
  obtain ⟨ds, rfl⟩ := exists_text digits
  obtain ⟨rfl, full | ⟨short, first⟩⟩ | ⟨rfl, full⟩ := kind
  · rw [length_text] at full
    simp only [List.mem_cons, List.not_mem_nil, or_false] at full
    rcases full with size | full
    · exact ⟨_, _, rfl, rfl, .implied size⟩
    · have size : (ds.take 11).length = 11 := List.length_take_of_le (by omega)
      exact ⟨_, .upcA (ds.take 11) size, rfl, rfl, spells_of_take _ rfl (by omega)⟩
  · rw [length_text] at short
    simp only [List.mem_cons, List.not_mem_nil, or_false] at short
    cases ds with
    | nil => simp at short
    | cons system ds =>
      rw [List.length_cons] at short
      have low : system.val ≤ 1 := (head_system system).1 first
      have size : (ds.take 6).length = 6 := List.length_take_of_le (by omega)
      exact ⟨_, .upcE system (ds.take 6) low size, rfl, rfl,
        spells_of_take 7 rfl (by rw [List.length_cons]; omega)⟩
  · rw [length_text] at full
    simp only [List.mem_cons, List.not_mem_nil, or_false] at full
    by_cases short : ds.length < 9
    · have size : (ds.take 7).length = 7 := List.length_take_of_le (by omega)
      exact ⟨_, .ean8 (ds.take 7) size, rfl, rfl, spells_of_take _ rfl (by omega)⟩
    · have size : (ds.take 12).length = 12 := List.length_take_of_le (by omega)
      exact ⟨_, .ean13 (ds.take 12) size, rfl, rfl, spells_of_take _ rfl (by omega)⟩

theorem carries_of_spells (h : Spells ds n) : Carries n.symbology (text ds) := by
  refine ⟨fun c => mem_text, ?_⟩
  rw [length_text]
  cases h with
  | given n one =>
    rename_i tail
    rw [List.length_append]
    cases n with
    | ean13 body size | ean8 body size =>
      refine Or.inr ⟨rfl, ?_⟩
      simp only [Number.digits, List.mem_cons, List.not_mem_nil, or_false]
      omega
    | upcA body size =>
      refine Or.inl ⟨rfl, Or.inl ?_⟩
      simp only [Number.digits, List.mem_cons, List.not_mem_nil, or_false]
      omega
    | upcE system six low size =>
      refine Or.inl ⟨rfl, Or.inr ⟨?_, (head_system system).2 low⟩⟩
      simp only [Number.digits, List.length_cons, List.mem_cons, List.not_mem_nil, or_false]
      omega
  | implied size => exact Or.inl ⟨rfl, Or.inl (by simp [size])⟩

/-- **Data is taken just if it says a number.** -/
theorem isSome_pattern? {s : List Char} (retail : symbology = .upc ∨ symbology = .ean) :
    (pattern? symbology s).isSome = true ↔ Carries symbology s := by
  constructor
  · intro h
    obtain ⟨p, hp⟩ := Option.isSome_iff_exists.1 h
    obtain ⟨ds, n, rfl, rfl, spells⟩ := exists_spells_of_pattern? retail hp
    exact carries_of_spells spells
  · intro h
    obtain ⟨ds, n, rfl, rfl, spells⟩ := exists_spells_of_carries h
    rw [pattern?_of_spells spells]
    rfl

/-- A number has so many digits that data with one more brings its check digit. -/
theorem bringsCheck_given (n : Number) {tail : List Digit} (one : tail.length ≤ 1) :
    bringsCheck n.symbology (text (n.digits ++ tail)) = true ↔ tail.length = 1 := by
  cases n <;> simp [bringsCheck, Number.digits, Number.symbology] <;> omega

theorem length_digits_ne (n : Number) : n.digits.length ≠ 6 := by
  cases n <;> simp [Number.digits] <;> omega

theorem dataDigits_of_spells (h : Spells ds n) :
    dataDigits n.symbology (text ds) = text n.digits := by
  cases h with
  | given n one =>
    rename_i tail
    have brings := bringsCheck_given n one
    unfold dataDigits
    match tail, one with
    | [], _ =>
      have bare : ¬bringsCheck n.symbology (text (n.digits ++ [])) = true := by
        rw [brings]
        decide
      have full : ¬(n.symbology = .upc ∧ (text (n.digits ++ [])).length = 6) := by
        simpa using fun _ => length_digits_ne n
      rw [if_neg bare, if_neg full, List.append_nil]
    | [c], _ =>
      rw [if_pos (brings.2 rfl), text_append]
      exact List.dropLast_concat
  | implied size =>
    have six : (text ds).length = 6 := by rw [length_text, size]
    simp only [dataDigits, bringsCheck, Number.symbology, six]
    rfl

/-- Data that brings its check digit has it after the digits of its number. -/
theorem exists_check (h : Spells ds n) (brings : bringsCheck n.symbology (text ds) = true) :
    ∃ c, ds = n.digits ++ [c] := by
  cases h with
  | given n one =>
    rename_i tail
    obtain ⟨c, rfl⟩ := List.length_eq_one_iff.1 ((bringsCheck_given n one).1 brings)
    exact ⟨c, rfl⟩
  | implied size => simp [bringsCheck, Number.symbology, size] at brings

end

/-- Data is drawn as other data with the same pattern. -/
theorem encode_congr {s : Symbol} {data : List Char}
    (h : pattern? s.symbology data = pattern? s.symbology s.data) :
    ({ s with data } : Symbol).encode = s.encode := by
  simp only [Symbol.encode, h]

/-- The check digit that data brings makes no difference. -/
theorem encode_check {s : Symbol} {n : Number} {c : Digit} (sym : s.symbology = n.symbology)
    (data : s.data = text (n.digits ++ [c])) (tail : List Digit) (one : tail.length ≤ 1) :
    ({ s with data := s.data.dropLast ++ text tail } : Symbol).encode = s.encode := by
  apply encode_congr
  have front : s.data.dropLast ++ text tail = text (n.digits ++ tail) := by
    rw [data, text_append, text_append]
    exact congrArg (· ++ text tail) List.dropLast_concat
  rw [front, data, sym, pattern?_of_spells (.given n one), pattern?_of_spells (.given n (by simp))]

/-- **Every retail code that is drawn is read again** off its modules, and off its dots if 32 bits
can count them: the reader finds the printed number, which is the digits of the data and the check
digit that completes the weighted sum. A check digit that the data brings is never looked at. -/
theorem read?_encode_retail (s : Symbol) (h : s.symbology = .upc ∨ s.symbology = .ean) :
    (s.encode.isEmpty = false ↔ Carries s.symbology s.data) ∧
    (Carries s.symbology s.data → ∃ (p : Pattern) (r : Reading) (check : Digit),
      pattern? s.symbology s.data = some p ∧ scan? s.symbology p.modules = some r ∧
      (s.extent < 2 ^ 32 →
        scan? s.symbology (modulesOf s.module s.encode.widths) = some r) ∧
      r.number = s.encode.text ∧
      s.encode.text = dataDigits s.symbology s.data ++ text [check] ∧
      s.encode.check = some (.digit check.val) ∧
      (s.symbology = .upc → r.inFull.length = 12) ∧ weighted r.inFull % 10 = 0) ∧
    (Carries s.symbology s.data → bringsCheck s.symbology s.data = true →
      ({ s with data := s.data.dropLast } : Symbol).encode = s.encode ∧
      ∀ d : Digit, ({ s with data := s.data.dropLast ++ text [d] } : Symbol).encode = s.encode) := by
  refine ⟨?_, ?_, ?_⟩
  · rw [← isSome_pattern? h, isEmpty_encode]
    cases pattern? s.symbology s.data <;> simp
  · intro carried
    obtain ⟨ds, n, data, sym, spells⟩ := exists_spells_of_carries carried
    have drawn : pattern? s.symbology s.data = some n.pattern := by
      rw [data, ← sym]
      exact pattern?_of_spells spells
    have shown : s.encode.text = text (n.digits ++ [n.check]) := by
      simp only [Symbol.encode, drawn, Number.pattern, legible_text]
    have read : scan? s.symbology n.pattern.modules = some n.reading := by
      rw [← sym]
      exact scan?_modules n
    refine ⟨n.pattern, n.reading, n.check, drawn, read, ?_, ?_, ?_, ?_, ?_, weighted_inFull n⟩
    · intro fits
      rw [modules_encode drawn fits]
      exact read
    · rw [shown, Number.reading_number]
    · rw [shown, data, ← sym, dataDigits_of_spells spells, text_append]
    · rw [check_encode drawn]
      rfl
    · intro upc
      exact length_inFull n (sym.trans upc)
  · intro carried brings
    obtain ⟨ds, n, data, sym, spells⟩ := exists_spells_of_carries carried
    rw [data, ← sym] at brings
    obtain ⟨c, rfl⟩ := exists_check spells brings
    refine ⟨?_, fun d => encode_check sym.symm data [d] (by simp)⟩
    simpa [text] using encode_check sym.symm data [] (by decide)

/-- A short number whose check digit is given wrong. -/
theorem read?_encode_retail_short :
    ∃ s : Symbol, s.symbology = .upc ∧ s.data = "04252610".toList ∧ s.encode.isEmpty = false ∧
      ({ s with data := "0425261".toList } : Symbol).encode = s.encode ∧
      ∃ r : Reading, scan? .upc (modulesOf s.module s.encode.widths) = some r ∧
        r.number = s.encode.text ∧ weighted r.inFull % 10 = 0 := by
  let s : Symbol := { data := "04252610".toList, symbology := .upc, module := 3, quietZone := true }
  have carried : Carries s.symbology s.data :=
    ⟨forall_mem_of_all (by decide), Or.inl ⟨rfl, Or.inr ⟨by decide, by decide⟩⟩⟩
  have main := read?_encode_retail s (Or.inl rfl)
  obtain ⟨p, r, check, _, _, read, number, _, _, _, sum⟩ := main.2.1 carried
  have fits : s.extent < 2 ^ 32 := by decide +kernel
  exact ⟨s, rfl, rfl, main.1.2 carried, (main.2.2 carried rfl).1, r, read fits, number, sum⟩

end Receipt.Bars.Retail
