import Mathlib.Algebra.BigOperators.Ring.List
import Mathlib.Algebra.Ring.Nat
import Receipt.Proofs.Bars.Code128
import Receipt.Proofs.Bars.Code93
import Receipt.Proofs.Bars.Retail
import Receipt.Proofs.Bars.TwoWidth

/-!
# The shape of bar codes

Symbologies put their patterns together in different ways: from tables, guards, gaps and bars that
are interleaved with spaces. Each of these parts has a known number of elements and of modules
(`Measures`), and both add up where parts are joined. So every pattern begins and ends with a bar
and has the length that its symbology asks for (`isBarred_pattern`), and what is drawn is this
pattern to scale between two quiet zones (`drawn_to_scale`), as long as 32 bits can count its dots.
-/

namespace Receipt.Bars

/-! ## Elements and modules -/

/-- Elements that are `count` in number and `total` modules long, with none of them empty. -/
structure Measures (count total : Nat) (ms : List Nat) : Prop where
  length_eq : ms.length = count
  sum_eq : ms.sum = total
  pos : ∀ m ∈ ms, 0 < m

instance (count total : Nat) (ms : List Nat) : Decidable (Measures count total ms) :=
  decidable_of_iff (ms.length = count ∧ ms.sum = total ∧ ∀ m ∈ ms, 0 < m)
    ⟨fun ⟨length, sum, pos⟩ => ⟨length, sum, pos⟩, fun h => ⟨h.length_eq, h.sum_eq, h.pos⟩⟩

namespace Measures

variable {count total count' total' : Nat} {ms ns : List Nat}

theorem nil : Measures 0 0 [] := ⟨rfl, rfl, by simp⟩

theorem append (hm : Measures count total ms) (hn : Measures count' total' ns) :
    Measures (count + count') (total + total') (ms ++ ns) := by
  refine ⟨?_, ?_, ?_⟩
  · rw [List.length_append, hm.length_eq, hn.length_eq]
  · rw [List.sum_append, hm.sum_eq, hn.sum_eq]
  · exact List.forall_mem_append.2 ⟨hm.pos, hn.pos⟩

theorem congr (h : Measures count total ms) (hc : count = count') (ht : total = total') :
    Measures count' total' ms := hc ▸ ht ▸ h

/-- Parts of one measure add up to a multiple of it. -/
theorem flatMap {α : Type} {f : α → List Nat} {l : List α}
    (h : ∀ a ∈ l, Measures count total (f a)) :
    Measures (count * l.length) (total * l.length) (l.flatMap f) := by
  induction l with
  | nil => exact nil
  | cons a l ih =>
    rw [List.forall_mem_cons] at h
    exact (h.1.append (ih h.2)).congr (Nat.add_comm _ _) (Nat.add_comm _ _)

end Measures

/-- Bars with spaces between them, `total` modules from the first bar to the last. -/
def IsBarred (total : Nat) (ms : List Nat) : Prop := ∃ spaces, Measures (2 * spaces + 1) total ms

theorem Measures.isBarred {count total : Nat} {ms : List Nat} (h : Measures count total ms)
    (odd : count % 2 = 1) : IsBarred total ms :=
  ⟨count / 2, h.congr (by omega) rfl⟩

theorem IsBarred.congr {total total' : Nat} {ms : List Nat} (h : IsBarred total ms)
    (ht : total = total') : IsBarred total' ms := ht ▸ h

/-! ## The lengths of patterns -/

/-- The signs of Codabar with three wide elements. -/
def Codabar.isWide (c : Char) : Bool := ":/.+".toList.contains c

/-- The modules from the first bar to the last, for data that a symbology takes. -/
inductive Spans : Symbology → List Char → Nat → Prop
  | upcE {data : List Char} (short : data.length < 9) : Spans .upc data 51
  | upcA {data : List Char} (long : 9 ≤ data.length) : Spans .upc data 95
  | ean8 {data : List Char} (short : data.length < 9) : Spans .ean data 67
  | ean13 {data : List Char} (long : 9 ≤ data.length) : Spans .ean data 95
  | itf (data : List Char) : Spans .itf data (7 * data.length + 8)
  /-- The body is the data without the stars around it. -/
  | code39 (data : List Char) : Spans .code39 data (13 * ((Code39.body data).length + 2) - 1)
  /-- The letters at the ends have three wide elements as well, all others two. -/
  | codabar (data : List Char) :
      Spans .codabar data (10 * data.length + data.countP Codabar.isWide + 1)
  /-- One data value or two for each character -/
  | code93 {data : List Char} {values : List (List Nat)}
      (h : data.mapM Code93.symbols? = some values) :
      Spans .code93 data (9 * (values.flatten.length + 4) + 1)
  /-- The values from the start code to the last of the data -/
  | code128 {data : List Char} {values : List Nat} (h : Code128.symbols? data = some values) :
      Spans .code128 data (11 * (values.length + 1) + 13)

/-! ### Retail codes -/

namespace Retail

open NumberSet

theorem measures_digit (set : NumberSet) (d : Digit) : Measures 4 7 (set.draw d) := by
  cases set <;> revert d <;> decide

theorem measures_draw (sets : List NumberSet) (ds : List Digit) (h : sets.length = ds.length) :
    Measures (4 * ds.length) (7 * ds.length) (draw sets ds) := by
  induction sets generalizing ds with
  | nil =>
    obtain rfl : ds = [] := List.length_eq_zero_iff.1 h.symm
    exact .nil
  | cons set sets ih =>
    cases ds with
    | nil => cases h
    | cons d ds =>
      have rest := ih ds (Nat.succ.inj h)
      exact ((measures_digit set d).append rest).congr (Nat.add_comm _ _) (Nat.add_comm _ _)

theorem measures_twoHalves (sets : List NumberSet) (ds : List Digit)
    (size : ds.length = 2 * sets.length) :
    Measures (8 * sets.length + 11) (14 * sets.length + 11) (twoHalves sets ds) := by
  have guarded : Measures 3 3 guardBars := by decide
  have centred : Measures 5 5 centreBars := by decide
  have left := measures_draw sets (ds.take sets.length) (by simp; omega)
  have right := measures_draw (List.replicate sets.length C) (ds.drop sets.length) (by simp; omega)
  refine ((((guarded.append left).append centred).append right).append guarded).congr ?_ ?_
  · simp; omega
  · simp; omega

/-- The modules of a number. -/
def Number.span : Number → Nat
  | ean13 _ _ | upcA _ _ => 95
  | ean8 _ _ => 67
  | upcE _ _ _ _ => 51

theorem isBarred_modules (n : Number) : IsBarred n.span n.modules := by
  cases n with
  | ean13 body size =>
    obtain ⟨first, rest, rfl⟩ := List.exists_cons_of_length_eq_add_one size
    have six := (leftSets_spec first).1
    have halves := measures_twoHalves (leftSets first)
      (rest ++ [checkDigit (first :: rest)]) (by simp at size; simp; omega)
    rw [six] at halves
    show IsBarred 95 (bars13 (first :: (rest ++ [checkDigit (first :: rest)])))
    rw [bars13_eq]
    exact halves.isBarred rfl
  | ean8 body size =>
    have halves := measures_twoHalves (List.replicate 4 A) (body ++ [checkDigit body])
      (by simp; omega)
    exact halves.isBarred rfl
  | upcA body size =>
    have halves := measures_twoHalves (List.replicate 6 A) (body ++ [checkDigit body])
      (by simp; omega)
    exact halves.isBarred rfl
  | upcE system six low size =>
    have length := (sets_spec low (checkDigit (expand system six))).1
    have drawn := measures_draw _ six (length.trans size.symm)
    rw [size] at drawn
    have guarded : Measures 3 3 guardBars := by decide
    have ended : Measures 6 6 endBars := by decide
    exact ((guarded.append drawn).append ended).isBarred rfl

/-- Short data says a number of one of the short codes. -/
theorem spans_spelled {ds : List Digit} {n : Number} (h : Spells ds n) :
    Spans n.symbology (text ds) n.span := by
  cases h with
  | given n one =>
    cases n with
    | ean13 body size => exact .ean13 (by simp [Number.digits, size]; omega)
    | ean8 body size => exact .ean8 (by simp [Number.digits, size]; omega)
    | upcA body size => exact .upcA (by simp [Number.digits, size]; omega)
    | upcE system six low size => exact .upcE (by simp [Number.digits, size]; omega)
  | implied size => exact .upcE (by simp [size])

theorem isBarred_pattern {symbology : Symbology} {data : List Char} {p : Pattern}
    (retail : symbology = .upc ∨ symbology = .ean) (h : pattern? symbology data = some p) :
    ∃ total, Spans symbology data total ∧ IsBarred total p.modules := by
  obtain ⟨ds, n, rfl, rfl, spells⟩ := exists_spells_of_pattern? retail h
  obtain rfl : n.pattern = p := Option.some.inj ((pattern?_of_spells spells).symm.trans h)
  exact ⟨n.span, spans_spelled spells, isBarred_modules n⟩

end Retail

/-! ### Characters one module apart -/

/-- Characters drawn one module apart, the first and the last by themselves: a module more for each
character but the first. -/
theorem measures_joined {elements? : Char → Option (List Nat)} {size : Nat} (total : Char → Nat)
    (drawn : ∀ c m, elements? c = some m → Measures size (total c) m) {first last : List Nat}
    {start stop : Nat} (hf : Measures size start first) (hl : Measures size stop last)
    {s : List Char} {parts : List (List Nat)} (h : s.mapM elements? = some parts) :
    Measures (size + (size + 1) * (s.length + 1))
      (start + (s.map fun c => total c + 1).sum + (stop + 1))
      (first ++ (parts ++ [last]).flatMap (1 :: ·)) := by
  have gap : Measures 1 1 [1] := by decide
  induction s generalizing parts first start with
  | nil =>
    obtain rfl : [] = parts := by simpa using h
    have ends := hf.append (gap.append hl)
    simpa [Nat.add_comm 1] using ends
  | cons c s ih =>
    obtain ⟨m, r, hm, hr, rfl⟩ := mapM_cons_eq_some.1 h
    refine (hf.append (gap.append (ih (drawn c m hm) hr))).congr ?_ ?_
    · simp [Nat.mul_add]; omega
    · simp; omega

namespace Code39

theorem measures_table : ∀ entry ∈ table, Measures 9 12 entry.2 := by decide

theorem isBarred_pattern {data : List Char} {p : Pattern} (h : encode? data = some p) :
    IsBarred (13 * ((body data).length + 2) - 1) p.modules := by
  simp only [encode?, Option.bind_eq_bind, Option.bind_eq_some_iff] at h
  obtain ⟨parts, mapped, h⟩ := h
  split at h
  · cases h
  · obtain rfl := Option.some.inj h
    have starred : Measures 9 12 star := by decide
    have joined := measures_joined (fun _ => 12)
      (fun c m hm => measures_table (c, m) (mem_of_lookup hm)) starred starred mapped
    refine (joined.congr rfl ?_).isBarred (by omega)
    rw [List.map_const', List.sum_replicate_nat]
    omega

end Code39

namespace Codabar

theorem measures_table : ∀ entry ∈ table, Measures 7 (9 + (isWide entry.1).toNat) entry.2 := by
  decide

theorem measures_ends : ∀ entry ∈ ends, Measures 7 10 entry.2 := by decide

theorem sum_wide (s : List Char) :
    (s.map fun c => 9 + (isWide c).toNat + 1).sum = 10 * s.length + s.countP isWide := by
  induction s with
  | nil => rfl
  | cons c s ih =>
    rw [List.map_cons, List.sum_cons, ih, List.countP_cons, List.length_cons]
    cases isWide c <;> simp <;> omega

theorem isWide_toUpper (c : Char) : isWide c.toUpper = isWide c := by
  by_cases small : 'a'.val ≤ c.val ∧ c.val ≤ 'z'.val
  · have letters : ∀ n < 123, 97 ≤ n → isWide (Char.ofNat n).toUpper = isWide (Char.ofNat n) := by
      decide
    have letter := letters c.toNat (Nat.lt_succ_of_le small.2) small.1
    rwa [Char.ofNat_toNat] at letter
  · have same : c.toUpper = c := dif_neg small
    rw [same]

theorem isBarred_pattern {data : List Char} {p : Pattern} (h : encode? data = some p) :
    IsBarred (10 * data.length + data.countP isWide + 1) p.modules := by
  obtain ⟨a, start, text, parts, b, stop, upper, ha, hb, mapped, -, rfl⟩ := encode?_eq_some.1 h
  have joined := measures_joined (fun c => 9 + (isWide c).toNat)
    (fun c m hm => measures_table (c, m) (mem_of_lookup hm)) (measures_ends _ (mem_of_lookup ha))
    (measures_ends _ (mem_of_lookup hb)) mapped
  have length : data.length = text.length + 2 := by
    rw [← List.length_map Char.toUpper, upper]
    simp
  have plain {c : Char} {m : List Nat} (h : ends.lookup c = some m) : isWide c = false := by
    have all : ∀ entry ∈ ends, isWide entry.1 = false := by decide
    exact all _ (mem_of_lookup h)
  have wide : data.countP isWide = text.countP isWide := by
    have same : data.countP isWide = (data.map Char.toUpper).countP isWide := by
      rw [List.countP_map]
      exact List.countP_congr fun c _ => by simp [isWide_toUpper]
    simp [same, upper, plain ha, plain hb]
  refine (joined.congr rfl ?_).isBarred (by omega)
  rw [sum_wide]
  omega

end Codabar

namespace Interleaved

theorem measures_interleave {bars spaces : List Nat} (hb : Measures 5 7 bars)
    (hs : Measures 5 7 spaces) : Measures 10 14 (interleave bars spaces) := by
  obtain ⟨length, sum, pos⟩ := hb
  obtain ⟨length', sum', pos'⟩ := hs
  match bars, spaces, length, length' with
  | [a, b, c, d, e], [a', b', c', d', e'], _, _ =>
    refine ⟨rfl, ?_, ?_⟩
    · simp [interleave] at sum sum' ⊢
      omega
    · simp [interleave] at pos pos' ⊢
      omega

theorem measures_table : ∀ entry ∈ table, Measures 5 7 entry.2 := by decide

theorem measures_pairs {s : List Char} {m : List Nat} (h : pairs? s = some m) :
    ∃ pairs, s.length = 2 * pairs ∧ Measures (10 * pairs) (14 * pairs) m := by
  fun_induction pairs? s generalizing m with
  | case1 =>
    obtain rfl := Option.some.inj h
    exact ⟨0, rfl, .nil⟩
  | case2 => cases h
  | case3 a b r ih =>
    simp only [Option.bind_eq_bind, Option.bind_eq_some_iff, Option.some.injEq] at h
    obtain ⟨bars, ha, spaces, hb, rest, hr, rfl⟩ := h
    obtain ⟨pairs, length, drawn⟩ := ih hr
    have first := measures_interleave (measures_table _ (mem_of_lookup ha))
      (measures_table _ (mem_of_lookup hb))
    refine ⟨pairs + 1, by simp [length]; omega, (first.append drawn).congr ?_ ?_⟩ <;> omega

theorem isBarred_pattern {data : List Char} {p : Pattern} (h : encode? data = some p) :
    IsBarred (7 * data.length + 8) p.modules := by
  unfold encode? at h
  split at h
  · cases h
  · obtain ⟨m, drawn, rfl⟩ := Option.map_eq_some_iff.1 h
    obtain ⟨pairs, length, digits⟩ := measures_pairs drawn
    have started : Measures 4 4 start := by decide
    have stopped : Measures 3 4 stop := by decide
    exact (((started.append digits).append stopped).congr rfl (by omega)).isBarred (by omega)

end Interleaved

/-! ### Six elements to a symbol -/

namespace Code93

theorem measures_elements : ∀ v < 47, Measures 6 9 (elements v) := by decide

/-- Symbols between the guards, and a final bar. -/
theorem measures_framed {vs : List Nat} (h : ∀ v ∈ vs, v < 47) :
    Measures (6 * (vs.length + 2) + 1) (9 * (vs.length + 2) + 1)
      (guard ++ vs.flatMap elements ++ guard ++ [1]) := by
  have framed : Measures 6 9 guard := by decide
  have bar : Measures 1 1 [1] := by decide
  have symbols := Measures.flatMap fun v hv => measures_elements v (h v hv)
  refine (((framed.append symbols).append framed).append bar).congr ?_ ?_ <;> omega

theorem isBarred_pattern {data : List Char} {p : Pattern} (h : encode? data = some p) :
    ∃ values, data.mapM symbols? = some values ∧
      IsBarred (9 * (values.flatten.length + 4) + 1) p.modules := by
  obtain ⟨some, ascii⟩ := (encode?_isNone data).1 (by rw [h]; rfl)
  obtain ⟨values, mapped⟩ := Option.isSome_iff_exists.1 ((mapM_symbols?_isSome data).2 ascii)
  rw [encode?_eq some mapped] at h
  obtain rfl := Option.some.inj h
  refine ⟨values, mapped, IsBarred.congr ((measures_framed fun v hv => ?_).isBarred (by omega)) ?_⟩
  · simp only [List.mem_append, List.mem_cons, List.not_mem_nil, or_false] at hv
    rcases hv with hv | rfl | rfl
    · exact (interpret?_symbols mapped).2 v hv
    · exact remainder_lt _ _
    · exact remainder_lt _ _
  · simp

end Code93

namespace Code128

theorem measures_elements : ∀ v < 106, Measures 6 11 (elements v) := by decide

theorem isBarred_pattern {data : List Char} {p : Pattern} (h : encode? data = some p) :
    ∃ values, symbols? data = some values ∧ IsBarred (11 * (values.length + 1) + 13) p.modules := by
  obtain ⟨values, mapped, rfl⟩ := Option.map_eq_some_iff.1 h
  have drawn : ∀ v ∈ values ++ [check values], Measures 6 11 (elements v) := by
    rw [List.forall_mem_append, List.forall_mem_singleton]
    exact ⟨fun v hv => measures_elements v (lt_of_symbols? mapped v hv),
      measures_elements _ (check_lt values)⟩
  have stopped : Measures 7 13 stop := by decide
  refine ⟨values, mapped, ?_⟩
  refine (((Measures.flatMap drawn).append stopped).congr rfl ?_).isBarred ?_
  · simp
  · omega

end Code128

/-- **Whatever data is taken, its pattern has bars at both ends,** and the length that its symbology
asks for. -/
theorem isBarred_pattern {symbology : Symbology} {data : List Char} {p : Pattern}
    (h : pattern? symbology data = some p) :
    ∃ total, Spans symbology data total ∧ IsBarred total p.modules := by
  cases symbology with
  | upc => exact Retail.isBarred_pattern (Or.inl rfl) h
  | ean => exact Retail.isBarred_pattern (Or.inr rfl) h
  | code39 => exact ⟨_, .code39 data, Code39.isBarred_pattern h⟩
  | itf => exact ⟨_, .itf data, Interleaved.isBarred_pattern h⟩
  | codabar => exact ⟨_, .codabar data, Codabar.isBarred_pattern h⟩
  | code93 =>
    obtain ⟨values, mapped, barred⟩ := Code93.isBarred_pattern h
    exact ⟨_, .code93 mapped, barred⟩
  | code128 =>
    obtain ⟨values, mapped, barred⟩ := Code128.isBarred_pattern h
    exact ⟨_, .code128 mapped, barred⟩
  | qrCode => cases h

/-! ## Dots -/

/-- Spaces and bars in turn, dot by dot; the dots of a bar are `true`. -/
def dots : Bool → List Nat → List Bool
  | _, [] => []
  | bar, w :: r => List.replicate w bar ++ dots (!bar) r

/-- After an odd number of them spaces and bars change places. -/
theorem dots_append (bar : Bool) (l r : List Nat) :
    dots bar (l ++ r) = dots bar l ++ dots (if l.length % 2 = 0 then bar else !bar) r := by
  induction l generalizing bar with
  | nil => rfl
  | cons w l ih =>
    rw [List.cons_append, dots, dots, ih, List.append_assoc, List.length_cons]
    rcases Nat.mod_two_eq_zero_or_one l.length with even | odd
    · have next : (l.length + 1) % 2 = 1 := by omega
      simp [even, next]
    · have next : (l.length + 1) % 2 = 0 := by omega
      simp [odd, next]

/-- A bar is at either end of an odd number of bars and spaces. -/
theorem dots_ends {inner : List Nat} (odd : inner.length % 2 = 1) (pos : ∀ w ∈ inner, 0 < w) :
    (dots true inner).head? = some true ∧ (dots true inner).getLast? = some true := by
  have ne : inner ≠ [] := by
    rintro rfl
    cases odd
  constructor
  · obtain ⟨w, r, rfl⟩ := List.exists_cons_of_ne_nil ne
    have first : w ≠ 0 := Nat.ne_of_gt (pos w List.mem_cons_self)
    simp [dots, List.head?_append, List.head?_replicate, first]
  · obtain ⟨l, w, rfl⟩ := List.eq_nil_or_concat inner |>.resolve_left ne
    have last : w ≠ 0 := Nat.ne_of_gt (pos w (by simp))
    have even : l.length % 2 = 0 := by simp at odd; omega
    simp [dots_append, even, dots, List.getLast?_append, List.getLast?_replicate, last]

/-- Quiet zones stay around what is drawn between them. -/
theorem dots_quiet {inner : List Nat} (odd : inner.length % 2 = 1) (quiet : Nat) :
    dots false (quiet :: inner ++ [quiet]) =
      List.replicate quiet false ++ dots true inner ++ List.replicate quiet false := by
  simp [dots_append, dots, odd]

/-! ## Bar codes -/

section
variable {s : Symbol}

theorem encode_empty (h : s.encode.isEmpty = true) : s.encode = {} := by
  rw [isEmpty_encode, Option.isNone_iff_eq_none] at h
  simp only [Symbol.encode, h]

/-- Counted in full, a bar code is that of module 1 drawn larger. -/
theorem inFull_scaled (s : Symbol) :
    s.inFull = ({ s with module := 1 } : Symbol).inFull.map (· * max s.module 1) := by
  cases h : pattern? s.symbology s.data with
  | none => simp [Symbol.inFull, h]
  | some p =>
    have single : pattern? ({ s with module := 1 } : Symbol).symbology
        ({ s with module := 1 } : Symbol).data = some p := h
    rw [inFull_eq h, inFull_eq single]
    cases s.quietZone <;> simp

theorem extent_scaled (s : Symbol) :
    s.extent = ({ s with module := 1 } : Symbol).extent * max s.module 1 := by
  rw [Symbol.extent, inFull_scaled, List.sum_map_mul_right, List.map_id']
  rfl

/-- What 32 bits can count of a bar code, they can count of that of module 1. -/
theorem extent_single (s : Symbol) : ({ s with module := 1 } : Symbol).extent ≤ s.extent := by
  rw [extent_scaled s]
  exact Nat.le_mul_of_pos_right _ (by omega)

theorem check_scaled (s : Symbol) :
    s.encode.check = ({ s with module := 1 } : Symbol).encode.check := by
  cases h : pattern? s.symbology s.data <;> simp [Symbol.encode, h]

/-- Height and text are passed on beside the bars. -/
theorem encode_beside (s : Symbol) (height : Nat) (hri : Bool) :
    let other := ({ s with height, hri } : Symbol).encode
    other.widths = s.encode.widths ∧ other.length = s.encode.length ∧
      other.check = s.encode.check := by
  cases h : pattern? s.symbology s.data <;> simp [Symbol.encode, h]

end

/-- **Every bar code is its pattern to scale,** as long as 32 bits can count its dots. A quiet zone
of ten modules, if asked for, stands at either end, and between them spaces and bars are whole
modules from a bar to a bar, in the length that the symbology asks for. Larger modules change the
scale and nothing else, and height and text make no difference to the bars. Data that is refused has
the empty form. -/
theorem drawn_to_scale (s : Symbol) :
    let m := max s.module 1
    let quiet := if s.quietZone then 10 * m else 0
    let single := ({ s with module := 1 } : Symbol).encode
    (s.encode.isEmpty = true → s.encode = {}) ∧
    (s.extent < 2 ^ 32 →
      (s.encode.isEmpty = false → s.encode.widths.length % 2 = 1 ∧
        ∃ inner total, s.encode.widths = quiet :: inner ++ [quiet] ∧ (∀ w ∈ inner, 0 < w ∧ m ∣ w) ∧
          Spans s.symbology s.data total ∧ inner.sum = total * m ∧
          ∃ picture, dots false s.encode.widths =
              List.replicate quiet false ++ picture ++ List.replicate quiet false ∧
            picture.head? = some true ∧ picture.getLast? = some true) ∧
      s.encode.length = s.encode.widths.sum ∧
      s.encode.widths = single.widths.map (· * m) ∧ s.encode.length = single.length * m) ∧
    s.encode.check = single.check ∧
    ∀ height hri, let other := ({ s with height, hri } : Symbol).encode
      other.widths = s.encode.widths ∧ other.length = s.encode.length ∧
        other.check = s.encode.check := by
  intro m quiet single
  refine ⟨encode_empty, fun fits => ?_, check_scaled s, encode_beside s⟩
  have single_fits := (extent_single s).trans_lt fits
  have drawn := widths_encode fits
  have length := length_encode fits
  refine ⟨?_, ?_, ?_, ?_⟩
  · intro taken
    rw [isEmpty_encode, Option.isNone_eq_false_iff] at taken
    obtain ⟨p, h⟩ := Option.isSome_iff_exists.1 taken
    obtain ⟨total, spans, spaces, measures⟩ := isBarred_pattern h
    have widths : s.encode.widths = quiet :: p.modules.map (· * m) ++ [quiet] :=
      drawn.trans (inFull_eq h)
    have odd : (p.modules.map (· * m)).length % 2 = 1 := by
      rw [List.length_map, measures.length_eq]
      omega
    have pos : ∀ w ∈ p.modules.map (· * m), 0 < w := by
      rw [List.forall_mem_map]
      exact fun w hw => Nat.mul_pos (measures.pos w hw) (by omega)
    refine ⟨by rw [widths]; simp at odd ⊢; omega, _, total, widths, ?_, spans, ?_, _, ?_,
      dots_ends odd pos⟩
    · intro w hw
      obtain ⟨n, _, rfl⟩ := List.mem_map.1 hw
      exact ⟨pos _ hw, Nat.dvd_mul_left m n⟩
    · rw [List.sum_map_mul_right, List.map_id', measures.sum_eq]
    · rw [widths, dots_quiet odd]
  · rw [length, drawn]
    rfl
  · rw [drawn, widths_encode single_fits]
    exact inFull_scaled s
  · rw [length, length_encode single_fits]
    exact extent_scaled s

/-- A number of four digits: four modules to start with, seven for each digit and four to end with,
three dots each, and a quiet zone of thirty at either end. -/
theorem drawn_to_scale_digits :
    ∃ s : Symbol, s.symbology = .itf ∧ s.data = "0425".toList ∧ s.encode.isEmpty = false ∧
      s.extent < 2 ^ 32 ∧ ∃ inner, s.encode.widths = 30 :: inner ++ [30] ∧ inner.sum = 36 * 3 := by
  let s : Symbol := { data := "0425".toList, symbology := .itf, module := 3, quietZone := true }
  have taken : s.encode.isEmpty = false := by decide
  have fits : s.extent < 2 ^ 32 := by decide
  obtain ⟨-, inner, total, widths, -, spans, sum, -⟩ := ((drawn_to_scale s).2.1 fits).1 taken
  refine ⟨s, rfl, rfl, taken, fits, inner, widths, ?_⟩
  cases spans with
  | itf => exact sum

end Receipt.Bars
