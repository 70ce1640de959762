import Mathlib.Algebra.GroupWithZero.Nat
import Mathlib.Algebra.Order.BigOperators.Group.List
import Mathlib.Algebra.Order.Group.Nat
import Receipt.Bars.Encode

/-!
# The modules of a drawn bar code

A scanner sees spaces and bars in dots. Between the quiet zones every one of them is a whole number
of modules, and dividing by the module gives back the pattern the symbology made (`modules_encode`).
Dots are counted in 32 bits: that much is true of every bar code whose dots, counted in full, are
fewer than `2 ^ 32` (`Symbol.extent`), because only then none of them are lost (`widths_encode`).
-/

namespace Receipt.Bars

/-- Spaces and bars between the quiet zones, in units of the narrowest bar. -/
def modulesOf (module : Nat) (widths : List Nat) : List Nat :=
  (widths.drop 1).dropLast.map (· / max module 1)

/-- Spaces and bars in dots, counted in full. -/
def Symbol.inFull (s : Symbol) : List Nat :=
  match pattern? s.symbology s.data with
  | none => []
  | some p =>
    let quiet := if s.quietZone then quietModules * max s.module 1 else 0
    quiet :: p.modules.map (· * max s.module 1) ++ [quiet]

/-- All dots of a bar code from quiet zone to quiet zone, counted in full. -/
def Symbol.extent (s : Symbol) : Nat := s.inFull.sum

section
variable {s : Symbol}

theorem isEmpty_encode : s.encode.isEmpty = (pattern? s.symbology s.data).isNone := by
  unfold Symbol.encode
  cases pattern? s.symbology s.data with
  | none => rfl
  | some p => rfl

theorem check_encode {p : Pattern} (h : pattern? s.symbology s.data = some p) :
    s.encode.check = p.check := by
  simp only [Symbol.encode, h]

theorem inFull_eq {p : Pattern} (h : pattern? s.symbology s.data = some p) :
    s.inFull =
      (if s.quietZone then quietModules * max s.module 1 else 0) ::
        p.modules.map (· * max s.module 1) ++
      [if s.quietZone then quietModules * max s.module 1 else 0] := by
  simp only [Symbol.inFull, h]

/-! ## Dots in 32 bits -/

theorem word_eq {n : Nat} (h : n < 2 ^ 32) : word n = n := UInt32.toNat_ofNat_of_lt' h

theorem word_add_word (m n : Nat) : word (word m + word n) = word (m + n) := by
  simp only [word, UInt32.toNat_ofNat', Nat.add_mod_mod, Nat.mod_add_mod]

/-- What 32 bits keep of the single widths, they keep of all of them together. -/
theorem foldr_word (ns : List Nat) :
    (ns.map word).foldr (fun w rest => word (w + rest)) 0 = word ns.sum := by
  induction ns with
  | nil => rfl
  | cons n ns ih => rw [List.map_cons, List.foldr_cons, ih, List.sum_cons, word_add_word]

/-- A bar code is drawn with what 32 bits keep of its dots. -/
theorem encode_words (s : Symbol) :
    s.encode.widths = s.inFull.map word ∧ s.encode.length = word s.extent := by
  have widths : s.encode.widths = s.inFull.map word := by
    cases h : pattern? s.symbology s.data with
    | none => simp only [Symbol.encode, Symbol.inFull, h, List.map_nil]
    | some p =>
      rw [inFull_eq h]
      simp only [Symbol.encode, h]
      cases s.quietZone <;> simp [word]
  refine ⟨widths, ?_⟩
  rw [Symbol.extent, ← foldr_word, ← widths]
  unfold Symbol.encode
  cases pattern? s.symbology s.data <;> rfl

/-- **No dot is lost** of a bar code whose dots 32 bits can count. -/
theorem widths_encode (fits : s.extent < 2 ^ 32) : s.encode.widths = s.inFull := by
  rw [(encode_words s).1]
  refine (List.map_congr_left fun w hw => ?_).trans (List.map_id _)
  exact word_eq ((List.le_sum_of_mem hw).trans_lt fits)

theorem length_encode (fits : s.extent < 2 ^ 32) : s.encode.length = s.extent :=
  (encode_words s).2.trans (word_eq fits)

/-- **Nothing of a pattern is lost in dots,** as long as 32 bits can count them. -/
theorem modules_encode {p : Pattern} (h : pattern? s.symbology s.data = some p)
    (fits : s.extent < 2 ^ 32) : modulesOf s.module s.encode.widths = p.modules := by
  have pos : 0 < max s.module 1 := by omega
  rw [widths_encode fits, inFull_eq h]
  simp only [modulesOf, List.cons_append, List.drop_succ_cons, List.drop_zero,
    List.dropLast_concat, List.map_map]
  refine (List.map_congr_left fun m _ => ?_).trans (List.map_id _)
  exact Nat.mul_div_cancel m pos

end

end Receipt.Bars
