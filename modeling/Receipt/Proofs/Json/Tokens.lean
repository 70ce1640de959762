import Receipt.Json.Printer
import Receipt.Json.Reader

/-!
# Written text is cut where it was put together

The scanner knows of no values, only of characters: a word goes on until a character that no word
has, and a string until its closing quote. So what the printer puts together is cut into the same
parts again, if no word is put right in front of another. `CutsInto` says so of a text whatever
comes after it, and is carried along as text grows.
-/

namespace Receipt.Json

open Token (Draft Mode isWord isWhite mark? scan scan_between word?)

/-! ## Cuts -/

/-- Text that does not go on with a word. -/
def Apart (s : List Char) : Prop := ∀ c ∈ s.head?, isWord c = false

/-- Text that is cut into these tokens, whatever comes after it without going on with a word. -/
def CutsInto (s : List Char) (ts : List Token) : Prop :=
  ∀ rest, Apart rest → scan .between (s ++ rest) = (scan .between rest).map (ts ++ ·)

theorem Apart.nil : Apart [] := fun _ h => nomatch h

theorem Apart.append {s r : List Char} (hs : Apart s) (hr : Apart r) : Apart (s ++ r) := by
  cases s with
  | nil => exact hr
  | cons c s => exact hs

theorem isWord_of_mark {c : Char} {t : Token} (h : mark? c = some t) : isWord c = false := by
  simp [isWord, h]

theorem isWord_of_isWhite {c : Char} (h : isWhite c = true) : isWord c = false := by
  simp [isWord, h]

theorem apart_mark {c : Char} {t : Token} (h : mark? c = some t) (s : List Char) :
    Apart (c :: s) := by
  rintro _ ⟨rfl⟩
  exact isWord_of_mark h

theorem apart_blank {c : Char} (h : isWhite c = true) (s : List Char) : Apart (c :: s) := by
  rintro _ ⟨rfl⟩
  exact isWord_of_isWhite h

theorem CutsInto.nil : CutsInto [] [] := by
  intro rest _
  simp

theorem CutsInto.append {s r : List Char} {ts tr : List Token} (hs : CutsInto s ts)
    (hr : CutsInto r tr) (apart : Apart r) : CutsInto (s ++ r) (ts ++ tr) := by
  intro rest h
  rw [List.append_assoc, hs _ (apart.append h), hr rest h, Option.map_map]
  congr 1
  funext tokens
  exact (List.append_assoc ts tr tokens).symm

/-! ## Marks and blanks -/

theorem start_mark {c : Char} {t : Token} (h : mark? c = some t) :
    Token.start c = ([t], .between) := by
  have white : isWhite c = false := by
    revert h
    simp only [isWhite, mark?]
    split <;> simp
  have quote : c ≠ '"' := by
    rintro rfl
    cases h
  simp [Token.start, white, quote, h]

/-- A mark is a token of its own, whatever comes after it. -/
theorem CutsInto.mark {c : Char} {t : Token} {s : List Char} {ts : List Token}
    (h : mark? c = some t) (hs : CutsInto s ts) : CutsInto (c :: s) (t :: ts) := by
  intro rest apart
  rw [List.cons_append, scan_between, start_mark h]
  show (scan .between (s ++ rest)).map ([t] ++ ·) = _
  rw [hs rest apart, Option.map_map]
  rfl

theorem CutsInto.blank {c : Char} {s : List Char} {ts : List Token} (h : isWhite c = true)
    (hs : CutsInto s ts) : CutsInto (c :: s) ts := by
  intro rest apart
  have start : Token.start c = ([], .between) := by simp [Token.start, h]
  rw [List.cons_append, scan_between, start]
  show (scan .between (s ++ rest)).map ([] ++ ·) = _
  rw [hs rest apart, Option.map_map]
  rfl

/-- Blanks are no tokens. -/
theorem CutsInto.blanks {gap s : List Char} {ts : List Token} (h : ∀ c ∈ gap, isWhite c = true)
    (hs : CutsInto s ts) : CutsInto (gap ++ s) ts := by
  induction gap with
  | nil => exact hs
  | cons c gap ih =>
    exact .blank (h c List.mem_cons_self) (ih fun x hx => h x (List.mem_cons_of_mem _ hx))

/-! ## Words -/

theorem start_word {c : Char} (h : isWord c = true) : Token.start c = ([], .word [c]) := by
  simp only [isWord, Bool.and_eq_true, Bool.not_eq_true', decide_eq_true_eq,
    Option.isNone_iff_eq_none] at h
  obtain ⟨⟨white, quote⟩, noMark⟩ := h
  simp [Token.start, white, quote, noMark]

/-- A word goes on to its end. -/
theorem scan_word (w done rest : List Char) (h : ∀ c ∈ w, isWord c = true) (apart : Apart rest) :
    scan (.word done) (w ++ rest) =
      (word? (done.reverse ++ w)).bind fun t => (scan .between rest).map (t :: ·) := by
  induction w generalizing done with
  | nil =>
    cases rest with
    | nil =>
      rw [List.append_nil, List.append_nil]
      cases word : word? done.reverse <;> simp [scan, word]
    | cons c rest =>
      have ends : isWord c = false := apart c rfl
      simp only [List.nil_append, List.append_nil, scan, ends, Bool.false_eq_true, if_false,
        Option.map_map]
      rfl
  | cons c w ih =>
    have goesOn : isWord c = true := h c List.mem_cons_self
    rw [List.cons_append, scan, if_pos goesOn,
      ih (c :: done) fun x hx => h x (List.mem_cons_of_mem _ hx)]
    simp

theorem CutsInto.word {w : List Char} {t : Token} (some : w ≠ []) (h : ∀ c ∈ w, isWord c = true)
    (word : word? w = .some t) : CutsInto w [t] := by
  intro rest apart
  obtain ⟨c, r, rfl⟩ := List.exists_cons_of_ne_nil some
  have here : isWord c = true := h c List.mem_cons_self
  have goesOn := scan_word r [c] rest (fun x hx => h x (List.mem_cons_of_mem _ hx)) apart
  rw [List.cons_append, scan_between, start_word here]
  show (scan (.word [c]) (r ++ rest)).map ([] ++ ·) = _
  have whole : word? ([c].reverse ++ r) = .some t := word
  rw [goesOn, whole, Option.bind_some, Option.map_map]
  rfl

/-! ## Strings -/

/-- The characters of a string so far, last first. -/
def draftOf (done : List Char) : Draft := ⟨some done, none⟩

theorem unit?_hexByte {n : Nat} (h : n < 32) :
    Token.unit? '0' '0' (Nat.digitChar (n / 16)) (Nat.digitChar (n % 16)) = some n := by
  have high := Text.hexDigit?_digitChar (n := n / 16) (by omega)
  have low := Text.hexDigit?_digitChar (n := n % 16) (by omega)
  have zero : Text.hexDigit? '0' = some 0 := rfl
  simp only [Token.unit?, zero, high, low, Option.bind_eq_bind, Option.bind_some]
  show some _ = some n
  congr 1
  omega

/-- A character is read as it was written, escaped or not. -/
theorem scan_escape (c : Char) (done rest : List Char) :
    scan (.text (draftOf done)) (escape c ++ rest) = scan (.text (draftOf (c :: done))) rest := by
  unfold escape
  split
  · subst c; rfl
  split
  · subst c; rfl
  split
  · subst c; rfl
  split
  · subst c; rfl
  split
  · subst c; rfl
  split
  · subst c; rfl
  split
  · subst c; rfl
  split
  · -- any other control stands as the four digits of its number
    rename_i control
    have small : c.toNat < 32 := control
    show scan _ ('\\' :: 'u' :: '0' :: '0' :: Nat.digitChar (c.toNat / 16) ::
      Nat.digitChar (c.toNat % 16) :: rest) = _
    rw [scan, unit?_hexByte small, Option.bind_some]
    have low : ¬0xdc00 ≤ c.toNat := by omega
    have high : ¬0xd800 ≤ c.toNat := by omega
    simp [Draft.unit, draftOf, low, high, Draft.char, Char.ofNat_toNat]
  · rename_i backslash _ _ _ _ _ control
    rw [List.singleton_append]
    simp [scan, backslash, control, draftOf, Draft.char]

theorem scan_text (s done rest : List Char) :
    scan (.text (draftOf done)) (s.flatMap escape ++ '"' :: rest) =
      (scan .between rest).map (.text (some (done.reverse ++ s)) :: ·) := by
  induction s generalizing done with
  | nil =>
    rw [List.flatMap_nil, List.nil_append, scan, List.append_nil]
    rfl
  | cons c s ih =>
    rw [List.flatMap_cons, List.append_assoc, scan_escape, ih]
    simp

/-- A string is a token of its own, whatever comes after it. -/
theorem CutsInto.text {s r : List Char} {ts : List Token} (hr : CutsInto r ts) :
    CutsInto (writeText s ++ r) (.text (some s) :: ts) := by
  intro rest apart
  have written : writeText s ++ r ++ rest = '"' :: (s.flatMap escape ++ '"' :: (r ++ rest)) := by
    simp [writeText]
  rw [written, scan_between]
  show (scan (.text (draftOf [])) _).map ([] ++ ·) = _
  rw [scan_text, hr rest apart, Option.map_map, Option.map_map]
  rfl

end Receipt.Json
