import Receipt.Proofs.Markup.Passes
import Receipt.Proofs.Markup.Reading
import Receipt.Proofs.Text.Blank

/-!
# Writing a block

A block of one member can carry any value, controls and the characters of the markup included. The
value is spelt character by character, and each pass of the reader turns one spelling into the next:
delimiters become placeholders, then semicolons, then line feeds are set, and `decode` is left with
nothing but placeholders and plain characters. Two of the passes know of no escapes; they misread
nothing, since a backslash that is written stands in front of the character it was written for.
-/

namespace Receipt.Markup

/-! ## The writer -/

/-- Blanks, which would be taken off at the ends of a value, and the carriage return. -/
def isPadding (c : Char) : Bool := c = ' ' || c = '\t' || c = '\r'

/-- A character of a value, spelt with delimiters, semicolons and line feeds as given. -/
def spellValue (delimiter : Char → List Char) (semicolon lineFeed : List Char) (c : Char) :
    List Char :=
  if isDelimiter c then delimiter c
  else if c = ';' then semicolon
  else if c = '\n' then lineFeed
  else if isPadding c then placeholder c
  else [c]

/-- A character of a value as written: a backslash in front of what divides a line or a block. -/
def writeValueChar : Char → List Char := spellValue (fun c => ['\\', c]) ['\\', ';'] ['\\', 'n']

/-- A block with a single member. -/
def writeBlock (key v : List Char) : List Char :=
  '{' :: (key ++ ':' :: v.flatMap writeValueChar) ++ ['}']

/-! ## The kinds of characters -/

/-- A character that divides neither a line, a block nor a member, and is no blank around one. -/
def isInner (c : Char) : Bool :=
  c ≠ '{' && c ≠ '|' && c ≠ '}' && c ≠ ';' && c ≠ '\n' && !Text.isBlank c

theorem ne_of_isInner {c : Char} (h : isInner c = true) :
    (c ≠ '{' ∧ c ≠ '|' ∧ c ≠ '}') ∧ c ≠ ';' ∧ c ≠ '\n' := by
  simp only [isInner, Bool.and_eq_true, decide_eq_true_eq] at h
  exact ⟨⟨h.1.1.1.1.1, h.1.1.1.1.2, h.1.1.1.2⟩, h.1.1.2, h.1.2⟩

/-- How a character is spelt depends on its kind alone. -/
theorem spellValue_cases (c : Char) :
    (isDelimiter c = true ∧ ∀ f a b, spellValue f a b c = f c) ∨
      (c = ';' ∧ ∀ f a b, spellValue f a b c = a) ∨
      (c = '\n' ∧ ∀ f a b, spellValue f a b c = b) ∨
      (isPadding c = true ∧ ∀ f a b, spellValue f a b c = placeholder c) ∨
      (c ≠ '\\' ∧ isInner c = true ∧ ∀ f a b, spellValue f a b c = [c]) := by
  by_cases delimiter : isDelimiter c = true
  · exact Or.inl ⟨delimiter, fun f a b => by simp [spellValue, delimiter]⟩
  by_cases semicolon : c = ';'
  · subst semicolon
    exact Or.inr (Or.inl ⟨rfl, fun _ _ _ => rfl⟩)
  by_cases lineFeed : c = '\n'
  · subst lineFeed
    exact Or.inr (Or.inr (Or.inl ⟨rfl, fun _ _ _ => rfl⟩))
  by_cases padding : isPadding c = true
  · refine Or.inr (Or.inr (Or.inr (Or.inl ⟨padding, fun f a b => ?_⟩)))
    simp [spellValue, delimiter, semicolon, lineFeed, padding]
  · refine Or.inr (Or.inr (Or.inr (Or.inr ⟨?_, ?_, fun f a b => ?_⟩)))
    · rintro rfl
      exact delimiter rfl
    · simp only [isDelimiter, isPadding, Bool.or_eq_true, decide_eq_true_eq, not_or]
        at delimiter padding
      simp [isInner, Text.isBlank, delimiter, padding, semicolon, lineFeed]
    · simp [spellValue, delimiter, semicolon, lineFeed, padding]

theorem toNat_lt_of_padding {c : Char} (h : isPadding c = true) : c.toNat < 256 := by
  simp only [isPadding, Bool.or_eq_true, decide_eq_true_eq] at h
  rcases h with (rfl | rfl) | rfl <;> decide

theorem toNat_lt_of_delimiter {c : Char} (h : isDelimiter c = true) : c.toNat < 256 := by
  simp only [isDelimiter, Bool.or_eq_true, decide_eq_true_eq] at h
  rcases h with ((rfl | rfl) | rfl) | rfl <;> decide

/-! ## Passes that keep placeholders -/

section
variable {pass : List Char → List Char}

theorem turns_plain (plain : ∀ c, c ≠ '\\' → Turns pass [c] [c]) {s : List Char}
    (h : ∀ c ∈ s, c ≠ '\\') : Turns pass s s := by
  have each : Turns pass (s.flatMap fun c => [c]) (s.flatMap fun c => [c]) :=
    .flatMap fun c hc => plain c (h c hc)
  simpa using each

/-- A pass that keeps what is no escape, and the start of a placeholder, keeps a placeholder. -/
theorem turns_placeholder (plain : ∀ c, c ≠ '\\' → Turns pass [c] [c])
    (coded : Turns pass ['\\', 'x'] ['\\', 'x']) {c : Char} (h : c.toNat < 256) :
    Turns pass (placeholder c) (placeholder c) := by
  have digit : ∀ n < 16, Nat.digitChar n ≠ '\\' := by decide
  have digits : Turns pass (Text.hexByte c.toNat) (Text.hexByte c.toNat) :=
    (plain _ (digit (c.toNat / 16) (by omega))).append
      (plain _ (digit (c.toNat % 16) (by omega)))
  exact coded.append digits

/-- A pass goes from one spelling of a value to another if it does so for delimiters, semicolons and
line feeds. -/
theorem turns_spellValue {f g : Char → List Char} {a b a' b' : List Char}
    (plain : ∀ c, c ≠ '\\' → Turns pass [c] [c]) (coded : Turns pass ['\\', 'x'] ['\\', 'x'])
    (delimiter : ∀ c, isDelimiter c = true → Turns pass (f c) (g c)) (semicolon : Turns pass a b)
    (lineFeed : Turns pass a' b') (v : List Char) :
    Turns pass (v.flatMap (spellValue f a a')) (v.flatMap (spellValue g b b')) := by
  refine .flatMap fun c _ => ?_
  -- Padding and plain characters are spelt the same before the pass and after it.
  rcases spellValue_cases c with
    ⟨h, spelt⟩ | ⟨rfl, spelt⟩ | ⟨rfl, spelt⟩ | ⟨h, spelt⟩ | ⟨h, _, spelt⟩
  · simpa only [spelt] using delimiter c h
  · simpa only [spelt] using semicolon
  · simpa only [spelt] using lineFeed
  · simpa only [spelt] using turns_placeholder plain coded (toNat_lt_of_padding h)
  · simpa only [spelt] using plain c h

end

theorem protectSemicolons_plain {c : Char} (h : c ≠ '\\') : Turns protectSemicolons [c] [c] := by
  intro r
  rw [List.singleton_append, protectSemicolons]
  · rfl
  · intro _ hc _
    exact h hc

/-- An escape of anything but a semicolon is kept. -/
theorem protectSemicolons_escaped {c : Char} (hs : c ≠ ';') (hb : c ≠ '\\') :
    Turns protectSemicolons ['\\', c] ['\\', c] := by
  intro r
  show protectSemicolons ('\\' :: c :: r) = _
  rw [protectSemicolons]
  · exact congrArg ('\\' :: ·) (protectSemicolons_plain hb r)
  · intro _ _ hr
    exact hs (List.cons.inj hr).1

theorem breakLines_plain {c : Char} (h : c ≠ '\\') : Turns Block.breakLines [c] [c] := by
  intro r
  rw [List.singleton_append, Block.breakLines]
  · rfl
  · intro _ hc _
    exact h hc

theorem breakLines_coded : Turns Block.breakLines ['\\', 'x'] ['\\', 'x'] := by
  intro r
  show Block.breakLines ('\\' :: 'x' :: r) = _
  rw [Block.breakLines]
  · exact congrArg ('\\' :: ·) (breakLines_plain (by decide) r)
  · intro _ _ hr
    exact absurd (List.cons.inj hr).1 (by decide)

/-! ## From the written value to the value -/

/-- A value once delimiters are protected. -/
def shieldedValue (v : List Char) : List Char :=
  v.flatMap (spellValue placeholder ['\\', ';'] ['\\', 'n'])

/-- A value once semicolons are protected as well. -/
def sealedValue (v : List Char) : List Char :=
  v.flatMap (spellValue placeholder (placeholder ';') ['\\', 'n'])

theorem protect_value (v : List Char) :
    Turns protect (v.flatMap writeValueChar) (shieldedValue v) :=
  turns_spellValue (fun _ => protect_plain) (protect_escaped (by decide))
    (fun _ => protect_delimiter) (protect_escaped (by decide)) (protect_escaped (by decide)) v

theorem protectSemicolons_value (v : List Char) :
    Turns protectSemicolons (shieldedValue v) (sealedValue v) := by
  have coded := protectSemicolons_escaped (c := 'x') (by decide) (by decide)
  exact turns_spellValue (fun _ => protectSemicolons_plain) coded
    (fun _ hc => turns_placeholder (fun _ => protectSemicolons_plain) coded
      (toNat_lt_of_delimiter hc))
    (fun _ => rfl) (protectSemicolons_escaped (by decide) (by decide)) v

theorem breakLines_value (v : List Char) :
    Block.breakLines (sealedValue v) =
      v.flatMap (spellValue placeholder (placeholder ';') ['\n']) := by
  refine Turns.whole ?_ rfl
  have kept {c : Char} (h : c.toNat < 256) :
      Turns Block.breakLines (placeholder c) (placeholder c) :=
    turns_placeholder (fun _ => breakLines_plain) breakLines_coded h
  exact turns_spellValue (fun _ => breakLines_plain) breakLines_coded
    (fun _ hc => kept (toNat_lt_of_delimiter hc)) (kept (by decide)) (fun _ => rfl) v

/-- What is left for `decode` are placeholders and plain characters. -/
theorem decode_value (v : List Char) :
    decode (v.flatMap (spellValue placeholder (placeholder ';') ['\n'])) = v := by
  have turned : Turns decode (v.flatMap (spellValue placeholder (placeholder ';') ['\n']))
      (v.flatMap fun c => [c]) := by
    refine .flatMap fun c _ => ?_
    rcases spellValue_cases c with
      ⟨h, spelt⟩ | ⟨rfl, spelt⟩ | ⟨rfl, spelt⟩ | ⟨h, spelt⟩ | ⟨h, _, spelt⟩
    · rw [spelt]
      exact decode_placeholder (toNat_lt_of_delimiter h)
    · rw [spelt]
      exact decode_placeholder (by decide)
    · rw [spelt]
      exact decode_plain (by decide)
    · rw [spelt]
      exact decode_placeholder (toNat_lt_of_padding h)
    · rw [spelt]
      exact decode_plain h
  rw [turned.whole rfl, List.flatMap_singleton']

/-! ## What is in a value -/

theorem isInner_of_mem_placeholder {c x : Char} (hc : c.toNat < 256) (hx : x ∈ placeholder c) :
    isInner x = true := by
  have digit : ∀ n < 16, isInner (Nat.digitChar n) = true := by decide
  simp only [placeholder, Text.hexByte, List.mem_cons, List.not_mem_nil, or_false] at hx
  rcases hx with rfl | rfl | rfl | rfl
  · decide
  · decide
  · exact digit _ (by omega)
  · exact digit _ (by omega)

theorem mem_spellValue {semicolon : List Char} {c x : Char}
    (hx : x ∈ spellValue placeholder semicolon ['\\', 'n'] c) :
    x ∈ semicolon ∨ isInner x = true := by
  rcases spellValue_cases c with
    ⟨h, spelt⟩ | ⟨rfl, spelt⟩ | ⟨rfl, spelt⟩ | ⟨h, spelt⟩ | ⟨_, h, spelt⟩
  · rw [spelt] at hx
    exact Or.inr (isInner_of_mem_placeholder (toNat_lt_of_delimiter h) hx)
  · rw [spelt] at hx
    exact Or.inl hx
  · rw [spelt] at hx
    have written : ['\\', 'n'].all isInner = true := by decide
    exact Or.inr (List.all_eq_true.1 written x hx)
  · rw [spelt] at hx
    exact Or.inr (isInner_of_mem_placeholder (toNat_lt_of_padding h) hx)
  · rw [spelt, List.mem_singleton] at hx
    exact Or.inr (hx ▸ h)

theorem isInner_of_mem_sealedValue {v : List Char} {x : Char} (hx : x ∈ sealedValue v) :
    isInner x = true := by
  obtain ⟨c, _, hx⟩ := List.mem_flatMap.1 hx
  rcases mem_spellValue hx with hx | hx
  · exact isInner_of_mem_placeholder (by decide) hx
  · exact hx

/-- A protected value may still hold semicolons. -/
theorem isInner_of_mem_shieldedValue {v : List Char} {x : Char} (hx : x ∈ shieldedValue v) :
    x = ';' ∨ isInner x = true := by
  obtain ⟨c, _, hx⟩ := List.mem_flatMap.1 hx
  rcases mem_spellValue hx with hx | hx
  · simp only [List.mem_cons, List.not_mem_nil, or_false] at hx
    rcases hx with rfl | rfl
    · exact Or.inr (by decide)
    · exact Or.inl rfl
  · exact Or.inr hx

theorem sealedValue_ne_nil {v : List Char} (some : v ≠ []) : sealedValue v ≠ [] := by
  intro h
  have whole := decode_value v
  rw [← breakLines_value, h] at whole
  exact some whole.symm

/-! ## Reading a member -/

/-- What can stand in front of the colon of a member. -/
structure IsKey (key : List Char) : Prop where
  start : key.head?.any Block.isKeyStart = true
  all : ∀ c ∈ key, Block.isKeyChar c = true

/-- A character of a key is none that the markup knows. -/
theorem isInner_of_isKeyChar {c : Char} (h : Block.isKeyChar c = true) :
    isInner c = true ∧ c ≠ '\\' ∧ c ≠ ':' := by
  have none : ['{', '|', '}', ';', '\n', ' ', '\t', '\\', ':'].all (!Block.isKeyChar ·) = true := by
    decide
  have other : c ∉ ['{', '|', '}', ';', '\n', ' ', '\t', '\\', ':'] := by
    intro hc
    have not := List.all_eq_true.1 none c hc
    simp [h] at not
  simp only [List.mem_cons, List.not_mem_nil, or_false, not_or] at other
  simp [isInner, Text.isBlank, other]

theorem not_isBlank_of_isInner {c : Char} (h : isInner c = true) : Text.isBlank c = false := by
  simp only [isInner, Bool.and_eq_true, Bool.not_eq_true'] at h
  exact h.2

section
variable {key v : List Char}

/-- A value without blanks and line feeds is taken as it is. -/
theorem value?_eq (some : v ≠ []) (inner : ∀ c ∈ v, isInner c = true) :
    Block.value? v = .some v := by
  obtain ⟨c, r, rfl⟩ := List.exists_cons_of_ne_nil some
  have front : (c :: r).dropWhile Text.isBlank = c :: r :=
    Text.dropWhile_of_head fun d hd => not_isBlank_of_isInner (inner d (List.mem_of_mem_head? hd))
  have back : Text.dropEndWhile Text.isBlank r = r :=
    Text.dropEndWhile_of_last fun d hd =>
      not_isBlank_of_isInner (inner d (List.mem_cons_of_mem _ (List.mem_of_getLast? hd)))
  have single : r.contains '\n' = false := by
    rw [← Bool.not_eq_true, List.contains_iff_mem]
    intro h
    exact absurd (inner _ (List.mem_cons_of_mem _ h)) (by decide)
  simp only [Block.value?, front, back, single]
  rfl

/-- What stands in front of a colon is a key, blanks around it aside. -/
theorem member?_append {front gap : List Char} (hf : ∀ c ∈ front, Text.isBlank c = true)
    (hk : IsKey key) (hg : ∀ c ∈ gap, Text.isBlank c = true) (r : List Char) :
    Block.member? (front ++ (key ++ (gap ++ ':' :: r))) =
      (Block.value? r).map fun v => (key, v) := by
  obtain ⟨c, more, rfl⟩ : ∃ c more, key = c :: more := by
    cases key with
    | nil => exact absurd hk.start (by decide)
    | cons c more => exact ⟨c, more, rfl⟩
  have start : Block.isKeyStart c = true := hk.start
  have first : (c :: more ++ (gap ++ ':' :: r)).dropWhile Text.isBlank =
      c :: more ++ (gap ++ ':' :: r) := by
    refine Text.dropWhile_of_head fun d hd => ?_
    obtain rfl : c = d := by simpa using hd
    exact not_isBlank_of_isInner (isInner_of_isKeyChar (hk.all c List.mem_cons_self)).1
  have other {d : Char} (hd : Text.isBlank d = true) : ¬Block.isKeyChar d = true := fun h => by
    rw [not_isBlank_of_isInner (isInner_of_isKeyChar h).1] at hd
    cases hd
  have after : ∀ d ∈ (gap ++ ':' :: r).head?, ¬Block.isKeyChar d = true := by
    cases gap with
    | nil =>
      rintro d ⟨rfl⟩
      decide
    | cons b gap =>
      rintro d ⟨rfl⟩
      exact other (hg b List.mem_cons_self)
  have taken : (c :: more ++ (gap ++ ':' :: r)).takeWhile Block.isKeyChar = c :: more := by
    have none : (gap ++ ':' :: r).takeWhile Block.isKeyChar = [] := by
      cases rest : gap ++ ':' :: r with
      | nil => rfl
      | cons d more => exact List.takeWhile_cons_of_neg (after d (by rw [rest]; rfl))
    rw [List.takeWhile_append_of_pos hk.all, none, List.append_nil]
  have dropped : (c :: more ++ (gap ++ ':' :: r)).dropWhile Block.isKeyChar =
      gap ++ ':' :: r := by
    rw [List.dropWhile_append_of_pos hk.all]
    exact Text.dropWhile_of_head fun d hd => by simpa using after d hd
  have colon : (gap ++ ':' :: r).dropWhile Text.isBlank = ':' :: r := by
    rw [List.dropWhile_append_of_pos hg]
    exact List.dropWhile_cons_of_neg (by decide)
  simp only [Block.member?, List.dropWhile_append_of_pos hf, first, taken, dropped, colon]
  simp [start]

theorem member?_eq (hk : IsKey key) (some : v ≠ []) (inner : ∀ c ∈ v, isInner c = true) :
    Block.member? (key ++ ':' :: v) = .some (key, v) := by
  have member := member?_append (List.forall_mem_nil _) hk (List.forall_mem_nil _) v
  rwa [value?_eq some inner] at member

/-- **A written member is read as its key and its value.** -/
theorem ofInner_written (hk : IsKey key) (some : v ≠ []) :
    Block.ofInner (key ++ ':' :: shieldedValue v) = { members := [(Block.fullKey key, v)] } := by
  have escape : ∀ c ∈ key, c ≠ '\\' := fun c hc => (isInner_of_isKeyChar (hk.all c hc)).2.1
  have turned : Turns protectSemicolons (key ++ ([':'] ++ shieldedValue v))
      (key ++ ([':'] ++ sealedValue v)) :=
    (turns_plain (fun _ => protectSemicolons_plain) escape).append
      ((protectSemicolons_plain (by decide)).append (protectSemicolons_value v))
  -- Once it is sealed, the text has no semicolon left that could divide it into members.
  have sealed : protectSemicolons (key ++ ':' :: shieldedValue v) = key ++ ':' :: sealedValue v :=
    turned.whole rfl
  have undivided : ';' ∉ key ++ ':' :: sealedValue v := by
    simp only [List.mem_append, List.mem_cons, not_or]
    refine ⟨fun h => ?_, by decide, fun h => ?_⟩
    · exact absurd (isInner_of_isKeyChar (hk.all _ h)).1 (by decide)
    · exact absurd (isInner_of_mem_sealedValue h) (by decide)
  have colon : (key ++ ':' :: sealedValue v).all Text.isBlank = false := by
    rw [List.all_eq_false]
    exact ⟨':', by simp, by decide⟩
  have member : Block.member? (key ++ ':' :: sealedValue v) = .some (key, sealedValue v) :=
    member?_eq hk (sealedValue_ne_nil some) fun c hc => isInner_of_mem_sealedValue hc
  simp only [Block.ofInner, sealed, Text.pieces, Text.split_of_not_mem undivided,
    List.foldl_cons, List.foldl_nil, Block.add, colon, member, breakLines_value, decode_value]
  rfl

/-! ## Reading the line -/

theorem inner?_braces {s : List Char} (h : ∀ c ∈ s, c ≠ '{' ∧ c ≠ '}') :
    Block.inner? ('{' :: s ++ ['}']) = .some s := by
  have opening : '{' ∉ s := fun hc => (h _ hc).1 rfl
  have closing : '}' ∉ s := fun hc => (h _ hc).2 rfl
  simp [Block.inner?, opening, closing]

/-- A line without pipes that starts and ends with a brace is one column. -/
theorem divide_braces {line s : List Char} (trimmed : Text.trim line = line)
    (h : protect line = '{' :: s ++ ['}']) (pipe : '|' ∉ s) :
    divide line = ('{' :: s ++ ['}'], []) := by
  have whole : Text.split '|' ('{' :: s ++ ['}']) = ('{' :: s ++ ['}'], []) :=
    Text.split_of_not_mem (by simp [pipe])
  have edges : padEdges ('{' :: s ++ ['}']) = '{' :: s ++ ['}'] := by
    simp only [padEdges, whole]
  have kept : dropEdges ('{' :: s ++ ['}']) = '{' :: s ++ ['}'] := by
    have last : ('{' :: (s ++ ['}'])).getLast? = some '}' :=
      List.getLast?_concat (l := '{' :: s)
    simp [dropEdges, last]
  rw [divide, trimmed, h, edges, kept, whole]

theorem protect_writeBlock (hk : IsKey key) (v : List Char) :
    protect (writeBlock key v) = '{' :: (key ++ ':' :: shieldedValue v) ++ ['}'] := by
  have escape : ∀ c ∈ key, c ≠ '\\' := fun c hc => (isInner_of_isKeyChar (hk.all c hc)).2.1
  have plain (c : Char) : c ≠ '\\' → Turns protect [c] [c] := protect_plain
  have turned := ((plain '{' (by decide)).append ((turns_plain plain escape).append
    ((plain ':' (by decide)).append (protect_value v)))).append (plain '}' (by decide))
  simpa [writeBlock] using turned.whole rfl

/-- What stands between the braces once delimiters are protected. -/
theorem mem_written (hk : IsKey key) {c : Char} (hc : c ∈ key ++ ':' :: shieldedValue v) :
    c ≠ '{' ∧ c ≠ '|' ∧ c ≠ '}' := by
  have inner : c = ':' ∨ c = ';' ∨ isInner c = true := by
    rcases List.mem_append.1 hc with hc | hc
    · exact Or.inr (Or.inr (isInner_of_isKeyChar (hk.all c hc)).1)
    · rcases List.mem_cons.1 hc with hc | hc
      · exact Or.inl hc
      · exact Or.inr (isInner_of_mem_shieldedValue hc)
  rcases inner with rfl | rfl | h
  · decide
  · decide
  · exact (ne_of_isInner h).1

theorem trim_braces (s : List Char) : Text.trim ('{' :: s ++ ['}']) = '{' :: s ++ ['}'] := by
  refine Text.trimBy_of_ends ?_ ?_
  · intro c hc
    obtain rfl : '{' = c := by simpa using hc
    rfl
  · intro c hc
    rw [List.getLast?_concat] at hc
    obtain rfl := Option.some.inj hc
    rfl

/-- A block between braces is read as one column, and leaves the settings that its members make. -/
theorem readLine_braces {line inside : List Char} (trimmed : Text.trim line = line)
    (written : protect line = '{' :: inside ++ ['}'])
    (undivided : ∀ c ∈ inside, c ≠ '{' ∧ c ≠ '|' ∧ c ≠ '}')
    (fine : (Block.ofInner inside).isFaulty = false) (s : State) :
    let b := Block.ofInner inside
    readLine line s =
      ([(s.apply b).column 1 0 (b.payload (s.apply b).codes)
        (toggle? s.isRuled (s.apply b).isRuled) none], s.apply b) := by
  intro b
  have divided : divide line = ('{' :: inside ++ ['}'], []) :=
    divide_braces trimmed written fun h => (undivided _ h).2.1 rfl
  have inner : Block.inner? ('{' :: inside ++ ['}']) = .some inside :=
    inner?_braces fun c hc => ⟨(undivided c hc).1, (undivided c hc).2.2⟩
  have align : alignOf ('{' :: inside ++ ['}']) = 1 := by
    rw [alignOf, Text.endsBlank, List.getLast?_concat]
    rfl
  rw [readLine_alone divided]
  simp only [readAlone, trim_braces, inner, align, fine, Bool.false_eq_true, if_false]
  have single (c : Column) (t : State) (h : c.isText = false) : t.complete [c] = [c] := by
    simp [State.complete, h]
  rw [single]
  exact payload_isText b _

/-- A written block is read as one column, and leaves the settings that its member makes. -/
theorem readLine_block (hk : IsKey key) (some : v ≠ []) (s : State) :
    let b : Block := { members := [(Block.fullKey key, v)] }
    readLine (writeBlock key v) s =
      ([(s.apply b).column 1 0 (b.payload (s.apply b).codes)
        (toggle? s.isRuled (s.apply b).isRuled) none], s.apply b) := by
  have member := ofInner_written hk some
  have read := readLine_braces (trim_braces _) (protect_writeBlock hk v)
    (fun c hc => mem_written hk hc) (by rw [member]) s
  rwa [member] at read

/-- The keys of settings. -/
def settingKeys : List String := ["text", "border", "width", "align", "option"]

/-- Settings stay as they are if a block names none of them. -/
theorem apply_eq_self {b : Block} (s : State) (h : ∀ key ∈ settingKeys, b.get? key = none) :
    s.apply b = s := by
  simp only [settingKeys, List.forall_mem_cons, List.not_mem_nil, false_imp_iff, implies_true,
    and_true] at h
  obtain ⟨text, border, width, align, option⟩ := h
  simp [State.apply, text, border, width, align, option]

theorem get?_single {name : String} (h : key ≠ name.toList) :
    Block.get? { members := [(key, v)] } name = none := by
  have other : (name.toList == key) = false := beq_eq_false_iff_ne.2 (Ne.symm h)
  simp [Block.get?, List.lookup_cons, other]

end

/-- A line is read as one column that carries this payload: nothing is at fault, and the settings
and the table in progress stay as they are. -/
def ReadsAs (line : List Char) (s : State) (payload : Payload) : Prop :=
  ∃ c, readLine line s = ([c], s) ∧ c.payload = payload ∧ c.fault = none ∧ c.toggle = none

/-- A block whose member is no setting carries what the member prints. -/
theorem readsAs_block {key v : List Char} (hk : IsKey key) (some : v ≠ []) (s : State)
    (other : ∀ setting ∈ settingKeys, Block.fullKey key ≠ setting.toList) :
    ReadsAs (writeBlock key v) s (Block.payload { members := [(Block.fullKey key, v)] } s.codes) := by
  have read := readLine_block hk some s
  have kept := apply_eq_self (b := { members := [(Block.fullKey key, v)] }) s
    fun name h => get?_single (other name h)
  simp only [kept, toggle?_self] at read
  exact ⟨_, read, rfl, rfl, rfl⟩

/-- **A block carries any value.** Written under the key of a command, a code or a comment, every
text that is not empty is read back as it was; a code is drawn in the style in force. -/
theorem readsAs_writeBlock {v : List Char} (some : v ≠ []) (s : State) :
    ReadsAs (writeBlock ['x'] v) s (.command v) ∧
      (s.codes.symbology = .qrCode →
        ReadsAs (writeBlock ['c'] v) s
          (.matrix
            { data := v
              level := s.codes.level
              cell := s.codes.cell
              quietZone := s.codes.quietZone })) ∧
      (s.codes.symbology ≠ .qrCode →
        ReadsAs (writeBlock ['c'] v) s
          (.barcode
            { data := v
              symbology := s.codes.symbology
              module := s.codes.module
              height := s.codes.height
              hri := s.codes.hri
              quietZone := s.codes.quietZone })) ∧
      ReadsAs (writeBlock ['_'] v) s (.comment v) := by
  have key {c : Char} (start : Block.isKeyStart c = true) (all : Block.isKeyChar c = true) :
      IsKey [c] := ⟨start, by simpa using all⟩
  have code : ReadsAs (writeBlock ['c'] v) s (s.codes.payload v) :=
    readsAs_block (key rfl rfl) some s (by decide)
  refine ⟨?_, ?_, ?_, ?_⟩
  · exact readsAs_block (key rfl rfl) some s (by decide)
  · intro square
    rwa [CodeStyle.payload, if_pos square] at code
  · intro bars
    rwa [CodeStyle.payload, if_neg bars] at code
  · exact readsAs_block (key rfl rfl) some s (by decide)

/-- A command of an escape and blanks, with a backslash, a semicolon and letters of placeholders. -/
theorem readsAs_writeBlock_escape :
    "\\x1b;\\n\n\x1b |\t".toList ≠ [] ∧
      writeBlock ['x'] "\\x1b;\\n\n\x1b |\t".toList =
        "\x7bx:\\\\x1b\\;\\\\n\\n\x1b\\x20\\|\\x09\x7d".toList ∧
      ReadsAs "\x7bx:\\\\x1b\\;\\\\n\\n\x1b\\x20\\|\\x09\x7d".toList (.initial .wide)
        (.command "\\x1b;\\n\n\x1b |\t".toList) := by
  have some : "\\x1b;\\n\n\x1b |\t".toList ≠ [] := by decide
  have written : writeBlock ['x'] "\\x1b;\\n\n\x1b |\t".toList =
      "\x7bx:\\\\x1b\\;\\\\n\\n\x1b\\x20\\|\\x09\x7d".toList := by decide
  have read := (readsAs_writeBlock some (.initial .wide)).1
  rw [written] at read
  exact ⟨some, written, read⟩

end Receipt.Markup
