import Receipt.Markup.Value

/-!
# Images in base64

An image is data in base64, four characters to a group of three bytes. A value that is no such text
is mended (`image_mended`): of the characters in front of any padding those of base64 count, the last
group is filled up, and a single character left over is dropped. What was base64 in the first place
comes out as it was, also without its padding and with other characters among it.
-/

namespace Receipt.Markup.Value

/-! ## Base64 -/

/-- The base64 character of each number of six bits. -/
def base64Letters : List Char :=
  "ABCDEFGHIJKLMNOPQRSTUVWXYZabcdefghijklmnopqrstuvwxyz0123456789+/".toList

def base64Letter (n : Nat) : Char := base64Letters.getD n 'A'

/-- The base64 characters of bytes, six bits to each; bits that are missing at the end are zeros. -/
def base64Digits : List UInt8 → List Char
  | [] => []
  | [a] => [base64Letter (a.toNat / 4), base64Letter (a.toNat % 4 * 16)]
  | [a, b] =>
    [base64Letter (a.toNat / 4), base64Letter (a.toNat % 4 * 16 + b.toNat / 16),
      base64Letter (b.toNat % 16 * 4)]
  | a :: b :: c :: r =>
    base64Letter (a.toNat / 4) :: base64Letter (a.toNat % 4 * 16 + b.toNat / 16) ::
      base64Letter (b.toNat % 16 * 4 + c.toNat / 64) :: base64Letter (c.toNat % 64) ::
      base64Digits r

/-- What fills up the last group of four characters. -/
def base64Padding (bytes : List UInt8) : List Char :=
  match bytes.length % 3 with
  | 1 => ['=', '=']
  | 2 => ['=']
  | _ => []

/-- Bytes in base64. -/
def base64 (bytes : List UInt8) : List Char := base64Digits bytes ++ base64Padding bytes

example : base64 [0xfb, 0xff, 0x41, 0x42] = "+/9BQg==".toList := by decide

theorem isBase64_letter (n : Nat) : isBase64 (base64Letter n) = true := by
  by_cases h : n < 64
  · have all : ∀ n < 64, isBase64 (base64Letter n) = true := by decide +kernel
    exact all n h
  · have none : base64Letters[n]? = none := List.getElem?_eq_none (Nat.not_lt.1 h)
    rw [base64Letter, List.getD_eq_getElem?_getD, none]
    rfl

theorem isBase64_digits (bytes : List UInt8) : ∀ c ∈ base64Digits bytes, isBase64 c = true := by
  fun_induction base64Digits bytes with
  | case1 => simp
  | case2 a => simp [isBase64_letter]
  | case3 a b => simp [isBase64_letter]
  | case4 a b c r ih => simpa [isBase64_letter] using ih

/-- Three bytes make four characters, and what is left over one character more than it has bytes. -/
theorem length_digits (bytes : List UInt8) : (base64Digits bytes).length =
    4 * (bytes.length / 3) + if bytes.length % 3 = 0 then 0 else bytes.length % 3 + 1 := by
  fun_induction base64Digits bytes with
  | case1 | case2 a | case3 a b => simp
  | case4 a b c r ih =>
    have groups : (r.length + 1 + 1 + 1) / 3 = r.length / 3 + 1 := by omega
    have left : (r.length + 1 + 1 + 1) % 3 = r.length % 3 := by omega
    simp only [List.length_cons, ih, groups, left]
    omega

/-! ## What counts of a value -/

/-- The characters of base64, padding included. -/
def isCounted (c : Char) : Bool := isBase64 c || c = '='

section
variable {s digits : List Char} {n : Nat}

theorem ne_padding (h : isBase64 c = true) : c ≠ '=' := by
  rintro rfl
  cases h

/-- The characters in front of any padding, with or without all others taken out first. -/
theorem filter_takeWhile (s : List Char) :
    (s.takeWhile (· ≠ '=')).filter isBase64 = (s.filter isCounted).takeWhile (· ≠ '=') := by
  induction s with
  | nil => rfl
  | cons c s ih =>
    by_cases padding : c = '='
    · subst padding
      rfl
    · cases digit : isBase64 c <;> simp_all [isCounted]

/-- However much padding stands behind base64 characters, it is made anew. -/
theorem image_of_counted (counted : s.filter isCounted = digits ++ List.replicate n '=')
    (h : ∀ c ∈ digits, isBase64 c = true) : image s = fillGroups digits := by
  have front : (digits ++ List.replicate n '=').takeWhile (· ≠ '=') = digits := by
    rw [List.takeWhile_append_of_pos]
    · cases n <;> simp [List.replicate_succ]
    · intro c hc
      simpa using ne_padding (h c hc)
  rw [image, filter_takeWhile, counted, front]

/-! ## Whole groups -/

/-- Base64 characters in whole groups, the last one filled up by padding. -/
def IsWhole (s : List Char) : Prop :=
  ∃ digits padding, s = digits ++ List.replicate padding '=' ∧
    (∀ c ∈ digits, isBase64 c = true) ∧ padding ≤ 2 ∧ s.length % 4 = 0

/-- Unless one character is too many, padding is added up to a whole group. -/
theorem fillGroups_eq (h : s.length % 4 ≠ 1) :
    fillGroups s = s ++ List.replicate ((4 - s.length % 4) % 4) '=' := by
  have small : s.length % 4 < 4 := Nat.mod_lt _ (by decide)
  obtain none | two | three : s.length % 4 = 0 ∨ s.length % 4 = 2 ∨ s.length % 4 = 3 := by omega
  · simp [fillGroups, none]
  · simp [fillGroups, two]
  · simp [fillGroups, three]

/-- What is filled up are the characters without the one too many. -/
theorem exists_kept (s : List Char) :
    ∃ kept, kept.length % 4 ≠ 1 ∧ kept ⊆ s ∧ fillGroups s = fillGroups kept := by
  by_cases one : s.length % 4 = 1
  · have whole : s.dropLast.length % 4 = 0 := by
      rw [List.length_dropLast]
      omega
    have same : fillGroups s.dropLast = s.dropLast := by
      rw [fillGroups_eq (by omega), whole]
      simp
    refine ⟨s.dropLast, by omega, List.dropLast_subset s, ?_⟩
    rw [same]
    simp [fillGroups, one]
  · exact ⟨s, one, List.Subset.refl s, rfl⟩

theorem isWhole_fillGroups (h : ∀ c ∈ digits, isBase64 c = true)
    (more : digits.length % 4 ≠ 1) : IsWhole (fillGroups digits) := by
  have small : digits.length % 4 < 4 := Nat.mod_lt _ (by decide)
  refine ⟨digits, _, fillGroups_eq more, h, by omega, ?_⟩
  rw [fillGroups_eq more, List.length_append, List.length_replicate]
  omega

/-- The base64 characters of bytes are filled up by their padding. -/
theorem fillGroups_digits (bytes : List UInt8) :
    fillGroups (base64Digits bytes) = base64 bytes := by
  have length := length_digits bytes
  have small : bytes.length % 3 < 3 := Nat.mod_lt _ (by decide)
  obtain none | one | two :
      bytes.length % 3 = 0 ∨ bytes.length % 3 = 1 ∨ bytes.length % 3 = 2 := by omega
  · have groups : (base64Digits bytes).length % 4 = 0 := by simp [length, none]
    rw [fillGroups_eq (by omega), groups]
    simp [base64, base64Padding, none]
  · have groups : (base64Digits bytes).length % 4 = 2 := by simp [length, one]
    rw [fillGroups_eq (by omega), groups]
    simp [base64, base64Padding, one]
  · have groups : (base64Digits bytes).length % 4 = 3 := by simp [length, two]
    rw [fillGroups_eq (by omega), groups]
    simp [base64, base64Padding, two]

theorem exists_padding (bytes : List UInt8) :
    ∃ n, base64 bytes = base64Digits bytes ++ List.replicate n '=' := by
  unfold base64 base64Padding
  split
  · exact ⟨2, rfl⟩
  · exact ⟨1, rfl⟩
  · exact ⟨0, rfl⟩

/-- What counts of a value is all that its image is made of. -/
theorem image_of_bytes {bytes : List UInt8}
    (counted : s.filter isCounted = base64 bytes ∨ s.filter isCounted = base64Digits bytes) :
    image s = base64 bytes := by
  obtain ⟨n, padded⟩ := exists_padding bytes
  obtain ⟨k, whole⟩ : ∃ k, s.filter isCounted = base64Digits bytes ++ List.replicate k '=' := by
    rcases counted with whole | cut
    · exact ⟨n, whole.trans padded⟩
    · exact ⟨0, by simp [cut]⟩
  rw [image_of_counted whole (isBase64_digits bytes), fillGroups_digits]

theorem filter_digits (h : ∀ c ∈ digits, isBase64 c = true) (n : Nat) :
    (digits ++ List.replicate n '=').filter isCounted = digits ++ List.replicate n '=' := by
  rw [List.filter_eq_self]
  intro c hc
  rcases List.mem_append.1 hc with hc | hc
  · simp [isCounted, h c hc]
  · simp [isCounted, List.eq_of_mem_replicate hc]

end

/-- **Every image is base64 in whole groups, and base64 stays as it is.** An image that was mended
is mended for good. Bytes in base64 are kept, and are found again without their padding and among
any other characters. -/
theorem image_mended :
    (∀ s, IsWhole (image s)) ∧ (∀ s, image (image s) = image s) ∧
      ∀ bytes, image (base64 bytes) = base64 bytes ∧ image (base64Digits bytes) = base64 bytes ∧
        ∀ s, s.filter isCounted = base64 bytes ∨ s.filter isCounted = base64Digits bytes →
          image s = base64 bytes := by
  have filled (s : List Char) : ∃ digits, (∀ c ∈ digits, isBase64 c = true) ∧
      digits.length % 4 ≠ 1 ∧ image s = fillGroups digits := by
    obtain ⟨kept, more, subset, same⟩ := exists_kept ((s.takeWhile (· ≠ '=')).filter isBase64)
    exact ⟨kept, fun c hc => (List.mem_filter.1 (subset hc)).2, more, same⟩
  refine ⟨fun s => ?_, fun s => ?_, fun bytes => ⟨?_, ?_, fun s => image_of_bytes⟩⟩
  · obtain ⟨digits, base64, more, mended⟩ := filled s
    rw [mended]
    exact isWhole_fillGroups base64 more
  · obtain ⟨digits, base64, more, mended⟩ := filled s
    have counted : (image s).filter isCounted =
        digits ++ List.replicate ((4 - digits.length % 4) % 4) '=' := by
      rw [mended, fillGroups_eq more, filter_digits base64]
    rw [image_of_counted counted base64, mended]
  · obtain ⟨n, padded⟩ := exists_padding bytes
    exact image_of_bytes (Or.inl (by rw [padded, filter_digits (isBase64_digits bytes)]))
  · have plain := filter_digits (isBase64_digits bytes) 0
    exact image_of_bytes (Or.inr (by simpa using plain))

/-- Four bytes in base64 with a blank, a line break and a hyphen among them, cut off in front of the
padding. -/
theorem image_mended_strewn :
    "QU JD\nR-A".toList.filter isCounted = base64Digits [65, 66, 67, 68] ∧
      image "QU JD\nR-A".toList = "QUJDRA==".toList := by
  have counted : "QU JD\nR-A".toList.filter isCounted = base64Digits [65, 66, 67, 68] := by decide
  have encoded : base64 [65, 66, 67, 68] = "QUJDRA==".toList := by decide
  exact ⟨counted, encoded ▸ (image_mended.2.2 [65, 66, 67, 68]).2.2 _ (Or.inr counted)⟩

end Receipt.Markup.Value
