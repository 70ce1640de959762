import Mathlib.Data.List.Nodup
import Receipt.Proofs.Markup.Settings

/-!
# Blocks of many members

Members stand in a block side by side, and no character of one reaches into the next: what would
divide the line or the block is escaped, and no backslash comes last. The passes of the reader go
over such members one by one (`Seals`), so a block is read as the pairs of its members. A value is
looked up by its key, and members of different keys can stand in any order (`readLine_perm`).
-/

namespace Receipt.Markup

/-! ## Members as written -/

/-- The characters that divide a line or a block. -/
def isDivider (c : Char) : Bool := c = ';' || c = '{' || c = '|' || c = '}'

/-- Whether nothing divides a text but what is escaped, and no escape is left open. -/
def isClosed : List Char → Bool
  | [] => true
  | ['\\'] => false
  | '\\' :: _ :: r => isClosed r
  | c :: r => !isDivider c && isClosed r

/-- A member that can stand in a block with others. -/
structure IsMember (m : List Char) : Prop where
  wellFormed : (Block.member? m).isSome = true
  closed : isClosed m = true

instance (m : List Char) : Decidable (IsMember m) :=
  decidable_of_iff ((Block.member? m).isSome = true ∧ isClosed m = true)
    ⟨fun h => ⟨h.1, h.2⟩, fun h => ⟨h.wellFormed, h.closed⟩⟩

/-- The full key of a member. -/
def keyOf (m : List Char) : List Char :=
  ((Block.member? m).map fun (key, _) => Block.fullKey key).getD []

/-- Members between semicolons. -/
def membersText : List (List Char) → List Char
  | [] => []
  | m :: r => Text.join ';' m r

/-- A block of members. -/
def writeMembers (ms : List (List Char)) : List Char := '{' :: membersText ms ++ ['}']

theorem isClosed_cons {c : Char} (h : c ≠ '\\') (r : List Char) :
    isClosed (c :: r) = (!isDivider c && isClosed r) := by
  rw [isClosed]
  · exact fun hc _ => h hc
  · exact fun _ _ hc _ => h hc

/-- Nothing is divided or left open by what is neither a divider nor an escape. -/
theorem isClosed_append {s : List Char} (h : ∀ c ∈ s, c ≠ '\\' ∧ isDivider c = false)
    (r : List Char) : isClosed (s ++ r) = isClosed r := by
  induction s with
  | nil => rfl
  | cons c s ih =>
    obtain ⟨plain, divider⟩ := h c List.mem_cons_self
    rw [List.cons_append, isClosed_cons plain, divider, Bool.not_false, Bool.true_and]
    exact ih fun d hd => h d (List.mem_cons_of_mem _ hd)

theorem plain_of_isBlank {c : Char} (h : Text.isBlank c = true) :
    c ≠ '\\' ∧ isDivider c = false := by
  simp only [Text.isBlank, Bool.or_eq_true, decide_eq_true_eq] at h
  rcases h with rfl | rfl <;> decide

theorem plain_of_isKeyChar {c : Char} (h : Block.isKeyChar c = true) :
    c ≠ '\\' ∧ isDivider c = false := by
  obtain ⟨inner, plain, -⟩ := isInner_of_isKeyChar h
  simp [isDivider, plain, ne_of_isInner inner]

/-! ## Protecting a member -/

/-- A text once its escapes are placeholders, those of semicolons included. -/
def sealed (s : List Char) : List Char := protectSemicolons (protect s)

theorem head?_protect (s : List Char) : (protect s).head? = s.head? := by
  fun_cases protect s <;> rfl

theorem head?_protectSemicolons (s : List Char) : (protectSemicolons s).head? = s.head? := by
  fun_cases protectSemicolons s <;> rfl

theorem head?_sealed (s : List Char) : (sealed s).head? = s.head? := by
  rw [sealed, head?_protectSemicolons, head?_protect]

/-- What is no escape is kept. -/
theorem sealed_append {s : List Char} (h : ∀ c ∈ s, c ≠ '\\') (r : List Char) :
    sealed (s ++ r) = s ++ sealed r := by
  rw [sealed, turns_plain (fun _ => protect_plain) h, turns_plain (fun _ => protectSemicolons_plain) h,
    sealed]

/-- The passes that protect a text look no further, and leave nothing in it that divides. -/
structure Seals (s : List Char) : Prop where
  protects : Turns protect s (protect s)
  seals : Turns protectSemicolons (protect s) (sealed s)
  undivided : ∀ c ∈ protect s, c ≠ '{' ∧ c ≠ '|' ∧ c ≠ '}'
  whole : ';' ∉ sealed s
  lineFeed : '\n' ∈ sealed s → '\n' ∈ s

theorem seals_of_turns {s b c : List Char} (protects : Turns protect s b)
    (seals : Turns protectSemicolons b c) (undivided : ∀ x ∈ b, x ≠ '{' ∧ x ≠ '|' ∧ x ≠ '}')
    (whole : ';' ∉ c) (lineFeed : '\n' ∈ c → '\n' ∈ s) : Seals s := by
  obtain rfl := protects.whole rfl
  obtain rfl := seals.whole rfl
  exact ⟨protects, seals, undivided, whole, lineFeed⟩

theorem Seals.append {s t : List Char} (hs : Seals s) (ht : Seals t) : Seals (s ++ t) := by
  refine seals_of_turns (hs.protects.append ht.protects) (hs.seals.append ht.seals) ?_ ?_ ?_
  · intro c hc
    exact (List.mem_append.1 hc).elim (hs.undivided c) (ht.undivided c)
  · intro hc
    exact (List.mem_append.1 hc).elim hs.whole ht.whole
  · intro hc
    exact List.mem_append.2 ((List.mem_append.1 hc).imp hs.lineFeed ht.lineFeed)

theorem seals_plain {c : Char} (h : c ≠ '\\') (divider : isDivider c = false) : Seals [c] := by
  simp only [isDivider, Bool.or_eq_false_iff, decide_eq_false_iff_not] at divider
  refine seals_of_turns (protect_plain h) (protectSemicolons_plain h) ?_ ?_ id
  · rintro x hx
    obtain rfl := List.mem_singleton.1 hx
    exact ⟨divider.1.1.2, divider.1.2, divider.2⟩
  · intro hc
    exact divider.1.1.1 (List.mem_singleton.1 hc).symm

/-- Whatever is escaped divides nothing. -/
theorem seals_escaped (c : Char) : Seals ['\\', c] := by
  have inner {d x : Char} (hd : d.toNat < 256) (hx : x ∈ placeholder d) :
      (x ≠ '{' ∧ x ≠ '|' ∧ x ≠ '}') ∧ x ≠ ';' ∧ x ≠ '\n' :=
    ne_of_isInner (isInner_of_mem_placeholder hd hx)
  have coded := protectSemicolons_escaped (c := 'x') (by decide) (by decide)
  by_cases delimiter : isDelimiter c = true
  · have small := toNat_lt_of_delimiter delimiter
    refine seals_of_turns (protect_delimiter delimiter)
      (turns_placeholder (fun _ => protectSemicolons_plain) coded small)
      (fun x hx => (inner small hx).1) (fun hx => ?_) (fun hx => ?_)
    · exact (inner small hx).2.1 rfl
    · exact absurd rfl (inner small hx).2.2
  have kept : isDelimiter c = false := eq_false_of_ne_true delimiter
  by_cases semicolon : c = ';'
  · subst semicolon
    refine seals_of_turns (c := placeholder ';') (protect_escaped kept) (fun _ => rfl) (by simp)
      (by decide) (fun hx => ?_)
    exact absurd hx (by decide)
  · have other := kept
    simp only [isDelimiter, Bool.or_eq_false_iff, decide_eq_false_iff_not] at other
    refine seals_of_turns (protect_escaped kept)
      (protectSemicolons_escaped semicolon other.1.1.1) ?_ ?_ id
    · simp [other]
    · simp [Ne.symm semicolon]

theorem seals_of_isClosed {s : List Char} (h : isClosed s = true) : Seals s := by
  fun_induction isClosed s with
  | case1 => exact seals_of_turns .nil .nil (by simp) (by simp) id
  | case2 => cases h
  | case3 c r ih => exact (seals_escaped c).append (ih h)
  | case4 c r last escape ih =>
    rw [Bool.and_eq_true, Bool.not_eq_true'] at h
    have plain : c ≠ '\\' := by
      rintro rfl
      cases r with
      | nil => exact last rfl rfl
      | cons d r => exact escape d r rfl rfl
    exact (seals_plain plain h.1).append (ih h.2)

/-! ## The pair of a member -/

/-- A well-formed member has a key in front of its colon, and a value after it. -/
theorem exists_of_member? {m key v : List Char} (h : Block.member? m = some (key, v)) :
    ∃ front gap r, m = front ++ (key ++ (gap ++ ':' :: r)) ∧
      (∀ c ∈ front, Text.isBlank c = true) ∧ IsKey key ∧ (∀ c ∈ gap, Text.isBlank c = true) ∧
      Block.value? r = some v := by
  have taken (p : Char → Bool) (s : List Char) : ∀ c ∈ s.takeWhile p, p c = true :=
    List.all_eq_true.1 List.all_takeWhile
  simp only [Block.member?] at h
  split at h
  · rename_i start
    split at h
    · rename_i r colon
      obtain ⟨v, value, ⟨⟩⟩ := Option.map_eq_some_iff.1 h
      refine ⟨m.takeWhile Text.isBlank,
        ((m.dropWhile Text.isBlank).dropWhile Block.isKeyChar).takeWhile Text.isBlank, r, ?_,
        taken _ _, ⟨?_, taken _ _⟩, taken _ _, value⟩
      · rw [← colon, List.takeWhile_append_dropWhile, List.takeWhile_append_dropWhile,
          List.takeWhile_append_dropWhile]
      · cases rest : m.dropWhile Text.isBlank with
        | nil =>
          rw [rest] at start
          cases start
        | cons c r =>
          rw [rest] at start
          have first : Block.isKeyChar c = true := by
            simp only [List.head?_cons, Option.any_some] at start
            simp [Block.isKeyChar, start]
          rw [List.takeWhile_cons_of_pos first]
          exact start
    · cases h
  · cases h

/-- A value is there just if something is no blank, and no line feed comes after its first
character. -/
theorem value?_isSome {s : List Char} :
    (Block.value? s).isSome = true ↔ ∃ c r, s.dropWhile Text.isBlank = c :: r ∧ '\n' ∉ r := by
  unfold Block.value?
  cases s.dropWhile Text.isBlank with
  | nil => simp
  | cons c r =>
    have kept : '\n' ∈ Text.dropEndWhile Text.isBlank r ↔ '\n' ∈ r :=
      Text.mem_dropEndWhile (by decide)
    by_cases feed : '\n' ∈ r <;> simp [kept, feed]

/-- A value is there after its escapes have become placeholders if it was there before. -/
theorem value?_sealed {s : List Char} (closed : isClosed s = true)
    (h : (Block.value? s).isSome = true) : (Block.value? (sealed s)).isSome = true := by
  obtain ⟨c, r, rest, feed⟩ := value?_isSome.1 h
  have blanks : ∀ d ∈ s.takeWhile Text.isBlank, Text.isBlank d = true :=
    List.all_eq_true.1 List.all_takeWhile
  have parts : s = s.takeWhile Text.isBlank ++ c :: r := by
    rw [← rest, List.takeWhile_append_dropWhile]
  have visible : Text.isBlank c = false := by
    have some : s.dropWhile Text.isBlank ≠ [] := by simp [rest]
    simpa only [rest, List.head_cons] using List.head_dropWhile_not Text.isBlank some
  have closed : isClosed (c :: r) = true := by
    rwa [parts, isClosed_append fun d hd => plain_of_isBlank (blanks d hd)] at closed
  obtain ⟨u, spelt⟩ : ∃ u, sealed (c :: r) = c :: u :=
    List.head?_eq_some_iff.1 (head?_sealed (c :: r))
  refine value?_isSome.2 ⟨c, u, ?_, fun hu => feed ?_⟩
  · rw [parts, sealed_append fun d hd => (plain_of_isBlank (blanks d hd)).1, spelt,
      List.dropWhile_append_of_pos blanks]
    exact List.dropWhile_cons_of_neg (by simp [visible])
  · by_cases first : c = '\n'
    · -- the first character may be a line feed: the text after it is protected on its own
      subst first
      have rest := sealed_append (s := ['\n']) (by simp) r
      rw [List.singleton_append, spelt] at rest
      rw [isClosed_cons (by decide)] at closed
      obtain rfl := (List.cons.inj rest).2
      exact (seals_of_isClosed (Bool.and_eq_true_iff.1 closed).2).lineFeed hu
    · have inside : '\n' ∈ c :: r :=
        (seals_of_isClosed closed).lineFeed (spelt ▸ List.mem_cons_of_mem c hu)
      exact (List.mem_cons.1 inside).resolve_left (Ne.symm first)

/-- **A member gives a value to its key,** whatever stands beside it in the block. -/
theorem IsMember.pair? {m : List Char} (h : IsMember m) :
    ∃ v, Block.pair? (sealed m) = some (keyOf m, v) := by
  obtain ⟨⟨key, v⟩, member⟩ := Option.isSome_iff_exists.1 h.wellFormed
  obtain ⟨front, gap, r, rfl, hf, hk, hg, value⟩ := exists_of_member? member
  have closed := h.closed
  rw [isClosed_append fun c hc => plain_of_isBlank (hf c hc),
    isClosed_append fun c hc => plain_of_isKeyChar (hk.all c hc),
    isClosed_append fun c hc => plain_of_isBlank (hg c hc), isClosed_cons (by decide)] at closed
  have spelt : sealed (front ++ (key ++ (gap ++ ':' :: r))) =
      front ++ (key ++ (gap ++ ':' :: sealed r)) := by
    rw [sealed_append fun c hc => (plain_of_isBlank (hf c hc)).1,
      sealed_append fun c hc => (plain_of_isKeyChar (hk.all c hc)).1,
      sealed_append fun c hc => (plain_of_isBlank (hg c hc)).1]
    exact congrArg (fun t => front ++ (key ++ (gap ++ t))) (sealed_append (s := [':']) (by simp) r)
  obtain ⟨w, kept⟩ := Option.isSome_iff_exists.1
    (value?_sealed (Bool.and_eq_true_iff.1 closed).2 (by rw [value]; rfl))
  have sealedMember : Block.member? (front ++ (key ++ (gap ++ ':' :: sealed r))) = some (key, w) := by
    rw [member?_append hf hk hg, kept]
    rfl
  refine ⟨decode (Block.breakLines w), ?_⟩
  simp only [Block.pair?, spelt, sealedMember, keyOf, member, Option.map_some, Option.getD_some]

/-! ## Reading a block -/

/-- A pass that keeps semicolons goes over members one by one. -/
theorem turns_join {pass : List Char → List Char} (semicolon : Turns pass [';'] [';'])
    {f g : List Char → List Char} {m : List Char} {r : List (List Char)}
    (h : ∀ x ∈ m :: r, Turns pass (f x) (g x)) :
    Turns pass (Text.join ';' (f m) (r.map f)) (Text.join ';' (g m) (r.map g)) := by
  simp only [Text.join, List.flatMap_map]
  exact (h m List.mem_cons_self).append
    (.flatMap fun x hx => semicolon.append (h x (List.mem_cons_of_mem m hx)))

section
variable {ms : List (List Char)} (members : ∀ m ∈ ms, IsMember m)
include members

theorem seals_of_members : ∀ m ∈ ms, Seals m := fun m hm => seals_of_isClosed (members m hm).closed

theorem protect_members : Turns protect (membersText ms) (membersText (ms.map protect)) := by
  cases ms with
  | nil => exact .nil
  | cons m r =>
    have turned := turns_join (f := id) (protect_plain (c := ';') (by decide)) fun x hx =>
      (seals_of_members members x hx).protects
    simpa [membersText] using turned

/-- What stands between the braces divides neither the line nor the block. -/
theorem undivided_members :
    ∀ c ∈ membersText (ms.map protect), c ≠ '{' ∧ c ≠ '|' ∧ c ≠ '}' := by
  have each : ∀ m ∈ ms, ∀ c ∈ protect m, c ≠ '{' ∧ c ≠ '|' ∧ c ≠ '}' := fun m hm =>
    (seals_of_members members m hm).undivided
  cases ms with
  | nil => simp [membersText]
  | cons m r =>
    intro c hc
    simp only [List.map_cons, membersText, Text.join, List.mem_append, List.mem_flatMap,
      List.mem_map, List.mem_cons] at hc
    rcases hc with hc | ⟨_, ⟨x, hx, rfl⟩, rfl | hc⟩
    · exact each m List.mem_cons_self c hc
    · decide
    · exact each x (List.mem_cons_of_mem m hx) c hc

/-- Protected members are divided at the semicolons between them, and nowhere else. -/
theorem ofInner_members :
    Block.ofInner (membersText (ms.map protect)) = (ms.map sealed).foldl Block.add {} := by
  have seals := seals_of_members members
  cases ms with
  | nil => rfl
  | cons m r =>
    have turned : Turns protectSemicolons (membersText ((m :: r).map protect))
        (membersText ((m :: r).map sealed)) :=
      turns_join (protectSemicolons_plain (by decide)) fun x hx => (seals x hx).seals
    have whole : ∀ piece ∈ r.map sealed, ';' ∉ piece := List.forall_mem_map.2 fun x hx =>
      (seals x (List.mem_cons_of_mem m hx)).whole
    have pieces : Text.pieces ';' (membersText ((m :: r).map sealed)) = (m :: r).map sealed := by
      rw [List.map_cons, membersText, Text.pieces,
        Text.split_join (seals m List.mem_cons_self).whole whole]
    rw [Block.ofInner, turned.whole rfl, pieces]

end

/-- The block that members make. -/
def blockWith (ms : List (List Char)) : Block := (ms.map sealed).foldl Block.add {}

/-- Well-formed members leave a block as fine as it was. -/
theorem foldl_add_isFaulty {pieces : List (List Char)}
    (h : ∀ piece ∈ pieces, (Block.pair? piece).isSome = true) (b : Block) :
    (pieces.foldl Block.add b).isFaulty = b.isFaulty := by
  induction pieces generalizing b with
  | nil => rfl
  | cons piece r ih =>
    rw [List.foldl_cons, ih fun x hx => h x (List.mem_cons_of_mem _ hx)]
    have formed := h piece List.mem_cons_self
    unfold Block.add
    split
    · rfl
    · split
      · rfl
      · rename_i malformed
        simp [Block.pair?, malformed] at formed

/-- **Members are read as the block they make.** -/
theorem readLine_members {ms : List (List Char)} (members : ∀ m ∈ ms, IsMember m) (s : State) :
    let b := blockWith ms
    readLine (writeMembers ms) s =
      ([(s.apply b).column 1 0 (b.payload (s.apply b).codes)
        (toggle? s.isRuled (s.apply b).isRuled) none], s.apply b) := by
  have made := ofInner_members members
  have written : protect (writeMembers ms) = '{' :: membersText (ms.map protect) ++ ['}'] := by
    have turned := ((protect_plain (c := '{') (by decide)).append (protect_members members)).append
      (protect_plain (c := '}') (by decide))
    exact turned.whole rfl
  have fine : (blockWith ms).isFaulty = false := by
    refine foldl_add_isFaulty (List.forall_mem_map.2 fun m hm => ?_) {}
    obtain ⟨v, pair⟩ := (members m hm).pair?
    rw [pair]
    rfl
  have read := readLine_braces (trim_braces _) written (undivided_members members)
    (by rw [made]; exact fine) s
  rwa [made] at read

/-! ## Looking up a key -/

/-- The value that members give to a key. -/
def valueOf (key : String) (ms : List (List Char)) : Option (List Char) :=
  Block.lastOf key (ms.filterMap fun m => Block.pair? (sealed m))

theorem get?_blockWith (ms : List (List Char)) (key : String) :
    (blockWith ms).get? key = valueOf key ms := by
  rw [blockWith, Block.get?_foldl_add, List.filterMap_map]
  exact Option.or_none

theorem valueOf_cons {m : List Char} (h : IsMember m) (key : String) :
    ∃ v, ∀ r, valueOf key (m :: r) =
      (valueOf key r).or (if keyOf m = key.toList then some v else none) := by
  obtain ⟨v, pair⟩ := h.pair?
  refine ⟨v, fun r => ?_⟩
  simp only [valueOf, List.filterMap_cons, pair, Block.lastOf_cons]

theorem apply_blockWith (ms : List (List Char)) (s : State) :
    s.apply (blockWith ms) = s.given (valueOf · ms) := by
  simp only [State.apply, State.given, get?_blockWith]

/-- Of members in front and behind, those behind count. -/
theorem valueOf_append (key : String) (a b : List (List Char)) :
    valueOf key (a ++ b) = (valueOf key b).or (valueOf key a) := by
  rw [valueOf, List.filterMap_append, Block.lastOf_append, valueOf, valueOf]

theorem valueOf_eq_none {key : String} {ms : List (List Char)} (members : ∀ m ∈ ms, IsMember m)
    (h : ∀ m ∈ ms, keyOf m ≠ key.toList) : valueOf key ms = none := by
  refine Block.lastOf_eq_none fun e he => ?_
  obtain ⟨m, hm, pair⟩ := List.mem_filterMap.1 he
  obtain ⟨v, value⟩ := (members m hm).pair?
  obtain rfl := Option.some.inj (value.symm.trans pair)
  exact h m hm

/-- **Members of different keys give the same values in any order.** -/
theorem valueOf_perm (key : String) {ms ms' : List (List Char)} (perm : ms'.Perm ms)
    (members : ∀ m ∈ ms', IsMember m) (distinct : (ms'.map keyOf).Nodup) :
    valueOf key ms' = valueOf key ms := by
  induction perm with
  | nil => rfl
  | cons m perm ih =>
    obtain ⟨v, value⟩ := valueOf_cons (members m List.mem_cons_self) key
    rw [List.map_cons, List.nodup_cons] at distinct
    rw [value, value, ih (fun x hx => members x (List.mem_cons_of_mem m hx)) distinct.2]
  | swap m n r =>
    obtain ⟨v, first⟩ := valueOf_cons (members n List.mem_cons_self) key
    obtain ⟨w, second⟩ := valueOf_cons (members m (List.mem_cons_of_mem n List.mem_cons_self)) key
    have differ : keyOf n ≠ keyOf m := by
      simp only [List.map_cons, List.nodup_cons, List.mem_cons, not_or] at distinct
      exact distinct.1.1
    simp only [first, second, Option.or_assoc]
    -- only one of the two has the key
    by_cases hn : keyOf n = key.toList
    · have hm : keyOf m ≠ key.toList := fun h => differ (hn.trans h.symm)
      simp [hn, hm]
    · simp [hn]
  | trans first second ihFirst ihSecond =>
    have moved := (first.map keyOf).nodup_iff.1 distinct
    rw [ihFirst members distinct,
      ihSecond (fun x hx => members x (first.mem_iff.2 hx)) moved]

/-! ## Blocks with the same values -/

theorem apply_congr {b b' : Block} (h : ∀ key, b'.get? key = b.get? key) (s : State) :
    s.apply b' = s.apply b := by
  simp only [State.apply, h]

theorem payload_congr {b b' : Block} (h : ∀ key, b'.get? key = b.get? key) (codes : CodeStyle) :
    b'.payload codes = b.payload codes := by
  simp only [Block.payload, h]

/-- A block of members sets what they give a value. -/
theorem readLine_members_settings {ms : List (List Char)} (members : ∀ m ∈ ms, IsMember m)
    (s : State) : (readLine (writeMembers ms) s).2 = s.given (valueOf · ms) := by
  rw [readLine_members members, ← apply_blockWith]

/-- **The order of members does not matter.** -/
theorem readLine_perm {ms ms' : List (List Char)} (members : ∀ m ∈ ms, IsMember m)
    (distinct : (ms.map keyOf).Nodup) (perm : ms'.Perm ms) (s : State) :
    readLine (writeMembers ms') s = readLine (writeMembers ms) s := by
  have same (key : String) : (blockWith ms').get? key = (blockWith ms).get? key := by
    rw [get?_blockWith, get?_blockWith, valueOf_perm key perm.symm members distinct]
  rw [readLine_members members, readLine_members fun m hm => members m (perm.mem_iff.1 hm)]
  simp only [apply_congr same, payload_congr same]

end Receipt.Markup
