import Mathlib.Data.List.TakeWhile
import Receipt.Proofs.Markup.Member

/-!
# Where a setting comes from

A line that is one block gives values to keys, each under its short or its full name; of several
values for one key the last counts, whatever other members of the block are malformed
(`get?_ofInner`). Reading a line takes each setting from the value it gives to its key, if it gives
one, and leaves all else as it was (`readLine_settings`).
-/

namespace Receipt.Markup

namespace Block

/-! ## Members -/

/-- What a piece of a block gives: a full key and the value as it is meant, if the piece is a
member of the form `key: value`. -/
def pair? (piece : List Char) : Option (List Char × List Char) :=
  (member? piece).map fun (key, v) => (fullKey key, decode (breakLines v))

/-- The well-formed members of a block in order. -/
def entries (inside : List Char) : List (List Char × List Char) :=
  (Text.pieces ';' (protectSemicolons inside)).filterMap pair?

/-- The last value that entries give to a key. -/
def lastOf (key : String) (es : List (List Char × List Char)) : Option (List Char) :=
  ((es.filter (·.1 = key.toList)).getLast?).map (·.2)

@[simp] theorem lastOf_nil (key : String) : lastOf key [] = none := rfl

theorem lastOf_cons (key : String) (e : List Char × List Char) (es : List (List Char × List Char)) :
    lastOf key (e :: es) =
      (lastOf key es).or (if e.1 = key.toList then some e.2 else none) := by
  by_cases same : e.1 = key.toList
  · cases last : (es.filter (·.1 = key.toList)).getLast? <;>
      simp [lastOf, same, List.getLast?_cons, last]
  · simp [lastOf, same]

theorem lastOf_append (key : String) (a b : List (List Char × List Char)) :
    lastOf key (a ++ b) = (lastOf key b).or (lastOf key a) := by
  induction a with
  | nil => simp
  | cons e a ih => rw [List.cons_append, lastOf_cons, lastOf_cons, ih, Option.or_assoc]

theorem lastOf_eq_none {key : String} {es : List (List Char × List Char)}
    (h : ∀ e ∈ es, e.1 ≠ key.toList) : lastOf key es = none := by
  have none : es.filter (·.1 = key.toList) = [] := List.filter_eq_nil_iff.2 (by simpa using h)
  simp [lastOf, none]

/-! ## Looking a key up -/

/-- Taking out one key leaves the values of the others. -/
theorem lookup_filter_ne {k k' : List Char} (h : k' ≠ k) (members : List (List Char × List Char)) :
    (members.filter (·.1 ≠ k)).lookup k' = members.lookup k' := by
  induction members with
  | nil => rfl
  | cons m r ih =>
    obtain ⟨j, v⟩ := m
    by_cases same : j = k
    · subst same
      have other : (k' == j) = false := beq_eq_false_iff_ne.2 h
      simpa [List.lookup_cons, other] using ih
    · simp only [ne_eq, decide_not] at ih
      simp [List.lookup_cons, same, ih]

theorem get?_set (b : Block) (k v : List Char) (key : String) :
    (b.set k v).get? key = if k = key.toList then some v else b.get? key := by
  by_cases same : k = key.toList
  · simp [get?, set, same]
  · have other : (key.toList == k) = false := beq_eq_false_iff_ne.2 (Ne.symm same)
    simp only [get?, set, List.lookup_cons, other, if_neg same]
    exact lookup_filter_ne (Ne.symm same) b.members

theorem member?_blank {s : List Char} (h : s.all Text.isBlank = true) : member? s = none := by
  have nothing : s.dropWhile Text.isBlank = [] :=
    List.dropWhile_eq_nil_iff.2 (List.all_eq_true.1 h)
  simp [member?, nothing]

/-- A piece gives its key a value if it is well formed, and changes no value otherwise. -/
theorem get?_add (b : Block) (piece : List Char) (key : String) :
    (b.add piece).get? key = (lastOf key (pair? piece).toList).or (b.get? key) := by
  unfold add pair?
  split
  · rename_i blank
    simp [member?_blank blank]
  · split
    · rename_i k v member
      rw [get?_set, member]
      split <;> simp [lastOf_cons, *]
    · rename_i malformed
      simp [malformed, get?]

/-- Pieces added in turn: the last value for a key counts. -/
theorem get?_foldl_add (pieces : List (List Char)) (b : Block) (key : String) :
    (pieces.foldl add b).get? key = (lastOf key (pieces.filterMap pair?)).or (b.get? key) := by
  induction pieces generalizing b with
  | nil => rfl
  | cons piece r ih =>
    rw [List.foldl_cons, ih, get?_add, List.filterMap_cons, ← Option.or_assoc]
    cases pair? piece with
    | none => simp
    | some e => simp [lastOf_cons]

/-- **The last value for a key counts,** malformed members or not. -/
theorem get?_ofInner (inside : List Char) (key : String) :
    (ofInner inside).get? key = lastOf key (entries inside) := by
  rw [ofInner, get?_foldl_add, entries]
  exact Option.or_none

end Block

/-! ## Lines -/

/-- What stands between the braces of a line that is one block. -/
def blockOf? (line : List Char) : Option (List Char) :=
  match divide line with
  | (raw, []) => Block.inner? (Text.trim raw)
  | (_, _ :: _) => none

/-- The value that a line gives to a key: the last one, if the line is one block. -/
def given? (key : String) (line : List Char) : Option (List Char) :=
  (blockOf? line).bind fun inside => Block.lastOf key (Block.entries inside)

/-- A line that is one block sets what its members give. -/
theorem readLine_of_block {line inside : List Char} (h : blockOf? line = some inside) (s : State) :
    ∃ align, readLine line s =
      let b := Block.ofInner inside
      let t := s.apply b
      ([t.column align 0 (if b.isFaulty then .settings else b.payload t.codes)
        (toggle? s.isRuled t.isRuled)
        (if b.isFaulty then some (Text.trim (divide line).1) else none)], t) := by
  unfold blockOf? at h
  split at h
  · rename_i raw lined
    refine ⟨alignOf raw, ?_⟩
    have noText (t : State) (align : Nat) (toggle : Option Toggle) (fault : Option (List Char)) :
        (t.column align 0 (if (Block.ofInner inside).isFaulty then .settings
          else (Block.ofInner inside).payload t.codes) toggle fault).isText = false := by
      show Payload.isText _ = false
      split
      · rfl
      · exact payload_isText _ _
    rw [readLine_alone lined]
    simp only [readAlone, h, lined, State.complete, List.all_cons, noText, Bool.false_and,
      Bool.false_eq_true, if_false]
  · cases h

/-- Lines of two or more columns, and lines that are no block, change no settings. -/
theorem readLine_of_no_block {line : List Char} (h : blockOf? line = none) (s : State) :
    (readLine line s).2 = s := by
  rcases lined : divide line with ⟨raw, _ | ⟨next, more⟩⟩
  · have noBlock : Block.inner? (Text.trim raw) = none := by simpa [blockOf?, lined] using h
    rw [readLine_alone lined]
    simp only [readAlone, noBlock]
    split_ifs <;> rfl
  · rw [readLine_beside lined]

/-! ## Settings -/

/-- The settings after values have been given to keys. -/
def State.given (s : State) (value? : String → Option (List Char)) : State :=
  { s with
    wrap := ((value? "text").map Value.wrap).getD s.wrap
    border := ((value? "border").map Value.border).getD s.border
    widths := ((value? "width").map Value.widths).getD s.widths
    alignment := ((value? "align").map Value.alignment).getD s.alignment
    codes := ((value? "option").map (Value.codeStyle s.codes.quietZone)).getD s.codes }

@[simp] theorem given_none (s : State) : s.given (fun _ => none) = s := rfl

theorem given_quietZone (s : State) (value? : String → Option (List Char)) :
    (s.given value?).codes.quietZone = s.codes.quietZone := by
  unfold State.given
  cases value? "option" <;> rfl

/-- Values given later count. -/
theorem given_given (s : State) (f g : String → Option (List Char)) :
    (s.given f).given g = s.given fun key => (g key).or (f key) := by
  have latest {α : Type} (read : List Char → α) (key : String) (a : α) :
      ((g key).map read).getD (((f key).map read).getD a) =
        (((g key).or (f key)).map read).getD a := by
    cases g key <;> rfl
  have quiet := given_quietZone s f
  simp only [State.given] at quiet ⊢
  simp only [quiet, latest]

/-- **A line sets what it gives a value, and nothing else.** -/
theorem readLine_settings (line : List Char) (s : State) :
    (readLine line s).2 = s.given (given? · line) := by
  cases block : blockOf? line with
  | none =>
    rw [readLine_of_no_block block]
    simp [given?, block]
  | some inside =>
    obtain ⟨align, read⟩ := readLine_of_block block s
    rw [read]
    simp only [State.apply, State.given, Block.get?_ofInner, given?, block, Option.bind_some]

/-! ## The range of settings -/

/-- Settings that values can give. -/
structure State.InRange (s : State) : Prop where
  border : s.border = -1 ∨ s.border = 0 ∨ s.border = 1 ∨ s.border = 2
  widths : ∀ w ∈ s.widths, -1 ≤ w ∧ w ≤ 65535
  module : 2 ≤ s.codes.module ∧ s.codes.module ≤ 4
  height : 24 ≤ s.codes.height ∧ s.codes.height ≤ 240
  cell : 3 ≤ s.codes.cell ∧ s.codes.cell ≤ 8

theorem border_range (s : List Char) :
    Value.border s = -1 ∨ Value.border s = 0 ∨ Value.border s = 1 ∨ Value.border s = 2 := by
  simp only [Value.border]
  split_ifs
  · omega
  · omega
  · omega
  · split
    · split_ifs <;> omega
    · omega

theorem width_range (token : List Char) : -1 ≤ Value.width token ∧ Value.width token ≤ 65535 := by
  unfold Value.width
  split_ifs
  · omega
  · cases Value.number? token with
    | none => simp
    | some n =>
      simp only [Option.map_some, Option.getD_some, Value.widest]
      omega

theorem widths_range (s : List Char) : ∀ w ∈ Value.widths s, -1 ≤ w ∧ w ≤ 65535 := by
  intro w hw
  simp only [Value.widths] at hw
  split_ifs at hw
  · cases hw
  · obtain ⟨token, _, rfl⟩ := List.mem_map.1 hw
    exact width_range token

/-- A number between bounds is found between them, if the usual one is. -/
theorem firstWithin_range {least most default : Nat} (ts : List (List Char))
    (h : least ≤ default ∧ default ≤ most) :
    least ≤ Value.firstWithin least most default ts ∧
      Value.firstWithin least most default ts ≤ most := by
  unfold Value.firstWithin
  cases found : (ts.filterMap Value.number?).find? fun n => least ≤ n && n ≤ most with
  | none => exact h
  | some n => simpa using List.find?_some found

theorem inRange_initial (p : Printer) : (State.initial p).InRange where
  border := Or.inr (Or.inr (Or.inl rfl))
  widths := by simp [State.initial]
  module := by simp [State.initial]
  height := by simp [State.initial]
  cell := by simp [State.initial]

/-- **Whatever is given, settings stay in their range.** -/
theorem State.InRange.given {s : State} (h : s.InRange) (value? : String → Option (List Char)) :
    (s.given value?).InRange where
  border := by
    unfold State.given
    cases value? "border" with
    | none => exact h.border
    | some v => exact border_range v
  widths := by
    unfold State.given
    cases value? "width" with
    | none => exact h.widths
    | some v => exact widths_range v
  module := by
    unfold State.given
    cases value? "option" with
    | none => exact h.module
    | some v => exact firstWithin_range _ (by decide)
  height := by
    unfold State.given
    cases value? "option" with
    | none => exact h.height
    | some v => exact firstWithin_range _ (by decide)
  cell := by
    unfold State.given
    cases value? "option" with
    | none => exact h.cell
    | some v => exact firstWithin_range _ (by decide)

theorem State.InRange.readLine {s : State} (h : s.InRange) (line : List Char) :
    (Markup.readLine line s).2.InRange := by
  rw [readLine_settings]
  exact h.given _

/-- No column is wider than a width can be asked for, nor is what is no text. -/
theorem State.InRange.widthAt_le {s : State} (h : s.InRange) (index : Nat) (isText : Bool) :
    s.widthAt index isText ≤ 65535 := by
  simp only [State.widthAt]
  split_ifs
  · omega
  · rw [List.getD_eq_getElem?_getD]
    cases given : s.widths[index]? with
    | none => simp
    | some w => exact (h.widths w (List.mem_of_getElem? given)).2
  · omega
  · omega
  · exact Int.min_le_right _ _

end Receipt.Markup
