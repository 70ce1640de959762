import Mathlib.Data.List.Forall2
import Receipt.Proofs.Json.Tokens

/-!
# Both layouts denote the same value

A text denotes a value if it is cut into tokens that the reader takes for that value wherever one is
due. Texts that denote values denote an array or an object of them when they are put between
brackets, with any blanks in between. The compact and the indented layout are two choices of these
blanks, so what is read back of a value does not depend on the layout, only on what is read back of
the numerals in it (`Rereads`).
-/

namespace Receipt.Json

open Token (isWhite mark? word?)

/-! ## Steps of the reader -/

/-- Where a value is due: after a comma or a colon, or as the first item of an array. -/
def Place.IsDue (place : Place) : Prop := place = .value ∨ place = .firstItem

section
variable (stack : List Frame) (r : List Token)

/-- What a value starts with. -/
theorem readFrom_due {place : Place} (due : place.IsDue) {t : Token} : t ≠ .arrayClose →
    readFrom stack place (t :: r) =
      match t with
      | .text s => readFrom stack (.after (.text s)) r
      | .word v => readFrom stack (.after v) r
      | .arrayOpen => readFrom (.items [] :: stack) .firstItem r
      | .objectOpen => readFrom stack .firstMember r
      | _ => none := by
  intro goesOn
  obtain rfl | rfl := due
  · rcases stack with _ | ⟨⟨_ | _⟩ | _, _⟩ <;> rfl
  · rcases stack with _ | ⟨⟨_ | _⟩ | _, _⟩
    · rfl
    · cases t with
      | arrayClose => exact absurd rfl goesOn
      | _ => rfl
    · rfl
    · rfl

/-- What follows an item. -/
theorem readFrom_items (done : List Json) (v : Json) (t : Token) :
    readFrom (.items done :: stack) (.after v) (t :: r) =
      match t with
      | .comma => readFrom (.items (v :: done) :: stack) .value r
      | .arrayClose => readFrom stack (.after (.array (v :: done).reverse)) r
      | _ => none := by
  cases done <;> rfl

/-- What follows a member. -/
theorem readFrom_members (done : List (Option (List Char) × Json)) (name : Option (List Char))
    (v : Json) (t : Token) :
    readFrom (.members done name :: stack) (.after v) (t :: r) =
      match t with
      | .comma => readFrom stack (.member ((name, v) :: done)) r
      | .objectClose => readFrom stack (.after (.object ((name, v) :: done).reverse)) r
      | _ => none := rfl

/-- The name of the first member. -/
theorem readFrom_firstMember (name : Option (List Char)) :
    readFrom stack .firstMember (.text name :: .colon :: r) =
      readFrom (.members [] name :: stack) .value r := by
  rcases stack with _ | ⟨⟨_ | _⟩ | _, _⟩ <;> rfl

/-- The name of a further member. -/
theorem readFrom_member (done : List (Option (List Char) × Json)) (name : Option (List Char)) :
    readFrom stack (.member done) (.text name :: .colon :: r) =
      readFrom (.members done name :: stack) .value r := by
  rcases stack with _ | ⟨⟨_ | _⟩ | _, _⟩ <;> rfl

theorem readFrom_noMember :
    readFrom stack .firstMember (.objectClose :: r) = readFrom stack (.after (.object [])) r := by
  rcases stack with _ | ⟨⟨_ | _⟩ | _, _⟩ <;> rfl

end

/-! ## Values -/

/-- Tokens that are read as a value wherever one is due. -/
def Yields (ts : List Token) (v : Json) : Prop :=
  ∀ {place : Place}, place.IsDue → ∀ stack r,
    readFrom stack place (ts ++ r) = readFrom stack (.after v) r

/-- Text that is read as a value wherever one is due. -/
def Denotes (s : List Char) (v : Json) : Prop := ∃ ts, CutsInto s ts ∧ Yields ts v

/-- **Text that denotes a value is read as this value.** -/
theorem Denotes.read? {s : List Char} {v : Json} (h : Denotes s v) : read? s = some v := by
  obtain ⟨ts, cuts, yields⟩ := h
  have scanned := cuts [] .nil
  have between : Token.scan .between [] = some [] := rfl
  rw [List.append_nil, between, Option.map_some, List.append_nil] at scanned
  have taken := yields (.inl rfl) [] []
  rw [List.append_nil] at taken
  rw [Json.read?, scanned, Option.bind_some, taken]
  rfl

theorem Denotes.word {w : List Char} {v : Json} (some : w ≠ [])
    (h : ∀ c ∈ w, Token.isWord c = true) (word : word? w = .some (.word v)) : Denotes w v :=
  ⟨[.word v], .word some h word, fun due stack r => readFrom_due stack r due nofun⟩

theorem denotes_text (s : List Char) : Denotes (writeText s) (.text (some s)) :=
  ⟨[.text (some s)], by simpa using CutsInto.text (s := s) .nil,
    fun due stack r => readFrom_due stack r due nofun⟩

/-! ## Arrays -/

/-- The items of an array after the first, `gap` in front of each and `back` behind the last. -/
def itemsText (gap back : List Char) : List (List Char) → List Char
  | [] => back ++ [']']
  | s :: r => ',' :: gap ++ s ++ itemsText gap back r

section
variable {gap colon back : List Char}

theorem apart_blanks {c : Char} {t : Token} {s : List Char} (h : ∀ x ∈ gap, isWhite x = true)
    (closing : mark? c = some t) : Apart (gap ++ c :: s) := by
  cases gap with
  | nil => exact apart_mark closing s
  | cons x gap => exact apart_blank (h x List.mem_cons_self) _

theorem apart_itemsText (hb : ∀ c ∈ back, isWhite c = true) (ss : List (List Char)) :
    Apart (itemsText gap back ss) := by
  cases ss with
  | nil => exact apart_blanks hb rfl
  | cons s r => exact apart_mark (c := ',') rfl _

/-- After a first value, the items close the array that it began. -/
theorem items_denote (hg : ∀ c ∈ gap, isWhite c = true) (hb : ∀ c ∈ back, isWhite c = true)
    {ss : List (List Char)} {vs : List Json} (h : List.Forall₂ Denotes ss vs) :
    ∃ ts, CutsInto (itemsText gap back ss) ts ∧ ∀ done v stack r,
      readFrom (.items done :: stack) (.after v) (ts ++ r) =
        readFrom stack (.after (.array (done.reverse ++ v :: vs))) r := by
  induction h with
  | nil =>
    refine ⟨[.arrayClose], .blanks hb (.mark rfl .nil), fun done v stack r => ?_⟩
    rw [List.singleton_append, readFrom_items, List.reverse_cons]
  | @cons s v' ss vs first _ ih =>
    obtain ⟨ts, cuts, yields⟩ := first
    obtain ⟨more, cutsMore, closes⟩ := ih
    refine ⟨.comma :: (ts ++ more), ?_, fun done v stack r => ?_⟩
    · have item : CutsInto (gap ++ (s ++ itemsText gap back ss)) (ts ++ more) :=
        .blanks hg (cuts.append cutsMore (apart_itemsText hb ss))
      simpa [itemsText] using CutsInto.mark (c := ',') rfl item
    · have next := yields (.inl rfl) (.items (v :: done) :: stack) (more ++ r)
      rw [List.cons_append, List.append_assoc, readFrom_items, next, closes]
      simp

theorem denotes_array (hg : ∀ c ∈ gap, isWhite c = true) (hb : ∀ c ∈ back, isWhite c = true)
    {s : List Char} {v : Json} (first : Denotes s v) {ss : List (List Char)} {vs : List Json}
    (h : List.Forall₂ Denotes ss vs) :
    Denotes ('[' :: gap ++ s ++ itemsText gap back ss) (.array (v :: vs)) := by
  obtain ⟨ts, cuts, yields⟩ := first
  obtain ⟨more, cutsMore, closes⟩ := items_denote hg hb h
  refine ⟨.arrayOpen :: (ts ++ more), ?_, fun due stack r => ?_⟩
  · have items : CutsInto (gap ++ (s ++ itemsText gap back ss)) (ts ++ more) :=
      .blanks hg (cuts.append cutsMore (apart_itemsText hb ss))
    simpa using CutsInto.mark (c := '[') rfl items
  · have opened := yields (.inr rfl) (.items [] :: stack) (more ++ r)
    rw [List.cons_append, List.append_assoc, readFrom_due _ _ due (t := .arrayOpen) nofun, opened,
      closes]
    rfl

theorem denotes_nil : Denotes "[]".toList (.array []) := by
  refine ⟨[.arrayOpen, .arrayClose], .mark (c := '[') rfl (.mark (c := ']') rfl .nil), ?_⟩
  intro place due stack r
  exact readFrom_due stack (.arrayClose :: r) due (t := .arrayOpen) nofun

/-! ## Objects -/

/-- The members of an object after the first, with `gap` in front of each name, `colon` in front of
each value and `back` behind the last one. -/
def membersText (gap colon back : List Char) : List (List Char × List Char) → List Char
  | [] => back ++ ['}']
  | (name, s) :: r =>
    ',' :: gap ++ writeText name ++ ':' :: colon ++ s ++ membersText gap colon back r

/-- Members whose texts denote these values. -/
def DenoteMembers (texts : List (List Char × List Char))
    (members : List (Option (List Char) × Json)) : Prop :=
  List.Forall₂ (fun t m => m.1 = some t.1 ∧ Denotes t.2 m.2) texts members

theorem apart_membersText (hb : ∀ c ∈ back, isWhite c = true)
    (texts : List (List Char × List Char)) : Apart (membersText gap colon back texts) := by
  cases texts with
  | nil => exact apart_blanks hb rfl
  | cons t r => exact apart_mark (c := ',') rfl _

/-- A member: its name, a colon and its value. -/
theorem cutsInto_member (hg : ∀ c ∈ gap, isWhite c = true) (hc : ∀ c ∈ colon, isWhite c = true)
    {name s : List Char} {ts more : List Token} {rest : List Char} (cuts : CutsInto s ts)
    (cutsMore : CutsInto rest more) (apart : Apart rest) :
    CutsInto (gap ++ (writeText name ++ ':' :: (colon ++ (s ++ rest))))
      (.text (some name) :: .colon :: (ts ++ more)) :=
  .blanks hg (.text (.mark rfl (.blanks hc (cuts.append cutsMore apart))))

/-- After a first member, the others close the object that it began. -/
theorem members_denote (hg : ∀ c ∈ gap, isWhite c = true) (hc : ∀ c ∈ colon, isWhite c = true)
    (hb : ∀ c ∈ back, isWhite c = true) {texts : List (List Char × List Char)}
    {members : List (Option (List Char) × Json)} (h : DenoteMembers texts members) :
    ∃ ts, CutsInto (membersText gap colon back texts) ts ∧ ∀ done name v stack r,
      readFrom (.members done name :: stack) (.after v) (ts ++ r) =
        readFrom stack (.after (.object (done.reverse ++ (name, v) :: members))) r := by
  induction h with
  | nil =>
    refine ⟨[.objectClose], .blanks hb (.mark rfl .nil), fun done name v stack r => ?_⟩
    rw [List.singleton_append, readFrom_members, List.reverse_cons]
  | @cons t m texts members first _ ih =>
    obtain ⟨named, ts, cuts, yields⟩ := first
    obtain ⟨more, cutsMore, closes⟩ := ih
    obtain ⟨name', v'⟩ := m
    obtain rfl : name' = some t.1 := named
    refine ⟨.comma :: .text (some t.1) :: .colon :: (ts ++ more), ?_, fun done name v stack r => ?_⟩
    · have member := @cutsInto_member gap colon hg hc t.1 _ _ _ _ cuts cutsMore
        (apart_membersText hb texts)
      simpa [membersText] using CutsInto.mark (c := ',') rfl member
    · have next :=
        yields (.inl rfl) (.members ((name, v) :: done) (some t.1) :: stack) (more ++ r)
      simp only [List.cons_append, List.append_assoc]
      rw [readFrom_members]
      show readFrom stack (.member _) _ = _
      rw [readFrom_member, next, closes]
      simp

theorem denotes_object (hg : ∀ c ∈ gap, isWhite c = true) (hc : ∀ c ∈ colon, isWhite c = true)
    (hb : ∀ c ∈ back, isWhite c = true) (name : List Char) {s : List Char} {v : Json}
    (first : Denotes s v) {texts : List (List Char × List Char)}
    {members : List (Option (List Char) × Json)} (h : DenoteMembers texts members) :
    Denotes ('{' :: gap ++ writeText name ++ ':' :: colon ++ s ++ membersText gap colon back texts)
      (.object ((some name, v) :: members)) := by
  obtain ⟨ts, cuts, yields⟩ := first
  obtain ⟨more, cutsMore, closes⟩ := members_denote hg hc hb h
  refine ⟨.objectOpen :: .text (some name) :: .colon :: (ts ++ more), ?_, fun due stack r => ?_⟩
  · have member := @cutsInto_member gap colon hg hc name _ _ _ _ cuts cutsMore
      (apart_membersText hb texts)
    simpa using CutsInto.mark (c := '{') rfl member
  · have opened := yields (.inl rfl) (.members [] (some name) :: stack) (more ++ r)
    simp only [List.cons_append, List.append_assoc]
    rw [readFrom_due _ _ due (t := .objectOpen) nofun]
    show readFrom stack .firstMember _ = _
    rw [readFrom_firstMember, opened, closes]
    rfl

theorem denotes_empty : Denotes ['{', '}'] (.object []) := by
  refine ⟨[.objectOpen, .objectClose], .mark rfl (.mark rfl .nil), fun due stack r => ?_⟩
  have first := readFrom_due stack (.objectClose :: r) due (t := .objectOpen) nofun
  exact first.trans (readFrom_noMember stack r)

end

/-! ## The two layouts -/

theorem compactItems_eq (items : List Json) :
    compactItems items = itemsText [] [] (items.map compact) := by
  induction items with
  | nil => rfl
  | cons v r ih => simp [compactItems, itemsText, ih]

theorem prettyItems_eq (depth : Nat) (items : List Json) :
    prettyItems depth items =
      itemsText (lineBreak (depth + 1)) (lineBreak depth) (items.map (pretty (depth + 1))) := by
  induction items with
  | nil => rfl
  | cons v r ih => simp [prettyItems, itemsText, ih]

theorem compactMembers_eq (members : List (Option (List Char) × Json)) :
    compactMembers members =
      membersText [] [] [] (members.map fun m => (m.1.getD [], compact m.2)) := by
  induction members with
  | nil => rfl
  | cons m r ih =>
    obtain ⟨name, v⟩ := m
    simp [compactMembers, membersText, ih]

theorem prettyMembers_eq (depth : Nat) (members : List (Option (List Char) × Json)) :
    prettyMembers depth members =
      membersText (lineBreak (depth + 1)) [' '] (lineBreak depth)
        (members.map fun m => (m.1.getD [], pretty (depth + 1) m.2)) := by
  induction members with
  | nil => rfl
  | cons m r ih =>
    obtain ⟨name, v⟩ := m
    simp [prettyMembers, membersText, ih]

theorem isWhite_lineBreak (depth : Nat) : ∀ c ∈ lineBreak depth, isWhite c = true := by
  intro c hc
  rcases List.mem_cons.1 hc with rfl | hc
  · rfl
  · rw [List.eq_of_mem_replicate hc]
    rfl

/-- What is read back of a value, in either layout and at any depth. -/
structure Rereads (j v : Json) : Prop where
  compact : Denotes (compact j) v
  pretty : ∀ depth, Denotes (pretty depth j) v

/-- A value that is written in the same way in both layouts. -/
theorem Rereads.of_same {j v : Json} (h : Denotes (Json.compact j) v)
    (same : ∀ depth, Json.pretty depth j = Json.compact j) : Rereads j v :=
  ⟨h, fun depth => same depth ▸ h⟩

theorem rereads_null : Rereads .null .null :=
  .of_same (.word (by decide) (List.all_eq_true.1 rfl) rfl) fun _ => rfl

theorem rereads_bool (b : Bool) : Rereads (.bool b) (.bool b) := by
  cases b
  · exact .of_same (.word (by decide) (List.all_eq_true.1 rfl) rfl) fun _ => rfl
  · exact .of_same (.word (by decide) (List.all_eq_true.1 rfl) rfl) fun _ => rfl

theorem rereads_string (s : List Char) : Rereads (.string s) (.string s) :=
  .of_same (denotes_text s) fun _ => rfl

/-- The names of the language are no numerals. -/
theorem word?_of_read {w : List Char} {n : Numeral} (h : Numeral.read? w = some n) :
    word? w = some (.word (.numeral n)) := by
  have other {name : List Char} (none : Numeral.read? name = Option.none) : w ≠ name := by
    rintro rfl
    rw [none] at h
    cases h
  have null : w ≠ "null".toList := other (by decide)
  have yes : w ≠ "true".toList := other (by decide)
  have no : w ≠ "false".toList := other (by decide)
  rw [word?, if_neg null, if_neg yes, if_neg no, h]
  rfl

/-- A numeral is read back as what its text says. -/
theorem rereads_numeral {n m : Numeral} (some : n.write ≠ [])
    (h : ∀ c ∈ n.write, Token.isWord c = true) (read : Numeral.read? n.write = .some m) :
    Rereads (.numeral n) (.numeral m) :=
  .of_same (.word some h (word?_of_read read)) fun _ => rfl

/-- **Items are read back one by one.** -/
theorem rereads_array {items vs : List Json} (h : List.Forall₂ Rereads items vs) :
    Rereads (.array items) (.array vs) := by
  cases h with
  | nil => exact .of_same denotes_nil fun _ => rfl
  | @cons j v items vs first rest =>
    constructor
    · show Denotes ('[' :: compact j ++ compactItems items) _
      rw [compactItems_eq]
      refine denotes_array (List.forall_mem_nil _) (List.forall_mem_nil _) first.compact ?_
      exact List.forall₂_map_left_iff.2 (rest.imp fun _ _ h => h.compact)
    · intro depth
      show Denotes ('[' :: lineBreak (depth + 1) ++ pretty (depth + 1) j ++ prettyItems depth items) _
      rw [prettyItems_eq]
      refine denotes_array (isWhite_lineBreak _) (isWhite_lineBreak _) (first.pretty _) ?_
      exact List.forall₂_map_left_iff.2 (rest.imp fun _ _ h => h.pretty _)

/-- **Members are read back one by one,** under their names. -/
theorem rereads_object {members vs : List (Option (List Char) × Json)}
    (h : List.Forall₂ (fun m v => m.1.isSome = true ∧ v.1 = m.1 ∧ Rereads m.2 v.2) members vs) :
    Rereads (.object members) (.object vs) := by
  have named {m v : Option (List Char) × Json} (some : m.1.isSome = true) (same : v.1 = m.1) :
      v.1 = .some (m.1.getD []) := by
    obtain ⟨name, eq⟩ := Option.isSome_iff_exists.1 some
    rw [same, eq, Option.getD_some]
  cases h with
  | nil => exact .of_same denotes_empty fun _ => rfl
  | @cons m v members vs first rest =>
    obtain ⟨name, j⟩ := m
    obtain ⟨name', v⟩ := v
    obtain ⟨some, same, first⟩ := first
    obtain rfl : name' = .some (name.getD []) := named some same
    have none : ∀ c ∈ ([] : List Char), isWhite c = true := List.forall_mem_nil _
    have space : ∀ c ∈ [' '], isWhite c = true := List.forall_mem_singleton.2 rfl
    constructor
    · have others : DenoteMembers (members.map fun m => (m.1.getD [], compact m.2)) vs :=
        List.forall₂_map_left_iff.2 (rest.imp fun _ _ h => ⟨named h.1 h.2.1, h.2.2.compact⟩)
      have whole := denotes_object none none none (name.getD []) first.compact others
      rw [← compactMembers_eq] at whole
      simpa [compact] using whole
    · intro depth
      have others :
          DenoteMembers (members.map fun m => (m.1.getD [], pretty (depth + 1) m.2)) vs :=
        List.forall₂_map_left_iff.2 (rest.imp fun _ _ h => ⟨named h.1 h.2.1, h.2.2.pretty _⟩)
      have whole := denotes_object (isWhite_lineBreak (depth + 1)) space (isWhite_lineBreak depth)
        (name.getD []) (first.pretty (depth + 1)) others
      rw [← prettyMembers_eq] at whole
      simpa [pretty] using whole

/-! ## Parts of values -/

theorem rereads_record {members vs : List (String × Json)}
    (h : List.Forall₂ (fun m v => v.1 = m.1 ∧ Rereads m.2 v.2) members vs) :
    Rereads (.record members) (.record vs) := by
  refine rereads_object (List.forall₂_map_left_iff.2 (List.forall₂_map_right_iff.2 ?_))
  exact h.imp fun m v ⟨same, rereads⟩ => ⟨rfl, congrArg (some ·.toList) same, rereads⟩

/-- A record whose values are read back as they were. -/
theorem rereads_members {members : List (String × Json)} (h : ∀ m ∈ members, Rereads m.2 m.2) :
    Rereads (.record members) (.record members) :=
  rereads_record (List.forall₂_same.2 fun m hm => ⟨rfl, h m hm⟩)

theorem rereads_list {α : Type} {f : α → Json} {xs ys : List α}
    (h : List.Forall₂ (fun x y => Rereads (f x) (f y)) xs ys) :
    Rereads (.list f xs) (.list f ys) :=
  rereads_array (List.forall₂_map_left_iff.2 (List.forall₂_map_right_iff.2 h))

theorem rereads_maybe {α : Type} {f : α → Json} {a : Option α}
    (h : ∀ x ∈ a, Rereads (f x) (f x)) : Rereads (.maybe f a) (.maybe f a) := by
  cases a with
  | none => exact rereads_null
  | some x => exact h x rfl

end Receipt.Json
