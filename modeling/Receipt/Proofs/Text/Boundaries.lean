import Mathlib.Tactic.SplitIfs
import Receipt.Proofs.Text.Units

/-!
# Where clusters end

The rules for clusters speak of all the text before a boundary: flags are counted from the first of
their row, and a pictograph or a consonant may be any number of marks away. `joins` states them so,
by looking back from the boundary. A cut remembers no more than a `Context` of the cluster in
progress and forgets it at every boundary, and that is enough: the context is at all times what
looking back finds (`next_lookBack`, `first_eq_lookBack`), because no mark and no linker is cut off
from what it belongs to. So clusters end exactly where the rules let them (`clusters_end_iff`).
-/

namespace Receipt.Text

namespace Cluster

/-! ## The rules -/

/-- Marks that keep a conjunct open, linkers among them. -/
def isBinding (c : Char) : Bool :=
  isLinker c || (c ≠ '\u200c' && (Class.of c = .extending || Class.of c = .joiner))

section
variable (back : List Char)

/-! The text before a boundary is given with the nearest character first. -/

/-- The text ends in an odd number of regional indicators. -/
def unpaired : Bool := (back.takeWhile (Class.of · = .regional)).length % 2 = 1

/-- The text ends in a pictograph, with marks or without. -/
def pictured : Bool :=
  (back.dropWhile (Class.of · = .extending)).head?.any (Class.of · = .pictograph)

/-- The text ends in a pictograph, with marks or without, and a joiner. -/
def joined : Bool := back.head?.any (Class.of · = .joiner) && pictured back.tail

/-- The text ends in a consonant, with binding marks or without. -/
def voiced : Bool :=
  back.any isConsonant && (back.takeWhile (!isConsonant ·)).all isBinding

/-- The text ends in a consonant and binding marks with a linker among them. -/
def linked : Bool := voiced back && (back.takeWhile (!isConsonant ·)).any isLinker

/-- Whether the text before a boundary keeps `c` in its last cluster. -/
def joins (c : Char) : Bool :=
  back.head?.any (fun d => Context.holds (.of d) (.of c))
    || (linked back && isConsonant c)
    || (joined back && Class.of c = .pictograph)
    || (unpaired back && Class.of c = .regional)

/-- The context that looking back finds. Nothing goes on from in front of the text. -/
def lookBack : Context where
  last := back.head?.elim .control .of
  unpaired := unpaired back
  joining := if joined back then .joined else if pictured back then .open else .none
  conjunct := if linked back then .linked else if voiced back then .open else .none

end

/-! ## Marks and controls -/

/-- A table of ranges does not meet another one. -/
def Apart (t u : Ranges) : Prop := ∀ r ∈ t, ∀ q ∈ u, r.2 < q.1 ∨ q.2 < r.1

instance (t u : Ranges) : Decidable (Apart t u) :=
  inferInstanceAs (Decidable (∀ r ∈ t, ∀ q ∈ u, r.2 < q.1 ∨ q.2 < r.1))

theorem Apart.has_eq_false {t u : Ranges} (h : Apart t u) {c : Char} (hc : t.has c = true) :
    u.has c = false := by
  simp only [Ranges.has, List.any_eq_true, List.any_eq_false, Bool.and_eq_true, decide_eq_true_eq]
    at hc ⊢
  obtain ⟨r, hr, first, last⟩ := hc
  rintro q hq ⟨first', last'⟩
  rcases h r hr q hq with before | behind <;> omega

/-- What a control is, and the two characters of a line end: nothing goes on from them. -/
def isControl : Class → Bool
  | .carriageReturn | .lineFeed | .control => true
  | _ => false

theorem isControl_hangul {n : Nat} {k : Class} (h : hangul? n = some k) : isControl k = false := by
  have no : ∀ k ∈ hangul? n, isControl k = false := by
    unfold hangul?
    split_ifs <;> simp [isControl]
  exact no k h

/-- No consonant is a control. -/
theorem isControl_consonant {c : Char} (h : isConsonant c = true) : isControl (.of c) = false := by
  have apart : Apart consonants controls := by decide +kernel
  have branch {p : Prop} [Decidable p] {a b : Class} (ha : isControl a = false)
      (hb : isControl b = false) : isControl (if p then a else b) = false := by
    split <;> assumption
  have cr : c ≠ '\r' := by
    rintro rfl
    cases h
  have lf : c ≠ '\n' := by
    rintro rfl
    cases h
  have noControl : controls.has c = false := apart.has_eq_false h
  rw [Class.of, if_neg cr, if_neg lf]
  refine branch rfl (branch rfl ?_)
  split
  · exact isControl_hangul ‹_›
  · rw [noControl, if_neg Bool.false_ne_true]
    exact branch rfl (branch rfl (branch rfl (branch rfl (branch rfl rfl))))

/-- Every linker is a mark. -/
theorem class_of_linker {c : Char} (h : isLinker c = true) : Class.of c = .extending := by
  have table : ∀ n ∈ linkers, 126 < n ∧ n ≠ 0x200d ∧ hangul? n = none ∧ n < 0x1f1e6 ∧
      (controls.any fun r => r.1 ≤ n && n ≤ r.2) = false ∧
      (extendingMarks.any fun r => r.1 ≤ n && n ≤ r.2) = true := by
    decide +kernel
  obtain ⟨high, joiner, hangul, flag, control, mark⟩ :=
    table c.toNat (List.contains_iff_mem.1 h)
  have ne (d : Char) (hd : d.toNat ≠ c.toNat) : c ≠ d := fun e => hd (e ▸ rfl)
  have visible : ¬c ≤ '~' := fun le => by
    have : c.toNat ≤ 126 := UInt32.le_iff_toNat_le.1 (Char.le_def.1 le)
    omega
  have cr : c ≠ '\r' := ne '\r' (show 13 ≠ c.toNat by omega)
  have lf : c ≠ '\n' := ne '\n' (show 10 ≠ c.toNat by omega)
  have zwj : c ≠ '\u200d' := ne '\u200d' joiner.symm
  have noFlag : ¬0x1f1e6 ≤ c.toNat := by omega
  have noControl : controls.has c = false := control
  have isMark : extendingMarks.has c = true := mark
  rw [Class.of, if_neg cr, if_neg lf, if_neg (by simp [visible]), if_neg zwj, hangul]
  dsimp only
  rw [if_neg (by simp [noFlag]), noControl, isMark, if_neg Bool.false_ne_true, if_pos rfl]

/-! ## One character further -/

section
variable (c : Char) (back : List Char)

theorem unpaired_cons :
    unpaired (c :: back) = (decide (Class.of c = .regional) && !unpaired back) := by
  by_cases h : Class.of c = .regional
  · simp only [unpaired, List.takeWhile_cons, h, decide_true, if_true, List.length_cons,
      Bool.true_and, ← decide_not, decide_eq_decide]
    omega
  · simp [unpaired, h]

theorem pictured_cons :
    pictured (c :: back) =
      if Class.of c = .extending then pictured back else decide (Class.of c = .pictograph) := by
  by_cases h : Class.of c = .extending <;> simp [pictured, h]

theorem joined_cons : joined (c :: back) = (decide (Class.of c = .joiner) && pictured back) := rfl

theorem voiced_cons : voiced (c :: back) = (isConsonant c || isBinding c && voiced back) := by
  by_cases h : isConsonant c <;> simp [voiced, h, Bool.and_left_comm]

theorem linked_cons :
    linked (c :: back) =
      (!isConsonant c && isBinding c && if isLinker c then voiced back else linked back) := by
  cases h : isConsonant c with
  | true => simp [linked, h]
  | false =>
    cases hl : isLinker c <;> simp [linked, voiced_cons, h, hl, Bool.and_assoc]

end

/-- A joiner is no mark, so what it joins is not open. -/
theorem joined_of_pictured {back : List Char} (h : pictured back = true) : joined back = false := by
  cases back with
  | nil => rfl
  | cons d r =>
    rw [pictured_cons] at h
    rw [joined_cons]
    by_cases joiner : Class.of d = .joiner
    · simp [joiner] at h
    · simp [joiner]

theorem joining_next (back : List Char) (c : Char) :
    ((lookBack back).next c).joining = (lookBack (c :: back)).joining := by
  have apart := @joined_of_pictured back
  simp only [Context.next, lookBack, joined_cons, pictured_cons]
  generalize Class.of c = k, pictured back = p, joined back = j at apart ⊢
  -- for a class, what is known of the text before is no more than two truth values
  cases k <;> revert p j <;> decide

theorem conjunct_next (back : List Char) (c : Char) :
    ((lookBack back).next c).conjunct = (lookBack (c :: back)).conjunct := by
  have held : linked back = true → voiced back = true := fun h => (Bool.and_eq_true _ _ ▸ h).1
  have conjunct : (lookBack back).conjunct =
      if linked back then .linked else if voiced back then .open else .none := rfl
  simp only [Context.next, conjunct]
  simp only [lookBack, linked_cons, voiced_cons, isBinding]
  generalize isConsonant c = k, isLinker c = l, voiced back = v, linked back = n,
    (decide (c ≠ '\u200c') && (decide (Class.of c = .extending) || decide (Class.of c = .joiner))) = m
    at held ⊢
  revert k l v n m
  decide

/-- Within a cluster the context goes on to be what looking back finds. -/
theorem next_lookBack (back : List Char) (c : Char) :
    (lookBack back).next c = lookBack (c :: back) := by
  have unpaired : ((lookBack back).next c).unpaired = (lookBack (c :: back)).unpaired :=
    (unpaired_cons c back).symm
  have joining := joining_next back c
  have conjunct := conjunct_next back c
  simp only [lookBack, Context.next, Context.mk.injEq] at *
  exact ⟨rfl, unpaired, joining, conjunct⟩

/-! ## At a boundary -/

/-- Marks are cut off from nothing but a control. -/
theorem isControl_of_not_holds {k : Class} (h : Context.holds k .extending = false ∨
    Context.holds k .joiner = false) : isControl k = true := by
  revert h
  cases k <;> decide

theorem ne_of_isControl {k : Class} (h : isControl k = true) :
    k ≠ .extending ∧ k ≠ .joiner ∧ k ≠ .pictograph := by
  refine ⟨?_, ?_, ?_⟩ <;> rintro rfl <;> cases h

theorem class_of_binding {c : Char} (h : isBinding c = true) :
    Class.of c = .extending ∨ Class.of c = .joiner := by
  simp only [isBinding, Bool.or_eq_true, Bool.and_eq_true, decide_eq_true_eq] at h
  rcases h with linker | ⟨-, mark⟩
  · exact .inl (class_of_linker linker)
  · exact mark

/-- Where a cluster begins with a mark there is nothing that the mark could belong to. -/
theorem severed {back : List Char} {c : Char} (h : joins back c = false)
    (mark : Class.of c = .extending ∨ Class.of c = .joiner) :
    pictured back = false ∧ voiced back = false := by
  cases back with
  | nil => exact ⟨rfl, rfl⟩
  | cons d r =>
    have apart : Context.holds (.of d) (.of c) = false := by
      simp only [joins, Bool.or_eq_false_iff] at h
      exact h.1.1.1
    have control : isControl (.of d) = true := isControl_of_not_holds (by
      rcases mark with mark | mark
      · exact .inl (mark ▸ apart)
      · exact .inr (mark ▸ apart))
    obtain ⟨noMark, noJoiner, noPictograph⟩ := ne_of_isControl control
    have noConsonant : isConsonant d = false := by
      rw [← Bool.not_eq_true]
      intro consonant
      rw [isControl_consonant consonant] at control
      cases control
    have noBinding : isBinding d = false := by
      rw [← Bool.not_eq_true]
      exact fun binding => (class_of_binding binding).elim noMark noJoiner
    rw [pictured_cons, voiced_cons, if_neg noMark, noConsonant, noBinding]
    exact ⟨decide_eq_false noPictograph, rfl⟩

/-- The context that a cluster begins with forgets nothing that looking back would find. -/
theorem first_eq_lookBack {back : List Char} {c : Char} (h : joins back c = false) :
    Context.first c = lookBack (c :: back) := by
  have severed := severed h
  have paired : Class.of c = .regional → unpaired back = false := by
    intro flag
    simp only [joins, Bool.or_eq_false_iff, flag, decide_true, Bool.and_true] at h
    exact h.2
  simp only [Context.first, lookBack, Context.mk.injEq, unpaired_cons, joined_cons, pictured_cons,
    linked_cons, voiced_cons]
  refine ⟨rfl, ?flags, ?pictures, ?conjuncts⟩
  case flags =>
    by_cases flag : Class.of c = .regional
    · simp [flag, paired flag]
    · simp [flag]
  case pictures =>
    by_cases mark : Class.of c = .extending ∨ Class.of c = .joiner
    · rw [(severed mark).1]
      rcases mark with mark | mark <;> simp [mark]
    · rw [not_or] at mark
      simp [mark.1, mark.2]
  case conjuncts =>
    cases consonant : isConsonant c with
    | true => simp
    | false =>
      cases binding : isBinding c with
      | false => simp
      | true =>
        have none := (severed (class_of_binding binding)).2
        have unlinked : linked back = false := by simp [linked, none]
        simp [none, unlinked]

theorem holds_control (k : Class) : Context.holds .control k = false := by cases k <;> rfl

/-- The context decides as the rules do. -/
theorem continues_lookBack (back : List Char) (c : Char) :
    (lookBack back).continues c = joins back c := by
  have held : Context.holds (lookBack back).last (.of c) =
      back.head?.any fun d => Context.holds (.of d) (.of c) := by
    cases back with
    | nil => exact holds_control (.of c)
    | cons d r => rfl
  have isLinked : decide ((lookBack back).conjunct = .linked) = linked back := by
    cases h : linked back <;> cases hv : voiced back <;> simp [lookBack, h, hv]
  have isJoined : decide ((lookBack back).joining = .joined) = joined back := by
    cases h : joined back <;> cases hp : pictured back <;> simp [lookBack, h, hp]
  rw [Context.continues, joins, held, isLinked, isJoined]
  rfl

/-- The cluster in progress and some of those after it reach to a boundary just if the rules let
them end there. -/
theorem cut_ends_iff (back before after : List Char) (c : Char) :
    (∃ k, (cut (lookBack back) (before ++ c :: after)).1 ++
        ((cut (lookBack back) (before ++ c :: after)).2.take k).flatten = before) ↔
      joins (before.reverse ++ back) c = false := by
  -- along the text up to the boundary, with all that has been read behind it
  induction before generalizing back with
  | nil =>
    rw [List.nil_append, List.reverse_nil, List.nil_append, ← continues_lookBack]
    cases h : (lookBack back).continues c with
    | true => simp [cut_continues h]
    | false =>
      rw [cut_ends h]
      exact ⟨fun _ => rfl, fun _ => ⟨0, rfl⟩⟩
  | cons d before ih =>
    have onward := ih (d :: back)
    rw [List.reverse_cons, List.append_assoc, List.singleton_append, ← onward, List.cons_append]
    cases h : (lookBack back).continues d with
    | true =>
      rw [cut_continues h, next_lookBack]
      simp only [List.cons_append, List.cons.injEq, true_and]
    | false =>
      rw [cut_ends h, first_eq_lookBack (continues_lookBack back d ▸ h)]
      constructor
      · rintro ⟨k, reaches⟩
        cases k with
        | zero => cases reaches
        | succ k => exact ⟨k, (List.cons.inj reaches).2⟩
      · rintro ⟨k, reaches⟩
        exact ⟨k + 1, congrArg (d :: ·) reaches⟩

/-- Text begins with a cluster. -/
theorem cut_lookBack_nil (s : List Char) : cut (lookBack []) s = ([], clusters s) := by
  cases s with
  | nil => rfl
  | cons c r =>
    have starts : (lookBack []).continues c = false := by
      rw [continues_lookBack]
      rfl
    rw [cut_ends starts]
    rfl

end Cluster

/-- **Clusters end where the rules let them**, by all the text that comes before. -/
theorem clusters_end_iff (before after : List Char) (c : Char) :
    (∃ k, ((clusters (before ++ c :: after)).take k).flatten = before) ↔
      Cluster.joins before.reverse c = false := by
  have ends := Cluster.cut_ends_iff [] before after c
  rw [List.append_nil] at ends
  rw [← ends, Cluster.cut_lookBack_nil]
  rfl

end Receipt.Text
