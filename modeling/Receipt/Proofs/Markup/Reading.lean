import Mathlib.Tactic.SplitIfs
import Receipt.Markup.Line

/-!
# What reading a line keeps

A line has at least one column. Reading changes settings only through a block that stands alone,
never the table in progress; the first column tells of a change of the border, and every column
carries the settings in force after the line.
-/

namespace Receipt.Markup

/-! ## One column -/

/-- What holds of every column of a line that leaves the settings `s` behind. -/
structure Column.Follows (c : Column) (s : State) : Prop where
  border : c.border = s.border
  wrap : c.wrap = s.wrap
  align : c.align ≤ 2
  text : c.isText = true → ∃ element, c.payload = .text (segments element)

theorem alignOf_le (raw : List Char) : alignOf raw ≤ 2 := by
  unfold alignOf
  split <;> split <;> omega

theorem column_follows (s : State) (raw : List Char) (index : Nat) {payload : Payload}
    (toggle : Option Toggle) (fault : Option (List Char))
    (text : payload.isText = true → ∃ element, payload = .text (segments element)) :
    (s.column (alignOf raw) index payload toggle fault).Follows s where
  border := rfl
  wrap := rfl
  align := alignOf_le raw
  text := text

@[simp] theorem column_toggle (s : State) (align index : Nat) (payload : Payload)
    (toggle : Option Toggle) (fault : Option (List Char)) :
    (s.column align index payload toggle fault).toggle = toggle := rfl

@[simp] theorem apply_ruling (s : State) (b : Block) : (s.apply b).ruling = s.ruling := rfl

@[simp] theorem toggle?_self (b : Bool) : toggle? b b = none := by
  cases b <;> rfl

/-- What a block prints is no text. -/
theorem payload_isText (b : Block) (codes : CodeStyle) : (b.payload codes).isText = false := by
  unfold Block.payload CodeStyle.payload
  split
  · rfl
  · split_ifs <;> rfl
  · rfl
  · rfl
  · rfl

theorem readAlone_follows (raw : List Char) (s : State) :
    (readAlone raw s).1.Follows (readAlone raw s).2 := by
  simp only [readAlone]
  split
  · refine column_follows _ raw 0 _ _ fun h => ?_
    split at h
    · cases h
    · rw [payload_isText] at h
      cases h
  · split_ifs
    · exact column_follows s raw 0 _ _ fun _ => ⟨[], rfl⟩
    · exact column_follows s raw 0 _ _ fun h => Bool.noConfusion h
    · exact column_follows s raw 0 _ _ fun h => Bool.noConfusion h
    · exact column_follows s raw 0 _ _ fun _ => ⟨_, rfl⟩

theorem readBeside_follows (s : State) (index : Nat) (raw : List Char) :
    (readBeside s index raw).Follows s := by
  simp only [readBeside]
  split
  · exact column_follows s raw index _ _ fun h => Bool.noConfusion h
  · split_ifs
    · exact column_follows s raw index _ _ fun _ => ⟨[], rfl⟩
    · exact column_follows s raw index _ _ fun _ => ⟨_, rfl⟩

/-- The column of a line that has no other tells of a change of the border. -/
theorem readAlone_toggle (raw : List Char) (s : State) :
    (readAlone raw s).1.toggle = toggle? s.isRuled (readAlone raw s).2.isRuled := by
  simp only [readAlone]
  split
  · rfl
  · split_ifs <;> simp

theorem readBeside_toggle (s : State) (index : Nat) (raw : List Char) :
    (readBeside s index raw).toggle = none := by
  simp only [readBeside]
  split
  · rfl
  · split_ifs <;> simp

theorem readAlone_ruling (raw : List Char) (s : State) :
    (readAlone raw s).2.ruling = s.ruling := by
  simp only [readAlone]
  split
  · rfl
  · split_ifs <;> rfl

/-- Text changes no settings. -/
theorem readAlone_text {raw : List Char} {s : State} (h : (readAlone raw s).1.isText = true) :
    (readAlone raw s).2 = s := by
  simp only [readAlone] at h ⊢
  split at h
  · simp only [Column.isText, State.column] at h
    split at h
    · cases h
    · rw [payload_isText] at h
      cases h
  · split_ifs <;> rfl

theorem neg_one_le_border (s : List Char) : -1 ≤ Value.border s := by
  simp only [Value.border]
  split_ifs
  · omega
  · omega
  · omega
  · split
    · split_ifs <;> omega
    · omega

theorem readAlone_border {raw : List Char} {s : State} (h : -1 ≤ s.border) :
    -1 ≤ (readAlone raw s).2.border := by
  simp only [readAlone]
  split
  · rename_i inside _
    show -1 ≤ (((Block.ofInner inside).get? "border").map Value.border).getD s.border
    cases (Block.ofInner inside).get? "border" with
    | none => exact h
    | some value => exact neg_one_le_border value
  · split_ifs <;> exact h

/-! ## The whole line -/

theorem padding_follows {s : State} {count : Nat} {c : Column} (h : c ∈ s.padding count) :
    c.Follows s := by
  obtain ⟨width, _, rfl⟩ := List.mem_map.1 h
  exact ⟨rfl, rfl, Nat.le_refl 2, fun _ => ⟨[], rfl⟩⟩

theorem mem_complete {s : State} {columns : List Column} {c : Column} (h : c ∈ s.complete columns) :
    c ∈ columns ∨ c ∈ s.padding columns.length := by
  unfold State.complete at h
  split at h
  · exact List.mem_append.1 h
  · exact Or.inl h

theorem complete_cons (s : State) (first : Column) (more : List Column) :
    ∃ r, s.complete (first :: more) = first :: r := by
  unfold State.complete
  split
  · exact ⟨_, rfl⟩
  · exact ⟨_, rfl⟩

theorem readLine_alone {line raw : List Char} (h : divide line = (raw, [])) (s : State) :
    readLine line s =
      ((readAlone raw s).2.complete [(readAlone raw s).1], (readAlone raw s).2) := by
  simp only [readLine, h]

theorem readLine_beside {line raw next : List Char} {more : List (List Char)}
    (h : divide line = (raw, next :: more)) (s : State) :
    readLine line s = (s.complete ((raw :: next :: more).mapIdx (readBeside s)), s) := by
  simp only [readLine, h]

/-- Reading a line leaves the table in progress as it is. -/
theorem readLine_ruling (line : List Char) (s : State) : (readLine line s).2.ruling = s.ruling := by
  rcases h : divide line with ⟨raw, _ | ⟨next, more⟩⟩
  · rw [readLine_alone h]
    exact readAlone_ruling raw s
  · rw [readLine_beside h]

/-- A line has a first column, which tells of a change of the border. -/
theorem readLine_first (line : List Char) (s : State) :
    ∃ first more, (readLine line s).1 = first :: more ∧
      first.toggle = toggle? s.isRuled (readLine line s).2.isRuled := by
  rcases h : divide line with ⟨raw, _ | ⟨next, more⟩⟩
  · rw [readLine_alone h]
    obtain ⟨r, hr⟩ := complete_cons (readAlone raw s).2 (readAlone raw s).1 []
    exact ⟨_, r, hr, readAlone_toggle raw s⟩
  · rw [readLine_beside h, List.mapIdx_cons]
    obtain ⟨r, hr⟩ := complete_cons s (readBeside s 0 raw)
      ((next :: more).mapIdx fun i => readBeside s (i + 1))
    exact ⟨_, r, hr, by rw [readBeside_toggle, toggle?_self]⟩

/-- **Every column of a line follows the settings after it.** -/
theorem readLine_follows (line : List Char) (s : State) :
    ∀ c ∈ (readLine line s).1, c.Follows (readLine line s).2 := by
  rcases h : divide line with ⟨raw, _ | ⟨next, more⟩⟩
  · rw [readLine_alone h]
    intro c hc
    rcases mem_complete hc with hc | hc
    · rw [List.mem_singleton.1 hc]
      exact readAlone_follows raw s
    · exact padding_follows hc
  · rw [readLine_beside h]
    intro c hc
    rcases mem_complete hc with hc | hc
    · obtain ⟨i, hi, rfl⟩ := List.mem_mapIdx.1 hc
      exact readBeside_follows s i _
    · exact padding_follows hc

/-- A line of text changes no settings. -/
theorem readLine_text {line : List Char} {s : State}
    (h : (readLine line s).1.all Column.isText = true) : (readLine line s).2 = s := by
  rcases hl : divide line with ⟨raw, _ | ⟨next, more⟩⟩
  · rw [readLine_alone hl] at h ⊢
    obtain ⟨r, hr⟩ := complete_cons (readAlone raw s).2 (readAlone raw s).1 []
    rw [hr, List.all_cons, Bool.and_eq_true] at h
    exact readAlone_text h.1
  · rw [readLine_beside hl]

theorem neg_one_le_readLine_border (line : List Char) {s : State} (h : -1 ≤ s.border) :
    -1 ≤ (readLine line s).2.border := by
  rcases hl : divide line with ⟨raw, _ | ⟨next, more⟩⟩
  · rw [readLine_alone hl]
    exact readAlone_border h
  · rw [readLine_beside hl]
    exact h

end Receipt.Markup
