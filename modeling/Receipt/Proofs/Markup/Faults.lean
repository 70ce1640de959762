import Receipt.Proofs.Markup.Reading

/-!
# Columns at fault

A column of a line can be at fault in two ways. A brace in its text leaves it with no text; a block
that cannot be read leaves it as a column that is not text at all, like any block among columns. So
it is the blocks of a line, not its faults, that decide whether it is a line of text
(`readLine_cases`).
-/

namespace Receipt.Markup

/-- A column with empty text in place of what is at fault. -/
def Column.emptied (c : Column) : Column :=
  if c.fault.isSome then { c with payload := .text [] } else c

/-- Whether one of the columns of a line, as written, is a block. -/
def HasBlock (line : List Char) : Prop :=
  ∃ raw ∈ (divide line).1 :: (divide line).2, (Block.inner? (Text.trim raw)).isSome = true

instance (line : List Char) : Decidable (HasBlock line) :=
  inferInstanceAs (Decidable (∃ raw ∈ _ :: _, _ = true))

/-! ## Empty text -/

theorem emptied_toggle (c : Column) : c.emptied.toggle = c.toggle := by
  unfold Column.emptied
  split <;> rfl

/-- A column that is text unless it is at fault is text when it is emptied. -/
theorem emptied_isText {c : Column} (h : c.fault = none → c.isText = true) :
    c.emptied.isText = true := by
  unfold Column.emptied
  split
  · rfl
  · rename_i none
    exact h (Option.not_isSome_iff_eq_none.1 none)

/-- A column that carries no text where it is at fault. -/
def Column.EmptyAtFault (c : Column) : Prop := c.fault.isSome = true → c.payload = .text []

theorem emptied_eq_self {c : Column} (h : c.EmptyAtFault) : c.emptied = c := by
  unfold Column.emptied
  split
  · rename_i fault
    rw [← h fault]
  · rfl

theorem map_emptied_eq_self {columns : List Column} (h : ∀ c ∈ columns, c.EmptyAtFault) :
    columns.map Column.emptied = columns :=
  (List.map_congr_left fun c hc => emptied_eq_self (h c hc)).trans (List.map_id _)

/-! ## The two ways to be at fault -/

/-- A block among columns prints nothing, at fault or not. -/
theorem readBeside_block {raw : List Char} (h : (Block.inner? (Text.trim raw)).isSome = true)
    (s : State) (index : Nat) : (readBeside s index raw).payload = .settings := by
  obtain ⟨inside, hi⟩ := Option.isSome_iff_exists.1 h
  simp only [readBeside, hi]
  rfl

/-- A column that is not a block is text, and has no segments if a brace stands in it. -/
theorem readBeside_text {raw : List Char} (h : ¬(Block.inner? (Text.trim raw)).isSome = true)
    (s : State) (index : Nat) :
    (readBeside s index raw).isText = true ∧ (readBeside s index raw).EmptyAtFault := by
  rw [Option.not_isSome_iff_eq_none] at h
  simp only [readBeside, h]
  split
  · exact ⟨rfl, fun _ => rfl⟩
  · exact ⟨rfl, fun fault => Bool.noConfusion fault⟩

/-- Text that stands alone is no block, and has no segments if a brace stands in it. -/
theorem readAlone_emptyAtFault {raw : List Char} {s : State} (h : (readAlone raw s).1.isText = true) :
    ¬(Block.inner? (Text.trim raw)).isSome = true ∧ (readAlone raw s).1.EmptyAtFault := by
  cases hi : Block.inner? (Text.trim raw) with
  | some inside =>
    -- what a block prints is no text
    simp only [readAlone, hi, Column.isText, State.column] at h
    split at h
    · cases h
    · rw [payload_isText] at h
      cases h
  | none =>
    refine ⟨Bool.false_ne_true, ?_⟩
    simp only [readAlone, hi]
    split_ifs
    · exact fun _ => rfl
    · exact fun fault => Bool.noConfusion fault
    · exact fun fault => Bool.noConfusion fault
    · exact fun fault => Bool.noConfusion fault

theorem padding_emptyAtFault {s : State} {count : Nat} {c : Column} (h : c ∈ s.padding count) :
    c.isText = true ∧ c.EmptyAtFault := by
  obtain ⟨width, _, rfl⟩ := List.mem_map.1 h
  exact ⟨rfl, fun _ => rfl⟩

/-! ## Lines of more than one column -/

/-- A line of columns that are text or empty is completed with columns of the same kind. -/
theorem complete_emptyAtFault {s : State} {columns : List Column}
    (h : ∀ c ∈ columns, c.isText = true ∧ c.EmptyAtFault) :
    ∀ c ∈ s.complete columns, c.isText = true ∧ c.EmptyAtFault := by
  intro c hc
  rcases mem_complete hc with hc | hc
  · exact h c hc
  · exact padding_emptyAtFault hc

theorem complete_of_not_text {s : State} {columns : List Column} {c : Column} (hc : c ∈ columns)
    (h : ¬c.isText = true) : s.complete columns = columns := by
  unfold State.complete
  rw [if_neg]
  exact fun all => h (List.all_eq_true.1 all c hc)

/-- **The blocks of a line decide how it is read,** if it has more than one column: without blocks
all of it is text, and empty where it is at fault; with one, it is no text, its first column is read
beside others and no settings change. -/
theorem readLine_cases {line : List Char} {s : State} (two : 2 ≤ (readLine line s).1.length) :
    (¬HasBlock line ∧ ∀ c ∈ (readLine line s).1, c.isText = true ∧ c.EmptyAtFault) ∨
      HasBlock line ∧ ∃ raw more, readLine line s = (readBeside s 0 raw :: more, s) ∧
        (readBeside s 0 raw :: more).all Column.isText = false := by
  rcases h : divide line with ⟨raw, _ | ⟨next, more⟩⟩
  · -- a single column is completed only if it is text
    rw [readLine_alone h] at two ⊢
    by_cases isText : (readAlone raw s).1.isText = true
    · obtain ⟨noBlock, empty⟩ := readAlone_emptyAtFault isText
      refine Or.inl ⟨?_, complete_emptyAtFault ?_⟩
      · rintro ⟨raw', hraw, block⟩
        rw [h] at hraw
        rw [List.mem_singleton.1 hraw] at block
        exact noBlock block
      · exact List.forall_mem_singleton.2 ⟨isText, empty⟩
    · rw [complete_of_not_text List.mem_cons_self isText] at two
      exact absurd two (by simp)
  · rw [readLine_beside h]
    by_cases block : HasBlock line
    · refine Or.inr ⟨block, raw, (next :: more).mapIdx fun i => readBeside s (i + 1), ?_⟩
      obtain ⟨raw', hraw, inner⟩ := block
      rw [h] at hraw
      obtain ⟨i, hi, rfl⟩ := List.getElem_of_mem hraw
      have mem : readBeside s i (raw :: next :: more)[i] ∈ (raw :: next :: more).mapIdx (readBeside s) :=
        List.mem_mapIdx.2 ⟨i, hi, rfl⟩
      have noText : ¬(readBeside s i (raw :: next :: more)[i]).isText = true := by
        rw [Column.isText, readBeside_block inner s i]
        exact Bool.false_ne_true
      rw [← List.mapIdx_cons, complete_of_not_text mem noText]
      exact ⟨rfl, List.all_eq_false.2 ⟨_, mem, noText⟩⟩
    · refine Or.inl ⟨block, complete_emptyAtFault fun c hc => ?_⟩
      obtain ⟨i, hi, rfl⟩ := List.mem_mapIdx.1 hc
      refine readBeside_text (fun inner => block ⟨_, ?_, inner⟩) s i
      rw [h]
      exact List.getElem_mem hi

end Receipt.Markup
