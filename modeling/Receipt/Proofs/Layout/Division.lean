import Receipt.Proofs.Layout.Placement

/-!
# Dividing a line of text

As many columns of a line of text are printed as the line can hold with a cell for each and their
borders. Fixed columns have the width they ask for if that leaves a cell for each of the others, and
are narrowed until it does if not; the others share what is left as evenly as whole cells allow, the
later ones getting what does not divide.
-/

namespace Receipt.Layout

open Markup (Column borderCells)

/-- The widths of the columns without a width of their own, in order. -/
def Placement.shares (p : Placement) : List Nat :=
  (p.columns.filter fun c => (asked c.column).isNone).map Placed.width

/-! ## How many columns there are -/

/-- A line can hold so many columns just if it has a cell for each, and their borders. -/
theorem le_columnLimit_iff (cpl : Nat) (border : Int) {n : Nat} (hn : 1 ≤ n) :
    n ≤ columnLimit cpl border ↔ (n : Int) + borderCells border n ≤ cpl := by
  unfold columnLimit borderCells
  split
  · omega
  · obtain ⟨b, rfl⟩ := Int.eq_ofNat_of_zero_le (not_lt.1 ‹¬ border < 0›)
    rw [Int.toNat_natCast, Nat.le_div_iff_mul_le (Nat.succ_pos b), ← Int.ofNat_le]
    push_cast
    constructor <;> intro h <;> linarith

/-- A line that holds a column has a cell. -/
theorem one_le_cpl {first : Column} {more : List Column} {cpl : Nat}
    (printed : survivors (first :: more) cpl true ≠ []) : 1 ≤ cpl := by
  have one : 1 ≤ columnLimit cpl first.border :=
    (List.length_pos_iff.2 printed).trans_le (List.length_take_le _ _)
  have room := (le_columnLimit_iff cpl first.border (Nat.le_refl 1)).1 one
  have := borderCells_nonneg first.border (Nat.le_refl 1)
  omega

/-! ## What each column gets -/

/-- A placed column is one of those printed; it has the width it is narrowed to if it is fixed. -/
theorem exists_of_mem_zipWith {columns : List Column} {ws : Widths} {spare : Int} {flexible i : Nat}
    {c : Placed} (h : c ∈ List.zipWith Placed.mk columns (share spare flexible i ws)) :
    ∃ w, (c.column, w) ∈ columns.zip ws ∧ ∀ n, w = some n → c.width = n := by
  induction ws generalizing columns i with
  | nil => simp [share] at h
  | cons w r ih =>
    cases columns with
    | nil => cases h
    | cons column columns =>
      cases w with
      | none =>
        rcases List.mem_cons.1 h with rfl | h
        · exact ⟨none, List.mem_cons_self, by simp⟩
        · obtain ⟨w, mem, width⟩ := ih h
          exact ⟨w, List.mem_cons_of_mem _ mem, width⟩
      | some m =>
        rcases List.mem_cons.1 h with rfl | h
        · exact ⟨some m, List.mem_cons_self, fun n hn => Option.some.inj hn⟩
        · obtain ⟨w, mem, width⟩ := ih h
          exact ⟨w, List.mem_cons_of_mem _ mem, width⟩

/-- The columns without a width of their own have the shares, in order. -/
theorem shares_zipWith {columns : List Column} {ws : Widths} (h : NoWider (columns.map asked) ws)
    (spare : Int) (flexible i : Nat) :
    ((List.zipWith Placed.mk columns (share spare flexible i ws)).filter
        fun c => (asked c.column).isNone).map Placed.width =
      (List.range' i (ws.count none)).map fun j => (spare + (j : Nat)).toNat / flexible := by
  induction columns generalizing i ws with
  | nil =>
    cases h
    rfl
  | cons c columns ih =>
    obtain ⟨w, r, first, rest, rfl⟩ := List.forall₂_cons_left_iff.1 h
    cases hc : asked c with
    | none =>
      rw [hc] at first
      cases first
      rw [List.count_cons_self, List.range'_succ]
      simp [share, hc, ih rest]
    | some n =>
      rw [hc] at first
      cases first
      rw [List.count_cons_of_ne (by simp)]
      simp [share, hc, ih rest]

section
variable (spare flexible : Nat)

theorem shares_increasing :
    ((List.range flexible).map fun j => (spare + j) / flexible).Pairwise (· ≤ ·) := by
  rw [List.pairwise_map]
  exact List.pairwise_lt_range.imp fun h => Nat.div_le_div_right (by omega)

theorem shares_even {a b : Nat}
    (ha : a ∈ (List.range flexible).map fun j => (spare + j) / flexible)
    (hb : b ∈ (List.range flexible).map fun j => (spare + j) / flexible) : b ≤ a + 1 := by
  obtain ⟨i, hi, rfl⟩ := List.mem_map.1 ha
  obtain ⟨j, hj, rfl⟩ := List.mem_map.1 hb
  have pos : 0 < flexible := Nat.zero_lt_of_lt (List.mem_range.1 hj)
  rw [← Nat.add_div_right _ pos]
  have := List.mem_range.1 hj
  exact Nat.div_le_div_right (by omega)

/-- Of as many cells as there are columns, each gets one. -/
theorem shares_one {a : Nat} (ha : a ∈ (List.range flexible).map fun j => (flexible + j) / flexible) :
    a = 1 := by
  obtain ⟨j, hj, rfl⟩ := List.mem_map.1 ha
  have bound := List.mem_range.1 hj
  rw [Nat.add_div_left _ (Nat.zero_lt_of_lt bound), Nat.div_eq_of_lt bound]

end

/-! ## The line -/

/-- How a line of text of `cpl` cells is divided among its columns. -/
structure Divided (columns : List Column) (border : Int) (cpl : Nat) (p : Placement) : Prop where
  paper : p.left + p.width + p.right = cpl
  /-- The columns that are printed: the first of those with a width, as many as the line holds. -/
  printed : p.columns.map Placed.column =
    (columns.filter (·.width ≠ 0)).take (columnLimit cpl border)
  limit : ∀ n, 1 ≤ n → (n ≤ columnLimit cpl border ↔ (n : Int) + borderCells border n ≤ cpl)
  one_le : ∀ c ∈ p.columns, 1 ≤ c.width
  full : p.columns ≠ [] →
    ((p.columns.map Placed.width).sum : Int) + borderCells border p.columns.length = p.width
  le_asked : ∀ c ∈ p.columns, ∀ n, asked c.column = some n → c.width ≤ n
  /-- With a cell for each of the others, the fixed columns have the widths they ask for. -/
  eq_asked :
    ((fixed (p.columns.map fun c => asked c.column)).sum : Int) + p.shares.length
      + borderCells border p.columns.length ≤ cpl →
    ∀ c ∈ p.columns, ∀ n, asked c.column = some n → c.width = n
  increasing : p.shares.Pairwise (· ≤ ·)
  even : ∀ a ∈ p.shares, ∀ b ∈ p.shares, b ≤ a + 1
  /-- Where cells are shared, none are left over. -/
  exhausted : p.shares ≠ [] → p.left = 0 ∧ p.width = cpl ∧ p.right = 0
  /-- Where a fixed column is narrowed, a share is a single cell. -/
  narrowed : (∃ c ∈ p.columns, ∃ n, asked c.column = some n ∧ c.width < n) → ∀ w ∈ p.shares, w = 1

section
variable {first : Column} {more : List Column} {cpl : Nat}

theorem printed_of_mem {c : Placed} {isText : Bool}
    (hc : c ∈ (place (first :: more) cpl isText).columns) :
    survivors (first :: more) cpl isText ≠ [] := by
  rw [← place_columns_column]
  exact fun none => List.ne_nil_of_mem hc (List.map_eq_nil_iff.1 none)

theorem noWider_narrowed (first : Column) (more : List Column) (cpl : Nat) (isText : Bool) :
    NoWider (keptWidths first more cpl isText) (narrowed first more cpl isText).1 :=
  (noWider_refl _).shrink _

theorem map_asked_place (first : Column) (more : List Column) (cpl : Nat) (isText : Bool) :
    ((place (first :: more) cpl isText).columns.map fun c => asked c.column) =
      keptWidths first more cpl isText := by
  rw [keptWidths, ← place_columns_column, List.map_map]
  rfl

/-- The width of a placed column is one it asks for, narrowed. -/
theorem exists_narrowed {c : Placed} {isText : Bool}
    (hc : c ∈ (place (first :: more) cpl isText).columns) :
    ∃ w, (asked c.column, w) ∈
        (keptWidths first more cpl isText).zip (narrowed first more cpl isText).1 ∧
      ∀ n, w = some n → c.width = n := by
  rw [place_cons] at hc
  obtain ⟨w, mem, width⟩ := exists_of_mem_zipWith hc
  refine ⟨w, ?_, width⟩
  rw [keptWidths, List.zip_map_left]
  exact List.mem_map_of_mem mem

theorem le_asked_place {c : Placed} {isText : Bool}
    (hc : c ∈ (place (first :: more) cpl isText).columns) {n : Nat}
    (hn : asked c.column = some n) : c.width ≤ n := by
  obtain ⟨w, mem, width⟩ := exists_narrowed hc
  have le := List.forall₂_zip (noWider_narrowed first more cpl isText) mem
  rw [hn] at le
  obtain ⟨le⟩ := le
  rw [width _ rfl]
  exact le

/-- The cells that the columns without a width of their own share. -/
theorem shares_place (first : Column) (more : List Column) (cpl : Nat) (isText : Bool) :
    (place (first :: more) cpl isText).shares =
      (List.range ((keptWidths first more cpl isText).count none)).map fun j =>
        (keptSpare first more cpl isText + (narrowed first more cpl isText).2 + (j : Nat)).toNat
          / (keptWidths first more cpl isText).count none := by
  rw [Placement.shares, place_cons]
  dsimp only
  rw [shares_zipWith (noWider_narrowed first more cpl isText), count_narrowed,
    ← List.range_eq_range']

theorem length_shares (first : Column) (more : List Column) (cpl : Nat) (isText : Bool) :
    (place (first :: more) cpl isText).shares.length =
      (keptWidths first more cpl isText).count none := by
  rw [shares_place, List.length_map, List.length_range]

/-- Of a line of text, so many cells are shared: what is left over, or one each. -/
theorem shares_text (printed : survivors (first :: more) cpl true ≠ []) :
    ∃ spare : Nat,
      (spare : Int) =
        max (keptSpare first more cpl true) ((keptWidths first more cpl true).count none) ∧
      (place (first :: more) cpl true).shares =
        (List.range ((keptWidths first more cpl true).count none)).map fun j =>
          (spare + j) / (keptWidths first more cpl true).count none := by
  have free := spare_narrowed (one_le_cpl printed) printed
  obtain ⟨spare, hspare⟩ := Int.eq_ofNat_of_zero_le
    (a := keptSpare first more cpl true + (narrowed first more cpl true).2) (by omega)
  refine ⟨spare, hspare.symm.trans free, ?_⟩
  rw [shares_place, hspare]
  exact List.map_congr_left fun j _ => rfl

/-- If nothing is wanting, no column is narrowed. -/
theorem eq_asked_place
    (room : ((keptWidths first more cpl true).count none : Int) ≤ keptSpare first more cpl true)
    {c : Placed} (hc : c ∈ (place (first :: more) cpl true).columns) {n : Nat}
    (hn : asked c.column = some n) : c.width = n := by
  obtain ⟨w, mem, width⟩ := exists_narrowed hc
  have same : (narrowed first more cpl true).1 = keptWidths first more cpl true := by
    rw [narrowed, Int.toNat_of_nonpos (by omega), shrink_zero]
  rw [same] at mem
  have eq := List.forall₂_zip (List.forall₂_same.2 fun w _ => rfl) mem
  exact width n (eq.symm.trans hn)

theorem printed_of_mem_shares {isText : Bool} {w : Nat}
    (hw : w ∈ (place (first :: more) cpl isText).shares) :
    survivors (first :: more) cpl isText ≠ [] := by
  obtain ⟨c, hc, -⟩ := List.mem_map.1 hw
  exact printed_of_mem (List.mem_filter.1 hc).1

/-- **Where a fixed column is narrowed, a share is a single cell.** -/
theorem shares_eq_one {c : Placed} (hc : c ∈ (place (first :: more) cpl true).columns) {n : Nat}
    (hn : asked c.column = some n) (less : c.width < n) :
    ∀ w ∈ (place (first :: more) cpl true).shares, w = 1 := by
  intro w hw
  obtain ⟨spare, free, eq⟩ := shares_text (printed_of_mem hc)
  -- were there room, the column would have its width
  have wanting : keptSpare first more cpl true < (keptWidths first more cpl true).count none := by
    by_contra room
    exact absurd (eq_asked_place (not_lt.1 room) hc hn) less.ne
  obtain rfl : spare = (keptWidths first more cpl true).count none := by omega
  rw [eq] at hw
  exact shares_one _ hw

/-- Where cells are shared, none are left over. -/
theorem place_of_shares {isText : Bool} (some : (place (first :: more) cpl isText).shares ≠ []) :
    (place (first :: more) cpl isText).left = 0 ∧ (place (first :: more) cpl isText).width = cpl ∧
      (place (first :: more) cpl isText).right = 0 := by
  have flexible : 0 < (keptWidths first more cpl isText).count none := by
    rw [← length_shares]
    exact List.length_pos_iff.2 some
  obtain ⟨left, width, right⟩ := place_beside first more cpl isText
  rw [left, width, right, beside, if_pos flexible]
  omega

end

/-- **How the columns of a line of text get their cells.** -/
theorem line_divided (first : Column) (more : List Column) (cpl : Nat) :
    Divided (first :: more) first.border cpl (place (first :: more) cpl true) where
  paper := place_cpl cpl true (first :: more)
  printed := place_columns_column first more cpl true
  limit _ hn := le_columnLimit_iff cpl first.border hn
  one_le c hc := one_le_place first more (one_le_cpl (printed_of_mem hc)) c hc
  full printed := by
    obtain ⟨c, hc⟩ := List.exists_mem_of_ne_nil _ printed
    exact sum_place (one_le_cpl (printed_of_mem hc)) printed
  le_asked _ hc _ hn := le_asked_place hc hn
  eq_asked room c hc n hn := by
    have columns := congrArg List.length (place_columns_column first more cpl true)
    rw [List.length_map] at columns
    refine eq_asked_place ?_ hc hn
    rw [map_asked_place, length_shares, columns] at room
    rw [keptSpare_text (printed_of_mem hc)]
    omega
  increasing := by
    rcases List.eq_nil_or_concat (place (first :: more) cpl true).shares with none | ⟨r, w, eq⟩
    · rw [none]
      exact .nil
    · have last : w ∈ (place (first :: more) cpl true).shares := by simp [eq]
      obtain ⟨spare, -, shares⟩ := shares_text (printed_of_mem_shares last)
      rw [shares]
      exact shares_increasing spare _
  even a ha b hb := by
    obtain ⟨spare, -, eq⟩ := shares_text (printed_of_mem_shares ha)
    rw [eq] at ha hb
    exact shares_even spare _ ha hb
  exhausted some := place_of_shares some
  narrowed := fun ⟨_, hc, _, hn, less⟩ => shares_eq_one hc hn less

end Receipt.Layout
