import Mathlib.Algebra.Order.Field.Power
import Receipt.Json.Shape
import Receipt.Proofs.Json.Layouts

/-!
# Shapes read back

What is written of a number, a list, a record or a case has the shape that is asked for when it is
read, and the reader finds the parts that were written.
-/

namespace Receipt.Json

/-! ## Numbers, texts and lists -/

theorem int?_int {least most i : Int} (low : least ≤ i) (high : i ≤ most) :
    int? least most (.int i) = some i := by
  simp [int?, int, low, high]

theorem nat?_nat {bits n : Nat} (h : n < 2 ^ bits) : nat? bits (.nat n) = some n := by
  have most : (n : Int) ≤ Int.pow 2 bits - 1 := by
    have : (n : Int) < 2 ^ bits := by exact_mod_cast h
    exact Int.le_sub_one_of_lt this
  show (int? 0 _ (.int n)).map Int.toNat = _
  rw [int?_int (Int.natCast_nonneg n) most]
  rfl

theorem signed?_int {i : Int} (low : -2 ^ 63 ≤ i) (high : i < 2 ^ 63) :
    signed? 64 (.int i) = some i :=
  int?_int low (Int.le_sub_one_of_lt high)

theorem isWhole_nat (n : Nat) : isWhole (.nat n) = true := rfl

theorem text?_string (s : List Char) : text? (.string s) = some s := rfl

theorem bool?_bool (b : Bool) : bool? (.bool b) = some b := rfl

/-- Where each item gives a result, so does the list. -/
theorem mapM_eq_map {α β : Type} {f : α → Option β} {g : α → β} {xs : List α}
    (h : ∀ x ∈ xs, f x = some (g x)) : xs.mapM f = some (xs.map g) := by
  induction xs with
  | nil => rfl
  | cons x r ih =>
    rw [List.mapM_cons, h x List.mem_cons_self, ih fun y hy => h y (List.mem_cons_of_mem x hy)]
    rfl

theorem list?_list {α : Type} {f : α → Json} {read : Json → Option α} {xs : List α}
    (h : ∀ x ∈ xs, read (f x) = some x) : list? read (.list f xs) = some xs := by
  show (xs.map f).mapM read = _
  rw [List.mapM_map]
  have items := mapM_eq_map (f := read ∘ f) (g := id) h
  rwa [List.map_id] at items

theorem optional?_maybe {α : Type} {f : α → Json} {read : Json → Option α} {a : Option α}
    (h : ∀ x ∈ a, f x ≠ .null ∧ read (f x) = some x) :
    optional? read (some (.maybe f a)) = some a := by
  cases a with
  | none => rfl
  | some x =>
    obtain ⟨there, back⟩ := h x rfl
    show maybe? read (f x) = _
    cases value : f x with
    | null => exact absurd value there
    | _ => rw [maybe?, ← value, back, Option.map_some]; exact nofun

/-! ## Records -/

/-- The one member of a name. -/
theorem filter_name {members : List (String × Json)} (nodup : (members.map Prod.fst).Nodup)
    {m : String × Json} (h : m ∈ members) :
    (members.map fun m => (m.1.toList, m.2)).filter (·.1 = m.1.toList) = [(m.1.toList, m.2)] := by
  induction members with
  | nil => cases h
  | cons first r ih =>
    rw [List.map_cons, List.nodup_cons] at nodup
    obtain ⟨other, nodup⟩ := nodup
    rcases List.mem_cons.1 h with rfl | h
    · have none : (r.map fun m => (m.1.toList, m.2)).filter (·.1 = m.1.toList) = [] := by
        refine List.filter_eq_nil_iff.2 fun x hx => ?_
        obtain ⟨m', hm', rfl⟩ := List.mem_map.1 hx
        have : m'.1 ≠ m.1 := fun same => other (List.mem_map.2 ⟨m', hm', same⟩)
        simpa [String.toList_inj] using this
      rw [List.map_cons, List.filter_cons_of_pos (by simp), none]
    · have apart : first.1 ≠ m.1 := fun same => other (List.mem_map.2 ⟨m, h, same.symm⟩)
      rw [List.map_cons, List.filter_cons_of_neg (by simpa [String.toList_inj] using apart)]
      exact ih nodup h

/-- **Each field of a record is found under its name.** -/
theorem fields?_record {isOpen : Bool} {names : List String} {members : List (String × Json)}
    (same : members.map Prod.fst = names) (nodup : names.Nodup) :
    (Json.record members).fields? isOpen names = some (members.map fun m => some m.2) := by
  subst same
  have named : names? (members.map fun m => (some m.1.toList, m.2)) =
      some (members.map fun m => (m.1.toList, m.2)) := by
    rw [names?, List.mapM_map]
    exact mapM_eq_map fun _ _ => rfl
  have found : (members.map Prod.fst).mapM
        (fun name => field? (members.map fun m => (m.1.toList, m.2)) name.toList) =
      some (members.map fun m => some m.2) := by
    rw [List.mapM_map]
    refine mapM_eq_map fun m hm => ?_
    rw [Function.comp_apply, field?, filter_name nodup hm]
  show (names? _ >>= fun named =>
    (members.map Prod.fst).mapM fun name => field? named name.toList) = _
  rw [named]
  exact found

theorem isWholeMembers_of_whole {members : List (String × Json)}
    (h : ∀ m ∈ members, isWhole m.2 = true) :
    isWholeMembers (members.map fun m => (some m.1.toList, m.2)) = true := by
  induction members with
  | nil => rfl
  | cons m r ih =>
    rw [List.map_cons, isWholeMembers, h m List.mem_cons_self,
      ih fun m hm => h m (List.mem_cons_of_mem _ hm)]
    rfl

/-- A record that names its case, and what is left of it. -/
theorem tagged?_record {tag : String} {name : List Char} {members : List (String × Json)}
    (other : ∀ m ∈ members, m.1 ≠ tag) (whole : ∀ m ∈ members, isWhole m.2 = true) :
    tagged? tag (.record ((tag, .string name) :: members)) = some (name, .record members) := by
  have none :
      (members.map fun m => (some m.1.toList, m.2)).filter (·.1 = some tag.toList) = [] := by
    refine List.filter_eq_nil_iff.2 fun x hx => ?_
    obtain ⟨m, hm, rfl⟩ := List.mem_map.1 hx
    simpa [String.toList_inj] using other m hm
  have all : (members.map fun m => (some m.1.toList, m.2)).filter (·.1 ≠ some tag.toList) =
      members.map fun m => (some m.1.toList, m.2) := by
    refine List.filter_eq_self.2 fun x hx => ?_
    obtain ⟨m, hm, rfl⟩ := List.mem_map.1 hx
    simpa [String.toList_inj] using other m hm
  show tagged? tag (.object ((some tag.toList, .string name) :: members.map _)) = _
  rw [tagged?, List.filter_cons_of_pos (by simp), none, List.filter_cons_of_neg (by simp), all]
  simp only [isWholeMembers_of_whole whole, if_true]
  rfl

/-! ## Cases -/

theorem choice?_string {α : Type} {find : List Char → Option α} {name : List Char} {a : α}
    (h : find name = some a) : choice? find (.string name) = some a := by
  show (find name).bind (fun a => bare? a none) = some a
  rw [h]
  rfl

/-- A case that is its name only. -/
theorem cases?_string {α : Type} {readers : List (List Char × (Option Json → Option α))}
    {name : List Char} {read : Option Json → Option α} (h : readers.lookup name = some read) :
    cases? readers (.string name) = read none := by
  show (readers.lookup name).bind (fun read => read none) = _
  rw [h, Option.bind_some]

/-- A case that carries a value. -/
theorem cases?_record {α : Type} {readers : List (List Char × (Option Json → Option α))}
    {name : String} {read : Option Json → Option α} (h : readers.lookup name.toList = some read)
    (j : Json) : cases? readers (.record [(name, j)]) = read (some j) := by
  show (readers.lookup name.toList).bind (fun read => read (some j)) = _
  rw [h, Option.bind_some]

end Receipt.Json
