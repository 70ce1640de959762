import Receipt.Proofs.Markup.Blocks
import Receipt.Proofs.Page.Line
import Receipt.Proofs.Page.Session

/-!
# Settings over several lines

A block of settings draws nothing but what its change of the border draws, and that does not depend
on where the line stands. Settings given one after another are those given at once
(`drawSettings_given`), as long as one block at most has the border: a table is closed where the
border is given, whichever line that is. So members can be cut into blocks anywhere
(`drawSteps_members`), and the order of members does not matter (`members_any_order`).
-/

namespace Receipt.Page

open Drawing (Program)
open Markup (Block IsMember State Toggle blockWith keyOf readLine settingKeys toggle? valueOf
  writeMembers)

/-! ## A change of the border -/

/-- What a change of the border draws: it may close the table in progress. -/
def drawToggle (p : Printer) (r : Ruling) (toggle : Option Toggle) : Program × Ruling :=
  applyEvents p.cpl r.edges r (toggle.toList.map toggleEvent)

/-- The place of the line does not matter. -/
theorem applyEvents_toggle (p : Printer) (current : Ruling.Edges) (r : Ruling)
    (toggle : Option Toggle) :
    applyEvents p.cpl current r (toggle.toList.map toggleEvent) = drawToggle p r toggle := by
  obtain ⟨state, edges⟩ := r
  cases toggle with
  | none => rfl
  | some toggle => cases toggle <;> cases state <;> rfl

/-! ## A block of settings -/

/-- Gives values to settings, and draws what the change of the border asks for. -/
def drawSettings (p : Printer) (value? : String → Option (List Char)) (s : State) :
    Program × State :=
  let t := s.given value?
  let (drawn, r) := drawToggle p s.ruling (toggle? s.isRuled t.isRuled)
  (drawn, { t with ruling := r })

theorem isRuled_given {s : State} {value? : String → Option (List Char)}
    (h : value? "border" = none) : (s.given value?).isRuled = s.isRuled := by
  simp only [State.given, State.isRuled, h]
  rfl

/-- A column of settings draws a change of the border, and nothing else. -/
theorem drawLine_column (p : Printer) (s t : State) (align : Nat) (toggle : Option Toggle) :
    drawLine p [t.column align 0 .settings toggle none] s =
      let (drawn, r) := drawToggle p s.ruling toggle
      (drawn, { s with ruling := r }) := by
  have events : eventsOf (t.column align 0 .settings toggle none) =
      toggle.toList.map toggleEvent := rfl
  rw [drawLine_events p s rfl rfl, events]
  simp only [applyEvents_toggle]

/-- Without a border nothing is drawn. -/
theorem drawSettings_of_no_border (p : Printer) {value? : String → Option (List Char)}
    (h : value? "border" = none) (s : State) : drawSettings p value? s = ([], s.given value?) := by
  rw [drawSettings, isRuled_given h, Markup.toggle?_self]
  rfl

/-- **Settings given in turn are given at once,** if the border is given once at most. -/
theorem drawSettings_given (p : Printer) {f g : String → Option (List Char)}
    (h : f "border" = none ∨ g "border" = none) (s : State) :
    let first := drawSettings p f s
    let second := drawSettings p g first.2
    (first.1 ++ second.1, second.2) = drawSettings p (fun key => (g key).or (f key)) s := by
  intro first second
  rcases h with none | none
  · -- the border is given later: until then the table stays as it is
    have early : first = ([], s.given f) := drawSettings_of_no_border p none s
    simp only [second, early, drawSettings, isRuled_given none, Markup.given_given]
    rfl
  · have late : second = ([], first.2.given g) := drawSettings_of_no_border p none first.2
    have ruled : ((s.given f).given g).isRuled = (s.given f).isRuled := isRuled_given none
    rw [late, List.append_nil, drawSettings, ← Markup.given_given, ruled]
    rfl

/-! ## Members of settings -/

/-- Members whose keys are those of settings. -/
def AreSettings (ms : List (List Char)) : Prop :=
  ∀ m ∈ ms, ∃ key ∈ settingKeys, keyOf m = key.toList

instance (ms : List (List Char)) : Decidable (AreSettings ms) :=
  inferInstanceAs (Decidable (∀ m ∈ ms, ∃ key ∈ settingKeys, keyOf m = key.toList))

section
variable {ms : List (List Char)} (members : ∀ m ∈ ms, IsMember m)
include members

/-- Settings print nothing. -/
theorem payload_settings (settings : AreSettings ms) (codes : Markup.CodeStyle) :
    (blockWith ms).payload codes = .settings := by
  have other : ∀ name ∈ ["image", "code", "command", "comment"], ∀ key ∈ settingKeys,
      key.toList ≠ name.toList := by decide
  have absent : ∀ name ∈ ["image", "code", "command", "comment"],
      (blockWith ms).get? name = none := by
    intro name hname
    rw [Markup.get?_blockWith]
    refine Markup.valueOf_eq_none members fun m hm => ?_
    obtain ⟨key, hkey, same⟩ := settings m hm
    rw [same]
    exact other name hname key hkey
  simp only [List.forall_mem_cons, List.not_mem_nil, false_imp_iff, implies_true, and_true]
    at absent
  obtain ⟨image, code, command, comment⟩ := absent
  simp only [Block.payload, image, code, command, comment]

/-- **A block of settings gives them their values.** -/
theorem drawNext_members (p : Printer) (settings : AreSettings ms) (s : State) :
    drawNext p (writeMembers ms) s = drawSettings p (valueOf · ms) s := by
  have read := Markup.readLine_members members s
  simp only [payload_settings members settings, Markup.apply_blockWith] at read
  simp only [drawNext, read, drawLine_column, drawSettings]
  rfl

end

/-- The steps of blocks, each on a line of its own. -/
def blockLines (chunks : List (List (List Char))) : List Step :=
  chunks.map fun ms => .line (writeMembers ms)

/-- **Members of settings can be cut into blocks anywhere.** -/
theorem drawSteps_members (p : Printer) {chunks : List (List (List Char))}
    (members : ∀ m ∈ chunks.flatten, IsMember m) (settings : AreSettings chunks.flatten)
    (distinct : (chunks.flatten.map keyOf).Nodup) (s : State) :
    drawSteps p (blockLines chunks) s = drawSettings p (valueOf · chunks.flatten) s := by
  induction chunks generalizing s with
  | nil =>
    show ([], s) = drawSettings p (fun _ => none) s
    rw [drawSettings_of_no_border p rfl, Markup.given_none]
  | cons ms r ih =>
    rw [List.flatten_cons] at members settings distinct ⊢
    have here : ∀ m ∈ ms, IsMember m := fun m hm => members m (List.mem_append_left _ hm)
    have later : ∀ m ∈ r.flatten, IsMember m := fun m hm => members m (List.mem_append_right _ hm)
    rw [List.map_append, List.nodup_append] at distinct
    obtain ⟨-, rest, apart⟩ := distinct
    -- the border is the key of one member at most
    have once : valueOf "border" ms = none ∨ valueOf "border" r.flatten = none := by
      by_cases named : "border".toList ∈ ms.map keyOf
      · exact Or.inr (Markup.valueOf_eq_none later fun m hm same =>
          apart _ named _ (List.mem_map_of_mem hm) same.symm)
      · exact Or.inl (Markup.valueOf_eq_none here fun m hm same =>
          named (same ▸ List.mem_map_of_mem hm))
    have first : (Step.line (writeMembers ms)).draw p s = drawSettings p (valueOf · ms) s :=
      drawNext_members here p (fun m hm => settings m (List.mem_append_left _ hm)) s
    have joined := drawSettings_given p (f := (valueOf · ms)) (g := (valueOf · r.flatten)) once s
    show drawSteps p (.line (writeMembers ms) :: blockLines r) s = _
    rw [drawSteps_cons, first,
      ih later (fun m hm => settings m (List.mem_append_right _ hm)) rest]
    simp only [Markup.valueOf_append]
    exact joined

/-! ## Any order, on any number of lines -/

/-- **Neither the order of members nor the lines they stand on matter.** A block of members with
different keys is read alike in any order: the same columns, and the same settings, those that the
members give a value. If the members are settings, they can also be cut into blocks on lines of their
own: what is drawn is the same, and so are the settings after them and the table in progress. -/
theorem members_any_order (p : Printer) (s : State) {ms ms' : List (List Char)}
    (members : ∀ m ∈ ms, IsMember m) (distinct : (ms.map keyOf).Nodup) (perm : ms'.Perm ms) :
    readLine (writeMembers ms') s = readLine (writeMembers ms) s ∧
      (readLine (writeMembers ms) s).2 = s.given (valueOf · ms) ∧
      (AreSettings ms → ∀ chunks : List (List (List Char)), chunks.flatten = ms' →
        drawSteps p (blockLines chunks) s = drawNext p (writeMembers ms) s) := by
  refine ⟨Markup.readLine_perm members distinct perm s,
    Markup.readLine_members_settings members s, ?_⟩
  rintro settings chunks rfl
  have moved : ∀ m ∈ chunks.flatten, IsMember m := fun m hm => members m (perm.mem_iff.1 hm)
  have apart : (chunks.flatten.map keyOf).Nodup := (perm.map keyOf).nodup_iff.2 distinct
  rw [drawSteps_members p moved (fun m hm => settings m (perm.mem_iff.1 hm)) apart,
    drawNext_members members p settings]
  simp only [Markup.valueOf_perm _ perm moved apart]

/-- Settings that close a table, on one line and on two, with a space and an escape among them. -/
theorem members_any_order_closing :
    let s : State :=
      { State.initial .wide with border := -1, ruling := ⟨.running, ⟨10, 26, 12, [24]⟩⟩ }
    let ms := ["border:space", " t : nowrap", "w:10 20", "o:qrcode\\;4"].map String.toList
    let ms' := ["o:qrcode\\;4", "w:10 20", "border:space", " t : nowrap"].map String.toList
    (∀ m ∈ ms, IsMember m) ∧ (ms.map keyOf).Nodup ∧ ms'.Perm ms ∧ AreSettings ms ∧
      readLine (writeMembers ms') s = readLine (writeMembers ms) s ∧
      drawSteps .wide (blockLines [ms'.take 2, ms'.drop 2]) s =
        drawNext .wide (writeMembers ms) s ∧
      (drawNext .wide (writeMembers ms) s).1 =
        [.normal, .area 10 26 12, .align 0, .vrStop [24], .vrLf false] := by
  intro s ms ms'
  have members : ∀ m ∈ ms, IsMember m := by decide
  have distinct : (ms.map keyOf).Nodup := by decide
  have perm : ms'.Perm ms := by decide
  have settings : AreSettings ms := by decide
  have same := members_any_order .wide s members distinct perm
  exact ⟨members, distinct, perm, settings, same.1,
    same.2.2 settings [ms'.take 2, ms'.drop 2] rfl, by decide +kernel⟩

end Receipt.Page
