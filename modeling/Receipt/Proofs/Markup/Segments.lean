import Receipt.Markup.Line
import Receipt.Proofs.Layout.Wrap
import Receipt.Proofs.Markup.Interrupted

/-!
# Cutting text into segments

Text made ready is cut at the characters that mark something, and the texts between are decoded one
by one. No mark is left in a text, so of the controls it has none but those in its placeholders.
-/

namespace Receipt.Markup

open Layout (Decoration decorated glyph mem_wrap_text wrap)
open Text (CodePage)

/-- The segments of text made ready, their texts as they are written. -/
def cut (s : List Char) : List Segment := s.foldr Segment.cons []

theorem segments_eq (element : List Char) :
    segments element = (cut (prepare element)).map Segment.decode := rfl

@[simp] theorem cut_nil : cut [] = [] := rfl

@[simp] theorem cut_cons (c : Char) (s : List Char) : cut (c :: s) = Segment.cons c (cut s) := rfl

theorem ofChar?_ne_text (c : Char) (t : List Char) : Segment.ofChar? c ≠ some (.text t) := by
  unfold Segment.ofChar?
  split <;> simp

/-- Text grows by the characters that mark nothing. -/
theorem mem_text_cons {c : Char} {rest : List Segment} {t : List Char}
    (h : Segment.text t ∈ Segment.cons c rest) :
    .text t ∈ rest ∨ Segment.ofChar? c = none ∧
      ∃ u, t = c :: u ∧ (u = [] ∨ rest.head? = some (.text u)) := by
  unfold Segment.cons at h
  split at h
  · rename_i u r none
    rcases List.mem_cons.1 h with h | h
    · cases h
      exact Or.inr ⟨none, u, rfl, Or.inr rfl⟩
    · exact Or.inl (List.mem_cons_of_mem _ h)
  · rename_i r none _
    rcases List.mem_cons.1 h with h | h
    · cases h
      exact Or.inr ⟨none, [], rfl, Or.inl rfl⟩
    · exact Or.inl h
  · rcases List.mem_cons.1 h with h | h
    · cases h
    · exact Or.inl (List.mem_cons_of_mem _ h)
  · rename_i mark _ isMark _
    rcases List.mem_cons.1 h with h | h
    · exact absurd (h ▸ isMark) (ofChar?_ne_text c t)
    · exact Or.inl h

theorem head_text_cons {c : Char} {rest : List Segment} {t : List Char}
    (h : (Segment.cons c rest).head? = some (.text t)) :
    ∃ u, t = c :: u ∧ (u = [] ∨ rest.head? = some (.text u)) := by
  unfold Segment.cons at h
  split at h
  · rename_i u r _
    cases h
    exact ⟨u, rfl, Or.inr rfl⟩
  · cases h
    exact ⟨[], rfl, Or.inl rfl⟩
  · cases h
  · rename_i mark _ isMark _
    exact absurd (Option.some.inj h ▸ isMark) (ofChar?_ne_text c t)

/-- A text in front is what comes first. -/
theorem prefix_of_head_cut {s t : List Char} (h : (cut s).head? = some (.text t)) : t <+: s := by
  induction s generalizing t with
  | nil => cases h
  | cons c s ih =>
    obtain ⟨u, rfl, rfl | hu⟩ := head_text_cons h
    · exact List.cons_prefix_cons.2 ⟨rfl, List.nil_prefix⟩
    · exact List.cons_prefix_cons.2 ⟨rfl, ih hu⟩

/-- A text is cut out in one piece. -/
theorem infix_of_mem_cut {s t : List Char} (h : .text t ∈ cut s) : t <:+: s := by
  induction s generalizing t with
  | nil => exact absurd h List.not_mem_nil
  | cons c s ih =>
    rcases mem_text_cons h with ht | ⟨_, u, rfl, hu⟩
    · exact List.infix_cons (ih ht)
    · refine List.IsPrefix.isInfix (List.cons_prefix_cons.2 ⟨rfl, ?_⟩)
      rcases hu with rfl | hu
      · exact List.nil_prefix
      · exact prefix_of_head_cut hu

/-- No mark is left in a text. -/
theorem ofChar?_of_mem_cut {s t : List Char} (h : .text t ∈ cut s) :
    ∀ c ∈ t, Segment.ofChar? c = none := by
  induction s generalizing t with
  | nil => exact absurd h List.not_mem_nil
  | cons c s ih =>
    rcases mem_text_cons h with ht | ⟨none, u, rfl, hu⟩
    · exact ih ht
    · refine List.forall_mem_cons.2 ⟨none, ?_⟩
      rcases hu with rfl | hu
      · simp
      · exact ih (List.mem_of_mem_head? hu)

/-- A decoded text has the controls that are left in its placeholders. -/
theorem control_mem_decode_cut {element t : List Char} (h : .text t ∈ cut (prepare element))
    {x : Char} (control : isControl x = true) : x ∈ decode t ↔ x ∈ codes t := by
  refine mem_decode fun hx => ?_
  have none := ofChar?_of_mem_cut h x hx
  obtain rfl := eq_lineFeed_of_mem_prepare ((infix_of_mem_cut h).subset hx) control
  cases none

/-- A control in a placeholder of a text was left where others stood inside the placeholder. -/
theorem interrupted_of_mem_codes {element t : List Char} (h : .text t ∈ cut (prepare element))
    {x : Char} (hx : x ∈ codes t) (control : isControl x = true) :
    Interrupted (element.filter fun c => !isControl c) :=
  interrupted_of_hasControl ((hasControl_of_mem_codes hx control).of_part (infix_of_mem_cut h))

/-! ## Controls in rows -/

/-- Decoding changes texts alone. -/
theorem decorated_decode (d : Decoration) (segments : List Segment) :
    decorated d (segments.map Segment.decode) =
      (decorated d segments).map fun text => (text.1, decode text.2) := by
  induction segments generalizing d with
  | nil => rfl
  | cons s r ih =>
    cases s with
    | text t => exact congrArg ((d, decode t) :: ·) (ih d)
    | underline => exact ih _
    | emphasis => exact ih _
    | invert => exact ih _
    | scale n => exact ih _
    | lineBreak => exact ih _

theorem mem_of_mem_decorated {d : Decoration} {segments : List Segment}
    {text : Decoration × List Char} (h : text ∈ decorated d segments) : .text text.2 ∈ segments := by
  induction segments generalizing d with
  | nil => cases h
  | cons s r ih =>
    cases s with
    | text t =>
      rcases List.mem_cons.1 h with rfl | h
      · exact List.mem_cons_self
      · exact List.mem_cons_of_mem _ (ih h)
    | underline => exact List.mem_cons_of_mem _ (ih h)
    | emphasis => exact List.mem_cons_of_mem _ (ih h)
    | invert => exact List.mem_cons_of_mem _ (ih h)
    | scale n => exact List.mem_cons_of_mem _ (ih h)
    | lineBreak => exact List.mem_cons_of_mem _ (ih h)

/-- **The rows of a text have the controls that are left in its placeholders,** where the column is
wide enough for their scale. -/
theorem control_mem_wrap (element : List Char) (page : CodePage) (width align : Nat) {x : Char}
    (control : isControl x = true) :
    (∃ row ∈ wrap (segments element) width align page, ∃ run ∈ row.runs, x ∈ run.text) ↔
      ∃ text ∈ decorated {} (cut (prepare element)),
        text.1.widthFactor ≤ width ∧ x ∈ codes text.2 := by
  have one {t u : List Char} (d : Decoration) (hu : u ∈ Text.units page t) (hx : x ∈ u) :
      glyph page d u = d.widthFactor := by
    have ascii : x.toNat < 128 := by
      have := isControl_iff.1 control
      omega
    rw [glyph, Text.cells_unit hu hx ascii, Nat.one_mul]
  rw [mem_wrap_text, segments_eq, decorated_decode]
  constructor
  · rintro ⟨_, decoded, u, hu, fits, hx⟩
    obtain ⟨text, htext, rfl⟩ := List.mem_map.1 decoded
    have inText : x ∈ decode text.2 := by
      rw [← Text.flatten_units page (decode text.2)]
      exact List.mem_flatten.2 ⟨u, hu, hx⟩
    rw [one _ hu hx] at fits
    exact ⟨text, htext, fits,
      (control_mem_decode_cut (mem_of_mem_decorated htext) control).1 inText⟩
  · rintro ⟨text, htext, fits, hx⟩
    have inText := (control_mem_decode_cut (mem_of_mem_decorated htext) control).2 hx
    rw [← Text.flatten_units page (decode text.2)] at inText
    obtain ⟨u, hu, hx⟩ := List.mem_flatten.1 inText
    exact ⟨_, List.mem_map_of_mem htext, u, hu, by rwa [one _ hu hx], hx⟩

end Receipt.Markup
