import Mathlib.Data.List.Forall2
import Mathlib.Data.List.TakeWhile
import Mathlib.Tactic.SplitIfs
import Receipt.Drawing.Listing
import Receipt.Proofs.Text.Quoted

/-!
# Listings read back

Whatever strings a program holds, its listing has a line for each instruction and no other lines
(`splitOn_listing`), and each line begins with the name of its instruction and shows the string of
it, if it has one, as the only quotation (`listing_read`). A string cannot end its line or its
quotation; the other details are made of characters that could do neither.
-/

namespace Receipt.Drawing

/-- The string that an instruction is listed with, if there is one. Of a bar code it is the text
that a person reads, of an image only the size is listed. -/
def Op.string? : Op → Option (List Char)
  | .text s | .command s => some s
  | .qrCode symbol => some symbol.data
  | .barcode _ form => some form.text
  | _ => none

/-- The text of the first quotation in a line, and what comes after the quotation. -/
def quotation? (line : List Char) : Option (List Char × List Char) :=
  Text.unquote? (line.dropWhile (· ≠ '"'))

/-- What is read from the line of an instruction. -/
structure Op.IsReadFrom (op : Op) (line : List Char) : Prop where
  /-- The line begins with the name, which nothing but a parenthesis can follow. -/
  name : line.takeWhile (· ≠ '(') = op.name
  string : (quotation? line).map Prod.fst = op.string?
  /-- There is only one quotation. -/
  single : ∀ q ∈ quotation? line, '"' ∉ q.2

/-! ## Characters of no account -/

/-- Text that neither ends a line nor opens a quotation. -/
def Quiet (s : List Char) : Prop := ∀ c ∈ s, c ≠ '\n' ∧ c ≠ '"'

instance (s : List Char) : Decidable (Quiet s) :=
  List.decidableBAll (fun c => c ≠ '\n' ∧ c ≠ '"') s

section
variable {s r : List Char} {c : Char}

@[simp] theorem quiet_nil : Quiet [] := nofun

@[simp] theorem quiet_cons : Quiet (c :: s) ↔ (c ≠ '\n' ∧ c ≠ '"') ∧ Quiet s :=
  List.forall_mem_cons

@[simp] theorem quiet_append : Quiet (s ++ r) ↔ Quiet s ∧ Quiet r := List.forall_mem_append

theorem Quiet.of_subset (hs : Quiet s) (h : r ⊆ s) : Quiet r := fun c hc => hs c (h hc)

theorem Quiet.lineFeed (hs : Quiet s) : '\n' ∉ s := fun h => (hs _ h).1 rfl

theorem Quiet.mark (hs : Quiet s) : '"' ∉ s := fun h => (hs _ h).2 rfl

theorem quiet_replicate (n : Nat) (h : Quiet [c]) : Quiet (List.replicate n c) :=
  h.of_subset (by simp [List.subset_def])

end

/-! ## Numbers -/

@[simp] theorem quiet_toDigits (n : Nat) : Quiet (Nat.toDigits 10 n) := by
  intro c hc
  have digit : c.isDigit = true := Nat.isDigit_of_mem_toDigits (by decide) (by decide) hc
  constructor
  · rintro rfl
    cases digit
  · rintro rfl
    cases digit

@[simp] theorem quiet_showNat (n : Nat) : Quiet (showNat n) := quiet_toDigits n

@[simp] theorem quiet_showInt (i : Int) : Quiet (showInt i) := by
  unfold showInt
  split <;> simp

theorem commas_cons (d : List Char) {r : List (List Char)} (h : r ≠ []) :
    commas (d :: r) = d ++ (", ".toList ++ commas r) := by
  obtain ⟨e, es, rfl⟩ := List.exists_cons_of_ne_nil h
  exact List.append_assoc d ", ".toList _

@[simp] theorem quiet_gap : Quiet ", ".toList := by decide

theorem quiet_commas {ds : List (List Char)} (h : ∀ d ∈ ds, Quiet d) : Quiet (commas ds) := by
  induction ds with
  | nil => exact quiet_nil
  | cons d r ih =>
    obtain ⟨first, rest⟩ := List.forall_mem_cons.1 h
    by_cases last : r = []
    · rw [last]
      exact first
    · rw [commas_cons d last, quiet_append, quiet_append]
      exact ⟨first, quiet_gap, ih rest⟩

@[simp] theorem quiet_showList (ns : List Nat) : Quiet (showList ns) := by
  have items : Quiet (commas (ns.map showNat)) := quiet_commas (by simp)
  simp [showList, items]

/-- Numbers are written with digits, points, signs and the letter of the exponent. -/
theorem quiet_write {style : Number.Style} (wholeEnd : Quiet style.wholeEnd)
    (plus : Quiet style.plus) {ds : List Char} (h : Quiet ds) (point : Int) :
    Quiet (style.write ds point) := by
  have zeros (n : Nat) : Quiet (List.replicate n '0') := quiet_replicate n (by simp)
  have front (n : Nat) : Quiet (ds.take n) := h.of_subset (List.take_subset n ds)
  have back (n : Nat) : Quiet (ds.drop n) := h.of_subset (List.drop_subset n ds)
  have power (e : Int) : Quiet (Number.Style.write.power style e) := by
    have sign : Quiet (if e < 0 then ['-'] else style.plus) := by split <;> simp [plus]
    simp [Number.Style.write.power, sign, zeros]
  have scientific : Quiet (Number.Style.write.scientific style ds point) := by
    unfold Number.Style.write.scientific
    split <;> simp only [quiet_append, quiet_cons, quiet_nil, front, back, power] <;> decide
  unfold Number.Style.write
  dsimp only
  split_ifs
  · simp [h, zeros, wholeEnd]
  · simp [front, back]
  · exact scientific
  · simp [h, zeros]
  · exact scientific

@[simp] theorem quiet_offset (b : Number.Binary) : Quiet (offsetStyle.render b) := by
  have sign : Quiet (if b.negative then ['-'] else []) := by split <;> simp
  unfold Number.Style.render
  rw [quiet_append]
  refine ⟨sign, ?_⟩
  split
  · simp [offsetStyle]
  · exact quiet_write quiet_nil quiet_nil (quiet_toDigits _) _

/-! ## Details -/

@[simp] theorem quiet_page (page : Text.CodePage) : Quiet page.name := by
  cases page <;> decide

@[simp] theorem quiet_keyword (symbology : Symbology) : Quiet symbology.keyword := by
  cases symbology <;> decide

@[simp] theorem quiet_letter (level : Matrix.Level) :
    Quiet (level.letter.map Char.toUpper) := by
  cases level <;> decide

theorem quiet_name (op : Op) : Quiet op.name := by
  cases op <;> exact of_decide_eq_true rfl

/-- Between quiet details there is nothing that could be taken for part of the one detail that is
not quiet. -/
theorem exists_commas {ds es : List (List Char)} (hd : ∀ d ∈ ds, Quiet d) (he : ∀ e ∈ es, Quiet e)
    (q : List Char) :
    ∃ front back, commas (ds ++ q :: es) = front ++ (q ++ back) ∧ Quiet front ∧ Quiet back := by
  induction ds with
  | nil =>
    by_cases last : es = []
    · exact ⟨[], [], by simp [last, commas], quiet_nil, quiet_nil⟩
    · exact ⟨[], ", ".toList ++ commas es, commas_cons q last, quiet_nil,
        quiet_append.2 ⟨quiet_gap, quiet_commas he⟩⟩
  | cons d ds ih =>
    obtain ⟨first, rest⟩ := List.forall_mem_cons.1 hd
    obtain ⟨front, back, eq, quietFront, quietBack⟩ := ih rest
    refine ⟨d ++ (", ".toList ++ front), back, ?_, ?_, quietBack⟩
    · rw [List.cons_append, commas_cons d (by simp), eq]
      simp only [List.append_assoc]
    · rw [quiet_append, quiet_append]
      exact ⟨first, quiet_gap, quietFront⟩

/-- Where a string is among the details. -/
theorem exists_details {op : Op} {s : List Char} (h : op.string? = some s) :
    ∃ ds es, op.details = ds ++ Text.quoted s :: es ∧ (∀ d ∈ ds, Quiet d) ∧ ∀ e ∈ es, Quiet e := by
  cases op <;> cases h
  case text => exact ⟨[], [], rfl, nofun, nofun⟩
  case command => exact ⟨[], [], rfl, nofun, nofun⟩
  case qrCode symbol => exact ⟨[], _, rfl, nofun, by simp⟩
  case barcode symbol form => exact ⟨[symbol.symbology.keyword], _, rfl, by simp, by simp⟩

/-! ## Lines -/

/-- An instruction without a string is listed without a quotation. -/
theorem quiet_line {op : Op} (h : op.string? = none) : Quiet op.line := by
  have details : ∀ d ∈ op.details, Quiet d := by
    cases op with
    | vrLf ruled => cases ruled <;> simp [Op.details]
    | _ => simp_all [Op.details, Op.string?]
  have inside := quiet_commas details
  unfold Op.line
  split <;> simp [inside, quiet_name]

/-- An instruction with a string is listed with one quotation. -/
theorem exists_line {op : Op} {s : List Char} (h : op.string? = some s) :
    ∃ front back, op.line = front ++ (Text.quoted s ++ back) ∧ Quiet front ∧ Quiet back := by
  obtain ⟨ds, es, details, hd, he⟩ := exists_details h
  obtain ⟨front, back, eq, quietFront, quietBack⟩ := exists_commas hd he (Text.quoted s)
  refine ⟨op.name ++ '(' :: front, back ++ [')'], ?_, by simp [quiet_name, quietFront],
    by simp [quietBack]⟩
  simp [Op.line, details, eq]

theorem lineFeed_not_mem_line (op : Op) : '\n' ∉ op.line := by
  cases h : op.string? with
  | none => exact (quiet_line h).lineFeed
  | some s =>
    obtain ⟨front, back, eq, quietFront, quietBack⟩ := exists_line h
    rw [eq, List.mem_append, List.mem_append, not_or, not_or]
    exact ⟨quietFront.lineFeed, Text.lineFeed_not_mem_quoted s, quietBack.lineFeed⟩

/-! ## Reading -/

theorem quotation?_of_quiet {line : List Char} (h : Quiet line) : quotation? line = none := by
  have none : line.dropWhile (· ≠ '"') = [] :=
    List.dropWhile_eq_nil_iff.2 fun c hc => decide_eq_true (h c hc).2
  rw [quotation?, none]
  rfl

theorem quotation?_append {front : List Char} (h : Quiet front) (s back : List Char) :
    quotation? (front ++ (Text.quoted s ++ back)) = some (s, back) := by
  have skip : (front ++ (Text.quoted s ++ back)).dropWhile (· ≠ '"') = Text.quoted s ++ back := by
    rw [List.dropWhile_append_of_pos fun c hc => decide_eq_true (h c hc).2]
    rfl
  rw [quotation?, skip, Text.unquote?_quoted]

/-- The name of an instruction ends where its details begin. -/
theorem takeWhile_line (op : Op) : op.line.takeWhile (· ≠ '(') = op.name := by
  have name : op.name.all (· ≠ '(') = true := by
    cases op <;> rfl
  unfold Op.line
  rw [List.takeWhile_append_of_pos (List.all_eq_true.1 name)]
  split <;> simp

theorem isReadFrom_line (op : Op) : op.IsReadFrom op.line := by
  cases h : op.string? with
  | none =>
    have silent := quotation?_of_quiet (quiet_line h)
    refine ⟨takeWhile_line op, by rw [silent, h, Option.map_none], ?_⟩
    rw [silent]
    nofun
  | some s =>
    obtain ⟨front, back, eq, quietFront, quietBack⟩ := exists_line h
    have read : quotation? op.line = some (s, back) := by rw [eq, quotation?_append quietFront]
    refine ⟨takeWhile_line op, by rw [read, h, Option.map_some], ?_⟩
    rw [read]
    rintro q ⟨rfl⟩
    exact quietBack.mark

theorem intercalate_lines (lines : List (List Char)) :
    ['\n'].intercalate (lines ++ [[]]) = lines.flatMap (· ++ ['\n']) := by
  induction lines with
  | nil => rfl
  | cons line lines ih =>
    rw [List.cons_append, List.intercalate_cons_of_ne_nil (by simp), ih]
    simp

/-- **A listing has the lines of its instructions and no other lines.** -/
theorem splitOn_listing (p : Program) : p.listing.splitOn '\n' = p.map Op.line ++ [[]] := by
  have lines : ∀ line ∈ p.map Op.line ++ [[]], '\n' ∉ line := by
    intro line h
    rcases List.mem_append.1 h with own | last
    · obtain ⟨op, _, rfl⟩ := List.mem_map.1 own
      exact lineFeed_not_mem_line op
    · rw [List.mem_singleton.1 last]
      exact List.not_mem_nil
  have eq : p.listing = ['\n'].intercalate (p.map Op.line ++ [[]]) := by
    rw [intercalate_lines, List.flatMap_map]
    rfl
  rw [eq, List.splitOn_intercalate '\n' lines (by simp)]

/-- **No string can forge a listing.** Split at its line feeds, a listing gives one line for each
instruction, in order, and nothing after the last; and from each line the name of its instruction
and the string of it are read back, whatever characters the string is made of. -/
theorem listing_read (p : Program) :
    ∃ lines, p.listing.splitOn '\n' = lines ++ [[]] ∧ List.Forall₂ Op.IsReadFrom p lines := by
  refine ⟨p.map Op.line, splitOn_listing p, ?_⟩
  rw [List.forall₂_map_right_iff, List.forall₂_same]
  exact fun op _ => isReadFrom_line op

-- Text that looks like the end of its line and a further instruction stays on its line.
example : Program.listing [.text "a\")\ncut".toList, .lf] =
    "text(\"a\\\")\\ncut\")\nlf\n".toList := by decide

end Receipt.Drawing
