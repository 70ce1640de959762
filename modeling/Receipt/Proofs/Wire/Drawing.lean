import Receipt.Proofs.Wire.Codes
import Receipt.Wire.Drawing

/-!
# Programs read back

A program is read back from its JSON text instruction by instruction (`Program.rereads`), and each
one as it was, except that an offset comes back from its tenths (`Op.reread`).
-/

namespace Receipt

open Json (Rereads rereads_nat rereads_byte rereads_int rereads_bool rereads_string rereads_half
  rereads_members rereads_record rereads_list nat?_nat signed?_int bool?_bool text?_string needed?)

/-! ## Settings -/

/-- The numbers of the settings fit 64 bits. -/
structure Printer.Fits (p : Printer) : Prop where
  cpl : p.cpl < 2 ^ 64
  charWidth : p.charWidth < 2 ^ 64
  margin : p.margin < 2 ^ 64
  marginRight : p.marginRight < 2 ^ 64
  lockTimeout : p.lockTimeout < 2 ^ 64

theorem Printer.rereads {p : Printer} (fits : p.Fits) : Rereads p.toJson p.toJson := by
  refine rereads_members ?_
  simp [rereads_bool, rereads_string, rereads_nat fits.cpl, rereads_nat fits.charWidth,
    rereads_nat fits.margin, rereads_nat fits.marginRight, rereads_nat fits.lockTimeout]

theorem Printer.ofJson?_toJson {p : Printer} (fits : p.Fits) : ofJson? p.toJson = some p := by
  have page := Json.choice?_string (Text.CodePage.ofName?_name p.page)
  rw [ofJson?, toJson, Json.fields?_record (by rfl) (by decide)]
  simp [Json.default?, bool?_bool, page, nat?_nat fits.cpl, nat?_nat fits.charWidth,
    nat?_nat fits.margin, nat?_nat fits.marginRight, nat?_nat fits.lockTimeout]

namespace Drawing

/-! ## Instructions -/

def FitAll (ns : List Nat) : Prop := ∀ n ∈ ns, n < 2 ^ 64

theorem rereads_naturals {ns : List Nat} (fit : FitAll ns) : Rereads (naturals ns) (naturals ns) :=
  rereads_list (List.forall₂_same.2 fun n hn => rereads_nat (fit n hn))

theorem naturals?_naturals {ns : List Nat} (fit : FitAll ns) : naturals? (naturals ns) = some ns :=
  Json.list?_list fun n hn => nat?_nat (fit n hn)

/-- The numbers of an instruction are in the ranges of the machine; an offset is a binary number
anyway. -/
def Op.Fits : Op → Prop
  | .open p => p.Fits
  | .area left width right => left < 2 ^ 64 ∧ width < 2 ^ 64 ∧ right < 2 ^ 64
  | .align n | .wh n => n < 2 ^ 8
  | .absolute n | .hr n => n < 2 ^ 64
  | .vr widths height => FitAll widths ∧ height < 2 ^ 8
  | .vrStart widths | .vrStop widths => FitAll widths
  | .vrHr above below left right =>
    FitAll above ∧ FitAll below ∧ (-2 ^ 63 ≤ left ∧ left < 2 ^ 63) ∧ -2 ^ 63 ≤ right ∧ right < 2 ^ 63
  | .qrCode symbol => symbol.Fits
  | .barcode symbol form => symbol.Fits ∧ form.Fits
  | .close | .relative _ | .vrLf _ | .ul | .em | .iv | .normal | .text _ | .lf | .cut | .command _
  | .image _ => True

/-- A number of halves below `2 ^ 52`. -/
def IsHalves (x : Number.Binary) : Prop := ∃ k : Nat, k < 2 ^ 53 ∧ x.size = k / 2

/-- An instruction as it is read back. -/
def Op.reread : Op → Op
  | .relative offset => .relative ⟨offset.negative, Number.fromTenths offset.size⟩
  | op => op

theorem rereads_tagged {name : String} {j v : Json} (h : Rereads j v) :
    Rereads (tagged name j) (tagged name v) :=
  rereads_record (.cons ⟨rfl, h⟩ .nil)

theorem Op.rereads {op : Op} (fits : op.Fits)
    (halves : ∀ offset, op = .relative offset → IsHalves offset) :
    Rereads op.toJson op.reread.toJson := by
  cases op with
  | relative offset =>
    obtain ⟨negative, size⟩ := offset
    obtain ⟨k, hk, rfl⟩ : ∃ k : Nat, k < 2 ^ 53 ∧ size = k / 2 := halves _ rfl
    exact rereads_tagged (rereads_half negative hk)
  | «open» p => exact rereads_tagged (Printer.rereads fits)
  | area left width right =>
    obtain ⟨left, width, right⟩ := fits
    refine rereads_tagged (rereads_members ?_)
    simp [rereads_nat left, rereads_nat width, rereads_nat right]
  | align n | wh n => exact rereads_tagged (rereads_byte fits)
  | absolute n | hr n => exact rereads_tagged (rereads_nat fits)
  | vr widths height =>
    obtain ⟨widths, height⟩ := fits
    refine rereads_tagged (rereads_members ?_)
    simp [rereads_naturals widths, rereads_byte height]
  | vrStart widths | vrStop widths => exact rereads_tagged (rereads_naturals fits)
  | vrHr above below left right =>
    obtain ⟨above, below, ⟨left, left'⟩, right, right'⟩ := fits
    refine rereads_tagged (rereads_members ?_)
    simp [rereads_naturals above, rereads_naturals below, rereads_int left left',
      rereads_int right right']
  | vrLf ruled => exact rereads_tagged (rereads_bool ruled)
  | text s | command s | image s => exact rereads_tagged (rereads_string s)
  | qrCode symbol => exact rereads_tagged (Matrix.Symbol.rereads fits)
  | barcode symbol form =>
    obtain ⟨symbol, form⟩ := fits
    refine rereads_tagged (rereads_members ?_)
    simp [Bars.Symbol.rereads symbol, Bars.Form.rereads form]
  | close | ul | em | iv | normal | lf | cut => exact rereads_string _

/-- A case that carries a value is read by the reader of its name. -/
theorem Op.ofJson?_tagged {α : Type} {name : String} {r : Json → Option α} {f : α → Op} {j : Json}
    {a : α} (reader : Op.readers.lookup name.toList = some (Json.carrying? r f))
    (h : r j = some a) : Op.ofJson? (tagged name j) = some (f a) := by
  rw [Op.ofJson?, tagged, Json.cases?_record reader, Json.carrying?, Option.bind_some, h]
  rfl

/-- A case that carries nothing is found by its name. -/
theorem Op.ofJson?_string {name : String} {op : Op}
    (reader : Op.readers.lookup name.toList = some (Json.bare? op)) :
    Op.ofJson? (.string name.toList) = some op := by
  rw [Op.ofJson?, Json.cases?_string reader]
  rfl

/-- **Every instruction is read as it was written.** -/
theorem Op.ofJson?_toJson {op : Op} (fits : op.Fits) : Op.ofJson? op.toJson = some op := by
  cases op with
  | «open» p => exact ofJson?_tagged rfl (Printer.ofJson?_toJson fits)
  | area left width right =>
    obtain ⟨left, width, right⟩ := fits
    refine ofJson?_tagged (r := readArea?) (f := id) rfl ?_
    rw [readArea?, Json.fields?_record (by rfl) (by decide)]
    simp [needed?, nat?_nat left, nat?_nat width, nat?_nat right]
  | align n | wh n => exact ofJson?_tagged rfl (nat?_nat fits)
  | absolute n | hr n => exact ofJson?_tagged rfl (nat?_nat fits)
  | relative offset => exact ofJson?_tagged (r := Json.binary?) rfl rfl
  | vr widths height =>
    obtain ⟨widths, height⟩ := fits
    refine ofJson?_tagged (r := readVr?) (f := id) rfl ?_
    rw [readVr?, Json.fields?_record (by rfl) (by decide)]
    simp [needed?, naturals?_naturals widths, nat?_nat height]
  | vrStart widths | vrStop widths => exact ofJson?_tagged rfl (naturals?_naturals fits)
  | vrHr above below left right =>
    obtain ⟨above, below, ⟨left, left'⟩, right, right'⟩ := fits
    refine ofJson?_tagged (r := readVrHr?) (f := id) rfl ?_
    rw [readVrHr?, Json.fields?_record (by rfl) (by decide)]
    simp [needed?, naturals?_naturals above, naturals?_naturals below, signed?_int left left',
      signed?_int right right']
  | vrLf ruled => exact ofJson?_tagged rfl (bool?_bool ruled)
  | text s | command s | image s => exact ofJson?_tagged rfl (text?_string s)
  | qrCode symbol => exact ofJson?_tagged rfl (Matrix.Symbol.ofJson?_toJson fits)
  | barcode symbol form =>
    obtain ⟨symbol, form⟩ := fits
    refine ofJson?_tagged (r := readBarcode?) (f := id) rfl ?_
    rw [readBarcode?, Json.fields?_record (by rfl) (by decide)]
    simp [needed?, Bars.Symbol.ofJson?_toJson symbol, Bars.Form.ofJson?_toJson form]
  | close | ul | em | iv | normal | lf | cut => exact ofJson?_string rfl

theorem Op.fits_reread {op : Op} (fits : op.Fits) : op.reread.Fits := by
  cases op with
  | relative offset => exact trivial
  | _ => exact fits

/-! ## Programs -/

theorem Program.rereads {p : Program} (fits : ∀ op ∈ p, op.Fits)
    (halves : ∀ offset, .relative offset ∈ p → IsHalves offset) :
    Rereads (Program.toJson p) (Program.toJson (p.map Op.reread)) := by
  refine rereads_record (.cons ⟨rfl, rereads_list ?_⟩ .nil)
  refine List.forall₂_map_right_iff.2 (List.forall₂_same.2 fun op hop => ?_)
  exact Op.rereads (fits op hop) fun offset eq => halves offset (eq ▸ hop)

theorem Program.ofJson?_toJson {p : Program} (fits : ∀ op ∈ p, op.Fits) :
    Program.ofJson? (Program.toJson p) = some p := by
  have ops := Json.list?_list fun op hop => Op.ofJson?_toJson (fits op hop)
  rw [Program.ofJson?, Program.toJson, Json.fields?_record (by rfl) (by decide)]
  exact ops

/-- **A program is read back from its text,** in either layout, up to its offsets. -/
theorem Program.read?_text {p : Program} (fits : ∀ op ∈ p, op.Fits)
    (halves : ∀ offset, .relative offset ∈ p → IsHalves offset) :
    (Json.read? (Program.toJson p).compact).bind Program.ofJson? = some (p.map Op.reread) ∧
      (Json.read? ((Program.toJson p).pretty 0)).bind Program.ofJson? = some (p.map Op.reread) := by
  have rereads := Program.rereads fits halves
  have read : Program.ofJson? (Program.toJson (p.map Op.reread)) = some (p.map Op.reread) := by
    refine Program.ofJson?_toJson fun op hop => ?_
    obtain ⟨written, here, rfl⟩ := List.mem_map.1 hop
    exact Op.fits_reread (fits written here)
  rw [rereads.compact.read?, (rereads.pretty 0).read?]
  exact ⟨read, read⟩

end Drawing

end Receipt
