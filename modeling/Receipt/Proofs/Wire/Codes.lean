import Receipt.Proofs.Json.Numerals
import Receipt.Proofs.Json.Shape
import Receipt.Wire.Codes

/-!
# Codes read back

Bar code and QR code requests, forms and checks are read back from their JSON text as they were, so
long as their numbers are in the ranges of the machine.
-/

namespace Receipt

open Json (Rereads rereads_byte rereads_word rereads_bool rereads_string rereads_members
  rereads_list rereads_maybe isWhole_nat nat?_nat text?_string bool?_bool needed?)

namespace Bars

/-- The measures of a request fit 32 bits. -/
structure Symbol.Fits (s : Symbol) : Prop where
  module : s.module < 2 ^ 32
  height : s.height < 2 ^ 32

theorem Symbol.rereads {s : Symbol} (fits : s.Fits) : Rereads s.toJson s.toJson := by
  obtain ⟨module, height⟩ := fits
  refine rereads_members ?_
  simp [rereads_string, rereads_bool, rereads_word module, rereads_word height]

theorem Symbol.ofJson?_toJson {s : Symbol} (fits : s.Fits) : ofJson? s.toJson = some s := by
  have symbology := Json.choice?_string (Symbology.ofKeyword?_keyword s.symbology)
  rw [ofJson?, toJson, Json.fields?_record (by rfl) (by decide)]
  simp [needed?, text?_string, bool?_bool, symbology, nat?_nat fits.module, nat?_nat fits.height]

/-- Check characters are single bytes. -/
def Check.Fits : Check → Prop
  | .digit value => value < 2 ^ 8
  | .code93 c k => c < 2 ^ 8 ∧ k < 2 ^ 8
  | .mod103 value => value < 2 ^ 8

theorem Check.rereads {c : Check} (fits : c.Fits) : Rereads c.toJson c.toJson := by
  cases c with
  | digit value =>
    refine rereads_members ?_
    simp [rereads_string, rereads_byte fits]
  | code93 c k =>
    refine rereads_members ?_
    simp [rereads_string, rereads_byte fits.1, rereads_byte fits.2]
  | mod103 value =>
    refine rereads_members ?_
    simp [rereads_string, rereads_byte fits]

theorem Check.ofValue?_record {f : Nat → Check} {value : Nat} (h : value < 2 ^ 8) :
    Check.ofValue? f (.record [("value", .nat value)]) = some (f value) := by
  rw [Check.ofValue?, Json.fields?_record (by rfl) (by decide)]
  simp [needed?, nat?_nat h]

/-- A check is read by the reader of its kind. -/
theorem Check.ofJson?_record {kind : List Char} {members : List (String × Json)}
    {read : Json → Option Check} (other : ∀ m ∈ members, m.1 ≠ "kind")
    (whole : ∀ m ∈ members, m.2.isWhole = true) (h : readers.lookup kind = some read) :
    ofJson? (.record (("kind", .string kind) :: members)) = read (.record members) := by
  rw [ofJson?, Json.tagged?_record other whole]
  show (readers.lookup kind).bind _ = _
  rw [h, Option.bind_some]

theorem Check.ofJson?_toJson {c : Check} (fits : c.Fits) : ofJson? c.toJson = some c := by
  cases c with
  | digit value =>
    have reader : readers.lookup "digit".toList = some (ofValue? .digit) := rfl
    rw [toJson, ofJson?_record (by simp) (by simp [isWhole_nat]) reader]
    exact Check.ofValue?_record fits
  | code93 c k =>
    obtain ⟨hc, hk⟩ := fits
    have reader : readers.lookup "code93".toList = some ofPair? := rfl
    rw [toJson, ofJson?_record (by simp) (by simp [isWhole_nat]) reader, ofPair?,
      Json.fields?_record (by rfl) (by decide)]
    simp [needed?, nat?_nat hc, nat?_nat hk]
  | mod103 value =>
    have reader : readers.lookup "mod103".toList = some (ofValue? .mod103) := rfl
    rw [toJson, ofJson?_record (by simp) (by simp [isWhole_nat]) reader]
    exact Check.ofValue?_record fits

/-- The measures of a form fit 32 bits. -/
structure Form.Fits (f : Form) : Prop where
  widths : ∀ n ∈ f.widths, n < 2 ^ 32
  length : f.length < 2 ^ 32
  height : f.height < 2 ^ 32
  check : ∀ c ∈ f.check, c.Fits

theorem Form.rereads {f : Form} (fits : f.Fits) : Rereads f.toJson f.toJson := by
  have widths : Rereads (.list .nat f.widths) (.list .nat f.widths) :=
    rereads_list (List.forall₂_same.2 fun n hn => rereads_word (fits.widths n hn))
  have hri : Rereads (.maybe .string f.hri) (.maybe .string f.hri) :=
    rereads_maybe fun s _ => rereads_string s
  have check : Rereads (.maybe Check.toJson f.check) (.maybe Check.toJson f.check) :=
    rereads_maybe fun c hc => Check.rereads (fits.check c hc)
  refine rereads_members ?_
  simp [rereads_string, widths, hri, check, rereads_word fits.length, rereads_word fits.height]

theorem Form.ofJson?_toJson {f : Form} (fits : f.Fits) : ofJson? f.toJson = some f := by
  have widths : Json.list? (Json.nat? 32) (.list .nat f.widths) = some f.widths :=
    Json.list?_list fun n hn => nat?_nat (fits.widths n hn)
  have hri : Json.optional? Json.text? (some (.maybe .string f.hri)) = some f.hri :=
    Json.optional?_maybe fun s _ => ⟨nofun, text?_string s⟩
  have check : Json.optional? Check.ofJson? (some (.maybe Check.toJson f.check)) = some f.check :=
    Json.optional?_maybe fun c hc =>
      ⟨by cases c <;> exact nofun, Check.ofJson?_toJson (fits.check c hc)⟩
  rw [ofJson?, toJson, Json.fields?_record (by rfl) (by decide)]
  simp [needed?, text?_string, widths, hri, check, nat?_nat fits.length, nat?_nat fits.height]

end Bars

namespace Matrix

theorem Level.ofLetter?_letter (level : Level) : Level.ofLetter? level.letter = some level := by
  cases level <;> decide

/-- The size of a cell fits 32 bits. -/
def Symbol.Fits (s : Symbol) : Prop := s.cell < 2 ^ 32

theorem Symbol.rereads {s : Symbol} (fits : s.Fits) : Rereads s.toJson s.toJson := by
  refine rereads_members ?_
  simp [rereads_string, rereads_bool, rereads_word fits]

theorem Symbol.ofJson?_toJson {s : Symbol} (fits : s.Fits) : ofJson? s.toJson = some s := by
  have level := Json.choice?_string (Level.ofLetter?_letter s.level)
  rw [ofJson?, toJson, Json.fields?_record (by rfl) (by decide)]
  simp [needed?, text?_string, bool?_bool, level, nat?_nat fits]

end Matrix

end Receipt
