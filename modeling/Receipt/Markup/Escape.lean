import Receipt.Text.Digits

/-!
# Escapes

A backslash takes the special meaning from the character after it. The characters that divide a
line are turned into placeholders, `\x` and two hexadecimal digits, before the line is divided, so
that they divide nothing; decorations likewise before text is cut into segments. `decode` turns
placeholders back into characters.

| here | in `markup/escape` |
| --- | --- |
| `protect` | `protect_delimiters` |
| `protectSemicolons` | `protect_semicolons` |
| `isControlCode` | `is_control_placeholder` |
| `prepare` | `prepare_text` |
| `decode` | `decode` |
-/

namespace Receipt.Markup

open Text (hexDigit? hexByte)

/-- A character below U+0100 in disguise. -/
def placeholder (c : Char) : List Char := '\\' :: 'x' :: hexByte c.toNat

/-- The characters that divide a line, and the backslash. -/
def isDelimiter (c : Char) : Bool := c = '\\' || c = '{' || c = '|' || c = '}'

/-- Escaped delimiters become placeholders. -/
def protect : List Char → List Char
  | [] => []
  | '\\' :: c :: r => if isDelimiter c then placeholder c ++ protect r else '\\' :: protect (c :: r)
  | c :: r => c :: protect r

/-- Escaped semicolons become placeholders. -/
def protectSemicolons : List Char → List Char
  | [] => []
  | '\\' :: ';' :: r => placeholder ';' ++ protectSemicolons r
  | c :: r => c :: protectSemicolons r

/-- The control characters of ASCII. -/
def isControl (c : Char) : Bool := c < ' ' || c = '\x7f'

/-- Whether two characters are the digits of a control character. -/
def isControlCode (hi lo : Char) : Bool :=
  ((hi = '0' || hi = '1') && (hexDigit? lo).isSome) || (hi = '7' && (lo = 'f' || lo = 'F'))

/-- The characters that decorate text, and those that are made up of in rule lines. -/
def isDecoration (c : Char) : Bool :=
  c = '-' || c = '=' || c = '_' || c = '"' || c = '\x60' || c = '^' || c = '~'

/-- Text without controls in front of its segmentation: placeholders of controls vanish, escaped
decorations become placeholders, `\n` a line feed and a tilde a space. -/
def prepareVisible : List Char → List Char
  | [] => []
  | '\\' :: 'x' :: hi :: lo :: r =>
    if isControlCode hi lo then prepareVisible r else '\\' :: prepareVisible ('x' :: hi :: lo :: r)
  | '\\' :: c :: r =>
    if isDecoration c then placeholder c ++ prepareVisible r
    else if c = 'n' then '\n' :: prepareVisible r
    else '\\' :: prepareVisible (c :: r)
  | c :: r => (if c = '~' then ' ' else c) :: prepareVisible r

/-- Text made ready to be cut into segments; controls in it vanish. -/
def prepare (s : List Char) : List Char := prepareVisible (s.filter fun c => !isControl c)

/-- Placeholders become characters. Of a placeholder without two digits the `\x` is lost, of any
other backslash the character after it too. -/
def decode : List Char → List Char
  | [] => []
  | '\\' :: 'x' :: hi :: lo :: r =>
    match hexDigit? hi, hexDigit? lo with
    | some a, some b => Char.ofNat (a * 16 + b) :: decode r
    | _, _ => decode (hi :: lo :: r)
  | '\\' :: 'x' :: r => decode r
  | '\\' :: _ :: r => decode r
  | ['\\'] => []
  | c :: r => c :: decode r

theorem decode_placeholder {c : Char} (h : c.toNat < 256) (r : List Char) :
    decode (placeholder c ++ r) = c :: decode r := by
  have h₁ : c.toNat / 16 < 16 := by omega
  have h₂ : c.toNat % 16 < 16 := by omega
  have h₃ : c.toNat / 16 * 16 + c.toNat % 16 = c.toNat := by omega
  simp [placeholder, hexByte, decode, Text.hexDigit?_digitChar h₁, Text.hexDigit?_digitChar h₂, h₃,
    Char.ofNat_toNat]

end Receipt.Markup
