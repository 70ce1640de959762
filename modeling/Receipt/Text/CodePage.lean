import Receipt.Text.Blank

/-!
# Code pages

The character sets a printer can be set to. A page is asked for by its name or by an alias; a name
typed by a person may have any case and white space around it.

| here | in `text/encoding` |
| --- | --- |
| `CodePage`, `all` | `Encoding`, `ALL` |
| `name`, `ofName?` | `name` |
| `ofText?` | `from_str` |
| `isDoubleByte` | `multibyte_codec` |
-/

namespace Receipt.Text

inductive CodePage where
  | cp437 | cp852 | cp858 | cp860 | cp863 | cp865 | cp866 | cp1252
  /-- Japanese, Shift_JIS -/
  | cp932
  /-- Simplified Chinese, GB 18030 -/
  | cp936
  /-- Korean, KS C 5601 -/
  | cp949
  /-- Traditional Chinese, Big5 -/
  | cp950
  /-- Several single-byte pages mixed -/
  | multilingual
  /-- Thai, TIS-620 -/
  | tis620
  deriving DecidableEq, Repr

namespace CodePage

/-- The name a page is listed under. -/
def name : CodePage → List Char
  | cp437 => "cp437".toList
  | cp852 => "cp852".toList
  | cp858 => "cp858".toList
  | cp860 => "cp860".toList
  | cp863 => "cp863".toList
  | cp865 => "cp865".toList
  | cp866 => "cp866".toList
  | cp1252 => "cp1252".toList
  | cp932 => "cp932".toList
  | cp936 => "cp936".toList
  | cp949 => "cp949".toList
  | cp950 => "cp950".toList
  | multilingual => "multilingual".toList
  | tis620 => "tis620".toList

def all : List CodePage :=
  [cp437, cp852, cp858, cp860, cp863, cp865, cp866, cp1252, cp932, cp936, cp949, cp950,
    multilingual, tis620]

/-- Further names of the double-byte pages. -/
def aliases : List (List Char × CodePage) :=
  [("shiftjis".toList, cp932), ("gb18030".toList, cp936), ("ksc5601".toList, cp949),
    ("big5".toList, cp950)]

/-- The page with exactly this name or alias. -/
def ofName? (s : List Char) : Option CodePage :=
  (all.find? (·.name = s)).or (aliases.lookup s)

/-- The page a person means by `s`. -/
def ofText? (s : List Char) : Option CodePage := ofName? (lower (trimBy isSpace s))

/-- Whether a character of the page may take two bytes. -/
def isDoubleByte : CodePage → Bool
  | cp932 | cp936 | cp949 | cp950 => true
  | _ => false

theorem ofName?_name (p : CodePage) : ofName? p.name = some p := by cases p <;> decide

end CodePage

end Receipt.Text
