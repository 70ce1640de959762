import Receipt.Markup.Block
import Receipt.Markup.Value

/-!
# Reading a line

A line is divided at its pipes into columns. A line of one column may be a rule or a block that
changes the settings; columns of longer lines are text, and blocks among them do nothing. Columns
at fault are marked and carry no text.

| here | in `markup/parser` |
| --- | --- |
| `padEdges` | `pad_edge_columns` |
| `segments` | `segments` |
| `isRuleOf` | `is_rule` |
| `State.widthAt` | `resolve_width` |
| `toggle?`, `State.apply` | `apply_properties` |
| `Block.payload` | `block_payload` |
| `readAlone`, `readBeside` | `parse_column` |
| `divide`, `State.complete`, `readLine` | `parse_line` |
-/

namespace Receipt.Markup

/-! ## Text -/

/-- The segment that stands for a character, text aside. -/
def Segment.ofChar? : Char → Option Segment
  | '_' => some .underline
  | '"' => some .emphasis
  | '\x60' => some .invert
  | '\n' => some .lineBreak
  | '^' => some (.scale 1)
  | _ => none

/-- `c` in front of segments: text grows, and so does a run of carets, up to seven. -/
def Segment.cons (c : Char) (rest : List Segment) : List Segment :=
  match Segment.ofChar? c, rest with
  | none, .text t :: r => .text (c :: t) :: r
  | none, r => .text [c] :: r
  | some (.scale _), .scale n :: r => .scale (min 7 (n + 1)) :: r
  | some mark, r => mark :: r

/-- Placeholders in text become characters. -/
def Segment.decode : Segment → Segment
  | .text t => .text (Markup.decode t)
  | s => s

/-- The segments of a column of text. -/
def segments (element : List Char) : List Segment :=
  ((prepare element).foldr Segment.cons []).map Segment.decode

/-! ## Dividing a line -/

/-- Whether text stands right before the first pipe. -/
def touchesFirst (front : List Char) : Bool := !front.isEmpty && !Text.endsBlank front

/-- Whether text stands right after the last pipe. -/
def touchesLast (back : List Char) : Bool := !back.isEmpty && !Text.startsBlank back

/-- Text that stands right before the first pipe or right after the last one is given a blank on
its outer side as well: `A|` reads as ` A|`, and `|A` as `|A `. -/
def padEdges (line : List Char) : List Char :=
  match Text.split '|' line with
  | (_, []) => line
  | (front, more) =>
    (if touchesFirst front then [' '] else []) ++ line
      ++ (if touchesLast (more.getLast?.getD []) then [' '] else [])

/-- A line without a pipe at either end. -/
def dropEdges (line : List Char) : List Char :=
  let body := if line.head? = some '|' then line.drop 1 else line
  if body.getLast? = some '|' then body.dropLast else body

/-- The columns of a line as written. -/
def divide (line : List Char) : List Char × List (List Char) :=
  Text.split '|' (dropEdges (padEdges (protect (Text.trim line))))

/-! ## Columns -/

/-- Where a column stands: a blank in front moves it right, a blank behind moves it left. -/
def alignOf (raw : List Char) : Nat :=
  1 + (if Text.startsBlank raw then 1 else 0) - (if Text.endsBlank raw then 1 else 0)

/-- The width of a column from the widths in force. What is no text stands alone and is as wide as
all columns together. -/
def State.widthAt (s : State) (index : Nat) (isText : Bool) : Int :=
  if s.widths.isEmpty then -1
  else if isText then s.widths.getD index 0
  else if s.widths.any (· < 0) then -1
  else
    let fixed := s.widths.filter (0 < ·)
    if fixed.isEmpty then 0
    else min (borderCells s.border fixed.length + fixed.foldr (· + ·) 0) Value.widest

/-- A column with the settings in force. -/
def State.column (s : State) (align index : Nat) (payload : Payload) (toggle : Option Toggle)
    (fault : Option (List Char)) : Column :=
  { align
    wrap := s.wrap
    border := s.border
    width := s.widthAt index payload.isText
    alignment := s.alignment
    payload
    toggle
    fault }

/-- Whether a column is nothing but `c`. -/
def isRuleOf (c : Char) (element : List Char) : Bool := !element.isEmpty && element.all (· = c)

def hasBrace (element : List Char) : Bool := element.contains '{' || element.contains '}'

/-- What the change from one border to another asks of the ruling. -/
def toggle? (wasRuled isRuled : Bool) : Option Toggle :=
  match wasRuled, isRuled with
  | false, true => some .start
  | true, false => some .stop
  | _, _ => none

/-- The settings after a block. -/
def State.apply (s : State) (b : Block) : State :=
  { s with
    wrap := ((b.get? "text").map Value.wrap).getD s.wrap
    border := ((b.get? "border").map Value.border).getD s.border
    widths := ((b.get? "width").map Value.widths).getD s.widths
    alignment := ((b.get? "align").map Value.alignment).getD s.alignment
    codes := ((b.get? "option").map (Value.codeStyle s.codes.quietZone)).getD s.codes }

/-- The code that data makes in a style. -/
def CodeStyle.payload (o : CodeStyle) (data : List Char) : Payload :=
  if o.symbology = .qrCode then .matrix ⟨data, o.level, o.cell, o.quietZone⟩
  else
    .barcode
      { data
        symbology := o.symbology
        module := o.module
        height := o.height
        hri := o.hri
        quietZone := o.quietZone }

/-- What a block prints, drawn in the style it leaves behind: an image before a code, a code before
a command. -/
def Block.payload (b : Block) (codes : CodeStyle) : Payload :=
  match b.get? "image", b.get? "code", b.get? "command", b.get? "comment" with
  | some data, _, _, _ => .image (Value.image data)
  | none, some data, _, _ => codes.payload data
  | none, none, some s, _ => .command s
  | none, none, none, some s => .comment s
  | none, none, none, none => .settings

/-- Reads the column of a line that has no other, and changes the settings. -/
def readAlone (raw : List Char) (s : State) : Column × State :=
  let element := Text.trim raw
  match Block.inner? element with
  | some inside =>
    let b := Block.ofInner inside
    let t := s.apply b
    let payload := if b.isFaulty then .settings else b.payload t.codes
    let fault := if b.isFaulty then some element else none
    (t.column (alignOf raw) 0 payload (toggle? s.isRuled t.isRuled) fault, t)
  | none =>
    let column payload fault := (s.column (alignOf raw) 0 payload none fault, s)
    if hasBrace element then column (.text []) (some element)
    else if isRuleOf '-' element then column (.mark .horizontal) none
    else if isRuleOf '=' element then column (.mark .cut) none
    else column (.text (segments element)) none

/-- Reads a column of a line that has others. -/
def readBeside (s : State) (index : Nat) (raw : List Char) : Column :=
  let element := Text.trim raw
  let column payload fault := s.column (alignOf raw) index payload none fault
  match Block.inner? element with
  | some inside =>
    column .settings (if (Block.ofInner inside).isFaulty then some element else none)
  | none =>
    if hasBrace element then column (.text []) (some element)
    else column (.text (segments element)) none

/-- Columns without text for the widths from `count` on. -/
def State.padding (s : State) (count : Nat) : List Column :=
  (s.widths.drop count).map fun width =>
    { align := 2
      wrap := s.wrap
      border := s.border
      width
      alignment := s.alignment
      payload := .text [] }

/-- A line of text has a column for each width. -/
def State.complete (s : State) (columns : List Column) : List Column :=
  if columns.all Column.isText then columns ++ s.padding columns.length else columns

/-- Reads a line: its columns, and the settings after it. -/
def readLine (line : List Char) (s : State) : List Column × State :=
  match divide line with
  | (raw, []) =>
    let (column, t) := readAlone raw s
    (t.complete [column], t)
  | (raw, more) => (s.complete ((raw :: more).mapIdx (readBeside s)), s)

end Receipt.Markup
