/-!
# Blanks, pieces and letter case

The markup knows two blanks, the space and the tab. Text is a list of characters throughout, so
that every rule can be read off its characters from the left.

The blanks are those of `markup`, white space and letter case those of `from_str` in `text/encoding`
and `tokens` in `markup/property`.
-/

namespace Receipt.Text

/-- The characters that only pad: space and tab. -/
def isBlank (c : Char) : Bool := c = ' ' || c = '\t'

/-- `s` without the characters at its end that satisfy `p`. -/
def dropEndWhile (p : Char → Bool) (s : List Char) : List Char :=
  (s.reverse.dropWhile p).reverse

/-- `s` without the characters at either end that satisfy `p`. -/
def trimBy (p : Char → Bool) (s : List Char) : List Char := dropEndWhile p (s.dropWhile p)

/-- `s` without the blanks around it. -/
def trim (s : List Char) : List Char := trimBy isBlank s

/-- Whether a blank comes first. -/
def startsBlank : List Char → Bool
  | c :: _ => isBlank c
  | [] => false

/-- Whether a blank comes last. -/
def endsBlank (s : List Char) : Bool := s.getLast?.any isBlank

/-! ## Splitting -/

/-- The piece before the first `sep`, and the pieces after each one. -/
def split (sep : Char) : List Char → List Char × List (List Char)
  | [] => ([], [])
  | c :: r =>
    let (piece, more) := split sep r
    if c = sep then ([], piece :: more) else (c :: piece, more)

/-- The pieces between separators; there is always one. -/
def pieces (sep : Char) (s : List Char) : List (List Char) :=
  let (piece, more) := split sep s
  piece :: more

/-- `head` and the pieces of `more`, with `sep` in front of each of these. -/
def join (sep : Char) (head : List Char) (more : List (List Char)) : List Char :=
  head ++ more.flatMap (sep :: ·)

/-- The nonempty runs of characters that are no separator. -/
def words (isSep : Char → Bool) : List Char → List (List Char)
  | [] => []
  | c :: r =>
    if isSep c then words isSep r
    else match r, words isSep r with
      | d :: _, word :: more => if isSep d then [c] :: word :: more else (c :: word) :: more
      | _, more => [c] :: more

/-! ## White space and letter case -/

/-- The Unicode white space characters. -/
def isSpace (c : Char) : Bool :=
  c = ' ' || ('\t' ≤ c && c ≤ '\r') || c = '\u0085' || c = '\u00a0' || c = '\u1680'
    || ('\u2000' ≤ c && c ≤ '\u200a') || c = '\u2028' || c = '\u2029' || c = '\u202f'
    || c = '\u205f' || c = '\u3000'

/-- Lower case as far as a keyword can tell: ASCII letters, and the Kelvin sign, whose lower case
is the ASCII `k`. No keyword has any other letter. -/
def lowerChar (c : Char) : Char := if c = '\u212a' then 'k' else c.toLower

def lower (s : List Char) : List Char := s.map lowerChar

end Receipt.Text
