import Driftwatch.Text.Number

/-!
# Places in a YAML text

Indentation carries meaning in YAML, so a place in the text is the remaining text together with a
line, a column and an index. Five characters break lines here. A line break that is read into a
scalar becomes a line feed, except for the two Unicode separators, which stay what they are.

## Main definitions

* `Mark`: a place, with `Mark.skip`, `Mark.skipLine` and `Mark.brokenLine`.
* `isYamlChar`: the characters that a text may hold.
-/

namespace Driftwatch.Yaml

/-- A character that ends a line. -/
def isBreak (c : Char) : Bool :=
  c == '\n' || c == '\r' || c == '\u0085' || c == '\u2028' || c == '\u2029'

/-- A character that separates tokens within a line. -/
def isSpace (c : Char) : Bool :=
  c == ' ' || c == '\t'

/-- A character of names of anchors and tag handles. -/
def isNameChar (c : Char) : Bool :=
  c.isAlphanum || c == '_' || c == '-'

/-- A character that a text may hold. Controls other than tabs and line ends are not allowed. -/
def isYamlChar (c : Char) : Bool :=
  let n := c.toNat
  n == 9 || n == 10 || n == 13 || (0x20 ≤ n && n ≤ 0x7E) || n == 0x85 ||
    (0xA0 ≤ n && n ≤ 0xFFFD) || 0x10000 ≤ n

/-- Whether a text ends or starts with a separator. -/
def atSpaceOrEnd : List Char → Bool
  | [] => true
  | c :: _ => isSpace c || isBreak c

/-- Whether a line ends at the beginning of a text. -/
def atLineEnd : List Char → Bool
  | [] => true
  | c :: _ => isBreak c

/-- A place in a text. -/
structure Mark where
  rest : List Char
  index : Nat := 0
  line : Nat := 0
  column : Nat := 0
  deriving Repr, DecidableEq

namespace Mark

/-- The place after one character of a line. -/
def skip (mark : Mark) : Mark :=
  match mark.rest with
  | [] => mark
  | _ :: rest => ⟨rest, mark.index + 1, mark.line, mark.column + 1⟩

/-- The place after some characters of a line. -/
def skipMany (mark : Mark) (count : Nat) : Mark :=
  ⟨mark.rest.drop count, mark.index + count, mark.line, mark.column + count⟩

/-- The place after a line break, if there is one. -/
def skipLine (mark : Mark) : Mark :=
  match mark.rest with
  | '\r' :: '\n' :: rest => ⟨rest, mark.index + 2, mark.line + 1, 0⟩
  | c :: rest => if isBreak c then ⟨rest, mark.index + 1, mark.line + 1, 0⟩ else mark
  | [] => mark

/-- What a line break becomes in a scalar. -/
def brokenLine (mark : Mark) : List Char :=
  match mark.rest with
  | [] => []
  | c :: _ => if c == '\u2028' || c == '\u2029' then [c] else if isBreak c then ['\n'] else []

/-- The place after the characters of a line that satisfy `p`. -/
def skipWhile (mark : Mark) (p : Char → Bool) : Mark :=
  mark.skipMany (mark.rest.takeWhile p).length

/-- Whether the rest of the line starts with one of the two marks of documents. -/
def atDocumentMark (mark : Mark) : Bool :=
  mark.column == 0 &&
    match mark.rest with
    | '-' :: '-' :: '-' :: rest => atSpaceOrEnd rest
    | '.' :: '.' :: '.' :: rest => atSpaceOrEnd rest
    | _ => false

end Mark

end Driftwatch.Yaml
