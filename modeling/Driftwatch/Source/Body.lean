import Driftwatch.Source.Brace
import Driftwatch.Source.Kind
import Driftwatch.Text.Blank

/-!
# Where a declaration ends

The line of a declaration shows how its body is delimited: by a brace on the line, by a brace on a
line soon after, by the end of an expression or by the end of an interface. The kind of body decides
how the last line is found. Every search forward has a window, except the one for a closing brace.
When nothing is found, the declaration ends where it starts.

## Main definitions

* `Body`, with `Body.ofFunctionLine` and `Body.ofClassLine`.
* `endLine`: the number of the last line.
-/

namespace Driftwatch

/-- How the body of a declaration is delimited. Offsets are in bytes and name an opening brace. -/
inductive Body where
  /-- An arrow with a brace after it. -/
  | arrowBlock (brace : Nat)
  /-- An arrow without a brace after it. -/
  | arrowExpression
  /-- A brace on the line of the declaration. -/
  | block (brace : Nat)
  /-- The brace, if any, is on a later line. -/
  | blockAhead
  /-- The body of a class, if a brace is on the line. -/
  | classBody (brace : Option Nat)
  /-- An interface or a type, which a closing brace or a semicolon ends. -/
  | typeLike
  deriving Repr, DecidableEq

namespace Body

/-- The body that a line with a function opens. -/
def ofFunctionLine (line : List Char) : Body :=
  match arrowOffset? line with
  | some (offset, rest) =>
    match offsetOf? (· == '{') rest with
    | some brace => arrowBlock (offset + brace)
    | none => arrowExpression
  | none =>
    match offsetOf? (· == '{') line with
    | some brace => block brace
    | none => blockAhead

/-- The body that a line with a class, an interface or a type opens. -/
def ofClassLine (line : List Char) (kind : ClassKind) : Body :=
  if kind.hasMethods then classBody (offsetOf? (· == '{') line) else typeLike

end Body

/-- Lines that are searched for the end of an expression. -/
def expressionWindow : Nat := 3

/-- Lines that are searched for an opening brace. -/
def blockWindow : Nat := 5

/-- Lines that are searched for the end of an interface or a type. -/
def declarationWindow : Nat := 50

/-- A line that ends a statement: its last visible character is a semicolon or a comma. -/
def closesStatement (line : List Char) : Bool :=
  let last := (trim line).getLast?
  last == some ';' || last == some ','

/-- A line that ends an interface or a type. -/
def endsDeclaration (line : List Char) : Bool :=
  line.contains '}' || (trim line).getLast? == some ';'

/-- The number of the first line that satisfies `p`, where the first line given has the number
`number`. -/
def firstLine? (p : List Char → Bool) (number : Nat) : List (List Char) → Option Nat
  | [] => none
  | line :: following => if p line then some number else firstLine? p (number + 1) following

/-- The first line with an opening brace, as its index and the offset of the brace. The first line
given has the index `index`. -/
def firstBrace? (index : Nat) : List (List Char) → Option (Nat × Nat)
  | [] => none
  | line :: following =>
    match offsetOf? (· == '{') line with
    | some brace => some (index, brace)
    | none => firstBrace? (index + 1) following

/-- The number of the last line of a declaration that starts on line `start`. Lines are counted from
one, and a number that is no line of the text is given back. -/
def endLine (lines : List (List Char)) (start : Nat) (body : Body) : Nat :=
  if start = 0 ∨ lines.length < start then start
  else
    let following := lines.drop start
    match body with
    | .arrowBlock brace | .block brace | .classBody (some brace) =>
      closingLine lines (start - 1) brace
    | .classBody none => start
    | .arrowExpression =>
      if (lines[start - 1]?).any closesStatement then start
      else (firstLine? closesStatement (start + 1) (following.take expressionWindow)).getD start
    | .blockAhead =>
      match firstBrace? start (following.take blockWindow) with
      | some (index, brace) => closingLine lines index brace
      | none => start
    | .typeLike =>
      (firstLine? endsDeclaration (start + 1) (following.take declarationWindow)).getD start

end Driftwatch
