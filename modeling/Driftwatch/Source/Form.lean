import Driftwatch.Text.Blank
import Driftwatch.Text.Literal
import Driftwatch.Text.Word

/-!
# Forms of declarations

A declaration is recognised by how its line begins. A `Form` describes such a beginning as a
sequence of pieces: words that must stand there, white space that may or must, the declared name and
the list of parameters.

Each piece takes as much as it can and never gives anything back. That loses no line: a name is
always followed by a character that no name holds, and a parameter list ends at its first closing
parenthesis. So there is at most one way to read a line in a given form.

## Main definitions

* `Piece`: one piece, with `Piece.read` for taking it off a line.
* `Form`: the pieces of a kind of declaration, with `Form.read`.
-/

namespace Driftwatch

/-- A piece of a declaration. -/
inductive Piece where
  /-- White space, possibly none. -/
  | blanks
  /-- White space, at least one character. -/
  | gap
  /-- A word or symbol. -/
  | literal (chars : List Char)
  /-- A word that introduces a binding: `const`, `let` or `var`. -/
  | binder
  /-- The declared name. -/
  | name
  /-- A parameter list in parentheses. -/
  | parameters
  /-- Anything without an equals sign up to an arrow, taken as a parameter list. -/
  | bareParameters
  /-- A clause that names the extended class, if there is one. -/
  | heritage
  deriving Repr, DecidableEq

/-- What a declaration gives: its name and its parameter list as it was written. -/
structure Captures where
  name : List Char := []
  parameters : List Char := []
  deriving Repr, DecidableEq

/-- A line that is partly read: what was captured and what is left. -/
abbrev Reading := Captures × List Char

/-- Takes white space off a text, at least one character. -/
def takeGap? : List Char → Option (List Char)
  | [] => none
  | c :: rest => if isBlank c then some (trimLeft rest) else none

/-- Takes a name off a text: the name and what is left. -/
def takeWord? (text : List Char) : Option (List Char × List Char) :=
  match text.takeWhile isWord with
  | [] => none
  | word => some (word, text.dropWhile isWord)

/-- Takes one of the words that introduce a binding off a text. -/
def takeBinder? (text : List Char) : Option (List Char) :=
  (takeText? "const".toList text).or
    ((takeText? "let".toList text).or (takeText? "var".toList text))

/-- Takes a list in parentheses off a text: what stands between them and what is left. -/
def takeParameters? : List Char → Option (List Char × List Char)
  | '(' :: text =>
    match text.dropWhile (· != ')') with
    | [] => none
    | _ :: rest => some (text.takeWhile (· != ')'), rest)
  | _ => none

/-- Takes a text up to an arrow off a text, the arrow included. No equals sign may come before
the arrow. White space around the list is left out of it. -/
def takeBareParameters? (text : List Char) : Option (List Char × List Char) :=
  match text.dropWhile (· != '=') with
  | '=' :: '>' :: rest => some (trim (text.takeWhile (· != '=')), rest)
  | _ => none

/-- Takes a clause that names the extended class off a text. -/
def takeHeritage? (text : List Char) : Option (List Char) := do
  let text ← takeGap? text
  let text ← takeText? "extends".toList text
  let text ← takeGap? text
  let (_, text) ← takeWord? text
  return text

/-- Takes a piece off a line. -/
def Piece.read (piece : Piece) (reading : Reading) : Option Reading :=
  let (captures, text) := reading
  match piece with
  | blanks => some (captures, trimLeft text)
  | gap => (takeGap? text).map (captures, ·)
  | literal chars => (takeText? chars text).map (captures, ·)
  | binder => (takeBinder? text).map (captures, ·)
  | name => (takeWord? text).map fun (word, rest) => ({ captures with name := word }, rest)
  | parameters =>
    (takeParameters? text).map fun (list, rest) => ({ captures with parameters := list }, rest)
  | bareParameters =>
    (takeBareParameters? text).map fun (list, rest) => ({ captures with parameters := list }, rest)
  | heritage => some (captures, (takeHeritage? text).getD text)

/-- A form of declarations of one kind. -/
structure Form (κ : Type) where
  kind : κ
  pieces : List Piece

/-- Takes pieces off a line in their order. -/
def readPieces : List Piece → Reading → Option Reading
  | [], reading => some reading
  | piece :: pieces, reading => (piece.read reading).bind (readPieces pieces)

/-- Reads the beginning of a line in a form. -/
def Form.read {κ : Type} (form : Form κ) (line : List Char) : Option Captures :=
  (readPieces form.pieces ({}, line)).map (·.1)

end Driftwatch
