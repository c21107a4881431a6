import Driftwatch.Text.Offset

/-!
# Lexical context

A `Cursor` moves over source text and knows of each character whether it is code or belongs to a
string or a comment. It builds no tokens: the only question it answers is how a character is to be
taken, which is what brace matching needs.

Block comments and template strings go on from one line to the next. A string in single or double
quotes ends with its line, unless the line ends in a backslash. A backslash takes away the special
meaning of the character after it everywhere, in plain code too. What stands between backticks is
string text, interpolations included.

## Looking ahead

Three pairs of characters act as one: `//`, `/*` and `*/`. The first character of a pair is
recognised by the character after it. In between, the cursor is in a `Phase` of its own, so that
one step never covers more than one character.

A walk may stop at any character. The cursor that a stopped walk leaves behind is part of the
step: it is the one from before the closing quote, or from before the second character of a pair,
while the walk that goes on has already changed its mode.

## Main definitions

* `CharRole`: how a character is to be taken.
* `Cursor`: the context carried from one line to the next.
* `Phase.step`: one character.
* `Cursor.walk`: a line, with a visitor that may stop the walk.
* `Cursor.walkCode`, `Cursor.classify`: the visitor sees code only; the role of every
  character.
-/

namespace Driftwatch

/-- The quote that opened a string. -/
inductive Quote where
  | double
  | single
  | backtick
  deriving Repr, DecidableEq

namespace Quote

/-- The character of a quote. -/
def char : Quote → Char
  | double => '"'
  | single => '\''
  | backtick => '\u0060'

/-- The quote that a character is, if it is one. -/
def ofChar? (c : Char) : Option Quote :=
  if c = double.char then some double
  else if c = single.char then some single
  else if c = backtick.char then some backtick
  else none

/-- Only template strings run past the end of a line. -/
def isMultiline : Quote → Bool
  | backtick => true
  | _ => false

end Quote

/-- How a character is to be taken. -/
inductive CharRole where
  /-- Code, where braces count. -/
  | code
  /-- Part of a string, its quotes included. -/
  | string
  /-- Part of a comment that ends with the line. -/
  | lineComment
  /-- Part of a comment that has its own end, delimiters included. -/
  | blockComment
  /-- A backslash in code, or the character after it. -/
  | escaped
  deriving Repr, DecidableEq

/-- What the text around a cursor is. -/
inductive Mode where
  | code
  | string (quote : Quote)
  | blockComment
  deriving Repr, DecidableEq

namespace Mode

/-- The role of an ordinary character. -/
def charRole : Mode → CharRole
  | code => .code
  | string _ => .string
  | blockComment => .blockComment

/-- The role of a backslash and of the character after it. -/
def escapedRole : Mode → CharRole
  | code => .escaped
  | string _ => .string
  | blockComment => .blockComment

end Mode

/-- The context carried along a text: what surrounds the next character, and whether a backslash
stands right before it. A new cursor stands in plain code. -/
structure Cursor where
  mode : Mode := .code
  escaping : Bool := false
  deriving Repr, DecidableEq

namespace Cursor

/-- The cursor at the end of a line. A backslash at the very end keeps a plain string open and is
then used up. -/
def endLine (cursor : Cursor) : Cursor :=
  match cursor.mode with
  | .string quote =>
    if quote.isMultiline || cursor.escaping then ⟨.string quote, false⟩ else ⟨.code, false⟩
  | mode => ⟨mode, false⟩

end Cursor

/-- Where a walk stands inside a line. -/
inductive Phase where
  /-- Between two lexical units. -/
  | between (cursor : Cursor)
  /-- The second character of an opening comment delimiter comes next. -/
  | opening
  /-- The second character of a closing comment delimiter comes next. -/
  | closing
  /-- In a comment that lasts to the end of the line. -/
  | lineComment
  deriving Repr, DecidableEq

/-- What happens at one character. -/
structure Step where
  /-- How the character is to be taken. -/
  charRole : CharRole
  /-- The cursor that a walk leaves behind when it stops here. -/
  stopped : Cursor
  /-- Where a walk stands when it goes on. -/
  next : Phase
  deriving Repr, DecidableEq

namespace Phase

/-- The cursor at the end of a line that was walked to its end. -/
def endLine : Phase → Cursor
  | between cursor => cursor.endLine
  | opening => {}
  | closing => ⟨.blockComment, false⟩
  | lineComment => {}

/-- The step at a character that no backslash precedes and that is none itself. `ahead` is the
character after it. -/
def plainStep (mode : Mode) (c : Char) (ahead : Option Char) : Step :=
  let stay : Step := ⟨mode.charRole, ⟨mode, false⟩, .between ⟨mode, false⟩⟩
  match mode with
  | .blockComment =>
    if c = '*' ∧ ahead = some '/' then ⟨.blockComment, ⟨.blockComment, false⟩, .closing⟩ else stay
  | .string quote =>
    if c = quote.char then ⟨.string, ⟨.string quote, false⟩, .between {}⟩ else stay
  | .code =>
    if c = '/' ∧ ahead = some '/' then ⟨.lineComment, {}, .lineComment⟩
    else if c = '/' ∧ ahead = some '*' then ⟨.blockComment, {}, .opening⟩
    else
      match Quote.ofChar? c with
      | some quote => ⟨.string, ⟨.string quote, false⟩, .between ⟨.string quote, false⟩⟩
      | none => stay

/-- The step at a character `c` that `ahead` follows. -/
def step (phase : Phase) (c : Char) (ahead : Option Char) : Step :=
  match phase with
  | lineComment => ⟨.lineComment, {}, .lineComment⟩
  | opening => ⟨.blockComment, {}, .between ⟨.blockComment, false⟩⟩
  | closing => ⟨.blockComment, ⟨.blockComment, false⟩, .between {}⟩
  | between cursor =>
    if cursor.escaping then
      let next : Cursor := ⟨cursor.mode, false⟩
      ⟨cursor.mode.escapedRole, next, .between next⟩
    else if c = '\\' then
      let next : Cursor := ⟨cursor.mode, true⟩
      ⟨cursor.mode.escapedRole, next, .between next⟩
    else plainStep cursor.mode c ahead

end Phase

/-- One character of a walk, with its byte offset in the line. -/
structure Visit where
  offset : Nat
  char : Char
  charRole : CharRole
  deriving Repr, DecidableEq

/-- What a walk ends with: the cursor, and the visitor's value, marked `done` if the visitor
stopped the walk. -/
structure Walk (α : Type) where
  cursor : Cursor
  value : ForInStep α

namespace Walk

variable {α : Type}

/-- Whether the visitor stopped the walk. -/
def stopped (walk : Walk α) : Bool :=
  match walk.value with
  | .done _ => true
  | .yield _ => false

/-- The visitor's value. -/
def result (walk : Walk α) : α :=
  match walk.value with
  | .done a => a
  | .yield a => a

end Walk

namespace Phase

/-- Walks over the rest of a line that starts at byte `offset`. -/
def walk {α : Type} (visit : Visit → α → ForInStep α) :
    Phase → Nat → List Char → α → Walk α
  | phase, _, [], value => ⟨phase.endLine, .yield value⟩
  | phase, offset, c :: rest, value =>
    let now := phase.step c rest.head?
    match visit ⟨offset, c, now.charRole⟩ value with
    | .done value => ⟨now.stopped, .done value⟩
    | .yield value => walk visit now.next (offset + c.utf8Size) rest value

end Phase

namespace Cursor

variable {α : Type}

/-- Walks over a line from byte `start` on. If no character starts there and the line does not end
there, the line is passed over and the cursor stays as it is. -/
def walk (cursor : Cursor) (line : List Char) (start : Nat)
    (visit : Visit → α → ForInStep α) (value : α) : Walk α :=
  match dropBytes? start line with
  | none => ⟨cursor, .yield value⟩
  | some rest => (Phase.between cursor).walk visit start rest value

/-- Walks over a line with a visitor that sees code only. -/
def walkCode (cursor : Cursor) (line : List Char) (start : Nat)
    (visit : Nat → Char → α → ForInStep α) (value : α) : Walk α :=
  cursor.walk line start (fun seen value =>
    match seen.charRole with
    | .code => visit seen.offset seen.char value
    | _ => .yield value) value

/-- The roles of all characters of a line, and the cursor after it. -/
def classify (cursor : Cursor) (line : List Char) : Walk (List CharRole) :=
  let walk := cursor.walk line 0 (fun seen roles => .yield (seen.charRole :: roles)) []
  ⟨walk.cursor, .yield walk.result.reverse⟩

end Cursor

end Driftwatch
