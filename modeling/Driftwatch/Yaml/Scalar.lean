import Driftwatch.Yaml.Mark

/-!
# Scalars of a YAML text

A scalar is written plainly, in single or double quotes, or as a block of indented lines. A line
break inside a scalar is folded: one break becomes a blank, and of several the first is dropped.
Literal blocks keep their breaks.

## Main definitions

* `Tag`: what a tag resolves to.
* `Scalar`: a text, how it was written and its tag.
* `readQuoted`, `readPlain`, `readBlock`: the three ways to write one.
-/

namespace Driftwatch.Yaml

/-- How a scalar was written. -/
inductive Style where
  | plain
  | quoted
  | literal
  | folded
  deriving Repr, DecidableEq

/-- A tag. Its bytes can be written one by one, so they need not be those of a text. -/
abbrev Tag := List UInt8

/-- The tag with a text. -/
def Tag.ofText (text : String) : Tag :=
  text.toUTF8.toList

/-- The text of a tag, if it has one. -/
def Tag.text? (tag : Tag) : Option String :=
  String.fromUTF8? ⟨tag.toArray⟩

/-- A scalar with its tag, if it has one. -/
structure Scalar where
  text : String
  style : Style
  tag : Option Tag := none
  deriving Repr, DecidableEq

/-- Separators read inside a scalar that may turn out to be part of it. -/
structure Gap where
  /-- Whether a line was broken. -/
  broken : Bool := false
  /-- Blanks before the first break. -/
  blanks : List Char := []
  /-- The first break. -/
  first : List Char := []
  /-- Further breaks. -/
  others : List Char := []
  deriving Repr, DecidableEq

namespace Gap

/-- What the separators contribute to a scalar. -/
def folded (gap : Gap) : List Char :=
  if gap.broken then
    if gap.first = ['\n'] then if gap.others.isEmpty then [' '] else gap.others
    else gap.first ++ gap.others
  else gap.blanks

/-- Whether nothing was read. -/
def isEmpty (gap : Gap) : Bool :=
  !gap.broken && gap.blanks.isEmpty

end Gap

/-- Reads separators. With a `margin`, a tab on a later line before that column is refused. The
first argument bounds the number of characters. -/
def readGap (margin : Option Nat) : Nat → Mark → Gap → Option (Mark × Gap)
  | 0, mark, gap => some (mark, gap)
  | fuel + 1, mark, gap =>
    match mark.rest with
    | [] => some (mark, gap)
    | c :: _ =>
      if isSpace c then
        if gap.broken then
          if c == '\t' && margin.any (mark.column < ·) then none
          else readGap margin fuel mark.skip gap
        else readGap margin fuel mark.skip { gap with blanks := gap.blanks ++ [c] }
      else if isBreak c then
        if gap.broken then
          readGap margin fuel mark.skipLine { gap with others := gap.others ++ mark.brokenLine }
        else
          readGap margin fuel mark.skipLine ⟨true, [], mark.brokenLine, gap.others⟩
      else some (mark, gap)

/-! ### Quoted scalars -/

/-- The character that a letter after a backslash stands for. -/
def escapedChar? (c : Char) : Option Char :=
  match c with
  | '0' => some '\x00'
  | 'a' => some '\x07'
  | 'b' => some '\x08'
  | 't' => some '\t'
  | '\t' => some '\t'
  | 'n' => some '\n'
  | 'v' => some '\x0b'
  | 'f' => some '\x0c'
  | 'r' => some '\r'
  | 'e' => some '\x1b'
  | ' ' => some ' '
  | '"' => some '"'
  | '/' => some '/'
  | '\\' => some '\\'
  | 'N' => some '\u0085'
  | '_' => some '\u00a0'
  | 'L' => some '\u2028'
  | 'P' => some '\u2029'
  | _ => none

/-- The number of hexadecimal digits that follow a letter after a backslash. -/
def escapeWidth? (c : Char) : Option Nat :=
  match c with
  | 'x' => some 2
  | 'u' => some 4
  | 'U' => some 8
  | _ => none

/-- An escape after its backslash: the character meant and the number of characters that spell
it. -/
def readEscape? : List Char → Option (Char × Nat)
  | [] => none
  | c :: rest =>
    match escapedChar? c with
    | some meant => some (meant, 1)
    | none => do
      let width ← escapeWidth? c
      let digits := rest.take width
      if digits.length < width then none
      else
        let code ← digitsValue? 16 digits
        if code.isValidChar then some (Char.ofNat code, width + 1) else none

/-- Reads a quoted scalar after its opening quote. The text so far is given in reverse. -/
def readQuotedFrom (double : Bool) : Nat → Mark → List Char → Option (Mark × List Char)
  | 0, _, _ => none
  | fuel + 1, mark, read =>
    let close := if double then '"' else '\''
    if mark.atDocumentMark then none
    else
      match mark.rest with
      | [] => none
      | c :: rest =>
        if isSpace c || isBreak c then
          match readGap none mark.rest.length mark {} with
          | some (mark, gap) => readQuotedFrom double fuel mark (gap.folded.reverse ++ read)
          | none => none
        else if !double && c == '\'' && rest.head? == some '\'' then
          readQuotedFrom double fuel (mark.skipMany 2) ('\'' :: read)
        else if c == close then some (mark.skip, read.reverse)
        else if double && c == '\\' then
          if rest.head?.any isBreak then
            -- A break after a backslash leaves nothing, further breaks stay.
            let start : Gap := { broken := true }
            match readGap none mark.rest.length mark.skip.skipLine start with
            | some (mark, gap) => readQuotedFrom double fuel mark (gap.folded.reverse ++ read)
            | none => none
          else
            match readEscape? rest with
            | some (meant, width) =>
              readQuotedFrom double fuel (mark.skipMany (width + 1)) (meant :: read)
            | none => none
        else readQuotedFrom double fuel mark.skip (c :: read)

/-- Reads a quoted scalar from its opening quote on. -/
def readQuoted (double : Bool) (mark : Mark) : Option (Mark × Scalar) :=
  (readQuotedFrom double (mark.rest.length + 1) mark.skip []).map fun found =>
    (found.1, ⟨String.ofList found.2, .quoted, none⟩)

/-! ### Plain scalars -/

/-- A character that ends a plain scalar inside brackets. -/
def isFlowMark (c : Char) : Bool :=
  c == ',' || c == '[' || c == ']' || c == '{' || c == '}'

/-- Whether a plain scalar ends before this character. -/
def endsPlain (inFlow : Bool) (c : Char) (rest : List Char) : Bool :=
  (c == ':' && atSpaceOrEnd rest) || (inFlow && isFlowMark c)

/-- A colon directly before a mark of a bracket is refused inside brackets. -/
def isBadColon (inFlow : Bool) (c : Char) (rest : List Char) : Bool :=
  inFlow && c == ':' && rest.head?.any fun next => isFlowMark next || next == '?'

/-- Reads a plain scalar. `gap` holds the separators read since the last character of the scalar,
and `read` is the text so far in reverse. -/
def readPlainFrom (inFlow : Bool) (margin : Nat) :
    Nat → Mark → Gap → List Char → Option (Mark × Gap × List Char)
  | 0, _, _, _ => none
  | fuel + 1, mark, gap, read =>
    match mark.rest with
    | [] => some (mark, gap, read.reverse)
    | c :: rest =>
      if isSpace c || isBreak c then
        match readGap (some margin) mark.rest.length mark gap with
        | none => none
        | some (mark, gap) =>
          if !inFlow && mark.column < margin then some (mark, gap, read.reverse)
          else if mark.atDocumentMark || mark.rest.head? == some '#' then
            some (mark, gap, read.reverse)
          else readPlainFrom inFlow margin fuel mark gap read
      else if isBadColon inFlow c rest then none
      else if endsPlain inFlow c rest then some (mark, gap, read.reverse)
      else readPlainFrom inFlow margin fuel mark.skip {} (c :: gap.folded.reverse ++ read)

/-- Reads a plain scalar. Besides the scalar, tells whether its last separators broke a line. -/
def readPlain (inFlow : Bool) (margin : Nat) (mark : Mark) : Option (Mark × Bool × Scalar) :=
  (readPlainFrom inFlow margin (2 * mark.rest.length + 1) mark {} []).map fun found =>
    (found.1, found.2.1.broken, ⟨String.ofList found.2.2, .plain, none⟩)

/-! ### Block scalars -/

/-- What happens to line breaks at the end of a block. -/
inductive Chomping where
  | strip
  | clip
  | keep
  deriving Repr, DecidableEq

/-- Reads indentation and empty lines before a line of a block: the place, the deepest column and
the breaks. `indent` is zero while the indentation of the block is not known. -/
def readBlockBreaks (indent : Nat) :
    Nat → Mark → Nat → List Char → Option (Mark × Nat × List Char)
  | 0, mark, deepest, breaks => some (mark, deepest, breaks)
  | fuel + 1, mark, deepest, breaks =>
    let blanks := (mark.rest.takeWhile (· == ' ')).length
    let taken := if indent = 0 then blanks else min blanks (indent - mark.column)
    let mark := mark.skipMany taken
    let deepest := max deepest mark.column
    match mark.rest with
    | [] => some (mark, deepest, breaks)
    | c :: _ =>
      if (indent = 0 || mark.column < indent) && c == '\t' then none
      else if isBreak c then
        readBlockBreaks indent fuel mark.skipLine deepest (breaks ++ mark.brokenLine)
      else some (mark, deepest, breaks)

/-- Reads the lines of a block with a known indentation. `first` is the break after the last line,
`others` are the empty lines after it and `wasBlank` tells whether that line started with a blank.
-/
def readBlockLines (literal : Bool) (indent : Nat) :
    Nat → Mark → (first others : List Char) → (wasBlank : Bool) → List Char →
      Option (Mark × List Char × List Char × List Char)
  | 0, _, _, _, _, _ => none
  | fuel + 1, mark, first, others, wasBlank, read =>
    match mark.rest with
    | [] => some (mark, first, others, read)
    | c :: _ =>
      if mark.column = indent then
        let blank := isSpace c
        let joint :=
          if !literal && first == ['\n'] && !wasBlank && !blank then
            if others.isEmpty then [' '] else others
          else first ++ others
        let line := mark.rest.takeWhile fun c => !isBreak c
        let ended := mark.skipMany line.length
        match readBlockBreaks indent (ended.rest.length + 1) ended.skipLine 0 [] with
        | none => none
        | some (next, _, breaks) =>
          readBlockLines literal indent fuel next ended.brokenLine breaks blank
            (read ++ joint ++ line)
      else some (mark, first, others, read)

/-- The chomping and the indentation given after the mark of a block, in either order. -/
def readBlockHeader? (mark : Mark) : Option (Mark × Chomping × Nat) :=
  let chomping? (mark : Mark) : Option (Mark × Chomping) :=
    match mark.rest with
    | '+' :: _ => some (mark.skip, .keep)
    | '-' :: _ => some (mark.skip, .strip)
    | _ => none
  let digit? (mark : Mark) : Option (Mark × Nat) :=
    match mark.rest with
    | c :: _ => if c.isDigit then some (mark.skip, c.toNat - 48) else none
    | [] => none
  let checked (mark : Mark) (chomping : Chomping) (digit : Option Nat) :=
    match digit with
    | some 0 => none
    | some n => some (mark, chomping, n)
    | none => some (mark, chomping, 0)
  match chomping? mark with
  | some (mark, chomping) =>
    match digit? mark with
    | some (mark, n) => checked mark chomping (some n)
    | none => checked mark chomping none
  | none =>
    match digit? mark with
    | some (mark, n) =>
      match chomping? mark with
      | some (mark, chomping) => checked mark chomping (some n)
      | none => checked mark .clip (some n)
    | none => some (mark, .clip, 0)

/-- Reads a block from its mark on, where `parent` is the indentation around it. -/
def readBlock (literal : Bool) (parent : Int) (mark : Mark) : Option (Mark × Scalar) := do
  let (mark, chomping, increment) ← readBlockHeader? mark.skip
  let mark := mark.skipWhile isSpace
  let mark := if mark.rest.head? == some '#' then mark.skipWhile (!isBreak ·) else mark
  if !atLineEnd mark.rest then none
  else
    let mark := mark.skipLine
    let given := if increment = 0 then 0 else (max parent 0).toNat + increment
    let fuel := mark.rest.length + 1
    let (mark, deepest, breaks) ← readBlockBreaks given fuel mark 0 []
    let indent := if given = 0 then max (max deepest (parent + 1).toNat) 1 else given
    let (mark, first, others, read) ← readBlockLines literal indent fuel mark [] breaks false []
    let tail :=
      match chomping with
      | .strip => []
      | .clip => first
      | .keep => first ++ others
    let style := if literal then Style.literal else Style.folded
    return (mark, ⟨String.ofList (read ++ tail), style, none⟩)

end Driftwatch.Yaml
