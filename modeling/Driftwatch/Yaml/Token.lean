import Driftwatch.Yaml.Scalar

/-!
# Tokens of a YAML text

The tokens make structure explicit that the text only shows by indentation: a block opens where a
key or an entry stands further right than before, and closes where a line starts further left.

A key is recognised late, by the colon after it. Until then the place of everything that could be a
key is remembered, and when the colon comes the tokens for the key are put in there. A remembered
key must lie on one line and within 1024 characters. If a key had to stand in its place, because
the line starts a mapping's next entry, its loss is an error.

## Main definitions

* `Token`.
* `Scanner`: the state of the tokenizer, with one function for each kind of token.
* `tokens?`: the tokens of a text.
-/

namespace Driftwatch.Yaml

/-- A token. Blocks are those shown by indentation, flows those in brackets. -/
inductive Token where
  | version (major minor : Nat)
  | tagDirective (handle : String) (tagStart : Tag)
  | documentStart
  | documentEnd
  | blockSequenceStart
  | blockMappingStart
  | blockEnd
  | flowSequenceStart
  | flowSequenceEnd
  | flowMappingStart
  | flowMappingEnd
  | blockEntry
  | flowEntry
  | key
  | value
  | anchor (name : String)
  | alias (name : String)
  | tag (handle : String) (suffix : Tag)
  | scalar (scalar : Scalar)
  deriving Repr, DecidableEq

/-- A place where a key may have started. -/
structure KeyPlace where
  /-- Whether a key must start there. -/
  required : Bool
  /-- How many tokens come before it. -/
  tokenCount : Nat
  mark : Mark

/-- The state of the tokenizer. -/
structure Scanner where
  mark : Mark
  /-- The column of the innermost block, -1 outside of any. -/
  indent : Int := -1
  /-- The columns of the blocks around it. -/
  outer : List Int := []
  /-- Whether a key may start at the next token. -/
  keyAllowed : Bool := true
  /-- The remembered key outside of brackets and in each open bracket, the innermost first. -/
  keys : List (Option KeyPlace) := [none]
  tokens : Array Token := #[]

namespace Scanner

/-- Whether some bracket is open. -/
def inFlow (s : Scanner) : Bool :=
  1 < s.keys.length

/-- Adds a token. -/
def push (s : Scanner) (token : Token) : Scanner :=
  { s with tokens := s.tokens.push token }

/-- Forgets the innermost remembered key, unless it is required. -/
def dropKey? (s : Scanner) : Option Scanner :=
  match s.keys with
  | some place :: keys => if place.required then none else some { s with keys := none :: keys }
  | _ => some s

/-- Remembers the current place as that of a key, if one may start here. -/
def saveKey? (s : Scanner) : Option Scanner :=
  if s.keyAllowed then do
    let required := !s.inFlow && s.indent == (s.mark.column : Int)
    let s ← s.dropKey?
    return { s with keys := some ⟨required, s.tokens.size, s.mark⟩ :: s.keys.tail }
  else some s

/-- Whether a remembered key is out of reach. -/
def isStale (s : Scanner) (place : KeyPlace) : Bool :=
  place.mark.line < s.mark.line || place.mark.index + 1024 < s.mark.index

/-- Forgets the remembered keys that are out of reach. -/
def dropStaleKeys? (s : Scanner) : Option Scanner :=
  let stale (key : Option KeyPlace) : Bool := key.any s.isStale
  if s.keys.any fun key => stale key && key.any (·.required) then none
  else some { s with keys := s.keys.map fun key => if stale key then none else key }

/-- Opens a block at a column that is further right. The token goes to the given place. -/
def openBlock (s : Scanner) (column tokenCount : Nat) (token : Token) : Scanner :=
  if !s.inFlow && s.indent < (column : Int) then
    { s with
      indent := column
      outer := s.indent :: s.outer
      tokens := s.tokens.insertIdxIfInBounds tokenCount token }
  else s

/-- Closes the blocks that are further right than a column. -/
def closeBlocks (column : Int) : List Int → Scanner → Scanner
  | [], s => s
  | outer :: rest, s =>
    if column < s.indent then
      closeBlocks column rest { s.push .blockEnd with indent := outer, outer := rest }
    else s

/-- Closes the blocks that are further right than a column, outside of brackets. -/
def unroll (s : Scanner) (column : Int) : Scanner :=
  if s.inFlow then s else closeBlocks column s.outer s

/-- Goes to the next token, past separators, comments and line breaks. The first argument bounds
the number of lines. -/
def skipToToken : Nat → Scanner → Scanner
  | 0, s => s
  | fuel + 1, s =>
    let mark := s.mark
    let mark := if mark.column == 0 && mark.rest.head? == some '\uFEFF' then mark.skip else mark
    let tabs := s.inFlow || !s.keyAllowed
    let mark := mark.skipWhile fun c => c == ' ' || (tabs && c == '\t')
    let mark := if mark.rest.head? == some '#' then mark.skipWhile (!isBreak ·) else mark
    if mark.rest.head?.any isBreak then
      skipToToken fuel
        { s with mark := mark.skipLine, keyAllowed := s.keyAllowed || !s.inFlow }
    else { s with mark := mark }

/-! ### Directives -/

/-- Digits of a version, at most nine. -/
def versionNumber? (mark : Mark) : Option (Mark × Nat) :=
  let digits := mark.rest.takeWhile Char.isDigit
  if digits.length ≤ 9 then
    (digitsValue? 10 digits).map (mark.skipMany digits.length, ·)
  else none

/-- A tag handle: an exclamation mark, perhaps a name and another exclamation mark. -/
def tagHandle? (directive : Bool) (mark : Mark) : Option (Mark × List Char) :=
  match mark.rest with
  | '!' :: rest =>
    let name := rest.takeWhile isNameChar
    let after := mark.skipMany (name.length + 1)
    match after.rest with
    | '!' :: _ => some (after.skip, '!' :: name ++ ['!'])
    | _ => if directive && !name.isEmpty then none else some (after, '!' :: name)
  | _ => none

/-- A character of a tag. Brackets and commas may stand only in a verbatim tag. -/
def isTagChar (verbatim : Bool) (c : Char) : Bool :=
  isNameChar c || ";/?:@&=+$.!~*'()%".toList.contains c ||
    (verbatim && (c == ',' || c == '[' || c == ']'))

/-- The bytes written with percent signs at the beginning of a text, up to a number of them. -/
def percentBytes : Nat → List Char → List UInt8
  | 0, _ => []
  | fuel + 1, '%' :: a :: b :: rest =>
    match digitsValue? 16 [a, b] with
    | some n => n.toUInt8 :: percentBytes fuel rest
    | none => []
  | _, _ => []

/-- The number of bytes of a character, by its first byte. -/
def byteWidth (b : UInt8) : Nat :=
  if b < 0x80 then 1 else if b &&& 0xE0 == 0xC0 then 2 else if b &&& 0xF0 == 0xE0 then 3
  else if b &&& 0xF8 == 0xF0 then 4 else 0

/-- The bytes of one character that is written with percent signs at the beginning of a text. Only
the leading bits of the bytes are checked. -/
def percentChar? (text : List Char) : Option (List UInt8) :=
  match percentBytes 4 text with
  | [] => none
  | b :: more =>
    let trail := more.take (byteWidth b - 1)
    if trail.length + 1 = byteWidth b && trail.all (· &&& 0xC0 == 0x80) then some (b :: trail)
    else none

/-- Characters of a tag with percent signs resolved. The bytes so far are given in reverse. -/
def tagBytes? (verbatim : Bool) : Nat → Mark → List UInt8 → Option (Mark × List UInt8)
  | 0, mark, read => some (mark, read.reverse)
  | fuel + 1, mark, read =>
    match mark.rest with
    | [] => some (mark, read.reverse)
    | c :: _ =>
      if c == '%' then
        match percentChar? mark.rest with
        | some bytes =>
          tagBytes? verbatim fuel (mark.skipMany (3 * bytes.length)) (bytes.reverse ++ read)
        | none => none
      else if isTagChar verbatim c then
        tagBytes? verbatim fuel mark.skip (c.toNat.toUInt8 :: read)
      else some (mark, read.reverse)

/-- A tag with at least one character, where `head` was already read. A zero byte ends the tag, and
what is written after it has no effect. -/
def tagSuffix? (verbatim : Bool) (head : List Char) (mark : Mark) : Option (Mark × Tag) := do
  let start := (Tag.ofText (String.ofList head.tail)).reverse
  let (after, bytes) ← tagBytes? verbatim (mark.rest.length + 1) mark start
  if head.isEmpty && bytes.isEmpty then none else some (after, bytes.takeWhile (· != 0))

/-- A directive from its percent sign on. -/
def directive? (mark : Mark) : Option (Mark × Token) := do
  let name := mark.skip.rest.takeWhile isNameChar
  let mark := mark.skipMany (name.length + 1)
  if name.isEmpty || !atSpaceOrEnd mark.rest then none
  else
    let mark := mark.skipWhile isSpace
    let (mark, token) ←
      match String.ofList name with
      | "YAML" => do
        let (mark, major) ← versionNumber? mark
        if mark.rest.head? == some '.' then
          let (mark, minor) ← versionNumber? mark.skip
          some (mark, Token.version major minor)
        else none
      | "TAG" => do
        let (mark, handle) ← tagHandle? true mark
        if mark.rest.head?.any isSpace then
          let (mark, start) ← tagSuffix? true [] (mark.skipWhile isSpace)
          if atSpaceOrEnd mark.rest then
            some (mark, Token.tagDirective (String.ofList handle) start)
          else none
        else none
      | _ => none
    let mark := mark.skipWhile isSpace
    let mark := if mark.rest.head? == some '#' then mark.skipWhile (!isBreak ·) else mark
    if atLineEnd mark.rest then some (mark.skipLine, token) else none

/-! ### Tokens one by one -/

/-- A directive. -/
def fetchDirective? (s : Scanner) : Option Scanner := do
  let s ← (s.unroll (-1)).dropKey?
  let (mark, token) ← directive? s.mark
  return { s.push token with mark := mark, keyAllowed := false }

/-- A mark that starts or ends a document. -/
def fetchDocumentMark? (s : Scanner) (token : Token) : Option Scanner := do
  let s ← (s.unroll (-1)).dropKey?
  return { s.push token with mark := s.mark.skipMany 3, keyAllowed := false }

/-- An opening bracket. -/
def fetchFlowStart? (s : Scanner) (token : Token) : Option Scanner := do
  let s ← s.saveKey?
  return { s.push token with mark := s.mark.skip, keyAllowed := true, keys := none :: s.keys }

/-- A closing bracket. -/
def fetchFlowEnd? (s : Scanner) (token : Token) : Option Scanner := do
  let s ← s.dropKey?
  let keys := if s.inFlow then s.keys.tail else s.keys
  return { s.push token with mark := s.mark.skip, keyAllowed := false, keys := keys }

/-- A comma in brackets. -/
def fetchFlowEntry? (s : Scanner) : Option Scanner := do
  let s ← s.dropKey?
  return { s.push .flowEntry with mark := s.mark.skip, keyAllowed := true }

/-- A dash before an entry. -/
def fetchBlockEntry? (s : Scanner) : Option Scanner := do
  if !s.inFlow && !s.keyAllowed then none
  else
    let s := s.openBlock s.mark.column s.tokens.size .blockSequenceStart
    let s ← s.dropKey?
    return { s.push .blockEntry with mark := s.mark.skip, keyAllowed := true }

/-- A question mark before a key. -/
def fetchKey? (s : Scanner) : Option Scanner := do
  if !s.inFlow && !s.keyAllowed then none
  else
    let s := s.openBlock s.mark.column s.tokens.size .blockMappingStart
    let s ← s.dropKey?
    return { s.push .key with mark := s.mark.skip, keyAllowed := !s.inFlow }

/-- A colon after a key. -/
def fetchValue? (s : Scanner) : Option Scanner :=
  match s.keys with
  | some place :: keys =>
    let s := { s with tokens := s.tokens.insertIdxIfInBounds place.tokenCount .key }
    let s := s.openBlock place.mark.column place.tokenCount .blockMappingStart
    some { s.push .value with mark := s.mark.skip, keyAllowed := false, keys := none :: keys }
  | _ =>
    if !s.inFlow && !s.keyAllowed then none
    else
      let s := s.openBlock s.mark.column s.tokens.size .blockMappingStart
      some { s.push .value with mark := s.mark.skip, keyAllowed := !s.inFlow }

/-- An anchor, or an alias for one. -/
def fetchAnchor? (s : Scanner) (token : String → Token) : Option Scanner := do
  let s ← s.saveKey?
  let name := s.mark.skip.rest.takeWhile isNameChar
  let mark := s.mark.skipMany (name.length + 1)
  let ended := atSpaceOrEnd mark.rest ||
    mark.rest.head?.any (fun c => "?:,]\x7d%@\u0060".toList.contains c)
  if name.isEmpty || !ended then none
  else return { s.push (token (String.ofList name)) with mark := mark, keyAllowed := false }

/-- A tag: its place, its handle and the rest of it. -/
def tag? (mark : Mark) : Option (Mark × String × Tag) := do
  match mark.rest with
  | '!' :: '<' :: _ =>
    let (mark, suffix) ← tagSuffix? true [] (mark.skipMany 2)
    if mark.rest.head? == some '>' then some (mark.skip, "", suffix) else none
  | _ =>
    let (mark, handle) ← tagHandle? false mark
    if 1 < handle.length && handle.getLast? == some '!' then
      let (mark, suffix) ← tagSuffix? false [] mark
      some (mark, String.ofList handle, suffix)
    else
      let (mark, suffix) ← tagSuffix? false handle mark
      if suffix.isEmpty then some (mark, "", .ofText "!") else some (mark, "!", suffix)

/-- A tag. -/
def fetchTag? (s : Scanner) : Option Scanner := do
  let s ← s.saveKey?
  let (mark, handle, suffix) ← tag? s.mark
  let ended := atSpaceOrEnd mark.rest || (s.inFlow && mark.rest.head? == some ',')
  if ended then
    return { s.push (.tag handle suffix) with mark := mark, keyAllowed := false }
  else none

/-- A scalar as a block of lines. -/
def fetchBlockScalar? (s : Scanner) (literal : Bool) : Option Scanner := do
  let s ← s.dropKey?
  let (mark, scalar) ← readBlock literal s.indent s.mark
  return { s.push (.scalar scalar) with mark := mark, keyAllowed := true }

/-- A scalar in quotes. -/
def fetchQuoted? (s : Scanner) (double : Bool) : Option Scanner := do
  let s ← s.saveKey?
  let (mark, scalar) ← readQuoted double s.mark
  return { s.push (.scalar scalar) with mark := mark, keyAllowed := false }

/-- A plain scalar. A key may follow it if it ends with a line. -/
def fetchPlain? (s : Scanner) : Option Scanner := do
  let s ← s.saveKey?
  let (mark, broken, scalar) ← readPlain s.inFlow (s.indent + 1).toNat s.mark
  return { s.push (.scalar scalar) with mark := mark, keyAllowed := broken }

/-- Whether a plain scalar can start with a character. -/
def startsPlain (inFlow : Bool) (c : Char) (rest : List Char) : Bool :=
  !(isSpace c || "-?:,[]\x7b\x7d#&*!|>'\"%@\u0060".toList.contains c) ||
    (c == '-' && !rest.head?.any isSpace) ||
    (!inFlow && (c == '?' || c == ':') && !atSpaceOrEnd rest)

/-- The token that starts with a character. -/
def fetchFrom? (s : Scanner) (c : Char) (rest : List Char) : Option Scanner :=
  if s.mark.column == 0 && c == '%' then s.fetchDirective?
  else if s.mark.atDocumentMark then
    s.fetchDocumentMark? (if c == '-' then .documentStart else .documentEnd)
  else if c == '[' then s.fetchFlowStart? .flowSequenceStart
  else if c == '{' then s.fetchFlowStart? .flowMappingStart
  else if c == ']' then s.fetchFlowEnd? .flowSequenceEnd
  else if c == '}' then s.fetchFlowEnd? .flowMappingEnd
  else if c == ',' then s.fetchFlowEntry?
  else if c == '-' && atSpaceOrEnd rest then s.fetchBlockEntry?
  else if c == '?' && (s.inFlow || atSpaceOrEnd rest) then s.fetchKey?
  else if c == ':' && (s.inFlow || atSpaceOrEnd rest) then s.fetchValue?
  else if c == '*' then s.fetchAnchor? .alias
  else if c == '&' then s.fetchAnchor? .anchor
  else if c == '!' then s.fetchTag?
  else if c == '|' && !s.inFlow then s.fetchBlockScalar? true
  else if c == '>' && !s.inFlow then s.fetchBlockScalar? false
  else if c == '\'' then s.fetchQuoted? false
  else if c == '"' then s.fetchQuoted? true
  else if startsPlain s.inFlow c rest then s.fetchPlain?
  else none

/-- The tokens up to the end of the text. The first argument bounds their number. -/
def run? : Nat → Scanner → Option Scanner
  | 0, _ => none
  | fuel + 1, s => do
    let s ← (skipToToken (s.mark.rest.length + 1) s).dropStaleKeys?
    let s := s.unroll s.mark.column
    match s.mark.rest with
    | [] => (s.unroll (-1)).dropKey?
    | c :: rest => run? fuel (← s.fetchFrom? c rest)

end Scanner

/-- The tokens of a text, if it can be divided into tokens. -/
def tokens? (text : String) : Option (List Token) :=
  let chars := text.toList
  if chars.all isYamlChar then
    (Scanner.run? (chars.length + 2) { mark := { rest := chars } }).map (·.tokens.toList)
  else none

end Driftwatch.Yaml
