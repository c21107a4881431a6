import Driftwatch.Json.Value
import Driftwatch.Text.Literal
import Driftwatch.Text.Rounding

/-!
# Reading structured values

A strict reader for the JSON data format: no comments, no trailing commas, no bare control
characters in strings, and nothing but white space after the value.

## Values without a meaning

Some values have the right form and no meaning: a string with a surrogate that lacks its partner, a
number that is too large, an array or object that is nested too deeply, and an object with a name
that is no text. They are read as `Json.unreadable`, so that whoever asks for them fails and nobody
else does.

## Fuel

The reader goes down into arrays and objects, and each item consumes at least one character. So the
length of the text bounds the number of calls, and `Json.parse?` supplies that bound.

## Main definitions

* `Json.parse?`: the value that a text holds.
-/

namespace Driftwatch

/-- White space between the tokens of a value. -/
def isJsonSpace (c : Char) : Bool :=
  c == ' ' || c == '\n' || c == '\r' || c == '\t'

/-- The text without white space at its beginning. -/
def skipJsonSpace (text : List Char) : List Char :=
  text.dropWhile isJsonSpace

/-- The value of four hexadecimal digits at the beginning of a text. -/
def hexQuad? : List Char → Option Nat
  | a :: b :: c :: d :: _ => digitsValue? 16 [a, b, c, d]
  | _ => none

/-- What four hexadecimal digits and the text after them spell: the character meant, if there is
one, and the number of characters that spell it. A character outside of the basic plane takes two
surrogates. -/
def jsonUnicode (unit : Nat) (rest : List Char) : Option Char × Nat :=
  if 0xDC00 ≤ unit && unit ≤ 0xDFFF then (none, 5)
  else if 0xD800 ≤ unit && unit ≤ 0xDBFF then
    match rest with
    | '\\' :: 'u' :: more =>
      match hexQuad? more with
      | some low =>
        if 0xDC00 ≤ low && low ≤ 0xDFFF then
          (some (Char.ofNat (0x10000 + (unit - 0xD800) * 0x400 + (low - 0xDC00))), 11)
        else (none, 5)
      | none => (none, 5)
    | _ => (none, 5)
  else (some (Char.ofNat unit), 5)

/-- What stands after a backslash in a string: the character meant, if there is one, and the number
of characters that spell it. -/
def jsonEscape? : List Char → Option (Option Char × Nat)
  | '"' :: _ => some (some '"', 1)
  | '\\' :: _ => some (some '\\', 1)
  | '/' :: _ => some (some '/', 1)
  | 'b' :: _ => some (some '\x08', 1)
  | 'f' :: _ => some (some '\x0c', 1)
  | 'n' :: _ => some (some '\n', 1)
  | 'r' :: _ => some (some '\r', 1)
  | 't' :: _ => some (some '\t', 1)
  | 'u' :: rest => (hexQuad? rest).map fun unit => jsonUnicode unit (rest.drop 4)
  | _ => none

/-- A text with one more character before it, if both are known. -/
def consMeant (c : Option Char) (text : Option (List Char)) : Option (List Char) :=
  match c, text with
  | some c, some text => some (c :: text)
  | _, _ => none

/-- The rest of a string after its opening quote, and the text after it. The string is `none` if it
has the right form and no meaning. The first argument counts characters of an escape that was
already read. -/
def readJsonString : Nat → List Char → Option (Option (List Char) × List Char)
  | _, [] => none
  | skip + 1, _ :: rest => readJsonString skip rest
  | 0, c :: rest =>
    if c = '"' then some (some [], rest)
    else if c = '\\' then
      match jsonEscape? rest with
      | some (meant, width) =>
        (readJsonString width rest).map fun r => (consMeant meant r.1, r.2)
      | none => none
    else if c.toNat < 0x20 then none
    else (readJsonString 0 rest).map fun r => (consMeant (some c) r.1, r.2)

/-- The digits at the beginning of a text, and the text after them. -/
def spanDigits (text : List Char) : List Char × List Char :=
  (text.takeWhile Char.isDigit, text.dropWhile Char.isDigit)

/-- The digits before a point or an exponent. A number starts with zero only if it is zero. -/
def wholeDigits? (text : List Char) : Option (List Char × List Char) :=
  match spanDigits text with
  | ([], _) => none
  | ('0' :: _ :: _, _) => none
  | found => some found

/-- A point with digits at the beginning of a text, if there is a point. -/
def fractionPart? : List Char → Option (List Char × List Char)
  | '.' :: text =>
    match spanDigits text with
    | ([], _) => none
    | (digits, rest) => some ('.' :: digits, rest)
  | text => some ([], text)

/-- An exponent at the beginning of a text, if there is one. -/
def exponentPart? : List Char → Option (List Char × List Char)
  | e :: text =>
    if e = 'e' ∨ e = 'E' then
      let (sign, text) :=
        match text with
        | '+' :: rest => (['+'], rest)
        | '-' :: rest => (['-'], rest)
        | text => ([], text)
      match spanDigits text with
      | ([], _) => none
      | (digits, rest) => some (e :: sign ++ digits, rest)
    else some ([], e :: text)
  | [] => some ([], [])

/-- The value of an exponent with its letter. -/
def exponentValue : List Char → Int
  | _ :: '-' :: digits => -((digitsValue? 10 digits).getD 0 : Nat)
  | _ :: '+' :: digits => (digitsValue? 10 digits).getD 0
  | _ :: digits => (digitsValue? 10 digits).getD 0
  | [] => 0

/-- The number that is written with the given parts, where no integer that fits a word is meant. -/
def otherNumber (negative : Bool) (whole fraction exponent : List Char) : Json :=
  if isOutOfRange whole (fraction.drop 1) (exponentValue exponent) then .unreadable
  else
    .decimal (String.ofList ((if negative then ['-'] else []) ++ whole ++ fraction ++ exponent))

/-- The number that is written with the given parts. -/
def numberOfParts (negative : Bool) (whole fraction exponent : List Char) : Json :=
  let other := otherNumber negative whole fraction exponent
  if fraction.isEmpty && exponent.isEmpty then
    match digitsValue? 10 whole with
    | none => other
    | some n =>
      if negative then if n = 0 ∨ signLimit < n then other else .int (-(n : Int))
      else if n < wordLimit then .int n
      else other
  else other

/-- A number at the beginning of a text. -/
def readNumber? (text : List Char) : Option (Json × List Char) := do
  let (negative, text) :=
    match text with
    | '-' :: rest => (true, rest)
    | text => (false, text)
  let (whole, text) ← wholeDigits? text
  let (fraction, text) ← fractionPart? text
  let (exponent, text) ← exponentPart? text
  return (numberOfParts negative whole fraction exponent, text)

namespace Json

/-- The number of arrays and objects that can be inside one another. -/
def levelLimit : Nat :=
  127

/-- A string, if it has a meaning. -/
def ofText (text : Option (List Char)) : Json :=
  match text with
  | some text => str (String.ofList text)
  | none => unreadable

/-- An array that is inside `level` others. -/
def ofItems (level : Nat) (items : List Json) : Json :=
  if level < levelLimit then arr items else unreadable

/-- An object that is inside `level` others. -/
def ofMembers (level : Nat) (members : List (Option (List Char) × Json)) : Json :=
  if level < levelLimit then
    match members.mapM fun member => member.1.map fun name => (String.ofList name, member.2) with
    | some members => obj members
    | none => unreadable
  else unreadable

mutual

/-- A value at the beginning of a text, and the text after it. `level` arrays and objects are around
it. -/
def readValue : Nat → (level : Nat) → List Char → Option (Json × List Char)
  | 0, _, _ => none
  | fuel + 1, level, text =>
    match skipJsonSpace text with
    | '"' :: rest => (readJsonString 0 rest).map fun r => (ofText r.1, r.2)
    | '[' :: rest =>
      match skipJsonSpace rest with
      | ']' :: rest => some (ofItems level [], rest)
      | rest =>
        match readValue fuel (level + 1) rest with
        | none => none
        | some (item, rest) =>
          (readItems fuel (level + 1) rest).map fun r => (ofItems level (item :: r.1), r.2)
    | '{' :: rest =>
      match skipJsonSpace rest with
      | '}' :: rest => some (ofMembers level [], rest)
      | rest =>
        match readMember fuel (level + 1) rest with
        | none => none
        | some (member, rest) =>
          (readMembers fuel (level + 1) rest).map fun r => (ofMembers level (member :: r.1), r.2)
    | 't' :: rest => (takeText? "rue".toList rest).map (bool true, ·)
    | 'f' :: rest => (takeText? "alse".toList rest).map (bool false, ·)
    | 'n' :: rest => (takeText? "ull".toList rest).map (null, ·)
    | rest => readNumber? rest

/-- Further items of an array, through its end. -/
def readItems : Nat → (level : Nat) → List Char → Option (List Json × List Char)
  | 0, _, _ => none
  | fuel + 1, level, text =>
    match skipJsonSpace text with
    | ']' :: rest => some ([], rest)
    | ',' :: rest =>
      match readValue fuel level rest with
      | none => none
      | some (item, rest) => (readItems fuel level rest).map fun r => (item :: r.1, r.2)
    | _ => none

/-- A name and a value. -/
def readMember : Nat → (level : Nat) → List Char →
    Option ((Option (List Char) × Json) × List Char)
  | 0, _, _ => none
  | fuel + 1, level, text =>
    match skipJsonSpace text with
    | '"' :: rest =>
      match readJsonString 0 rest with
      | none => none
      | some (name, rest) =>
        match skipJsonSpace rest with
        | ':' :: rest => (readValue fuel level rest).map fun r => ((name, r.1), r.2)
        | _ => none
    | _ => none

/-- Further members of an object, through its end. -/
def readMembers : Nat → (level : Nat) → List Char →
    Option (List (Option (List Char) × Json) × List Char)
  | 0, _, _ => none
  | fuel + 1, level, text =>
    match skipJsonSpace text with
    | '}' :: rest => some ([], rest)
    | ',' :: rest =>
      match readMember fuel level rest with
      | none => none
      | some (member, rest) => (readMembers fuel level rest).map fun r => (member :: r.1, r.2)
    | _ => none

end

/-- The value that a text holds, if it holds exactly one. -/
def parseChars? (text : List Char) : Option Json :=
  match readValue (2 * text.length + 2) 0 text with
  | some (value, rest) => if (skipJsonSpace rest).isEmpty then some value else none
  | none => none

/-- The value that a text holds, if it holds exactly one. -/
def parse? (text : String) : Option Json :=
  parseChars? text.toList

end Json

end Driftwatch
