import Driftwatch.Json.Value
import Driftwatch.Text.Number

/-!
# Writing structured values

Stored scans and reports are written with one item or member on a line and two blanks of
indentation for each level. An empty array or object stays on one line. In strings only quotes,
backslashes and control characters are escaped. What has no meaning is written as null.

## Main definitions

* `Json.pretty`: the written form, with line breaks.
* `Json.compact`: the written form on one line.
-/

namespace Driftwatch

/-- The hexadecimal digit of a number below sixteen. -/
def hexDigit (n : Nat) : Char :=
  Nat.digitChar n

/-- The written form of a character in a string. -/
def jsonChar (c : Char) : List Char :=
  if c = '"' then ['\\', '"']
  else if c = '\\' then ['\\', '\\']
  else if c.toNat < 0x20 then
    match c.toNat with
    | 8 => ['\\', 'b']
    | 9 => ['\\', 't']
    | 10 => ['\\', 'n']
    | 12 => ['\\', 'f']
    | 13 => ['\\', 'r']
    | n => ['\\', 'u', '0', '0', hexDigit (n / 16), hexDigit (n % 16)]
  else [c]

/-- The written form of a string. -/
def jsonString (text : String) : List Char :=
  '"' :: text.toList.flatMap jsonChar ++ ['"']

/-- A line break and the indentation of a level. -/
def newLine (level : Nat) : List Char :=
  '\n' :: List.replicate (2 * level) ' '

namespace Json

mutual

/-- The written form of a value at some level of indentation. -/
def prettyAt (level : Nat) : Json → List Char
  | null | unreadable => "null".toList
  | bool true => "true".toList
  | bool false => "false".toList
  | int value => integer value
  | decimal literal => literal.toList
  | str text => jsonString text
  | arr [] => ['[', ']']
  | arr (item :: items) =>
    '[' :: newLine (level + 1) ++ prettyAt (level + 1) item ++ prettyItems (level + 1) items ++
      newLine level ++ [']']
  | obj [] => ['{', '}']
  | obj ((name, value) :: members) =>
    '{' :: newLine (level + 1) ++ jsonString name ++ [':', ' '] ++ prettyAt (level + 1) value ++
      prettyMembers (level + 1) members ++ newLine level ++ ['}']

/-- The written form of further items of an array. -/
def prettyItems (level : Nat) : List Json → List Char
  | [] => []
  | item :: items => ',' :: newLine level ++ prettyAt level item ++ prettyItems level items

/-- The written form of further members of an object. -/
def prettyMembers (level : Nat) : List (String × Json) → List Char
  | [] => []
  | (name, value) :: members =>
    ',' :: newLine level ++ jsonString name ++ [':', ' '] ++ prettyAt level value ++
      prettyMembers level members

end

/-- The written form of a value, with line breaks. -/
def pretty (value : Json) : String :=
  String.ofList (value.prettyAt 0)

mutual

/-- The written form of a value on one line. -/
def compactChars : Json → List Char
  | null | unreadable => "null".toList
  | bool true => "true".toList
  | bool false => "false".toList
  | int value => integer value
  | decimal literal => literal.toList
  | str text => jsonString text
  | arr [] => ['[', ']']
  | arr (item :: items) => '[' :: compactChars item ++ compactItems items ++ [']']
  | obj [] => ['{', '}']
  | obj ((name, value) :: members) =>
    '{' :: jsonString name ++ ':' :: compactChars value ++ compactMembers members ++ ['}']

/-- The one-line form of further items of an array. -/
def compactItems : List Json → List Char
  | [] => []
  | item :: items => ',' :: compactChars item ++ compactItems items

/-- The one-line form of further members of an object. -/
def compactMembers : List (String × Json) → List Char
  | [] => []
  | (name, value) :: members =>
    ',' :: jsonString name ++ ':' :: compactChars value ++ compactMembers members

end

/-- The written form of a value on one line. -/
def compact (value : Json) : String :=
  String.ofList value.compactChars

end Json

end Driftwatch
