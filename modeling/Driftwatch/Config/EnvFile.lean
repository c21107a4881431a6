import Driftwatch.Config.Load
import Driftwatch.Text.Alphanumeric
import Driftwatch.Text.Literal

/-!
# Files of variables

A file may add variables to an environment, one assignment on a line. Variables that are already set
keep their values. A value may stand in quotes and then go over several lines, a number sign after
white space starts a comment, and a dollar sign inserts the value of a variable. The first line that
is no assignment ends the file, but what stands before it counts.

## Main definitions

* `EnvFile.logicalLines`: lines, where an open quote joins a line to the next.
* `EnvFile.value?`: the value after an equals sign.
* `EnvFile.assignment?`: the variable and the value that a line assigns.
* `Environment.extend`: an environment with the variables of a file.
-/

namespace Driftwatch

namespace EnvFile

/-! ### Lines -/

/-- Where a place in a line is. -/
inductive Place where
  | plain
  /-- After white space, where a comment can start. -/
  | blank
  /-- After a backslash. -/
  | escaped
  /-- In single quotes, perhaps after a backslash. -/
  | single (escaped : Bool)
  /-- In double quotes, perhaps after a backslash. -/
  | double (escaped : Bool)
  deriving Repr, DecidableEq

/-- The place after a character outside of quotes. -/
def Place.outside (c : Char) : Place :=
  if c == '\\' then .escaped
  else if c == '"' then .double false
  else if c == '\'' then .single false
  else .plain

/-- The place after a character that starts no comment. -/
def Place.next (place : Place) (c : Char) : Place :=
  match place with
  | plain => if isBlank c && c != '\n' && c != '\r' then .blank else outside c
  | blank => outside c
  | escaped => .plain
  | single false => if c == '\\' then .single true else if c == '\'' then .plain else .single false
  | single true => .single false
  | double false => if c == '\\' then .double true else if c == '"' then .plain else .double false
  | double true => .double false

/-- The part of a line before a comment, or the place at the end of a line without one. -/
def scanLine (place : Place) : List Char → List Char ⊕ Place
  | [] => .inr place
  | c :: rest =>
    if place = .blank ∧ c = '#' then .inl []
    else
      match scanLine (place.next c) rest with
      | .inl text => .inl (c :: text)
      | .inr place => .inr place

/-- A line without its end. -/
def withoutEnd (line : List Char) : List Char :=
  match line.reverse with
  | '\n' :: '\r' :: rest | '\n' :: rest => rest.reverse
  | _ => line

/-- Lines, where an open quote joins a line to the next. An unfinished line at the end is `none`.
The first two arguments tell where the line before ended and what it holds. -/
def logicalLines (place : Place) (read : List Char) : List (List Char) → List (Option (List Char))
  | [] => if place = .plain then [] else [none]
  | line :: rest =>
    let text := read ++ line
    if (trimLeft text).head? == some '#' then some [] :: logicalLines .plain [] rest
    else
      match scanLine place line with
      | .inl before => some (read ++ before) :: logicalLines .plain [] rest
      | .inr .plain => some (withoutEnd text) :: logicalLines .plain [] rest
      | .inr place => logicalLines place text rest

/-- Lines with their ends. -/
def linesWithEnds : List UInt8 → List (List UInt8)
  | [] => []
  | b :: rest =>
    if b == 10 then [b] :: linesWithEnds rest
    else
      match linesWithEnds rest with
      | [] => [[b]]
      | line :: following => (b :: line) :: following

/-- The texts of lines up to the first that is no text. -/
def textLines : List (List UInt8) → List (List Char)
  | [] => []
  | line :: rest =>
    match decodeUtf8 ⟨line.toArray⟩ with
    | .ok text => text.toList :: textLines rest
    | .error _ => []

/-! ### Assignments -/

/-- Where a place in a value is. Substitution happens outside of quotes and in double quotes. -/
inductive ValuePlace where
  | bare
  | single
  | double
  /-- After a backslash. -/
  | escaped (inDouble : Bool)
  /-- After a dollar sign, in the name of a variable. -/
  | name (inDouble : Bool) (read : List Char)
  /-- In braces after a dollar sign. -/
  | braced (inDouble : Bool) (read : List Char)
  /-- After the value. -/
  | ended
  deriving Repr, DecidableEq

/-- The place outside of a substitution. -/
def ValuePlace.around (inDouble : Bool) : ValuePlace :=
  if inDouble then .double else .bare

/-- The value of a variable. The entry of a variable is its name, an equals sign and its value, and
whatever is followed by an equals sign in it may serve as a name. So a name that holds one itself
reaches into the value of the variable that it starts with. -/
def entryValue? (env : Environment) (name : List Char) : Option (List Char) :=
  let value := (env (String.ofList (name.takeWhile (· != '=')))).map String.toList
  match name.dropWhile (· != '=') with
  | [] => value
  | _ :: inner => value.bind (takeText? (inner ++ ['=']))

/-- The value of a variable in a substitution, nothing if it is not set. -/
def lookUp (env : Environment) (name : List Char) : List Char :=
  (entryValue? env name).getD []

/-- The character that one after a backslash stands for. -/
def unescape? (c : Char) : Option Char :=
  if c == 'n' then some '\n'
  else if c == '\\' || c == '\'' || c == '"' || c == '$' || c == ' ' then some c
  else none

/-- The rest of a value from a place on. -/
def valueFrom? (env : Environment) : ValuePlace → List Char → Option (List Char)
  | .bare, [] | .ended, [] | .escaped false, [] => some []
  | .name false read, [] => some (lookUp env read)
  | _, [] => none
  | .ended, c :: rest =>
    if c == ' ' || c == '\t' then valueFrom? env .ended rest
    else if c == '#' then some []
    else none
  | .escaped inDouble, c :: rest =>
    (unescape? c).bind fun meant => (valueFrom? env (.around inDouble) rest).map (meant :: ·)
  | .single, c :: rest =>
    if c == '\'' then valueFrom? env .bare rest else (valueFrom? env .single rest).map (c :: ·)
  | .name inDouble read, c :: rest =>
    if isAlphanumeric c then valueFrom? env (.name inDouble (read ++ [c])) rest
    else if c == '{' && read.isEmpty then valueFrom? env (.braced inDouble []) rest
    else if c == '$' then
      (valueFrom? env (.name inDouble []) rest).map (lookUp env read ++ ·)
    else
      (valueFrom? env (.around inDouble) rest).map fun value => lookUp env read ++ c :: value
  | .braced inDouble read, c :: rest =>
    if c == '}' then (valueFrom? env (.around inDouble) rest).map (lookUp env read ++ ·)
    else valueFrom? env (.braced inDouble (read ++ [c])) rest
  | .double, c :: rest =>
    if c == '$' then valueFrom? env (.name true []) rest
    else if c == '"' then valueFrom? env .bare rest
    else if c == '\\' then valueFrom? env (.escaped true) rest
    else (valueFrom? env .double rest).map (c :: ·)
  | .bare, c :: rest =>
    if c == '$' then valueFrom? env (.name false []) rest
    else if c == '\'' then valueFrom? env .single rest
    else if c == '"' then valueFrom? env .double rest
    else if c == '\\' then valueFrom? env (.escaped false) rest
    else if c == ' ' || c == '\t' then valueFrom? env .ended rest
    else (valueFrom? env .bare rest).map (c :: ·)

/-- The value after an equals sign and white space. -/
def value? (env : Environment) (text : List Char) : Option (List Char) :=
  if text.head? == some '#' then some [] else valueFrom? env .bare text

/-- The name at the beginning of a text, and the rest after white space. -/
def name? (text : List Char) : Option (List Char × List Char) :=
  if text.head?.any fun c => c.isAlpha || c == '_' then
    let isNameChar (c : Char) : Bool := c.isAlphanum || c == '_' || c == '.'
    some (text.takeWhile isNameChar, trimLeft (text.dropWhile isNameChar))
  else none

/-- What follows an equals sign. -/
def afterEquals? : List Char → Option (List Char)
  | '=' :: rest => some (trimLeft rest)
  | _ => none

/-- The name that a line assigns to and what follows the equals sign. The word `export` may stand
before the name. -/
def assigned? (text : List Char) : Option (List Char × List Char) := do
  let (name, rest) ← name? text
  match afterEquals? rest with
  | some rest => some (name, rest)
  | none =>
    if name = "export".toList then
      let (name, rest) ← name? rest
      (afterEquals? rest).map (name, ·)
    else none

/-- The variable and the value that a line assigns, or nothing for a blank line. -/
def assignment? (env : Environment) (line : List Char) : Option (Option (String × String)) :=
  let text := trim line
  if text.isEmpty || text.head? == some '#' then some none
  else
    (assigned? text).bind fun (name, rest) =>
      (value? env rest).map fun value => some (String.ofList name, String.ofList value)

/-- The runs of characters of one class in a text. -/
def runs (p : Char → Bool) (text : List Char) : List String :=
  let parts := text.foldr
    (fun c (parts : List Char × List String) =>
      if p c then (c :: parts.1, parts.2)
      else ([], if parts.1.isEmpty then parts.2 else String.ofList parts.1 :: parts.2))
    ([], [])
  if parts.1.isEmpty then parts.2 else String.ofList parts.1 :: parts.2

/-- Names of variables that a file can assign to or ask for, perhaps among others. -/
def names (file : ByteArray) : List String :=
  let text := (repairUtf8 file).toList
  runs (fun c => c.isAlphanum || c == '_' || c == '.') text ++ runs isAlphanumeric text

end EnvFile

namespace Environment

/-- The environment with a variable set, if it was not. -/
def setNew (env : Environment) (name value : String) : Environment :=
  fun other => if other = name ∧ (env name).isNone then some value else env other

/-- The environment with the variables of lines, up to the first that is no assignment. -/
def assignLines (env : Environment) : List (Option (List Char)) → Environment
  | [] => env
  | none :: _ => env
  | some line :: rest =>
    match EnvFile.assignment? env line with
    | none => env
    | some none => env.assignLines rest
    | some (some (name, value)) => (env.setNew name value).assignLines rest

/-- The environment with the variables of a file. A mark of the byte order may stand first. -/
def extend (env : Environment) (file : ByteArray) : Environment :=
  let bytes :=
    match file.toList with
    | 0xEF :: 0xBB :: 0xBF :: rest => rest
    | bytes => bytes
  let lines := EnvFile.textLines (EnvFile.linesWithEnds bytes)
  env.assignLines (EnvFile.logicalLines .plain [] lines)

end Environment

end Driftwatch
