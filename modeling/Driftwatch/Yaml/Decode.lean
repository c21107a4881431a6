import Driftwatch.Yaml.Node

/-!
# Values from YAML nodes

A node has no type of its own: what it means depends on the value that is expected of it. A text is
read off any scalar, whatever it looks like. A count is read off a plain scalar, in base ten or
after `0x`, `0o` or `0b`; digits after a leading zero are no number. Where a value may be left out,
an empty scalar or a null leaves it out. A list may be an empty scalar but not a null.

## Main definitions

* `Node.text?`, `Node.count?`, `Node.list?`, `Node.choice?`: the values that nodes stand for.
* `Node.optional?`: a value that may be left out.
* `Node.record?`: the fields of a record.
-/

namespace Driftwatch.Yaml

/-- The tag of nulls. -/
def nullTag : Tag :=
  .ofText "tag:yaml.org,2002:null"

/-- The tag of integers. -/
def intTag : Tag :=
  .ofText "tag:yaml.org,2002:int"

/-- The name that a tag is of its own: the text after an exclamation mark. -/
def Tag.name? : Tag → Option String
  | 0x21 :: rest => Tag.text? rest
  | _ => none

/-- Whether a text stands for a null. -/
def isNullText (text : String) : Bool :=
  ["null", "Null", "NULL", "~"].contains text

namespace Scalar

/-- Whether nothing is written. A pair of quotes is something. -/
def isVoid (scalar : Scalar) : Bool :=
  scalar.style == .plain && scalar.text == ""

/-- Whether a scalar leaves a value out. A scalar that is tagged as a null and is none has no
meaning. -/
def isAbsent? (scalar : Scalar) : Option Bool :=
  if scalar.style != .plain then some false
  else
    match scalar.tag with
    | some tag =>
      if tag = nullTag then if isNullText scalar.text then some true else none
      else some false
    | none => some (scalar.text == "" || isNullText scalar.text)

/-- Whether a scalar is written in a way in which a number can be. -/
def isNumeric (scalar : Scalar) : Bool :=
  match scalar.style with
  | .plain => true
  | .literal => scalar.tag == some intTag
  | _ => false

end Scalar

/-! ### Counts -/

/-- Whether a text has a leading zero and then only digits. -/
def isPaddedNumber : List Char → Bool
  | '0' :: c :: rest => (c :: rest).all Char.isDigit
  | _ => false

/-- A count after an optional plus sign. A letter after a leading zero gives the base. -/
def unsignedCount? (digits : List Char) : Option Nat :=
  match digits with
  | '0' :: 'x' :: rest => readWord? 16 rest
  | '0' :: 'o' :: rest => readWord? 8 rest
  | '0' :: 'b' :: rest => readWord? 2 rest
  | digits => if isPaddedNumber digits then none else readWord? 10 digits

/-- A count. -/
def count? : List Char → Option Nat
  | '+' :: digits => unsignedCount? digits
  | digits => unsignedCount? digits

/-! ### Nodes -/

namespace Node

/-- The text of a scalar. -/
def text? : Node → Option String
  | scalar s => some s.text
  | _ => none

/-- The count that a scalar stands for. -/
def count? : Node → Option Nat
  | scalar s => if s.isNumeric then Yaml.count? s.text.toList else none
  | _ => none

/-- A value that may be left out. -/
def optional? {α : Type} (read : Node → Option α) (node : Node) : Option (Option α) :=
  match node with
  | scalar s => s.isAbsent?.bind fun absent => if absent then some none else (read node).map some
  | node => (read node).map some

/-- The items of a list. -/
def list? {α : Type} (read : Node → Option α) : Node → Option (List α)
  | sequence items => items.mapM read
  | scalar s => if s.isVoid then some [] else none
  | mapping _ | reference _ => none

/-- A choice among names. A tag that is a name of its own makes the choice too, and then nothing
else may be written. -/
def choice? {α : Type} (ofName? : String → Option α) : Node → Option α
  | scalar s =>
    match s.tag.bind Tag.name? with
    | some name =>
      if s.style == .plain && (s.text == "" || isNullText s.text) then ofName? name else none
    | none => ofName? s.text
  | _ => none

/-- The name of the field that an entry of a mapping sets, with its value. -/
def field? (names : List String) (entry : Node × Node) : Option (String × Node) :=
  entry.1.text?.bind fun name => if names.contains name then some (name, entry.2) else none

/-- The fields of a record by name. A field may be left out, and none may be given twice or be
unknown. -/
def record? (names : List String) : Node → Option (List (String × Node))
  | mapping entries => do
    let fields ← entries.mapM (field? names)
    if (fields.map (·.1)).Nodup then some fields else none
  | scalar s => if s.isVoid then some [] else none
  | sequence _ | reference _ => none

end Node

end Driftwatch.Yaml
