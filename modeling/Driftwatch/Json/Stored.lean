import Driftwatch.Json.Reader
import Driftwatch.Json.Writer

/-!
# Stored values

A type is `Stored` when its values have a form as structured values from which they can be read
back. Reading is forgiving in a few fixed ways. A record may come as an object, where unknown
members do not matter but a known one must not occur twice, or as an array of its fields in order.
A tag may come as a string or as an object whose only member has that name and the value null.
Inside a value that is told apart by a tag of its own, an empty object may stand for the null.

## Main definitions

* `Stored`: the two directions.
* `Json.fields?`: the fields of a record.
* `Json.tag?`, `Json.innerTag?`: a tag.
-/

namespace Driftwatch

/-- Values with a stored form. -/
class Stored (α : Type) where
  /-- The stored form. -/
  toJson : α → Json
  /-- The value with a given stored form. -/
  ofJson? : Json → Option α

export Stored (toJson ofJson?)

namespace Json

/-- The first member with a name, or `none` if there are two. -/
def uniqueMember? (members : List (String × Json)) (name : String) : Option (Option Json) :=
  match members.filter (·.1 == name) with
  | [] => some none
  | [(_, value)] => some (some value)
  | _ => none

/-- The fields of a record with the given names, in the same order. A field that an object does not
have is `none`. -/
def fields? (names : List String) : Json → Option (List (Option Json))
  | obj members => names.mapM (uniqueMember? members)
  | arr items => if items.length = names.length then some (items.map some) else none
  | _ => none

/-- The text of a tag. -/
def tag? : Json → Option String
  | str text => some text
  | obj [(text, null)] => some text
  | _ => none

/-- The text of a tag inside a tagged value. -/
def innerTag? : Json → Option String
  | obj [(text, obj [])] => some text
  | value => value.tag?

/-- A field that must be there. -/
def required? {α : Type} [Stored α] (field : Option Json) : Option α :=
  field.bind ofJson?

end Json

instance : Stored String where
  toJson := .str
  ofJson?
    | .str text => some text
    | _ => none

instance : Stored Bool where
  toJson := .bool
  ofJson?
    | .bool value => some value
    | _ => none

/-- Counts are stored as integers of a 64-bit word without sign. -/
instance : Stored Nat where
  toJson n := .int n
  ofJson?
    | .int value => if 0 ≤ value ∧ value < wordLimit then some value.toNat else none
    | _ => none

/-- Differences are stored as integers of a 64-bit word with sign. -/
instance : Stored Int where
  toJson := .int
  ofJson?
    | .int value => if -signLimit ≤ value ∧ value < signLimit then some value else none
    | _ => none

instance {α : Type} [Stored α] : Stored (List α) where
  toJson items := .arr (items.map toJson)
  ofJson?
    | .arr items => items.mapM ofJson?
    | _ => none

/-- An absent value is stored as null. -/
instance {α : Type} [Stored α] : Stored (Option α) where
  toJson
    | some value => toJson value
    | none => .null
  ofJson?
    | .null => some none
    | value => (ofJson? value).map some

end Driftwatch
