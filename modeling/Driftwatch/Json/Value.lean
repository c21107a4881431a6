/-!
# Structured values

The values of the JSON data format. Integers that fit a machine word are kept as integers, and any
other number is kept as it is written, because no part of the library computes with it. The members
of an object are a list: their order matters when they are written, and a reader may have to know
that a name occurs twice.

A text can hold a value that has the right form and still no meaning. Such a value does no harm
where nobody asks for it, so it has a place among the values.

## Main definitions

* `Json`: the values.
* `Json.isReadable`: whether all parts of a value have a meaning.
-/

namespace Driftwatch

/-- A value of the JSON data format. -/
inductive Json where
  | null
  | bool (value : Bool)
  /-- An integer from -2⁶³ up to 2⁶⁴ - 1. -/
  | int (value : Int)
  /-- Any other number, as it is written. -/
  | decimal (literal : String)
  | str (value : String)
  | arr (items : List Json)
  | obj (members : List (String × Json))
  /-- A value of the right form without a meaning. -/
  | unreadable
  deriving Inhabited, Repr

namespace Json

/-- Members of an object are looked up by name, and the first one counts. -/
def member? (name : String) : Json → Option Json
  | obj members => members.lookup name
  | _ => none

mutual

/-- Whether all parts of a value have a meaning. -/
def isReadable : Json → Bool
  | unreadable => false
  | arr items => itemsReadable items
  | obj members => membersReadable members
  | _ => true

/-- Whether all items of an array have a meaning. -/
def itemsReadable : List Json → Bool
  | [] => true
  | item :: items => isReadable item && itemsReadable items

/-- Whether all members of an object have a meaning. -/
def membersReadable : List (String × Json) → Bool
  | [] => true
  | (_, value) :: members => isReadable value && membersReadable members

end

end Json

end Driftwatch
