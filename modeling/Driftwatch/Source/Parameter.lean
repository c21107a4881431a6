import Driftwatch.Text.Blank
import Driftwatch.Text.Split

/-!
# Parameter lists

A parameter list is split at its commas. Of each piece the name is kept, which ends at the first
colon. Pieces without a name and pieces that take a value apart are left out. Defaults, nested
commas and the inside of destructuring patterns are not understood.

## Main definitions

* `parameterName?`: the name in one piece.
* `parameterNames`: the names in a whole list.
-/

namespace Driftwatch

/-- The name at the beginning of a parameter, up to a type annotation. -/
def parameterName? (piece : List Char) : Option (List Char) :=
  let name := trim ((trim piece).takeWhile (· != ':'))
  match name with
  | [] => none
  | '{' :: _ => none
  | name => some name

/-- The names in a parameter list. -/
def parameterNames (list : List Char) : List (List Char) :=
  (splitOn ',' list).filterMap parameterName?

end Driftwatch
