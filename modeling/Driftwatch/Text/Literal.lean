/-!
# Fixed words at the beginning of a text

## Main definitions

* `takeText?`: what follows a fixed word.
-/

namespace Driftwatch

/-- Takes the expected characters off the beginning of a text. -/
def takeText? : List Char → List Char → Option (List Char)
  | [], text => some text
  | _ :: _, [] => none
  | e :: expected, c :: rest => if e = c then takeText? expected rest else none

end Driftwatch
