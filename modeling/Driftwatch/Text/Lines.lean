/-!
# Lines of a text

A line ends at a line feed, and one carriage return directly before that line feed belongs to the
line's end. What follows the last line feed is a line only if it is not empty, and it keeps a
carriage return at its end.

## Main definitions

* `lines`: the lines of a text without their ends.
-/

namespace Driftwatch

/-- The lines of a text without their ends. -/
def lines : List Char → List (List Char)
  | [] => []
  | '\r' :: '\n' :: rest => [] :: lines rest
  | '\n' :: rest => [] :: lines rest
  | c :: rest =>
    match lines rest with
    | [] => [[c]]
    | line :: following => (c :: line) :: following

end Driftwatch
