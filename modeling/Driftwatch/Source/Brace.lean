import Driftwatch.Source.Cursor

/-!
# Closing braces

The end of a block is found by counting braces, where only braces in code count. The search starts
right after an opening brace with a new cursor: whatever came before that brace, the brace was code
and so the text after it starts in code.

## Main definitions

* `countBrace`: what one character does to the depth.
* `closingLine`: the line of the brace that closes a given one.
-/

namespace Driftwatch

/-- The depth after one character of code. The search is over when no brace is open any more. -/
def countBrace (c : Char) (depth : Nat) : ForInStep Nat :=
  if c = '{' then .yield (depth + 1)
  else if c = '}' then if depth ≤ 1 then .done 0 else .yield (depth - 1)
  else .yield depth

/-- The number of the first line on which `depth` open braces are all closed. The first line given
has the number `number`, and all lines are read from their beginning. -/
def closingLineFrom (cursor : Cursor) (depth number : Nat) : List (List Char) → Option Nat
  | [] => none
  | line :: following =>
    let walk := cursor.walkCode line 0 (fun _ => countBrace) depth
    if walk.stopped then some number
    else closingLineFrom walk.cursor walk.result (number + 1) following

/-- The number, counted from one, of the line with the brace that closes the one at byte `brace`
of the line with index `start`. A brace that is never closed counts as closed on its own line. -/
def closingLine (lines : List (List Char)) (start brace : Nat) : Nat :=
  match lines.drop start with
  | [] => start + 1
  | line :: following =>
    let walk := ({} : Cursor).walkCode line (brace + 1) (fun _ => countBrace) 1
    if walk.stopped then start + 1
    else (closingLineFrom walk.cursor walk.result (start + 2) following).getD (start + 1)

end Driftwatch
