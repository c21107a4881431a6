/-!
# Byte offsets

Positions inside a line are counted in bytes of its UTF-8 form. An offset names a place between
two characters, or none at all when it falls inside a character or past the end.

## Main definitions

* `dropBytes?`: the text from an offset on.
* `offsetOf?`: the offset of the first character of a kind.
* `arrowOffset?`: the offset just after the first arrow.
-/

namespace Driftwatch

/-- The text from byte `n` on, if a character starts or the text ends there. -/
def dropBytes? : Nat → List Char → Option (List Char)
  | 0, text => some text
  | _ + 1, [] => none
  | n + 1, c :: rest => if c.utf8Size ≤ n + 1 then dropBytes? (n + 1 - c.utf8Size) rest else none

/-- The byte offset of the first character that satisfies `p`. -/
def offsetOf? (p : Char → Bool) : List Char → Option Nat
  | [] => none
  | c :: rest => if p c then some 0 else (offsetOf? p rest).map (c.utf8Size + ·)

/-- The byte offset just after the first `=>`, with the text that follows it. -/
def arrowOffset? : List Char → Option (Nat × List Char)
  | [] => none
  | '=' :: '>' :: rest => some (2, rest)
  | c :: rest => (arrowOffset? rest).map fun found => (c.utf8Size + found.1, found.2)

end Driftwatch
