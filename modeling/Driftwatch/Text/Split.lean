/-!
# Texts split at a separator

Splitting keeps every piece, empty ones too, so a text with `n` separators has `n + 1` pieces and
joining them again gives the text back. A text is a list here, of characters or of bytes.

## Main definitions

* `splitOn`: the pieces of a text.
* `joinWith`: pieces with a separator between them.
-/

namespace Driftwatch

variable {α : Type}

/-- The pieces of a text between separators. -/
def splitOn [DecidableEq α] (separator : α) : List α → List (List α)
  | [] => [[]]
  | c :: rest =>
    match splitOn separator rest with
    | [] => [[c]]
    | piece :: pieces => if c = separator then [] :: piece :: pieces else (c :: piece) :: pieces

/-- Pieces with a separator between any two. -/
def joinWith (separator : List α) : List (List α) → List α
  | [] => []
  | [piece] => piece
  | piece :: pieces => piece ++ separator ++ joinWith separator pieces

end Driftwatch
