/-!
# Pages made of markup and values

A page is a sequence of pieces. Markup is written as it stands, and a value is escaped, so that no
character of a value can begin or end a tag, an entity or an attribute.

## Main definitions

* `escapeMarkup`: the escaped form of a value.
* `Page`: a page, with `Page.render` for its text.
-/

namespace Driftwatch

/-- The escaped form of one character. -/
def escapeMarkupChar (c : Char) : List Char :=
  match c with
  | '&' => "&amp;".toList
  | '<' => "&lt;".toList
  | '>' => "&gt;".toList
  | '"' => "&quot;".toList
  | '\'' => "&#x27;".toList
  | '/' => "&#x2F;".toList
  | c => [c]

/-- The escaped form of a value. -/
def escapeMarkup (value : List Char) : List Char :=
  value.flatMap escapeMarkupChar

/-- A piece of a page. -/
inductive PagePiece where
  /-- Written as it stands. -/
  | markup (text : String)
  /-- Escaped when it is written. -/
  | value (text : String)
  deriving Repr, DecidableEq

/-- A page, piece by piece. -/
abbrev Page := List PagePiece

/-- The text of a piece. -/
def PagePiece.render : PagePiece → List Char
  | .markup text => text.toList
  | .value text => escapeMarkup text.toList

/-- The text of a page. -/
def Page.render (page : Page) : String :=
  String.ofList (page.flatMap PagePiece.render)

end Driftwatch
