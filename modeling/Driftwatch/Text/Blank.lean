/-!
# White space

One notion of white space serves the whole library: the Unicode property `White_Space`. It decides
what separates the words of a declaration, what trimming removes and which texts count as blank.

## Main definitions

* `isBlank`: the property.
* `trimLeft`, `trimRight`, `trim`: removal of white space at the ends of a text.
* `allBlank`: a text of white space only.
-/

namespace Driftwatch

/-- The Unicode property `White_Space`. -/
def isBlank (c : Char) : Bool :=
  let n := c.toNat
  (9 ≤ n && n ≤ 13) || n == 0x20 || n == 0x85 || n == 0xA0 || n == 0x1680 ||
    (0x2000 ≤ n && n ≤ 0x200A) || n == 0x2028 || n == 0x2029 || n == 0x202F || n == 0x205F ||
    n == 0x3000

/-- The text from its first character that is not white space. -/
def trimLeft (text : List Char) : List Char :=
  text.dropWhile isBlank

/-- The text up to its last character that is not white space. -/
def trimRight (text : List Char) : List Char :=
  (text.reverse.dropWhile isBlank).reverse

/-- The text without white space at either end. -/
def trim (text : List Char) : List Char :=
  trimRight (trimLeft text)

/-- Whether a text holds nothing but white space. -/
def allBlank (text : List Char) : Bool :=
  text.all isBlank

end Driftwatch
