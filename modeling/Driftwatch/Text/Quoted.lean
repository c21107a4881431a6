import Driftwatch.Text.Printable

/-!
# Quoted values in messages

A message that repeats a value from outside puts it in double quotes. Quotes and backslashes are
escaped, the common controls have their letters, and a character that cannot be shown as it is
becomes its code point in hexadecimal.

## Main definitions

* `quote`: the quoted form of a text.
-/

namespace Driftwatch

/-- The digits of `n` in lower-case hexadecimal. -/
def hexDigits (n : Nat) : List Char :=
  Nat.toDigits 16 n

/-- The quoted form of one character. -/
def quoteChar (c : Char) : List Char :=
  match c with
  | '"' => ['\\', '"']
  | '\\' => ['\\', '\\']
  | '\n' => ['\\', 'n']
  | '\r' => ['\\', 'r']
  | '\t' => ['\\', 't']
  | c =>
    if c.toNat = 0 then ['\\', '0']
    else if isPrintable c then [c]
    else ['\\', 'u', '{'] ++ hexDigits c.toNat ++ ['}']

/-- The quoted form of a text. -/
def quote (text : String) : String :=
  String.ofList ('"' :: text.toList.flatMap quoteChar ++ ['"'])

end Driftwatch
