import Driftwatch.Text.Rounding

/-!
# Report formats and sizes

## Main definitions

* `ReportFormat`, with its name and the extension of its file.
* `sizeText`: a size for people.
-/

namespace Driftwatch

/-- The format of a report. -/
inductive ReportFormat where
  | text
  | json
  | html
  deriving Repr, DecidableEq

namespace ReportFormat

/-- The name of a format. -/
def name : ReportFormat → String
  | text => "text"
  | json => "json"
  | html => "html"

/-- The format with a given name. -/
def ofName? (name : String) : Option ReportFormat :=
  [text, json, html].find? (·.name == name)

/-- The extension of the file of a report. -/
def extension : ReportFormat → String
  | text => "txt"
  | json => "json"
  | html => "html"

end ReportFormat

/-- A size in a unit of a number of bytes, with one decimal place. -/
def sizeInUnit (bytes unitBytes : Nat) (unit : String) : String :=
  let tenths := roundDiv (roundSignificand bytes * 10) unitBytes
  toString (tenths / 10) ++ "." ++ toString (tenths % 10) ++ " " ++ unit

/-- A size for people, in the largest unit that it reaches. -/
def sizeText (bytes : Nat) : String :=
  if bytes < 1024 then toString bytes ++ " B"
  else if bytes < 1024 * 1024 then sizeInUnit bytes 1024 "KB"
  else if bytes < 1024 * 1024 * 1024 then sizeInUnit bytes (1024 * 1024) "MB"
  else sizeInUnit bytes (1024 * 1024 * 1024) "GB"

end Driftwatch
