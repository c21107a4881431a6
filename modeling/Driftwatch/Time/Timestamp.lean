import Driftwatch.Json.Stored
import Driftwatch.Text.Blank
import Driftwatch.Time.Date

/-!
# Moments in time

A timestamp is a moment in Coordinated Universal Time with nanoseconds. The second 60 of a leap
second is kept as such.

Timestamps are written as `YYYY-MM-DDThh:mm:ss` with a fraction of three, six or nine digits if one
is needed, and `Z`. Years outside 0 to 9999 carry a sign. When one is read, the date and the time
may be separated by `T`, `t` or a blank, white space may stand between the parts, numbers may be
shorter than usual, and the offset from universal time may be a letter or hours and minutes.

## Main definitions

* `Timestamp`, with `Timestamp.isValid`.
* `Timestamp.written`, `Timestamp.civil`: the stored form and the form for reports.
* `Timestamp.parse?`: the moment that a text names.
* `Timestamp.ofUnix`: the moment a number of seconds after the beginning of 1970.
-/

namespace Driftwatch

/-- A moment in Coordinated Universal Time. -/
structure Timestamp where
  date : Date
  hour : Nat
  minute : Nat
  second : Nat
  nano : Nat
  deriving Repr, DecidableEq

namespace Timestamp

/-- Whether the parts are within their bounds. -/
def isValid (time : Timestamp) : Bool :=
  time.date.isValid && time.hour < 24 && time.minute < 60 && time.second ≤ 60 &&
    time.nano < 1000000000

/-- The beginning of the year 1970. -/
def epoch : Timestamp :=
  ⟨⟨1970, 1, 1⟩, 0, 0, 0, 0⟩

/-- The moment `seconds` and `nano` nanoseconds after the beginning of 1970. -/
def ofUnix (seconds : Int) (nano : Nat) : Timestamp :=
  let second := (seconds.fmod 86400).toNat
  ⟨.ofDayNumber (seconds.fdiv 86400), second / 3600, second / 60 % 60, second % 60, nano⟩

/-! ### Writing -/

/-- A year, with a sign outside 0 to 9999. -/
def writtenYear (year : Int) : List Char :=
  if 0 ≤ year ∧ year ≤ 9999 then padDecimal 4 year.natAbs
  else (if year < 0 then '-' else '+') :: padDecimal 4 year.natAbs

/-- Year, month and day. -/
def writtenDate (date : Date) : List Char :=
  writtenYear date.year ++ '-' :: padDecimal 2 date.month ++ '-' :: padDecimal 2 date.day

/-- Hours, minutes and seconds. -/
def writtenClock (time : Timestamp) : List Char :=
  padDecimal 2 time.hour ++ ':' :: padDecimal 2 time.minute ++ ':' :: padDecimal 2 time.second

/-- A fraction of a second in as many groups of three digits as it needs. -/
def writtenFraction (nano : Nat) : List Char :=
  if nano = 0 then []
  else if nano % 1000000 = 0 then '.' :: padDecimal 3 (nano / 1000000)
  else if nano % 1000 = 0 then '.' :: padDecimal 6 (nano / 1000)
  else '.' :: padDecimal 9 nano

/-- The stored form. -/
def writtenChars (time : Timestamp) : List Char :=
  writtenDate time.date ++ 'T' :: writtenClock time ++ writtenFraction time.nano ++ ['Z']

/-- The stored form. -/
def written (time : Timestamp) : String :=
  String.ofList time.writtenChars

/-- The form for reports: date and time of day with a blank between them. -/
def civil (time : Timestamp) : String :=
  String.ofList (writtenDate time.date ++ ' ' :: writtenClock time)

/-! ### Reading -/

/-- A number of one up to `most` digits at the beginning of a text, after white space. -/
def readDigits? (most : Nat) (text : List Char) : Option (Nat × List Char) :=
  let text := trimLeft text
  let digits := (text.take most).takeWhile Char.isDigit
  (digitsValue? 10 digits).map (·, text.drop digits.length)

/-- A number with a sign and any number of digits. -/
def readAllDigits? (text : List Char) : Option (Nat × List Char) :=
  let digits := text.takeWhile Char.isDigit
  (digitsValue? 10 digits).map (·, text.drop digits.length)

/-- A year: four digits, or any number of them after a sign. -/
def readYear? (text : List Char) : Option (Int × List Char) :=
  match trimLeft text with
  | '-' :: rest => (readAllDigits? rest).map fun r => (-(r.1 : Int), r.2)
  | '+' :: rest => (readAllDigits? rest).map fun r => ((r.1 : Int), r.2)
  | text => (readDigits? 4 text).map fun r => ((r.1 : Int), r.2)

/-- A separator, after white space. -/
def readMark? (mark : Char) (text : List Char) : Option (List Char) :=
  match trimLeft text with
  | c :: rest => if c = mark then some rest else none
  | [] => none

/-- A fraction of a second in nanoseconds. Digits after the ninth have no effect. -/
def readFraction? : List Char → Option (Nat × List Char)
  | '.' :: text =>
    let digits := text.takeWhile Char.isDigit
    let kept := digits.take 9
    (digitsValue? 10 kept).map fun n => (n * Nat.pow 10 (9 - kept.length), text.drop digits.length)
  | text => some (0, text)

/-- The minutes of an offset from universal time that starts with the given digits. -/
def readOffsetParts? : List Char → Option (Nat × List Char)
  | h1 :: h2 :: rest => do
    let hours ← digitsValue? 10 [h1, h2]
    match rest.dropWhile fun c => c == ':' || isBlank c with
    | m1 :: m2 :: rest => do
      let minutes ← digitsValue? 10 [m1, m2]
      if minutes < 60 then some (hours * 60 + minutes, rest) else none
    | _ => none
  | _ => none

/-- An offset from universal time, in minutes. -/
def readOffset? : List Char → Option (Int × List Char)
  | 'Z' :: rest | 'z' :: rest => some (0, rest)
  | '+' :: rest => (readOffsetParts? rest).map fun r => ((r.1 : Int), r.2)
  | '-' :: rest | '\u2212' :: rest => (readOffsetParts? rest).map fun r => (-(r.1 : Int), r.2)
  | text =>
    match text with
    | u :: t :: c :: rest =>
      if u.toUpper = 'U' ∧ t.toUpper = 'T' ∧ c.toUpper = 'C' then some (0, rest) else none
    | _ => none

/-- The same moment for a clock that shows `offset` minutes less. -/
def shift (time : Timestamp) (offset : Int) : Timestamp :=
  let minutes : Int := time.hour * 60 + time.minute - offset
  let atMinute (date : Date) (minutes : Int) : Timestamp :=
    { time with date := date, hour := minutes.toNat / 60, minute := minutes.toNat % 60 }
  if minutes < 0 then atMinute time.date.previous (minutes + 1440)
  else if 1440 ≤ minutes then atMinute time.date.next (minutes - 1440)
  else atMinute time.date minutes

/-- The first year that a timestamp can have. -/
def firstYear : Int := -262143

/-- The last year that a timestamp can have. -/
def lastYear : Int := 262142

/-- Whether a timestamp lies within the years that one can have. -/
def isInRange (time : Timestamp) : Bool :=
  firstYear ≤ time.date.year && time.date.year ≤ lastYear

/-- The moment that a text names. Both the time that is shown and the moment itself have to be
within the years of timestamps. -/
def parseChars? (text : List Char) : Option Timestamp := do
  let (year, text) ← readYear? text
  let text ← readMark? '-' text
  let (month, text) ← readDigits? 2 text
  let text ← readMark? '-' text
  let (day, text) ← readDigits? 2 text
  let text ←
    match text with
    | 'T' :: rest | 't' :: rest | ' ' :: rest => some rest
    | _ => none
  let (hour, text) ← readDigits? 2 text
  let text ← readMark? ':' text
  let (minute, text) ← readDigits? 2 text
  let text ← readMark? ':' text
  let (second, text) ← readDigits? 2 text
  let (nano, text) ← readFraction? text
  let (offset, text) ← readOffset? (trimLeft text)
  let shown : Timestamp := ⟨⟨year, month, day⟩, hour, minute, second, nano⟩
  let time := shown.shift offset
  if shown.isValid ∧ shown.isInRange ∧ offset.natAbs < 1440 ∧ allBlank text ∧ time.isInRange then
    some time
  else none

/-- The moment that a text names. -/
def parse? (text : String) : Option Timestamp :=
  parseChars? text.toList

end Timestamp

instance : Stored Timestamp where
  toJson time := .str time.written
  ofJson?
    | .str text => Timestamp.parse? text
    | _ => none

end Driftwatch
