/-!
# Texts stored as bytes

Files hold bytes and most of the library reads texts. Valid UTF-8 is read as the text it encodes.
Anything else is either refused, with the place and kind of the first fault, or repaired: each
maximal run of bytes that begins a character without completing it becomes one U+FFFD.

## Main definitions

* `Utf8Fault`: where a byte sequence stops being a text, and how.
* `decodeUtf8`: the text, or its first fault.
* `repairUtf8`: the text, with faults replaced.
-/

namespace Driftwatch

/-- The first place where bytes stop being a text. `width` is the number of bytes that are at fault
there; there is none when the bytes end in the middle of a character. -/
structure Utf8Fault where
  index : Nat
  width : Option Nat
  deriving Repr, DecidableEq

namespace Utf8Fault

/-- The wording of a fault. -/
def message (fault : Utf8Fault) : String :=
  match fault.width with
  | some width =>
    "invalid utf-8 sequence of " ++ toString width ++ " bytes from index " ++ toString fault.index
  | none => "incomplete utf-8 byte sequence from index " ++ toString fault.index

end Utf8Fault

/-- What the bytes at some place begin with. -/
inductive Utf8Step where
  /-- A whole character and the number of bytes it takes. -/
  | char (c : Char) (width : Nat)
  /-- Bytes that begin no character. -/
  | invalid (width : Nat)
  /-- The bytes end before the character does. -/
  | cut (width : Nat)
  deriving Repr, DecidableEq

namespace Utf8Step

/-- The number of bytes that a step takes. -/
def width : Utf8Step → Nat
  | char _ width | invalid width | cut width => width

/-- The character that a step shows. -/
def shown : Utf8Step → Char
  | char c _ => c
  | invalid _ | cut _ => '\uFFFD'

end Utf8Step

/-- A byte that continues a character. -/
def isContinuation (b : UInt8) : Bool :=
  0x80 ≤ b && b ≤ 0xBF

/-- The range allowed for the second byte of a character that starts with `b`. It excludes
overlong forms, surrogates and code points past the last one. -/
def secondByteRange (b : UInt8) : UInt8 × UInt8 :=
  if b == 0xE0 then (0xA0, 0xBF)
  else if b == 0xED then (0x80, 0x9F)
  else if b == 0xF0 then (0x90, 0xBF)
  else if b == 0xF4 then (0x80, 0x8F)
  else (0x80, 0xBF)

/-- The number of bytes of a character that starts with `b`, if any does. -/
def leadWidth? (b : UInt8) : Option Nat :=
  if b ≤ 0x7F then some 1
  else if 0xC2 ≤ b && b ≤ 0xDF then some 2
  else if 0xE0 ≤ b && b ≤ 0xEF then some 3
  else if 0xF0 ≤ b && b ≤ 0xF4 then some 4
  else none

/-- The value bits of a lead byte of a character of the given width. -/
def leadBits (b : UInt8) (width : Nat) : Nat :=
  match width with
  | 1 => b.toNat
  | 2 => b.toNat % 0x20
  | 3 => b.toNat % 0x10
  | _ => b.toNat % 0x08

/-- Reads continuation bytes: `missing` of them are still needed, `taken` bytes of the character
were read and `bits` is their value. -/
def continueUtf8 (missing taken bits : Nat) : List UInt8 → Utf8Step
  | [] => if missing = 0 then .char (Char.ofNat bits) taken else .cut taken
  | b :: rest =>
    match missing with
    | 0 => .char (Char.ofNat bits) taken
    | missing + 1 =>
      if isContinuation b then continueUtf8 missing (taken + 1) (bits * 0x40 + b.toNat % 0x40) rest
      else .invalid taken

/-- Reads the first character of a byte sequence that starts with `b`. -/
def stepUtf8 (b : UInt8) (rest : List UInt8) : Utf8Step :=
  match leadWidth? b with
  | none => .invalid 1
  | some 1 => .char (Char.ofNat b.toNat) 1
  | some width =>
    match rest with
    | [] => .cut 1
    | second :: more =>
      let range := secondByteRange b
      if range.1 ≤ second && second ≤ range.2 then
        continueUtf8 (width - 2) 2 (leadBits b width * 0x40 + second.toNat % 0x40) more
      else .invalid 1

/-- The first fault from `index` on. The first argument bounds the number of characters. -/
def faultFrom : Nat → Nat → List UInt8 → Utf8Fault
  | 0, index, _ => ⟨index, none⟩
  | _ + 1, index, [] => ⟨index, none⟩
  | fuel + 1, index, b :: rest =>
    match stepUtf8 b rest with
    | .char _ width => faultFrom fuel (index + width) (rest.drop (width - 1))
    | .invalid width => ⟨index, some width⟩
    | .cut _ => ⟨index, none⟩

/-- Replaces faults by U+FFFD. The first argument is the number of bytes that belong to what was
shown last. -/
def repairFrom : Nat → List UInt8 → List Char
  | _, [] => []
  | rest + 1, _ :: bytes => repairFrom rest bytes
  | 0, b :: bytes =>
    let step := stepUtf8 b bytes
    step.shown :: repairFrom (step.width - 1) bytes

/-- The text that the bytes encode, or the first fault in them. -/
def decodeUtf8 (bytes : ByteArray) : Except Utf8Fault String :=
  match String.fromUTF8? bytes with
  | some text => .ok text
  | none => .error (faultFrom bytes.size 0 bytes.data.toList)

/-- The text that the bytes encode, with U+FFFD in the place of each fault. -/
def repairUtf8 (bytes : ByteArray) : String :=
  match String.fromUTF8? bytes with
  | some text => text
  | none => String.ofList (repairFrom 0 bytes.data.toList)

end Driftwatch
