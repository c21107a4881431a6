import Driftwatch.Text.Utf8

/-!
# Texts that may be no texts

An operating system names files by bytes, and nothing makes these bytes a text. So a name is kept as
its bytes and becomes a text only where one is needed, in one of two ways: as the text that the
bytes encode, which not every name has, or as a text to show, which every name has and which
different names may share.

## Main definitions

* `RawText`: bytes that stand for a text, with `RawText.ofString` for those of a text.
* `RawText.text?`: the text that the bytes encode.
* `RawText.shown`: the text to show, with faults replaced.
-/

namespace Driftwatch

/-- Bytes that stand for a text and need not encode one. -/
@[ext]
structure RawText where
  bytes : List UInt8
  deriving Repr, DecidableEq

namespace RawText

/-- The bytes of a text. -/
def ofString (text : String) : RawText :=
  ⟨text.toUTF8.data.toList⟩

instance : Coe String RawText :=
  ⟨ofString⟩

/-- The bytes as files hold them. -/
def packed (raw : RawText) : ByteArray :=
  ⟨raw.bytes.toArray⟩

/-- The text that the bytes encode, if they encode one. -/
def text? (raw : RawText) : Option String :=
  String.fromUTF8? raw.packed

/-- The text to show, with U+FFFD in the place of each fault. -/
def shown (raw : RawText) : String :=
  repairUtf8 raw.packed

end RawText

end Driftwatch
