import Driftwatch.Store.Fault
import Driftwatch.Time.Timestamp

/-!
# File stores

Scans, history and configuration need little of a file system: reading, writing whole files, asking
what is there and listing what is below a folder. A type with these operations is a `FileStore`.
Its values are states, so an operation that changes files returns a new one. A write that fails can
have changed something before, so it returns a state as well.

## Main definitions

* `FileStore`: the operations.
* `ListedItem`: a file or folder that a listing gives.
* `orUnchanged`: a change that does all or nothing.
-/

namespace Driftwatch

/-- A file or folder below a folder. -/
structure ListedItem where
  /-- The path from the folder that was listed. -/
  path : Path
  isDir : Bool
  /-- Bytes of a file, zero for a folder. -/
  size : Nat
  modified : Option Timestamp
  deriving Repr, DecidableEq

/-- A change that leaves a state as it was when it fails. -/
def orUnchanged {ε σ : Type} (state : σ) : Except ε σ → Except ε Unit × σ
  | .ok changed => (.ok (), changed)
  | .error fault => (.error fault, state)

/-- States of a file system. -/
class FileStore (σ : Type) where
  /-- The bytes of a file. -/
  readBytes : σ → Path → Except StoreFault ByteArray
  /-- The text of a file. -/
  readText : σ → Path → Except StoreFault String
  /-- Writes a whole file, and gives the state after that or after the failure. -/
  write : σ → Path → String → Except StoreFault Unit × σ
  /-- Whether something is at a path. -/
  contains : σ → Path → Bool
  /-- What is below a folder, in the order of paths, without the entries that have one of the given
  names and without what is below them. -/
  listing : σ → Path → List String → Except StoreFault (List ListedItem)

end Driftwatch
