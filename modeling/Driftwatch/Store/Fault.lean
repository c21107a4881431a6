import Driftwatch.Path

/-!
# Failures of a file store

## Main definitions

* `StoreFault`: why a file store could not do what it was asked.
* `StoreFault.message`: its wording.
-/

namespace Driftwatch

/-- A failure that an operating system reports by number, or a path that cannot be handed to it. -/
inductive SystemFault where
  | noEntry
  | exists
  | notDirectory
  | isDirectory
  | nameTooLong
  /-- The path holds the byte that ends a path for the operating system. -/
  | zeroInPath
  deriving Repr, DecidableEq

namespace SystemFault

/-- The number of a failure, if it has one. -/
def number? : SystemFault → Option Nat
  | noEntry => some 2
  | .exists => some 17
  | notDirectory => some 20
  | isDirectory => some 21
  | nameTooLong => some 36
  | zeroInPath => none

/-- The wording of a failure. -/
def message (fault : SystemFault) : String :=
  let text :=
    match fault with
    | noEntry => "No such file or directory"
    | .exists => "File exists"
    | notDirectory => "Not a directory"
    | isDirectory => "Is a directory"
    | nameTooLong => "File name too long"
    | zeroInPath => "file name contained an unexpected NUL byte"
  match fault.number? with
  | some number => text ++ " (os error " ++ toString number ++ ")"
  | none => text

end SystemFault

/-- Why a file store could not do what it was asked. -/
inductive StoreFault where
  /-- There is no such file. -/
  | fileMissing (path : Path)
  /-- The file is there and cannot be read. -/
  | denied (path : Path)
  /-- Nothing is stored at or below the path. -/
  | directoryMissing (path : Path)
  /-- The file cannot be written. -/
  | refused (path : Path)
  /-- The bytes of the file are no text, and where that shows. -/
  | notUtf8 (fault : Utf8Fault)
  /-- The bytes of the file are no text. -/
  | notText
  /-- The operating system refused. -/
  | system (fault : SystemFault)
  deriving Repr, DecidableEq

namespace StoreFault

/-- The wording of a failure. -/
def message : StoreFault → String
  | fileMissing path => "file not found: " ++ path.text
  | denied path => "permission denied: " ++ path.text
  | directoryMissing path => "directory not found: " ++ path.text
  | refused path => "write refused: " ++ path.text
  | notUtf8 fault => fault.message
  | notText => "stream did not contain valid UTF-8"
  | system fault => fault.message

end StoreFault

end Driftwatch
