import Driftwatch.Source.Kind
import Driftwatch.Text.Number

/-!
# Extracted declarations

What a source file declares, with the lines that each declaration covers. Lines are counted from
one and spans hold both their ends.

## Main definitions

* `FunctionEntity`, `ClassEntity`, `Entity`: one declaration.
* `Extraction`: the declarations of a file and the number of its lines.
-/

namespace Driftwatch

/-- The number of lines from `first` to `last` as a word. It is at least one unless both are the
bounds of a word, from line zero on, when it has no room in one and becomes zero. -/
def spanLength (first last : Nat) : Nat :=
  (last - first + 1) % wordLimit

/-- A function or method. -/
structure FunctionEntity where
  name : String
  kind : FunctionKind
  lineStart : Nat
  lineEnd : Nat
  args : List String
  deriving Repr, DecidableEq

/-- A class, an interface or a type. Only classes have methods. -/
structure ClassEntity where
  name : String
  kind : ClassKind
  lineStart : Nat
  lineEnd : Nat
  methods : List FunctionEntity
  deriving Repr, DecidableEq

/-- A declaration. -/
inductive Entity where
  | function (entity : FunctionEntity)
  | classLike (entity : ClassEntity)
  deriving Repr, DecidableEq

/-- The number of lines that a function covers. -/
def FunctionEntity.span (entity : FunctionEntity) : Nat :=
  spanLength entity.lineStart entity.lineEnd

/-- The number of lines that a class covers. -/
def ClassEntity.span (entity : ClassEntity) : Nat :=
  spanLength entity.lineStart entity.lineEnd

namespace Entity

/-- The first line. -/
def lineStart : Entity → Nat
  | function entity => entity.lineStart
  | .classLike entity => entity.lineStart

/-- The last line. -/
def lineEnd : Entity → Nat
  | function entity => entity.lineEnd
  | .classLike entity => entity.lineEnd

end Entity

/-- What was found in a file. The path is empty for a text that comes from no file. -/
structure Extraction where
  filePath : String := ""
  entities : List Entity
  totalLines : Nat
  deriving Repr, DecidableEq

namespace Extraction

/-- The functions at the top level. -/
def functions (extraction : Extraction) : List FunctionEntity :=
  extraction.entities.filterMap fun
    | .function entity => some entity
    | .classLike _ => none

/-- The classes, interfaces and types at the top level. -/
def classes (extraction : Extraction) : List ClassEntity :=
  extraction.entities.filterMap fun
    | .classLike entity => some entity
    | .function _ => none

/-- The result for a file of which only the lines are counted. -/
def ofLineCount (filePath : String) (totalLines : Nat) : Extraction :=
  ⟨filePath, [], totalLines⟩

end Extraction

end Driftwatch
