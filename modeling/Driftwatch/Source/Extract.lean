import Driftwatch.Source.Body
import Driftwatch.Source.Declaration
import Driftwatch.Source.Entity
import Driftwatch.Text.Lines

/-!
# Extraction

A text is read line by line. Each line that declares a function or a class gives an entity. The
lines of a class body are read once more for methods, so a method in the plain form is listed both
in its class and at the top level.

Nothing fails here: a text without declarations has no entities.

## Main definitions

* `extractLines`: the entities of a list of lines.
* `extract`, `extractNamed`: the same for a text, and for a file with its path.
-/

namespace Driftwatch

/-- The entity for a function declared on line `number`, which reads `line`. -/
def functionEntity (lines : List (List Char)) (number : Nat) (line : List Char)
    (found : FunctionDeclaration) : FunctionEntity where
  name := found.name
  kind := found.kind
  lineStart := number
  lineEnd := endLine lines number (.ofFunctionLine line)
  args := found.args

/-- The methods on consecutive lines, of which the first has the number `number`. -/
def methodsFrom (lines : List (List Char)) (number : Nat) : List (List Char) → List FunctionEntity
  | [] => []
  | line :: following =>
    let methods := methodsFrom lines (number + 1) following
    match methodOn? line with
    | some found => functionEntity lines number line found :: methods
    | none => methods

/-- The methods on the lines after `first`, through `last`. -/
def methodsBetween (lines : List (List Char)) (first last : Nat) : List FunctionEntity :=
  methodsFrom lines (first + 1) ((lines.drop first).take (last - first))

/-- The entity for a class declared on line `number`, which reads `line`. -/
def classEntity (lines : List (List Char)) (number : Nat) (line : List Char)
    (found : ClassDeclaration) : ClassEntity :=
  let last := endLine lines number (.ofClassLine line found.kind)
  { name := found.name
    kind := found.kind
    lineStart := number
    lineEnd := last
    methods := if found.kind.hasMethods then methodsBetween lines number last else [] }

/-- The entities that line `number` declares. -/
def entitiesOn (lines : List (List Char)) (number : Nat) (line : List Char) : List Entity :=
  ((functionOn? line).map fun found => .function (functionEntity lines number line found)).toList ++
    ((classOn? line).map fun found => .classLike (classEntity lines number line found)).toList

/-- The entities on consecutive lines, of which the first has the number `number`. -/
def entitiesFrom (lines : List (List Char)) (number : Nat) : List (List Char) → List Entity
  | [] => []
  | line :: following => entitiesOn lines number line ++ entitiesFrom lines (number + 1) following

/-- What a list of lines declares. -/
def extractLines (lines : List (List Char)) : Extraction where
  entities := entitiesFrom lines 1 lines
  totalLines := lines.length

/-- What a text declares. -/
def extract (text : String) : Extraction :=
  extractLines (lines text.toList)

/-- What the text of a file declares. -/
def extractNamed (filePath text : String) : Extraction :=
  { extract text with filePath := filePath }

end Driftwatch
