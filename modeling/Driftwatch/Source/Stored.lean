import Driftwatch.Json.Stored
import Driftwatch.Source.Signature

/-!
# The stored form of declarations

## Main definitions

* Instances of `Stored` for kinds, entities, extractions, sets of signatures and their changes.
-/

namespace Driftwatch

instance : Stored FunctionKind where
  toJson kind := .str kind.tag
  ofJson? value := value.innerTag?.bind FunctionKind.ofTag?

instance : Stored ClassKind where
  toJson kind := .str kind.tag
  ofJson? value := value.innerTag?.bind ClassKind.ofTag?

namespace FunctionEntity

/-- The members of the stored form. -/
def members (entity : FunctionEntity) : List (String × Json) :=
  [("name", toJson entity.name),
   ("kind", toJson entity.kind),
   ("line_start", toJson entity.lineStart),
   ("line_end", toJson entity.lineEnd),
   ("args", toJson entity.args)]

/-- The function with a given stored form. -/
def ofJson? (value : Json) : Option FunctionEntity := do
  let [name, kind, lineStart, lineEnd, args] ←
    value.fields? ["name", "kind", "line_start", "line_end", "args"] | none
  return ⟨← Json.required? name, ← Json.required? kind, ← Json.required? lineStart,
    ← Json.required? lineEnd, ← Json.required? args⟩

end FunctionEntity

instance : Stored FunctionEntity where
  toJson entity := .obj entity.members
  ofJson? := FunctionEntity.ofJson?

namespace ClassEntity

/-- The members of the stored form. -/
def members (entity : ClassEntity) : List (String × Json) :=
  [("name", toJson entity.name),
   ("kind", toJson entity.kind),
   ("line_start", toJson entity.lineStart),
   ("line_end", toJson entity.lineEnd),
   ("methods", toJson entity.methods)]

/-- The class with a given stored form. -/
def ofJson? (value : Json) : Option ClassEntity := do
  let [name, kind, lineStart, lineEnd, methods] ←
    value.fields? ["name", "kind", "line_start", "line_end", "methods"] | none
  return ⟨← Json.required? name, ← Json.required? kind, ← Json.required? lineStart,
    ← Json.required? lineEnd, ← Json.required? methods⟩

end ClassEntity

namespace Entity

/-- The declaration with a given tag whose other fields are in `value`. -/
def ofTagged? (tag : String) (value : Json) : Option Entity :=
  match tag with
  | "function" => (FunctionEntity.ofJson? value).map .function
  | "class" => (ClassEntity.ofJson? value).map .classLike
  | _ => none

/-- The declaration with a stored form of which all parts can be read. The tag may stand anywhere in
an object, and comes first in an array. -/
def ofReadable? : Json → Option Entity
  | .obj members =>
    match Json.uniqueMember? members "entity" with
    | some (some (.str tag)) => ofTagged? tag (.obj (members.filter (·.1 != "entity")))
    | _ => none
  | .arr (.str tag :: items) => ofTagged? tag (.arr items)
  | _ => none

/-- The declaration with a given stored form. Since the tag may come last, all parts are read before
it is known what they are, so all of them must have a meaning. -/
def ofJson? (value : Json) : Option Entity :=
  if value.isReadable then ofReadable? value else none

end Entity

instance : Stored Entity where
  toJson
    | .function entity => .obj (("entity", .str "function") :: entity.members)
    | .classLike entity => .obj (("entity", .str "class") :: entity.members)
  ofJson? := Entity.ofJson?

namespace Extraction

/-- The extraction with a given stored form. An object may leave the path out. -/
def ofJson? (value : Json) : Option Extraction := do
  let [filePath, entities, totalLines] ←
    value.fields? ["file_path", "entities", "total_lines"] | none
  let filePath ←
    match filePath with
    | none => some ""
    | filePath => Json.required? filePath
  return ⟨filePath, ← Json.required? entities, ← Json.required? totalLines⟩

end Extraction

instance : Stored Extraction where
  toJson extraction := .obj
    [("file_path", toJson extraction.filePath),
     ("entities", toJson extraction.entities),
     ("total_lines", toJson extraction.totalLines)]
  ofJson? := Extraction.ofJson?

/-- A set is stored as the list of its members. Any list with these members is read as the set. -/
instance : Stored SignatureSet where
  toJson set := toJson set.items
  ofJson? value := (ofJson? value).map SignatureSet.ofList

namespace EntityChanges

/-- The changes with a given stored form. -/
def ofJson? (value : Json) : Option EntityChanges := do
  let [added, removed, unchanged] ← value.fields? ["added", "removed", "unchanged"] | none
  return ⟨← Json.required? added, ← Json.required? removed, ← Json.required? unchanged⟩

end EntityChanges

instance : Stored EntityChanges where
  toJson changes := .obj
    [("added", toJson changes.added),
     ("removed", toJson changes.removed),
     ("unchanged", toJson changes.unchanged)]
  ofJson? := EntityChanges.ofJson?

end Driftwatch
