import Driftwatch.Source.Entity

/-!
# Signatures

Two scans of a file are compared by the signatures of its declarations. A signature holds the kind,
the name and the number of lines, and for a class the same of each method. It holds no line number,
so a declaration that only moved keeps it.

Signatures of a file form a set. Sets are kept as strictly increasing lists, which makes their
written form unique.

## Main definitions

* `FunctionEntity.signature`, `ClassEntity.signature`, `Entity.signature`.
* `SignatureSet`: sets of signatures, with `ofList`, `diff` and `inter`.
* `EntityChanges`: what was added, removed and kept, with `Extraction.changesSince`.
-/

namespace Driftwatch

/-- Kind, name and number of lines of a function. -/
def FunctionEntity.signature (entity : FunctionEntity) : String :=
  entity.kind.tag ++ ":" ++ entity.name ++ ":" ++ toString entity.span

/-- Kind, name and number of lines of a class, with the signatures of its methods. -/
def ClassEntity.signature (entity : ClassEntity) : String :=
  entity.kind.tag ++ ":" ++ entity.name ++ ":" ++ toString entity.span ++ ":\x7b" ++
    ",".intercalate (entity.methods.map FunctionEntity.signature) ++ "\x7d"

/-- The signature of a declaration. -/
def Entity.signature : Entity → String
  | .function entity => entity.signature
  | .classLike entity => entity.signature

/-- Puts a text into an increasing list, unless it is there. -/
def insertText (text : String) : List String → List String
  | [] => [text]
  | head :: tail =>
    if text < head then text :: head :: tail
    else if head < text then head :: insertText text tail
    else head :: tail

theorem mem_insertText {text x : String} {list : List String} (h : x ∈ insertText text list) :
    x = text ∨ x ∈ list := by
  induction list with
  | nil => simpa [insertText] using h
  | cons head tail ih =>
    simp only [insertText] at h
    split at h
    · simpa using h
    · split at h
      · rcases List.mem_cons.1 h with rfl | h
        · exact .inr (List.mem_cons_self ..)
        · exact (ih h).imp_right (List.mem_cons_of_mem _)
      · exact .inr h

theorem pairwise_insertText (text : String) {list : List String} (h : list.Pairwise (· < ·)) :
    (insertText text list).Pairwise (· < ·) := by
  induction list with
  | nil => simp [insertText]
  | cons head tail ih =>
    have htail := List.pairwise_cons.1 h
    simp only [insertText]
    split
    · next lt =>
      refine List.pairwise_cons.2 ⟨fun x hx => ?_, h⟩
      rcases List.mem_cons.1 hx with rfl | hx
      · exact lt
      · exact String.lt_trans lt (htail.1 x hx)
    · split
      · next lt =>
        refine List.pairwise_cons.2 ⟨fun x hx => ?_, ih htail.2⟩
        rcases mem_insertText hx with rfl | hx
        · exact lt
        · exact htail.1 x hx
      · exact h

/-- A set of signatures, listed in strictly increasing order. -/
structure SignatureSet where
  items : List String := []
  increasing : items.Pairwise (· < ·) := by exact List.Pairwise.nil
  deriving DecidableEq

namespace SignatureSet

/-- The set without members. -/
def empty : SignatureSet := {}

/-- The set with one more member. -/
def insert (set : SignatureSet) (text : String) : SignatureSet :=
  ⟨insertText text set.items, pairwise_insertText text set.increasing⟩

/-- The set of the members of a list. -/
def ofList (list : List String) : SignatureSet :=
  list.foldr (fun text set => set.insert text) empty

/-- Membership, as a test. -/
def contains (set : SignatureSet) (text : String) : Bool :=
  set.items.contains text

/-- The members that satisfy a test. -/
def filter (set : SignatureSet) (p : String → Bool) : SignatureSet :=
  ⟨set.items.filter p, set.increasing.filter p⟩

/-- The members that are not in another set. -/
def diff (set other : SignatureSet) : SignatureSet :=
  set.filter fun text => !other.contains text

/-- The members that are also in another set. -/
def inter (set other : SignatureSet) : SignatureSet :=
  set.filter other.contains

/-- Whether there is no member. -/
def isEmpty (set : SignatureSet) : Bool :=
  set.items.isEmpty

end SignatureSet

/-- The signatures at the top level. -/
def Extraction.signatures (extraction : Extraction) : SignatureSet :=
  .ofList (extraction.entities.map Entity.signature)

/-- The difference between the signatures of two versions of a file. -/
structure EntityChanges where
  added : SignatureSet := {}
  removed : SignatureSet := {}
  unchanged : SignatureSet := {}
  deriving DecidableEq

/-- Whether anything was added or removed. -/
def EntityChanges.isStructural (changes : EntityChanges) : Bool :=
  !changes.added.isEmpty || !changes.removed.isEmpty

/-- What changed in a file since an earlier version of it. -/
def Extraction.changesSince (current previous : Extraction) : EntityChanges :=
  let now := current.signatures
  let before := previous.signatures
  ⟨now.diff before, before.diff now, now.inter before⟩

end Driftwatch
