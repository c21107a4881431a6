import Driftwatch.Proofs.Openings
import Driftwatch.Proofs.Shift

/-!
# Extractions are well formed

An extraction lists declarations in the order of their lines, at most one for each line, and names
lines of the text only. The same holds for the methods of a class, which start behind its first line
and not behind its last.

The order is strict because the tables of functions and classes cannot both fit a line. Everything
else follows from the bounds of the searches for last lines, whatever the body of a declaration is.

## Main definitions

* `IsSpan`: the first and the last line of something in a text.
* `ClassEntity.IsWellFormed`, `Extraction.IsWellFormed`: what is asked of a class and of an
  extraction.

## Main results

* `ordered_entitiesFrom`, `ordered_methodsFrom`: the order of declarations.
* `extraction_isWellFormed`: every extraction is well formed.
-/

namespace Driftwatch

/-- The lines from `first` to `last` are lines of a text with `total` lines. -/
structure IsSpan (total first last : Nat) : Prop where
  one_le : 1 ≤ first
  le : first ≤ last
  le_total : last ≤ total

/-- A class in a text with `total` lines whose methods are where they should be. -/
structure ClassEntity.IsWellFormed (total : Nat) (entity : ClassEntity) : Prop where
  method_span : ∀ method ∈ entity.methods, IsSpan total method.lineStart method.lineEnd
  method_within : ∀ method ∈ entity.methods,
    entity.lineStart < method.lineStart ∧ method.lineStart ≤ entity.lineEnd
  methods_ordered : entity.methods.Pairwise fun first second => first.lineStart < second.lineStart
  methods_eq_nil : entity.kind ∈ [.interface, .exportInterface, .type, .exportType] →
    entity.methods = []

/-- An extraction in the order of lines, of which every line that it names is a line of the text. -/
structure Extraction.IsWellFormed (extraction : Extraction) : Prop where
  ordered : extraction.entities.Pairwise fun first second => first.lineStart < second.lineStart
  span : ∀ entity ∈ extraction.entities,
    IsSpan extraction.totalLines entity.lineStart entity.lineEnd
  classes : ∀ entity, .classLike entity ∈ extraction.entities →
    entity.IsWellFormed extraction.totalLines

variable {lines : List (List Char)}

/-! ### Order -/

theorem ordered_entitiesOn (number : Nat) (line : List Char) :
    (entitiesOn lines number line).Pairwise fun first second =>
      first.lineStart < second.lineStart := by
  rw [entitiesOn]
  rcases functionOn?_eq_none_or_classOn?_eq_none line with hnone | hnone
  · rw [hnone]
    cases classOn? line <;> simp
  · rw [hnone]
    cases functionOn? line <;> simp

theorem ordered_entitiesFrom (number : Nat) (rest : List (List Char)) :
    (entitiesFrom lines number rest).Pairwise fun first second =>
      first.lineStart < second.lineStart := by
  induction rest generalizing number with
  | nil => exact List.Pairwise.nil
  | cons line rest ih =>
    rw [entitiesFrom]
    refine List.pairwise_append.2 ⟨ordered_entitiesOn number line, ih (number + 1), ?_⟩
    intro first hfirst second hsecond
    have hstart := lineStart_of_mem_entitiesOn hfirst
    have hbounds := lineStart_bounds hsecond
    omega

theorem ordered_methodsFrom (number : Nat) (rest : List (List Char)) :
    (methodsFrom lines number rest).Pairwise fun first second =>
      first.lineStart < second.lineStart := by
  induction rest generalizing number with
  | nil => exact List.Pairwise.nil
  | cons line rest ih =>
    simp only [methodsFrom]
    split
    · refine List.pairwise_cons.2 ⟨?_, ih (number + 1)⟩
      intro method hmethod
      obtain ⟨i, other, found, -, -, rfl⟩ := mem_methodsFrom.1 hmethod
      show number < number + 1 + i
      omega
    · exact ih (number + 1)

/-! ### Spans -/

variable {number : Nat}

theorem isSpan_endLine (hpos : 0 < number) (hle : number ≤ lines.length) (body : Body) :
    IsSpan lines.length number (endLine lines number body) := by
  obtain ⟨hfirst, hlast⟩ := endLine_bounds hpos hle body
  exact ⟨hpos, hfirst, hlast⟩

theorem lineEnd_of_mem_entitiesOn {line : List Char} {entity : Entity}
    (h : entity ∈ entitiesOn lines number line) :
    ∃ body, entity.lineEnd = endLine lines number body := by
  rcases mem_entitiesOn.1 h with ⟨found, -, rfl⟩ | ⟨found, -, rfl⟩
  · exact ⟨_, rfl⟩
  · exact ⟨_, rfl⟩

theorem mem_methods_classEntity {line : List Char} {found : ClassDeclaration}
    {method : FunctionEntity} (h : method ∈ (classEntity lines number line found).methods) :
    method ∈ methodsBetween lines number (classEntity lines number line found).lineEnd := by
  simp only [classEntity] at h
  split at h
  · exact h
  · cases h

theorem classEntity_isWellFormed (hpos : 0 < number) (hle : number ≤ lines.length)
    (line : List Char) (found : ClassDeclaration) :
    (classEntity lines number line found).IsWellFormed lines.length := by
  have hlast : (classEntity lines number line found).lineEnd ≤ lines.length :=
    (endLine_bounds hpos hle _).2
  constructor
  case method_span =>
    intro method hmethod
    obtain ⟨start, other, decl, hlt, hend, -, -, rfl⟩ :=
      mem_methodsBetween (mem_methods_classEntity hmethod)
    have hstart : 0 < start := by omega
    exact isSpan_endLine hstart (hend.trans hlast) _
  case method_within =>
    intro method hmethod
    obtain ⟨start, other, decl, hlt, hend, -, -, rfl⟩ :=
      mem_methodsBetween (mem_methods_classEntity hmethod)
    exact ⟨hlt, hend⟩
  case methods_ordered =>
    simp only [classEntity]
    split
    · exact ordered_methodsFrom _ _
    · exact List.Pairwise.nil
  case methods_eq_nil =>
    intro hkind
    have hnone : ∀ kind ∈ [ClassKind.interface, .exportInterface, .type, .exportType],
        kind.hasMethods = false := by decide
    simp only [classEntity, hnone found.kind hkind]
    rfl

theorem extractLines_isWellFormed (lines : List (List Char)) :
    (extractLines lines).IsWellFormed := by
  constructor
  case ordered => exact ordered_entitiesFrom 1 lines
  case span =>
    intro entity hentity
    obtain ⟨number, line, hpos, hle, -, hon⟩ := mem_extractLines hentity
    obtain ⟨body, hend⟩ := lineEnd_of_mem_entitiesOn hon
    rw [lineStart_of_mem_entitiesOn hon, hend]
    exact isSpan_endLine hpos hle body
  case classes =>
    intro entity hentity
    obtain ⟨number, line, hpos, hle, -, hon⟩ := mem_extractLines hentity
    rcases mem_entitiesOn.1 hon with ⟨found, -, heq⟩ | ⟨found, -, heq⟩
    · cases heq
    · cases heq
      exact classEntity_isWellFormed hpos hle line found

/-- **Every extraction is well formed**, for a text and for a file with its path. No line declares a
function and a class at once, and whatever delimits a body, a declaration on a line of the text ends
on that line or a later one of the text. -/
theorem extraction_isWellFormed :
    (∀ filePath text : String,
      (extract text).IsWellFormed ∧ (extractNamed filePath text).IsWellFormed) ∧
    (∀ line : List Char, functionOn? line = none ∨ classOn? line = none) ∧
    ∀ (lines : List (List Char)) (start : Nat) (body : Body), 1 ≤ start → start ≤ lines.length →
      start ≤ endLine lines start body ∧ endLine lines start body ≤ lines.length := by
  refine ⟨?_, functionOn?_eq_none_or_classOn?_eq_none, ?_⟩
  · intro filePath text
    have htext : (extract text).IsWellFormed := extractLines_isWellFormed _
    exact ⟨htext, htext.ordered, htext.span, htext.classes⟩
  · intro lines start body hpos hle
    exact endLine_bounds hpos hle body

/-- A class with a method, and an interface that a semicolon ends. -/
def classAndInterface : String :=
  "class A \x7b\n  f(a) \x7b\n  \x7d\n\x7d\ninterface B\n;"

theorem extraction_isWellFormed_classAndInterface :
    (extract classAndInterface).IsWellFormed ∧
      (extract classAndInterface).entities =
        [.classLike ⟨"A", .plainClass, 1, 4, [⟨"f", .method, 2, 3, ["a"]⟩]⟩,
          .function ⟨"f", .method, 2, 3, ["a"]⟩,
          .classLike ⟨"B", .interface, 5, 6, []⟩] ∧
      1 ≤ 3 ∧ 3 ≤ (Driftwatch.lines classAndInterface.toList).length ∧
      3 ≤ endLine (Driftwatch.lines classAndInterface.toList) 3 .typeLike ∧
      endLine (Driftwatch.lines classAndInterface.toList) 3 .typeLike ≤
        (Driftwatch.lines classAndInterface.toList).length := by
  obtain ⟨htexts, -, hends⟩ := extraction_isWellFormed
  have hpos : 1 ≤ 3 := by decide
  have hle : 3 ≤ (Driftwatch.lines classAndInterface.toList).length := by decide
  exact ⟨(htexts "" classAndInterface).1, by decide, hpos, hle, hends _ 3 .typeLike hpos hle⟩

end Driftwatch
