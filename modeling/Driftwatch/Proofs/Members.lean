import Driftwatch.Proofs.Matching

/-!
# Methods at the top level

The lines of a class body are read twice, once for its methods and once for the declarations of the
whole text. The two tables share one form, that of a method without a modifier. So such a method is
listed twice, and both entries are the same. A method with a modifier is listed in its class only,
and nothing else is listed for its line.

## The shape of the argument

In the table of functions five forms stand before the shared one, and none of them has a line of
it. Four ask for other words. The fifth, a property whose value is a function, agrees with it up to
the name and then asks for a colon. A modifier makes two words before the parenthesis, which no form
of functions and no form of classes has in the same place. All of this is evaluation of
`Form.excludes` over the tables.

## Main definitions

* `methodModifiers`: the words that can stand before a method.

## Main results

* `methodOn?_cases`: a line with a method has the shared form, or one with a modifier.
* `functionOn?_of_methodOn?`: what the table of functions makes of a line with a method.
* `top_level_lists_bare_methods`: the methods of a class among the declarations of a text.
-/

namespace Driftwatch

/-- The words that can stand before a method. -/
def methodModifiers : List String :=
  ["async", "static", "private", "public", "protected"]

theorem methodForms_eq : methodForms = bareMethod :: methodModifiers.map modifiedMethod :=
  rfl

theorem bareMethod_mem : bareMethod ∈ functionForms ++ methodForms :=
  List.mem_append_right _ List.mem_cons_self

theorem modifiedMethod_mem {modifier : String} (h : modifier ∈ methodModifiers) :
    modifiedMethod modifier ∈ functionForms ++ methodForms :=
  List.mem_append_right _ (List.mem_cons_of_mem _ (List.mem_map_of_mem h))

/-! ### Lines -/

section

variable {line : List Char} {captures : Captures} {found : FunctionDeclaration}

/-- The shared form decides in the table of functions, in which it is the sixth. -/
theorem functionOn?_of_bareMethod (h : bareMethod.read line = some captures) :
    functionOn? line = some (.ofCaptures (.method, captures)) := by
  have hforms : functionForms = functionForms.take 5 ++ bareMethod :: functionForms.drop 6 := rfl
  have hexcludes : ∀ other ∈ functionForms.take 5, bareMethod.excludes other = true := by decide
  have hbefore := firstReading_eq_none_of_excludes hexcludes h
  rw [functionOn?, hforms, firstReading_append_cons hbefore h]
  rfl

/-- It also decides in the table of methods, in which it is the first. -/
theorem methodOn?_of_bareMethod (h : bareMethod.read line = some captures) :
    methodOn? line = some (.ofCaptures (.method, captures)) := by
  have hforms : methodForms = [] ++ bareMethod :: methodModifiers.map modifiedMethod := rfl
  rw [methodOn?, hforms, firstReading_append_cons rfl h]
  rfl

/-- A line with a modifier declares neither a function nor a class. -/
theorem eq_none_of_modifiedMethod {modifier : String} (hmodifier : modifier ∈ methodModifiers)
    (h : (modifiedMethod modifier).read line = some captures) :
    functionOn? line = none ∧ classOn? line = none := by
  have hfunctions : ∀ modifier ∈ methodModifiers, ∀ other ∈ functionForms,
      (modifiedMethod modifier).excludes other = true := by decide
  have hclasses : ∀ modifier ∈ methodModifiers, ∀ other ∈ classForms,
      (modifiedMethod modifier).excludes other = true := by decide
  rw [functionOn?, firstReading_eq_none_of_excludes (hfunctions modifier hmodifier) h, classOn?,
    firstReading_eq_none_of_excludes (hclasses modifier hmodifier) h]
  exact ⟨rfl, rfl⟩

/-- **A line with a method** has the shared form, or it has not and a modifier comes first. -/
theorem methodOn?_cases (h : methodOn? line = some found) :
    bareMethod.Fits line ∧ functionOn? line = some found ∨
      ¬bareMethod.Fits line ∧ functionOn? line = none ∧ classOn? line = none ∧
        ∃ modifier ∈ methodModifiers, (modifiedMethod modifier).Fits line := by
  rw [Form.fits_iff_read bareMethod_mem]
  cases hbare : bareMethod.read line with
  | some captures =>
    rw [methodOn?_of_bareMethod hbare] at h
    exact .inl ⟨⟨captures, rfl⟩, (functionOn?_of_bareMethod hbare).trans h⟩
  | none =>
    obtain ⟨reading, hreading, -⟩ := Option.map_eq_some_iff.1 h
    obtain ⟨form, hform, hread⟩ := List.exists_of_findSome?_eq_some hreading
    obtain ⟨captures, hcaptures, -⟩ := Option.map_eq_some_iff.1 hread
    rw [methodForms_eq, List.mem_cons, List.mem_map] at hform
    obtain rfl | ⟨modifier, hmodifier, rfl⟩ := hform
    · rw [hbare] at hcaptures
      cases hcaptures
    · obtain ⟨hfunction, hclass⟩ := eq_none_of_modifiedMethod hmodifier hcaptures
      refine .inr ⟨by simp, hfunction, hclass, modifier, hmodifier, ?_⟩
      exact (Form.fits_iff_read (modifiedMethod_mem hmodifier)).2 ⟨captures, hcaptures⟩

/-- The table of functions gives nothing for a line with a method, or the same declaration. It gives
that for the shared form only. -/
theorem functionOn?_of_methodOn? (h : methodOn? line = some found) :
    (functionOn? line = none ∨ functionOn? line = some found) ∧
      (functionOn? line = some found ↔ bareMethod.Fits line) := by
  rcases methodOn?_cases h with ⟨hfits, hsome⟩ | ⟨hfits, hnone, -⟩
  · exact ⟨.inr hsome, fun _ => hfits, fun _ => hsome⟩
  · refine ⟨.inl hnone, fun hsome => ?_, fun hother => absurd hother hfits⟩
    rw [hnone] at hsome
    cases hsome

end

/-! ### Texts -/

section

variable {rows : List (List Char)} {number : Nat} {line : List Char}

theorem function_mem_extractLines (hpos : 0 < number) (hline : rows[number - 1]? = some line)
    {found : FunctionDeclaration} (h : functionOn? line = some found) :
    .function (functionEntity rows number line found) ∈ (extractLines rows).entities := by
  refine mem_entitiesFrom.2 ⟨number - 1, line, hline, mem_entitiesOn.2 (.inl ⟨found, h, ?_⟩)⟩
  rw [Nat.add_sub_cancel' hpos]

/-- No entity starts on a line that declares nothing. -/
theorem lineStart_ne_of_eq_none (hline : rows[number - 1]? = some line)
    (hfunction : functionOn? line = none) (hclass : classOn? line = none) :
    ∀ entity ∈ (extractLines rows).entities, entity.lineStart ≠ number := by
  rintro entity hentity rfl
  obtain ⟨other, found, -, -, hfound, hon⟩ := mem_extractLines hentity
  obtain rfl := lineStart_of_mem_entitiesOn hon
  obtain rfl := Option.some.inj (hline.symm.trans hfound)
  rcases mem_entitiesOn.1 hon with ⟨declaration, hsome, -⟩ | ⟨declaration, hsome, -⟩
  · rw [hfunction] at hsome
    cases hsome
  · rw [hclass] at hsome
    cases hsome

end

/-- **The two passes agree.** What a line declares as a method, it declares as a function as well or
it declares no function, and it does so exactly where it has the form without a modifier. So every
method of a class of a text in this form is among the functions of the text, with all its fields.
Nothing in the text starts on the line of any other method, which then has a modifier. -/
theorem top_level_lists_bare_methods :
    (∀ line found, methodOn? line = some found →
      (functionOn? line = none ∨ functionOn? line = some found) ∧
        (functionOn? line = some found ↔ bareMethod.Fits line)) ∧
    ∀ (text : String) (entity : ClassEntity), .classLike entity ∈ (extract text).entities →
      ∀ method ∈ entity.methods, ∃ line, 0 < method.lineStart ∧
        (lines text.toList)[method.lineStart - 1]? = some line ∧
        (bareMethod.Fits line → .function method ∈ (extract text).entities) ∧
        (¬bareMethod.Fits line →
          (∃ modifier ∈ methodModifiers, (modifiedMethod modifier).Fits line) ∧
            ∀ other ∈ (extract text).entities, other.lineStart ≠ method.lineStart) := by
  refine ⟨fun line found => functionOn?_of_methodOn?, ?_⟩
  intro text entity hentity method hmethod
  obtain ⟨number, -, -, start, line, declaration, hnumber, hlt, -, -, -, -, hline, hdeclaration,
    rfl⟩ := exists_lines_of_mem_methods hentity hmethod
  have hpos : 0 < start := hnumber.trans hlt
  refine ⟨line, hpos, hline, ?_, ?_⟩
  · intro hfits
    exact function_mem_extractLines hpos hline ((functionOn?_of_methodOn? hdeclaration).2.2 hfits)
  · intro hfits
    obtain ⟨hother, -⟩ | ⟨-, hfunction, hclass, hmodifier⟩ := methodOn?_cases hdeclaration
    · exact absurd hother hfits
    · exact ⟨hmodifier, lineStart_ne_of_eq_none hline hfunction hclass⟩

/-- A method whose name is a word that could be a modifier. -/
def methodNamedStatic : List Char :=
  "static (x) \x7b".toList

theorem top_level_lists_bare_methods_twoMethods :
    (methodOn? methodNamedStatic = some ⟨.method, "static", ["x"]⟩ ∧
      functionOn? methodNamedStatic = some ⟨.method, "static", ["x"]⟩) ∧
    ∃ entity f g, .classLike entity ∈ (extract twoMethods).entities ∧ entity.methods = [f, g] ∧
      .function f ∈ (extract twoMethods).entities ∧
      ∀ other ∈ (extract twoMethods).entities, other.lineStart ≠ g.lineStart := by
  have hfits : ∀ line captures, bareMethod.read line = some captures → bareMethod.Fits line :=
    fun line captures hread => (Form.fits_iff_read bareMethod_mem).2 ⟨captures, hread⟩
  have hmethod : methodOn? methodNamedStatic = some ⟨.method, "static", ["x"]⟩ := by decide
  have hentity : .classLike ⟨"A", .plainClass, 1, 5,
      [⟨"f", .method, 2, 3, ["a"]⟩, ⟨"g", .method, 4, 4, ["x"]⟩]⟩ ∈
        (extract twoMethods).entities := by decide
  obtain ⟨hlines, htexts⟩ := top_level_lists_bare_methods
  refine ⟨⟨hmethod, (hlines _ _ hmethod).2.2 (hfits _ ⟨"static".toList, ['x']⟩ (by decide))⟩,
    _, _, _, hentity, rfl, ?_, ?_⟩
  · obtain ⟨line, -, hline, hbare, -⟩ := htexts twoMethods _ hentity _ List.mem_cons_self
    have hfirst : (lines twoMethods.toList)[2 - 1]? = some "  f(a) \x7b".toList := by decide
    obtain rfl := Option.some.inj (hfirst.symm.trans hline)
    exact hbare (hfits _ ⟨['f'], ['a']⟩ (by decide))
  · obtain ⟨line, -, hline, -, hmodified⟩ :=
      htexts twoMethods _ hentity _ (List.mem_cons_of_mem _ List.mem_cons_self)
    have hsecond : (lines twoMethods.toList)[4 - 1]? =
        some "  async g(x) \x7b return y => y; \x7d".toList := by decide
    obtain rfl := Option.some.inj (hsecond.symm.trans hline)
    have hnone : bareMethod.read "  async g(x) \x7b return y => y; \x7d".toList = none := by decide
    refine (hmodified fun hother => ?_).2
    obtain ⟨captures, hread⟩ := (Form.fits_iff_read bareMethod_mem).1 hother
    rw [hnone] at hread
    cases hread

end Driftwatch
