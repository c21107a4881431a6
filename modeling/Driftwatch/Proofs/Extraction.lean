import Driftwatch.Proofs.Forms
import Driftwatch.Source.Extract

/-!
# Where entities come from

Every entity of an extraction stands on a line that declares it, and so does every method. All lines
that an entity names are lines of the text: no search gives a line before the declaration or past
the last one.

## Main results

* `mem_extractLines`, `mem_entitiesOn`, `mem_methodsBetween`: the line behind an entity or method.
* `endLine_bounds`: a declaration ends on a line of the text, not before it starts.
-/

namespace Driftwatch

variable {lines rest : List (List Char)} {line : List Char} {number : Nat}

/-! ### Members -/

theorem mem_entitiesFrom {entity : Entity} :
    entity ∈ entitiesFrom lines number rest ↔
      ∃ i line, rest[i]? = some line ∧ entity ∈ entitiesOn lines (number + i) line := by
  induction rest generalizing number with
  | nil => simp [entitiesFrom]
  | cons line rest ih =>
    rw [entitiesFrom, List.mem_append, ih]
    constructor
    · rintro (h | ⟨i, found, hfound, h⟩)
      · exact ⟨0, line, rfl, h⟩
      · exact ⟨i + 1, found, hfound, by rwa [show number + (i + 1) = number + 1 + i by omega]⟩
    · rintro ⟨i, found, hfound, h⟩
      cases i with
      | zero =>
        cases hfound
        exact .inl h
      | succ i =>
        exact .inr ⟨i, found, hfound, by rwa [show number + 1 + i = number + (i + 1) by omega]⟩

theorem mem_entitiesOn {entity : Entity} :
    entity ∈ entitiesOn lines number line ↔
      (∃ found, functionOn? line = some found ∧
        entity = .function (functionEntity lines number line found)) ∨
      ∃ found, classOn? line = some found ∧
        entity = .classLike (classEntity lines number line found) := by
  simp only [entitiesOn, List.mem_append, Option.mem_toList, Option.map_eq_some_iff,
    eq_comm (a := entity)]

theorem mem_methodsFrom {method : FunctionEntity} :
    method ∈ methodsFrom lines number rest ↔
      ∃ i line found, rest[i]? = some line ∧ methodOn? line = some found ∧
        method = functionEntity lines (number + i) line found := by
  induction rest generalizing number with
  | nil => simp [methodsFrom]
  | cons line rest ih =>
    have hcons : method ∈ methodsFrom lines number (line :: rest) ↔
        (∃ found, methodOn? line = some found ∧ method = functionEntity lines number line found) ∨
          method ∈ methodsFrom lines (number + 1) rest := by
      simp only [methodsFrom]
      split <;> simp_all
    rw [hcons, ih]
    constructor
    · rintro (⟨found, hfound, rfl⟩ | ⟨i, other, found, hother, hfound, rfl⟩)
      · exact ⟨0, line, found, rfl, hfound, rfl⟩
      · exact ⟨i + 1, other, found, hother, hfound,
          by rw [show number + (i + 1) = number + 1 + i by omega]⟩
    · rintro ⟨i, other, found, hother, hfound, rfl⟩
      cases i with
      | zero =>
        cases hother
        exact .inl ⟨found, hfound, rfl⟩
      | succ i =>
        exact .inr ⟨i, other, found, hother, hfound,
          by rw [show number + 1 + i = number + (i + 1) by omega]⟩

/-- The methods of a class stand on the lines after its first, through its last. -/
theorem mem_methodsBetween {method : FunctionEntity} {first last : Nat}
    (h : method ∈ methodsBetween lines first last) :
    ∃ number line found, first < number ∧ number ≤ last ∧ lines[number - 1]? = some line ∧
      methodOn? line = some found ∧ method = functionEntity lines number line found := by
  obtain ⟨i, line, found, hline, hfound, rfl⟩ := mem_methodsFrom.1 h
  have hi : i < last - first := by
    obtain ⟨hlt, -⟩ := List.getElem?_eq_some_iff.1 hline
    rw [List.length_take] at hlt
    omega
  refine ⟨first + 1 + i, line, found, by omega, by omega, ?_, hfound, rfl⟩
  rw [List.getElem?_take_of_lt hi, List.getElem?_drop] at hline
  rwa [show first + 1 + i - 1 = first + i by omega]

/-- The entities of a list of lines stand on these lines. -/
theorem mem_extractLines {entity : Entity} (h : entity ∈ (extractLines lines).entities) :
    ∃ number line, 0 < number ∧ number ≤ lines.length ∧ lines[number - 1]? = some line ∧
      entity ∈ entitiesOn lines number line := by
  obtain ⟨i, line, hline, hentity⟩ := mem_entitiesFrom.1 h
  obtain ⟨hlt, -⟩ := List.getElem?_eq_some_iff.1 hline
  exact ⟨1 + i, line, by omega, by omega, by rwa [Nat.add_sub_cancel_left], hentity⟩

/-! ### Last lines -/

theorem closingLineFrom_bounds {cursor : Cursor} {depth found : Nat}
    (h : closingLineFrom cursor depth number rest = some found) :
    number ≤ found ∧ found < number + rest.length := by
  induction rest generalizing cursor depth number with
  | nil => simp [closingLineFrom] at h
  | cons line rest ih =>
    simp only [closingLineFrom] at h
    split at h
    · cases h
      simp
    · obtain ⟨hle, hlt⟩ := ih h
      simp only [List.length_cons]
      omega

theorem closingLine_bounds {start : Nat} (hstart : start < lines.length) (brace : Nat) :
    start + 1 ≤ closingLine lines start brace ∧ closingLine lines start brace ≤ lines.length := by
  unfold closingLine
  split
  · omega
  · next line following hdrop =>
    have hlength : following.length + 1 = lines.length - start := by
      rw [← List.length_drop, hdrop, List.length_cons]
    simp only
    split
    · omega
    · cases hfound : closingLineFrom _ _ (start + 2) following with
      | none => simp only [Option.getD_none]; omega
      | some found =>
        have hbounds := closingLineFrom_bounds hfound
        simp only [Option.getD_some]
        omega

theorem firstLine?_bounds {p : List Char → Bool} {found : Nat}
    (h : firstLine? p number rest = some found) :
    number ≤ found ∧ found < number + rest.length := by
  induction rest generalizing number with
  | nil => simp [firstLine?] at h
  | cons line rest ih =>
    simp only [firstLine?] at h
    split at h
    · cases h
      simp
    · obtain ⟨hle, hlt⟩ := ih h
      simp only [List.length_cons]
      omega

theorem firstBrace?_bounds {index : Nat} {found : Nat × Nat}
    (h : firstBrace? index rest = some found) :
    index ≤ found.1 ∧ found.1 < index + rest.length := by
  induction rest generalizing index with
  | nil => simp [firstBrace?] at h
  | cons line rest ih =>
    simp only [firstBrace?] at h
    split at h
    · cases h
      simp
    · obtain ⟨hle, hlt⟩ := ih h
      simp only [List.length_cons]
      omega

/-- A search through a window of the lines that follow gives a line of the text. -/
theorem firstLine?_window_bounds {start window : Nat} (hstart : start ≤ lines.length)
    (p : List Char → Bool) :
    start ≤ (firstLine? p (start + 1) ((lines.drop start).take window)).getD start ∧
      (firstLine? p (start + 1) ((lines.drop start).take window)).getD start ≤ lines.length := by
  cases hfound : firstLine? p (start + 1) ((lines.drop start).take window) with
  | none => exact ⟨Nat.le_refl _, hstart⟩
  | some found =>
    have hbounds := firstLine?_bounds hfound
    simp only [List.length_take, List.length_drop] at hbounds
    simp only [Option.getD_some]
    omega

/-- A declaration on a line of a text ends on that line or a later one of the text. -/
theorem endLine_bounds {start : Nat} (hpos : 0 < start) (hle : start ≤ lines.length) (body : Body) :
    start ≤ endLine lines start body ∧ endLine lines start body ≤ lines.length := by
  have hbrace (brace : Nat) : start ≤ closingLine lines (start - 1) brace ∧
      closingLine lines (start - 1) brace ≤ lines.length := by
    have hstart : start - 1 < lines.length := by omega
    have hbounds := closingLine_bounds hstart brace
    omega
  rw [endLine, if_neg (by omega)]
  cases body with
  | arrowBlock brace => exact hbrace brace
  | block brace => exact hbrace brace
  | classBody brace =>
    cases brace with
    | none => exact ⟨Nat.le_refl _, hle⟩
    | some brace => exact hbrace brace
  | arrowExpression =>
    simp only
    split
    · exact ⟨Nat.le_refl _, hle⟩
    · exact firstLine?_window_bounds hle closesStatement
  | blockAhead =>
    simp only
    split
    · next index brace hfound =>
      have hindex := firstBrace?_bounds hfound
      simp only [List.length_take, List.length_drop] at hindex
      have hstart : index < lines.length := by omega
      have hbounds := closingLine_bounds hstart brace
      omega
    · exact ⟨Nat.le_refl _, hle⟩
  | typeLike => exact firstLine?_window_bounds hle endsDeclaration

end Driftwatch
