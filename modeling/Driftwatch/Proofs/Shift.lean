import Driftwatch.Proofs.Signature

/-!
# Extraction looks forward only

Lines that are put before a text move its declarations and change nothing else about them. The
reason is the same on every level: a search starts on the line of the declaration and reads the
lines after it, so it commutes with the shift. Each function of the extraction has one lemma here
that says so, and the next one up uses it.

## Main definitions

* `Entity.shift`: a declaration that stands a number of lines further down.

## Main results

* `endLine_append`: the search for the last line commutes with lines put before.
* `filter_extractLines_append`: so does the extraction.
* `extract_shift`: blank lines before a text only move its entities, and comparing the two finds
  no structural change.
-/

namespace Driftwatch

/-- A function that stands `count` lines further down. -/
def FunctionEntity.shift (count : Nat) (entity : FunctionEntity) : FunctionEntity :=
  { entity with lineStart := entity.lineStart + count, lineEnd := entity.lineEnd + count }

/-- A class that stands `count` lines further down, with its methods. -/
def ClassEntity.shift (count : Nat) (entity : ClassEntity) : ClassEntity :=
  { entity with
    lineStart := entity.lineStart + count
    lineEnd := entity.lineEnd + count
    methods := entity.methods.map (FunctionEntity.shift count) }

/-- A declaration that stands `count` lines further down. -/
def Entity.shift (count : Nat) : Entity → Entity
  | .function entity => .function (entity.shift count)
  | .classLike entity => .classLike (entity.shift count)

/-! ### Searches -/

theorem closingLineFrom_shift (cursor : Cursor) (depth number count : Nat)
    (lines : List (List Char)) :
    closingLineFrom cursor depth (number + count) lines =
      (closingLineFrom cursor depth number lines).map (· + count) := by
  induction lines generalizing cursor depth number with
  | nil => rfl
  | cons line following ih =>
    simp only [closingLineFrom]
    split
    · rfl
    · rw [show number + count + 1 = number + 1 + count by omega]
      exact ih _ _ _

theorem firstLine?_shift (p : List Char → Bool) (number count : Nat) (lines : List (List Char)) :
    firstLine? p (number + count) lines = (firstLine? p number lines).map (· + count) := by
  induction lines generalizing number with
  | nil => rfl
  | cons line following ih =>
    simp only [firstLine?]
    split
    · rfl
    · rw [show number + count + 1 = number + 1 + count by omega]
      exact ih _

theorem firstBrace?_shift (index count : Nat) (lines : List (List Char)) :
    firstBrace? (index + count) lines =
      (firstBrace? index lines).map fun found => (found.1 + count, found.2) := by
  induction lines generalizing index with
  | nil => rfl
  | cons line following ih =>
    simp only [firstBrace?]
    split
    · rfl
    · rw [show index + count + 1 = index + 1 + count by omega]
      exact ih _

/-! ### Lines put before a text -/

variable (before lines : List (List Char))

theorem drop_append_length (start : Nat) :
    (before ++ lines).drop (start + before.length) = lines.drop start := by
  rw [Nat.add_comm, List.drop_append]
  simp

theorem getD_map_add (found : Option Nat) (default count : Nat) :
    (found.map (· + count)).getD (default + count) = found.getD default + count := by
  cases found <;> rfl

theorem closingLine_append (start brace : Nat) :
    closingLine (before ++ lines) (start + before.length) brace =
      closingLine lines start brace + before.length := by
  simp only [closingLine, drop_append_length]
  split
  · omega
  · split
    · omega
    · rw [show start + before.length + 2 = start + 2 + before.length by omega,
        show start + before.length + 1 = start + 1 + before.length by omega,
        closingLineFrom_shift, getD_map_add]

/-- The last line of a declaration moves with its first line. -/
theorem endLine_append {start : Nat} (hstart : 0 < start) (body : Body) :
    endLine (before ++ lines) (start + before.length) body =
      endLine lines start body + before.length := by
  have hbrace (brace : Nat) : closingLine (before ++ lines) (start + before.length - 1) brace =
      closingLine lines (start - 1) brace + before.length := by
    rw [show start + before.length - 1 = start - 1 + before.length by omega, closingLine_append]
  have hnext : start + before.length + 1 = start + 1 + before.length := by omega
  by_cases hrange : lines.length < start
  · rw [endLine, if_pos (by rw [List.length_append]; omega), endLine, if_pos (by omega)]
  · rw [endLine, if_neg (by rw [List.length_append]; omega), endLine, if_neg (by omega)]
    simp only [drop_append_length]
    cases body with
    | arrowBlock brace => exact hbrace brace
    | block brace => exact hbrace brace
    | classBody brace =>
      cases brace with
      | none => rfl
      | some brace => exact hbrace brace
    | arrowExpression =>
      have hline : (before ++ lines)[start + before.length - 1]? = lines[start - 1]? := by
        rw [List.getElem?_append_right (by omega)]
        congr 1
        omega
      simp only [hline, hnext, firstLine?_shift, getD_map_add]
      split <;> rfl
    | blockAhead =>
      simp only [firstBrace?_shift]
      cases firstBrace? start ((lines.drop start).take blockWindow) with
      | none => rfl
      | some found => exact closingLine_append before lines found.1 found.2
    | typeLike => simp only [hnext, firstLine?_shift, getD_map_add]

theorem functionEntity_append {number : Nat} (hnumber : 0 < number) (line : List Char)
    (found : FunctionDeclaration) :
    functionEntity (before ++ lines) (number + before.length) line found =
      (functionEntity lines number line found).shift before.length := by
  simp only [functionEntity, FunctionEntity.shift, endLine_append before lines hnumber]

theorem methodsFrom_append {number : Nat} (hnumber : 0 < number) (rest : List (List Char)) :
    methodsFrom (before ++ lines) (number + before.length) rest =
      (methodsFrom lines number rest).map (FunctionEntity.shift before.length) := by
  induction rest generalizing number with
  | nil => rfl
  | cons line rest ih =>
    have hnext := ih (Nat.succ_pos number)
    rw [show number + 1 + before.length = number + before.length + 1 by omega] at hnext
    simp only [methodsFrom, hnext]
    split
    · rw [List.map_cons, functionEntity_append before lines hnumber]
    · rfl

theorem methodsBetween_append (first last : Nat) :
    methodsBetween (before ++ lines) (first + before.length) (last + before.length) =
      (methodsBetween lines first last).map (FunctionEntity.shift before.length) := by
  rw [methodsBetween, methodsBetween, drop_append_length, Nat.add_sub_add_right,
    ← methodsFrom_append before lines (Nat.succ_pos first),
    show first + before.length + 1 = first + 1 + before.length by omega]

theorem classEntity_append {number : Nat} (hnumber : 0 < number) (line : List Char)
    (found : ClassDeclaration) :
    classEntity (before ++ lines) (number + before.length) line found =
      (classEntity lines number line found).shift before.length := by
  simp only [classEntity, ClassEntity.shift, endLine_append before lines hnumber,
    methodsBetween_append]
  split <;> rfl

theorem entitiesOn_append {number : Nat} (hnumber : 0 < number) (line : List Char) :
    entitiesOn (before ++ lines) (number + before.length) line =
      (entitiesOn lines number line).map (Entity.shift before.length) := by
  simp only [entitiesOn, functionEntity_append before lines hnumber,
    classEntity_append before lines hnumber, List.map_append]
  cases functionOn? line <;> cases classOn? line <;> rfl

theorem entitiesFrom_append {number : Nat} (hnumber : 0 < number) (rest : List (List Char)) :
    entitiesFrom (before ++ lines) (number + before.length) rest =
      (entitiesFrom lines number rest).map (Entity.shift before.length) := by
  induction rest generalizing number with
  | nil => rfl
  | cons line rest ih =>
    have hnext := ih (Nat.succ_pos number)
    rw [show number + 1 + before.length = number + before.length + 1 by omega] at hnext
    rw [entitiesFrom, entitiesFrom, hnext, entitiesOn_append before lines hnumber, List.map_append]

/-! ### The entities after the lines put before -/

theorem entitiesFrom_append_lines (number : Nat) (first second : List (List Char)) :
    entitiesFrom lines number (first ++ second) =
      entitiesFrom lines number first ++ entitiesFrom lines (number + first.length) second := by
  induction first generalizing number with
  | nil => rfl
  | cons line first ih =>
    rw [List.cons_append, entitiesFrom, entitiesFrom, ih, List.append_assoc, List.length_cons,
      show number + 1 + first.length = number + (first.length + 1) by omega]

variable {lines}

theorem lineStart_of_mem_entitiesOn {number : Nat} {line : List Char} {entity : Entity}
    (h : entity ∈ entitiesOn lines number line) : entity.lineStart = number := by
  rcases mem_entitiesOn.1 h with ⟨found, -, rfl⟩ | ⟨found, -, rfl⟩ <;> rfl

theorem lineStart_bounds {number : Nat} {rest : List (List Char)} {entity : Entity}
    (h : entity ∈ entitiesFrom lines number rest) :
    number ≤ entity.lineStart ∧ entity.lineStart < number + rest.length := by
  obtain ⟨i, line, hline, hentity⟩ := mem_entitiesFrom.1 h
  obtain ⟨hlt, -⟩ := List.getElem?_eq_some_iff.1 hline
  rw [lineStart_of_mem_entitiesOn hentity]
  omega

theorem filter_extractLines_append (before lines : List (List Char)) :
    (extractLines (before ++ lines)).entities.filter (before.length < ·.lineStart) =
      (extractLines lines).entities.map (Entity.shift before.length) := by
  have hfirst : (entitiesFrom (before ++ lines) 1 before).filter
      (before.length < ·.lineStart) = [] := by
    refine List.filter_eq_nil_iff.2 fun entity hentity => ?_
    have hbounds := lineStart_bounds hentity
    simp only [decide_eq_true_eq]
    omega
  have hsecond : (entitiesFrom (before ++ lines) (1 + before.length) lines).filter
      (before.length < ·.lineStart) = entitiesFrom (before ++ lines) (1 + before.length) lines := by
    refine List.filter_eq_self.2 fun entity hentity => ?_
    have hbounds := lineStart_bounds hentity
    simp only [decide_eq_true_eq]
    omega
  rw [extractLines, extractLines, entitiesFrom_append_lines, List.filter_append, hfirst, hsecond,
    List.nil_append, entitiesFrom_append before lines Nat.one_pos]

/-! ### Blank lines before a text -/

/-- The written form of lines, each with its end. -/
def writtenLines (lines : List (List Char)) : List Char :=
  lines.flatMap (· ++ ['\n'])

/-- A line of a text is what stands before its line feed, but for a carriage return. -/
theorem lines_append_lineFeed {line : List Char} (hline : '\n' ∉ line) (rest : List Char) :
    ∃ shown, shown ⊆ line ∧
      Driftwatch.lines (line ++ '\n' :: rest) = shown :: Driftwatch.lines rest := by
  induction line with
  | nil => exact ⟨[], List.Subset.refl _, by simp [Driftwatch.lines]⟩
  | cons c line ih =>
    have hc : c ≠ '\n' := fun heq => hline (heq ▸ List.mem_cons_self)
    obtain ⟨shown, hsub, hshown⟩ := ih fun hmem => hline (List.mem_cons_of_mem _ hmem)
    by_cases hreturn : c = '\r' ∧ line = []
    · obtain ⟨rfl, rfl⟩ := hreturn
      exact ⟨[], List.nil_subset _, by simp [Driftwatch.lines]⟩
    · refine ⟨c :: shown, List.cons_subset_cons c hsub, ?_⟩
      rw [List.cons_append, Driftwatch.lines]
      · simp [hshown]
      · rintro tail rfl htail
        cases line with
        | nil => exact hreturn ⟨rfl, rfl⟩
        | cons d line =>
          obtain ⟨rfl, -⟩ := List.cons.inj htail
          exact hline (by simp)
      · exact hc

/-- Blank lines that are put before a text come before its lines and are blank there, too. -/
theorem lines_writtenLines_append {blanks : List (List Char)}
    (hblanks : ∀ line ∈ blanks, allBlank line = true ∧ '\n' ∉ line) (text : List Char) :
    ∃ shown : List (List Char), shown.length = blanks.length ∧
      (∀ line ∈ shown, allBlank line = true) ∧
      Driftwatch.lines (writtenLines blanks ++ text) = shown ++ Driftwatch.lines text := by
  induction blanks with
  | nil => exact ⟨[], rfl, by simp, rfl⟩
  | cons line blanks ih =>
    obtain ⟨hblank, hfeed⟩ := hblanks line List.mem_cons_self
    obtain ⟨shown, hlength, hshown, hrest⟩ := ih fun other hother =>
      hblanks other (List.mem_cons_of_mem _ hother)
    obtain ⟨first, hsub, hfirst⟩ := lines_append_lineFeed hfeed (writtenLines blanks ++ text)
    refine ⟨first :: shown, by simp [hlength], ?_, ?_⟩
    · intro other hother
      rcases List.mem_cons.1 hother with rfl | hother
      · exact List.all_eq_true.2 fun c hc => List.all_eq_true.1 hblank c (hsub hc)
      · exact hshown other hother
    · have hwritten : writtenLines (line :: blanks) ++ text =
          line ++ '\n' :: (writtenLines blanks ++ text) := by
        simp [writtenLines]
      rw [hwritten, hfirst, hrest, List.cons_append]

theorem entitiesFrom_of_allBlank {number : Nat} {blanks : List (List Char)}
    (h : ∀ line ∈ blanks, allBlank line = true) : entitiesFrom lines number blanks = [] := by
  induction blanks generalizing number with
  | nil => rfl
  | cons line blanks ih =>
    have hline := h line List.mem_cons_self
    rw [entitiesFrom, ih fun other hother => h other (List.mem_cons_of_mem _ hother), entitiesOn,
      functionOn?_of_allBlank hline, classOn?_of_allBlank hline]
    rfl

theorem extractLines_append_of_allBlank {blanks : List (List Char)}
    (h : ∀ line ∈ blanks, allBlank line = true) (lines : List (List Char)) :
    (extractLines (blanks ++ lines)).entities =
      (extractLines lines).entities.map (Entity.shift blanks.length) := by
  rw [extractLines, extractLines, entitiesFrom_append_lines, entitiesFrom_of_allBlank h,
    List.nil_append, entitiesFrom_append blanks lines Nat.one_pos]

/-! ### Signatures do not move -/

@[simp] theorem spanLength_add_right (first last count : Nat) :
    spanLength (first + count) (last + count) = spanLength first last := by
  rw [spanLength, spanLength, Nat.add_sub_add_right]

@[simp] theorem FunctionEntity.signature_shift (count : Nat) (entity : FunctionEntity) :
    (entity.shift count).signature = entity.signature := by
  simp [signature, shift, span]

@[simp] theorem Entity.signature_shift (count : Nat) (entity : Entity) :
    (entity.shift count).signature = entity.signature := by
  cases entity with
  | function entity => exact FunctionEntity.signature_shift count entity
  | classLike entity =>
    simp [shift, ClassEntity.shift, signature, ClassEntity.signature, ClassEntity.span,
      Function.comp_def]

/-- **Extraction never looks back.** The entities of a text that stand after some first lines are
those of the rest of the text, moved. So blank lines before a text move its entities and change
neither its signatures nor, in either direction, what a comparison finds. -/
theorem extraction_shift :
    (∀ before lines : List (List Char),
      (extractLines (before ++ lines)).entities.filter (before.length < ·.lineStart) =
        (extractLines lines).entities.map (Entity.shift before.length)) ∧
    ∀ (text : String) (blanks : List (List Char)),
      (∀ line ∈ blanks, allBlank line = true ∧ '\n' ∉ line) →
        let moved := extract (String.ofList (writtenLines blanks) ++ text)
        moved.entities = (extract text).entities.map (Entity.shift blanks.length) ∧
          moved.signatures = (extract text).signatures ∧
          (moved.changesSince (extract text)).isStructural = false ∧
          ((extract text).changesSince moved).isStructural = false := by
  refine ⟨filter_extractLines_append, fun text blanks hblanks => ?_⟩
  intro moved
  have hentities : moved.entities = (extract text).entities.map (Entity.shift blanks.length) := by
    obtain ⟨shown, hlength, hshown, hlines⟩ := lines_writtenLines_append hblanks text.toList
    rw [← hlength, show moved = extractLines (shown ++ Driftwatch.lines text.toList) by
      simp [moved, extract, hlines]]
    exact extractLines_append_of_allBlank hshown _
  have hsignatures : moved.signatures = (extract text).signatures := by
    rw [Extraction.signatures, Extraction.signatures, hentities, List.map_map]
    congr 1
    exact List.map_congr_left fun entity _ => Entity.signature_shift _ entity
  refine ⟨hentities, hsignatures, ?_, ?_⟩
  · rw [changesSince_isStructural_iff, hsignatures]
    exact fun _ => Iff.rfl
  · rw [changesSince_isStructural_iff, hsignatures]
    exact fun _ => Iff.rfl

/-- Two blank lines, one of them with white space, before a text with a class. -/
theorem extraction_shift_two :
    (∀ line ∈ [[], [' ', '\r']], allBlank line = true ∧ '\n' ∉ line) ∧
      ((extract "\n \r\nclass A \x7b\n\x7d").changesSince
        (extract "class A \x7b\n\x7d")).isStructural = false ∧
      (extract "\n \r\nclass A \x7b\n\x7d").entities =
        [.classLike ⟨"A", .plainClass, 3, 4, []⟩] := by
  have hblanks : ∀ line ∈ [[], [' ', '\r']], allBlank line = true ∧ '\n' ∉ line := by decide
  obtain ⟨hentities, -, hchanges, -⟩ := extraction_shift.2 "class A \x7b\n\x7d" _ hblanks
  exact ⟨hblanks, hchanges, hentities.trans (by decide)⟩

end Driftwatch
