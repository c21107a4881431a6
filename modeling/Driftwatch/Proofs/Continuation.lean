import Driftwatch.Proofs.WellFormed

/-!
# Text that goes on

Lines after a text can keep a declaration open that seemed to end, and they can do nothing else to
it. A declaration that ends within a text ends there whatever follows, and one that does not ends
behind the text or, as before, on the line where a search gave up.

## The shape of the argument

A search that gives up answers with a line that looks like any other, so the searches are compared
before they fall back. Over a text that goes on, a search first does what it does over the text and
then, if nothing was found, it searches the lines that follow (`firstLine?_append`,
`firstBrace?_append`, `closingLineFrom_append`). What it finds there lies behind the text. So the
last line of a declaration stays as it is, or it lies behind the text (`endLine_eq_or_lt`). This
says of an entity which ends within the text that all of it is known from the text.

## Main definitions

* `Entity.EndsBy`: a declaration that ends, with all its methods, on one of the first lines.

## Main results

* `closingLine_eq_or_lt`, `endLine_eq_or_lt`: what lines that follow can do to a last line.
* `later_text_only_extends`: last lines never move up, and what ends within a text is in its
  extraction.
-/

namespace Driftwatch

/-! ### Searches through more lines -/

theorem firstLine?_append (p : List Char → Bool) (number : Nat) (lines more : List (List Char)) :
    firstLine? p number (lines ++ more) =
      (firstLine? p number lines).or (firstLine? p (number + lines.length) more) := by
  induction lines generalizing number with
  | nil => rfl
  | cons line lines ih =>
    simp only [List.cons_append, firstLine?, List.length_cons]
    by_cases hline : p line = true
    · simp only [hline, if_true, Option.some_or]
    · simp only [hline, if_false, ih, Bool.false_eq_true]
      rw [Nat.add_assoc, Nat.add_comm 1]

theorem firstBrace?_append (index : Nat) (lines more : List (List Char)) :
    firstBrace? index (lines ++ more) =
      (firstBrace? index lines).or (firstBrace? (index + lines.length) more) := by
  induction lines generalizing index with
  | nil => rfl
  | cons line lines ih =>
    simp only [List.cons_append, firstBrace?, List.length_cons]
    cases offsetOf? (· == '{') line with
    | some brace => rfl
    | none =>
      simp only [ih]
      rw [Nat.add_assoc, Nat.add_comm 1]

/-- The search for a closing brace goes on with the cursor and the depth that it has come to. -/
theorem closingLineFrom_append (cursor : Cursor) (depth number : Nat)
    (lines more : List (List Char)) :
    ∃ (reached : Cursor) (opened : Nat), closingLineFrom cursor depth number (lines ++ more) =
      (closingLineFrom cursor depth number lines).or
        (closingLineFrom reached opened (number + lines.length) more) := by
  induction lines generalizing cursor depth number with
  | nil => exact ⟨cursor, depth, rfl⟩
  | cons line lines ih =>
    simp only [List.cons_append, closingLineFrom, List.length_cons]
    split
    · exact ⟨cursor, depth, rfl⟩
    · obtain ⟨reached, opened, hmore⟩ :=
        ih (cursor.walkCode line 0 (fun _ => countBrace) depth).cursor
          (cursor.walkCode line 0 (fun _ => countBrace) depth).result (number + 1)
      refine ⟨reached, opened, ?_⟩
      rw [hmore, Nat.add_assoc, Nat.add_comm 1]

/-! ### Last lines -/

variable {lines : List (List Char)} {start : Nat}

/-- A search that goes on after it found nothing finds what lies behind, or it gives up as
before. -/
theorem getD_or_eq_or_lt {found more : Option Nat} {last default : Nat}
    (h : ∀ line, more = some line → last < line) :
    (found.or more).getD default = found.getD default ∨ last < (found.or more).getD default := by
  cases found with
  | some line => exact .inl rfl
  | none =>
    cases more with
    | none => exact .inl rfl
    | some line => exact .inr (h line rfl)

/-- A brace that is closed within the lines is closed there. One that is not is closed behind them
or not at all. -/
theorem closingLine_eq_or_lt (hstart : start < lines.length) (more : List (List Char))
    (brace : Nat) :
    closingLine (lines ++ more) start brace = closingLine lines start brace ∨
      lines.length < closingLine (lines ++ more) start brace := by
  obtain ⟨line, following, hdrop⟩ : ∃ line following, lines.drop start = line :: following :=
    ⟨_, _, List.drop_eq_getElem_cons hstart⟩
  have hall : (lines ++ more).drop start = line :: (following ++ more) := by
    rw [List.drop_append_of_le_length (by omega), hdrop, List.cons_append]
  have hlength : following.length + 1 = lines.length - start := by
    rw [← List.length_drop, hdrop, List.length_cons]
  simp only [closingLine, hdrop, hall]
  split
  · exact .inl rfl
  · obtain ⟨reached, opened, hmore⟩ := closingLineFrom_append
      (({} : Cursor).walkCode line (brace + 1) (fun _ => countBrace) 1).cursor
      (({} : Cursor).walkCode line (brace + 1) (fun _ => countBrace) 1).result (start + 2)
      following more
    rw [hmore]
    refine getD_or_eq_or_lt fun found hfound => ?_
    have hbounds := closingLineFrom_bounds hfound
    omega

/-- A window on the lines that follow a line, where more lines come. -/
theorem take_drop_append (hle : start ≤ lines.length) (more : List (List Char)) (window : Nat) :
    ((lines ++ more).drop start).take window =
      (lines.drop start).take window ++ more.take (window - (lines.length - start)) := by
  rw [List.drop_append_of_le_length hle, List.take_append, List.length_drop]

/-- The lines of a window that more lines add to stand behind the lines before. -/
theorem length_take_drop (hle : start ≤ lines.length) {window : Nat} {more : List (List Char)}
    (hmore : more.take (window - (lines.length - start)) ≠ []) :
    start + ((lines.drop start).take window).length = lines.length := by
  have hpos := List.length_pos_of_ne_nil hmore
  rw [List.length_take] at hpos ⊢
  rw [List.length_drop]
  omega

/-- The same for a line that is searched for in a window. -/
theorem firstLine?_window_eq_or_lt (hle : start ≤ lines.length) (more : List (List Char))
    (p : List Char → Bool) (window : Nat) :
    (firstLine? p (start + 1) (((lines ++ more).drop start).take window)).getD start =
        (firstLine? p (start + 1) ((lines.drop start).take window)).getD start ∨
      lines.length <
        (firstLine? p (start + 1) (((lines ++ more).drop start).take window)).getD start := by
  rw [take_drop_append hle, firstLine?_append]
  refine getD_or_eq_or_lt fun found hfound => ?_
  have hne : more.take (window - (lines.length - start)) ≠ [] := by
    intro hnil
    rw [hnil] at hfound
    cases hfound
  have hlength := length_take_drop hle hne
  have hbounds := firstLine?_bounds hfound
  omega

/-- **What lines that follow can do to a last line**: nothing, or they move it behind the text. -/
theorem endLine_eq_or_lt (hpos : 0 < start) (hle : start ≤ lines.length) (more : List (List Char))
    (body : Body) :
    endLine (lines ++ more) start body = endLine lines start body ∨
      lines.length < endLine (lines ++ more) start body := by
  have hbrace (brace : Nat) : closingLine (lines ++ more) (start - 1) brace =
      closingLine lines (start - 1) brace ∨
        lines.length < closingLine (lines ++ more) (start - 1) brace :=
    closingLine_eq_or_lt (by omega) more brace
  rw [endLine, endLine, if_neg (by rw [List.length_append]; omega), if_neg (by omega)]
  cases body with
  | arrowBlock brace => exact hbrace brace
  | block brace => exact hbrace brace
  | classBody brace =>
    cases brace with
    | none => exact .inl rfl
    | some brace => exact hbrace brace
  | arrowExpression =>
    have hline : (lines ++ more)[start - 1]? = lines[start - 1]? :=
      List.getElem?_append_left (by omega)
    simp only [hline]
    split
    · exact .inl rfl
    · exact firstLine?_window_eq_or_lt hle more closesStatement expressionWindow
  | blockAhead =>
    simp only [take_drop_append hle, firstBrace?_append]
    cases hfound : firstBrace? start ((lines.drop start).take blockWindow) with
    | some found =>
      have hindex := firstBrace?_bounds hfound
      rw [List.length_take, List.length_drop] at hindex
      exact closingLine_eq_or_lt (by omega) more found.2
    | none =>
      rw [Option.none_or]
      cases hlater : firstBrace? (start + ((lines.drop start).take blockWindow).length)
        (more.take (blockWindow - (lines.length - start))) with
      | none => exact .inl rfl
      | some found =>
        -- The brace stands behind the text, and its block ends no earlier.
        have hne : more.take (blockWindow - (lines.length - start)) ≠ [] := by
          intro hnil
          rw [hnil] at hlater
          cases hlater
        have hlength := length_take_drop hle hne
        have hindex := firstBrace?_bounds hlater
        have htaken := List.length_take_le' (blockWindow - (lines.length - start)) more
        have hall : found.1 < (lines ++ more).length := by
          rw [List.length_append]
          omega
        have hend := closingLine_bounds hall found.2
        refine .inr ?_
        show lines.length < closingLine (lines ++ more) found.1 found.2
        omega
  | typeLike => exact firstLine?_window_eq_or_lt hle more endsDeclaration declarationWindow

theorem endLine_append_eq (hpos : 0 < start) (hle : start ≤ lines.length)
    {more : List (List Char)} {body : Body}
    (h : endLine (lines ++ more) start body ≤ lines.length) :
    endLine (lines ++ more) start body = endLine lines start body := by
  obtain heq | hlt := endLine_eq_or_lt hpos hle more body
  · exact heq
  · omega

/-! ### Declarations that end within a text -/

/-- The declaration, with all its methods, ends on one of the first `last` lines. -/
def Entity.EndsBy (last : Nat) : Entity → Prop
  | .function entity => entity.lineEnd ≤ last
  | .classLike entity => entity.lineEnd ≤ last ∧ ∀ method ∈ entity.methods, method.lineEnd ≤ last

theorem Entity.EndsBy.lineEnd_le {last : Nat} {entity : Entity} (h : entity.EndsBy last) :
    entity.lineEnd ≤ last := by
  cases entity with
  | function entity => exact h
  | classLike entity => exact h.1

variable {more : List (List Char)} {number : Nat}

theorem functionEntity_append_eq (hpos : 0 < number) (hle : number ≤ lines.length)
    {line : List Char} {found : FunctionDeclaration}
    (h : (functionEntity (lines ++ more) number line found).lineEnd ≤ lines.length) :
    functionEntity (lines ++ more) number line found = functionEntity lines number line found := by
  have hend := endLine_append_eq hpos hle h
  simp only [functionEntity, hend]

theorem methodsFrom_append_eq (hpos : 0 < number) {rest : List (List Char)}
    (hrest : number + rest.length ≤ lines.length + 1)
    (h : ∀ method ∈ methodsFrom (lines ++ more) number rest, method.lineEnd ≤ lines.length) :
    methodsFrom (lines ++ more) number rest = methodsFrom lines number rest := by
  induction rest generalizing number with
  | nil => rfl
  | cons line rest ih =>
    rw [List.length_cons] at hrest
    simp only [methodsFrom] at h ⊢
    cases hmethod : methodOn? line with
    | none =>
      rw [hmethod] at h
      exact ih (by omega) (by omega) h
    | some found =>
      rw [hmethod] at h
      obtain ⟨hfirst, hothers⟩ := List.forall_mem_cons.1 h
      simp only [functionEntity_append_eq hpos (by omega) hfirst,
        ih (by omega) (by omega) hothers]

theorem methodsBetween_append_eq {first last : Nat} (hle : first ≤ last)
    (hlast : last ≤ lines.length)
    (h : ∀ method ∈ methodsBetween (lines ++ more) first last, method.lineEnd ≤ lines.length) :
    methodsBetween (lines ++ more) first last = methodsBetween lines first last := by
  have hrows : ((lines ++ more).drop first).take (last - first) =
      (lines.drop first).take (last - first) := by
    rw [take_drop_append (by omega), show last - first - (lines.length - first) = 0 by omega,
      List.take_zero, List.append_nil]
  rw [methodsBetween, hrows] at h ⊢
  refine methodsFrom_append_eq (Nat.succ_pos first) ?_ h
  rw [List.length_take, List.length_drop]
  omega

theorem classEntity_append_eq (hpos : 0 < number) (hle : number ≤ lines.length) {line : List Char}
    {found : ClassDeclaration}
    (hend : (classEntity (lines ++ more) number line found).lineEnd ≤ lines.length)
    (hmethods : ∀ method ∈ (classEntity (lines ++ more) number line found).methods,
      method.lineEnd ≤ lines.length) :
    classEntity (lines ++ more) number line found = classEntity lines number line found := by
  have hlast := endLine_append_eq hpos hle hend
  have hbounds := endLine_bounds hpos hle (.ofClassLine line found.kind)
  simp only [classEntity, hlast] at hmethods ⊢
  by_cases hkind : found.kind.hasMethods = true
  · simp only [hkind, if_true] at hmethods ⊢
    rw [methodsBetween_append_eq hbounds.1 hbounds.2 hmethods]
  · simp only [hkind, Bool.false_eq_true, if_false]

theorem mem_entitiesOn_of_endsBy (hpos : 0 < number) (hle : number ≤ lines.length)
    {line : List Char} {entity : Entity} (hmem : entity ∈ entitiesOn (lines ++ more) number line)
    (hends : entity.EndsBy lines.length) : entity ∈ entitiesOn lines number line := by
  rw [mem_entitiesOn] at hmem ⊢
  rcases hmem with ⟨found, hfound, rfl⟩ | ⟨found, hfound, rfl⟩
  · exact .inl ⟨found, hfound, by rw [functionEntity_append_eq hpos hle hends]⟩
  · exact .inr ⟨found, hfound, by rw [classEntity_append_eq hpos hle hends.1 hends.2]⟩

theorem mem_extractLines_of_endsBy {entity : Entity}
    (hmem : entity ∈ (extractLines (lines ++ more)).entities)
    (hends : entity.EndsBy lines.length) : entity ∈ (extractLines lines).entities := by
  have hspan := (extractLines_isWellFormed (lines ++ more)).span entity hmem
  obtain ⟨i, line, hline, hon⟩ := mem_entitiesFrom.1 hmem
  -- An entity starts no later than it ends, so it stands on a line of the text.
  have hwithin : 1 + i ≤ lines.length := by
    rw [← lineStart_of_mem_entitiesOn hon]
    exact Nat.le_trans hspan.le hends.lineEnd_le
  rw [List.getElem?_append_left (by omega)] at hline
  exact mem_entitiesFrom.2 ⟨i, line, hline, mem_entitiesOn_of_endsBy (by omega) hwithin hon hends⟩

/-- **Text after an end does not matter, and more text never shortens.** A declaration on a line of
a text ends no earlier when more lines follow, and if it then still ends within the text it ends
where it did. So a function that ends within the text, and a class that does with all its methods,
are entities of the text alone. -/
theorem later_text_only_extends (lines more : List (List Char)) :
    (∀ (start : Nat) (body : Body), 1 ≤ start → start ≤ lines.length →
      endLine lines start body ≤ endLine (lines ++ more) start body ∧
        (endLine (lines ++ more) start body ≤ lines.length →
          endLine lines start body = endLine (lines ++ more) start body)) ∧
    ∀ entity ∈ (extractLines (lines ++ more)).entities, entity.EndsBy lines.length →
      entity ∈ (extractLines lines).entities := by
  refine ⟨fun start body hpos hle => ⟨?_, fun hwithin => ?_⟩, fun entity hmem hends => ?_⟩
  · have hbounds := endLine_bounds hpos hle body
    rcases endLine_eq_or_lt hpos hle more body with heq | hlt
    · exact Nat.le_of_eq heq.symm
    · exact Nat.le_trans hbounds.2 (Nat.le_of_lt hlt)
  · exact (endLine_append_eq hpos hle hwithin).symm
  · exact mem_extractLines_of_endsBy hmem hends

/-- A class that ends, and a function that stays open. -/
def openText : List (List Char) :=
  ["class A \x7b".toList, "  f(a) \x7b".toList, "  \x7d".toList, "\x7d".toList,
    "function g() \x7b".toList]

/-- The class is there without the line that closes the function, and the function grows by it. -/
theorem later_text_only_extends_openText :
    endLine openText 5 (.block 13) = 5 ∧ endLine (openText ++ ["\x7d".toList]) 5 (.block 13) = 6 ∧
      endLine openText 5 (.block 13) ≤ endLine (openText ++ ["\x7d".toList]) 5 (.block 13) ∧
      Entity.classLike ⟨"A", .plainClass, 1, 4, [⟨"f", .method, 2, 3, ["a"]⟩]⟩ ∈
        (extractLines openText).entities := by
  obtain ⟨hends, hentities⟩ := later_text_only_extends openText ["\x7d".toList]
  refine ⟨by decide, by decide, (hends 5 (.block 13) (by decide) (by decide)).1, ?_⟩
  refine hentities _ (by decide) ⟨by decide, ?_⟩
  exact List.forall_mem_singleton.2 (by decide)

end Driftwatch
