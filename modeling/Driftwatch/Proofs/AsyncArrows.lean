import Driftwatch.Proofs.Matching

/-!
# Which asynchronous arrows are reported as such

The form of arrows with a bare list stands before the form of asynchronous arrows and takes
everything up to an arrow for the list, as long as no equals sign comes before. An asynchronous
arrow escapes it only if its parameters hold an equals sign and the first one begins no arrow, which
is how a default value looks. Every other asynchronous arrow is reported as an arrow, and the word
`async` and the parenthesis go to its parameters.

## The shape of the argument

Of the forms before that of asynchronous arrows, all but the one with a bare list are excluded by
their words or by the character after the equals sign of the binding. What the remaining one does is
decided by the first equals sign behind the binding. It stands in the parameters if they hold one,
and is that of the arrow behind them if they do not.

## Main definitions

* `asyncArrow`, `bareArrow`: the two forms.
* `HasPlainEquals`: the first equals sign of a text begins no arrow.

## Main results

* `exists_parts_of_asyncArrow`: the parts of a line with an asynchronous arrow.
* `functionOn?_of_hasPlainEquals`, `functionOn?_of_not_hasPlainEquals`: the two cases.
* `asyncArrow_reported_iff`: which lines are reported, and what becomes of the others.
-/

namespace Driftwatch

/-- The pieces of an asynchronous arrow behind its binding. -/
def asyncArrowPieces : List Piece :=
  [.word "async", .blanks, .parameters, .blanks, .word "=>"]

/-- The form of asynchronous arrows. -/
def asyncArrow : Form FunctionKind :=
  ⟨.asyncArrow, bindingPieces ++ asyncArrowPieces⟩

/-- The form of arrows with a bare list of parameters. -/
def bareArrow : Form FunctionKind :=
  ⟨.arrowFunction, bindingPieces ++ [.bareParameters]⟩

/-- A text with an equals sign, of which the first begins no arrow. -/
def HasPlainEquals (text : List Char) : Prop :=
  ∃ before after, text = before ++ '=' :: after ∧ '=' ∉ before ∧ after.head? ≠ some '>'

theorem hasPlainEquals_iff {text : List Char} : HasPlainEquals text ↔
    '=' ∈ text ∧ (text.dropWhile (· != '=')).tail.head? ≠ some '>' := by
  constructor
  · rintro ⟨before, after, rfl, hbefore, hafter⟩
    rw [dropWhile_ne_append hbefore]
    exact ⟨by simp, hafter⟩
  · rintro ⟨hmem, hafter⟩
    obtain ⟨before, after, rfl, hbefore⟩ := List.eq_append_cons_of_mem hmem
    rw [dropWhile_ne_append hbefore] at hafter
    exact ⟨before, after, rfl, hbefore, hafter⟩

instance (text : List Char) : Decidable (HasPlainEquals text) :=
  decidable_of_iff _ hasPlainEquals_iff.symm

theorem asyncArrow_mem : asyncArrow ∈ functionForms ++ methodForms := by
  simp [functionForms, asyncArrow, asyncArrowPieces]

/-! ### The parts of a line -/

/-- A binding takes everything up to its equals sign, which is the first one of the line. -/
theorem exists_binding_of_readPieces {line text : List Char} {captures : Captures}
    (h : readPieces bindingPieces ({}, line) = some (captures, text)) :
    ∃ binding after, line = binding ++ '=' :: after ∧ '=' ∉ binding ∧ text = trimLeft after := by
  have hphrasal : ∀ piece ∈ [Piece.blanks, .binder, .gap, .name, .blanks],
      piece.isPhrasal = true := by decide
  obtain ⟨binding, next, hbinding, hline, hlast⟩ := exists_phrase_of_readPieces_append hphrasal h
  obtain ⟨after, hequals, hend⟩ := Opening.exists_of_readPieces_cons rfl hlast
  obtain ⟨-, rfl⟩ := Prod.mk.inj (Option.some.inj hend)
  refine ⟨binding, after, ?_, hbinding.not_mem (by decide) (by decide), rfl⟩
  exact hline.trans (congrArg (binding ++ ·) (eq_append_of_takeText? hequals))

theorem equals_not_mem_of_allBlank {space : List Char} (h : allBlank space = true) :
    '=' ∉ space :=
  fun hmem => ne_of_isBlank (List.all_eq_true.1 h _ hmem) (by decide) rfl

/-- Behind its binding, an asynchronous arrow has no equals sign before its parameters and none
between these and the arrow. -/
theorem exists_parts_of_readPieces {text rest : List Char} {captures found : Captures}
    (h : readPieces asyncArrowPieces (found, text) = some (captures, rest)) :
    captures.name = found.name ∧ ∃ front back, '=' ∉ 'a' :: front ∧ '=' ∉ ')' :: back ∧
      text = 'a' :: front ++ (captures.parameters ++ (')' :: back ++ '=' :: '>' :: rest)) := by
  obtain ⟨_, hasync, _, hspace, _, hlist, _, hgap, _, harrow, hend⟩ := takesAll_of_readPieces h
  cases hasync
  cases hspace with | @blanks _ space _ hblank =>
  cases hlist with | @parameters _ list _ _ =>
  cases hgap with | @blanks _ gap _ hblank' =>
  cases harrow
  cases hend
  have hspace := equals_not_mem_of_allBlank hblank
  have hgap := equals_not_mem_of_allBlank hblank'
  refine ⟨rfl, "sync".toList ++ (space ++ ['(']), gap, ?_, ?_, ?_⟩
  · simp [hspace]
  · simp [hgap]
  · simp

/-- What a line with an asynchronous arrow holds: the equals sign of the binding, which is the first
one of the line, and behind it the parameters and the arrow. -/
structure AsyncArrowParts (line : List Char) (captures : Captures) where
  binding : List Char
  after : List Char
  found : Captures
  front : List Char
  back : List Char
  rest : List Char
  split : line = binding ++ '=' :: after
  equals_not_mem : '=' ∉ binding
  read : readPieces bindingPieces ({}, line) = some (found, trimLeft after)
  name : captures.name = found.name
  text : trimLeft after =
    'a' :: front ++ (captures.parameters ++ (')' :: back ++ '=' :: '>' :: rest))
  front_plain : '=' ∉ 'a' :: front
  back_plain : '=' ∉ ')' :: back

/-- **The parts of a line with an asynchronous arrow.** -/
theorem exists_parts_of_asyncArrow {line : List Char} {captures : Captures}
    (h : asyncArrow.read line = some captures) : Nonempty (AsyncArrowParts line captures) := by
  obtain ⟨⟨captures, rest⟩, hread, rfl⟩ := Option.map_eq_some_iff.1 h
  have hpieces : asyncArrow.pieces = bindingPieces ++ asyncArrowPieces := rfl
  rw [hpieces, readPieces_append] at hread
  obtain ⟨⟨found, text⟩, hbinding, hlast⟩ := Option.bind_eq_some_iff.1 hread
  obtain ⟨binding, after, hline, hnone, rfl⟩ := exists_binding_of_readPieces hbinding
  obtain ⟨hname, front, back, hfront, hback, htext⟩ := exists_parts_of_readPieces hlast
  exact ⟨⟨binding, after, found, front, back, rest, hline, hnone, hbinding, hname, htext, hfront,
    hback⟩⟩

/-! ### The form with a bare list -/

theorem takeBareParameters?_eq_none {front after : List Char} (hfront : '=' ∉ front)
    (hafter : after.head? ≠ some '>') : takeBareParameters? (front ++ '=' :: after) = none := by
  rw [takeBareParameters?, dropWhile_ne_append hfront]
  split
  · next heq =>
    obtain ⟨-, rfl⟩ := List.cons.inj heq
    exact absurd rfl hafter
  · rfl

theorem bareArrow_read {line text : List Char} {captures : Captures}
    (h : readPieces bindingPieces ({}, line) = some (captures, text)) :
    bareArrow.read line = (takeBareParameters? text).map fun taken =>
      { captures with parameters := taken.1 } := by
  have hpieces : bareArrow.pieces = bindingPieces ++ [.bareParameters] := rfl
  rw [Form.read, hpieces, readPieces_append, h, Option.bind_some, readPieces]
  cases htaken : takeBareParameters? text with
  | none => simp only [Piece.read, htaken, Option.map_none, Option.bind_none]
  | some taken => simp only [Piece.read, htaken, Option.map_some, Option.bind_some, readPieces]

section

variable {line : List Char} {captures : Captures}

/-- An equals sign in the parameters that begins no arrow keeps the bare form off the line. -/
theorem bareArrow_read_eq_none (parts : AsyncArrowParts line captures)
    (h : HasPlainEquals captures.parameters) : bareArrow.read line = none := by
  obtain ⟨before, after, hlist, hbefore, hafter⟩ := h
  rw [bareArrow_read parts.read, parts.text, hlist, Option.map_eq_none_iff]
  have hfront : '=' ∉ 'a' :: parts.front ++ before := by
    rw [List.mem_append, not_or]
    exact ⟨parts.front_plain, hbefore⟩
  -- The equals sign is followed by what follows it in the parameters, or by the parenthesis.
  have hbehind : (after ++ (')' :: parts.back ++ '=' :: '>' :: parts.rest)).head? ≠ some '>' := by
    cases after with
    | nil => simp
    | cons c after => exact hafter
  have hnone := takeBareParameters?_eq_none hfront hbehind
  simpa only [List.append_assoc, List.cons_append] using hnone

/-- Without such an equals sign, the first one behind the binding begins an arrow. -/
theorem exists_arrow_of_not_hasPlainEquals (parts : AsyncArrowParts line captures)
    (h : ¬HasPlainEquals captures.parameters) :
    ∃ between rest, trimLeft parts.after = 'a' :: between ++ '=' :: '>' :: rest ∧
      '=' ∉ 'a' :: between := by
  have hfront := parts.front_plain
  have hback := parts.back_plain
  by_cases hmem : '=' ∈ captures.parameters
  · obtain ⟨before, after, hlist, hbefore⟩ := List.eq_append_cons_of_mem hmem
    have hafter : after.head? = some '>' := by
      by_contra hne
      exact h ⟨before, after, hlist, hbefore, hne⟩
    obtain ⟨tail, rfl⟩ := List.head?_eq_some_iff.1 hafter
    refine ⟨parts.front ++ before, tail ++ (')' :: parts.back ++ '=' :: '>' :: parts.rest), ?_, ?_⟩
    · rw [parts.text, hlist]
      simp only [List.append_assoc, List.cons_append]
    · rw [← List.cons_append, List.mem_append, not_or]
      exact ⟨hfront, hbefore⟩
  · refine ⟨parts.front ++ (captures.parameters ++ ')' :: parts.back), parts.rest, ?_, ?_⟩
    · rw [parts.text]
      simp only [List.append_assoc, List.cons_append]
    · rw [← List.cons_append, List.mem_append, List.mem_append, not_or, not_or]
      exact ⟨hfront, hmem, hback⟩

/-! ### The table of functions -/

/-- All forms before that of asynchronous arrows are excluded by it, but for the bare form. -/
theorem functionOn?_of_hasPlainEquals (hread : asyncArrow.read line = some captures)
    (h : HasPlainEquals captures.parameters) :
    functionOn? line = some (.ofCaptures (.asyncArrow, captures)) := by
  obtain ⟨parts⟩ := exists_parts_of_asyncArrow hread
  have hforms : functionForms = functionForms.take 7 ++ asyncArrow :: functionForms.drop 8 := rfl
  have hexcludes : ∀ other ∈ functionForms.take 7,
      other.pieces = bareArrow.pieces ∨ asyncArrow.excludes other = true := by decide
  have hbefore : firstReading (functionForms.take 7) line = none := by
    refine List.findSome?_eq_none_iff.2 fun other hother => Option.map_eq_none_iff.2 ?_
    rcases hexcludes other hother with hpieces | hother
    · rw [Form.read, hpieces]
      exact bareArrow_read_eq_none parts h
    · exact Form.read_eq_none_of_excludes hother hread
  rw [functionOn?, hforms, firstReading_append_cons hbefore hread]
  rfl

/-- A text with one equals sign has no arrow if the sign does not begin one. -/
theorem not_hasArrow_of_equals {before after : List Char} (hbefore : '=' ∉ before)
    (hafter : '=' ∉ after) (hhead : after.head? ≠ some '>') :
    ¬HasArrow (before ++ '=' :: after) := by
  have hnone : arrowOffset? after = none := by
    rw [← List.append_nil after, arrowOffset?_append hafter]
    rfl
  have hstart : ¬['=', '>'] <+: '=' :: after := by
    rintro ⟨tail, htail⟩
    obtain ⟨-, rfl⟩ := List.cons.inj htail
    exact hhead rfl
  rw [← arrowOffset?_eq_none_iff, arrowOffset?_append hbefore, arrowOffset?_cons hstart, hnone]
  rfl

/-- An asynchronous arrow that the bare form reads. -/
theorem functionOn?_of_not_hasPlainEquals (hread : asyncArrow.read line = some captures)
    (h : ¬HasPlainEquals captures.parameters) :
    ∃ binding between rest, '=' ∉ binding ∧ FirstArrow line (binding ++ '=' :: between) rest ∧
      functionOn? line = some ⟨.arrowFunction, String.ofList captures.name,
        (parameterNames (trim between)).map String.ofList⟩ := by
  obtain ⟨parts⟩ := exists_parts_of_asyncArrow hread
  obtain ⟨inner, rest, htext, hinner⟩ := exists_arrow_of_not_hasPlainEquals parts h
  have hblank : allBlank (indentation parts.after) = true := allBlank_takeWhile parts.after
  refine ⟨parts.binding, indentation parts.after ++ 'a' :: inner, rest, parts.equals_not_mem,
    ⟨?_, ?_⟩, ?_⟩
  · have hafter := indentation_append_trimLeft parts.after
    rw [htext] at hafter
    nth_rewrite 1 [parts.split, ← hafter]
    simp only [List.append_assoc, List.cons_append]
  · refine not_hasArrow_of_equals parts.equals_not_mem ?_ ?_
    · rw [List.mem_append, not_or]
      exact ⟨equals_not_mem_of_allBlank hblank, hinner⟩
    · cases hspace : indentation parts.after with
      | nil => simp
      | cons c space =>
        have hc : isBlank c = true :=
          isBlank_of_mem_indentation parts.after c (hspace ▸ List.mem_cons_self)
        exact fun heq => ne_of_isBlank hc (by decide) (Option.some.inj heq)
  · have hforms : functionForms = functionForms.take 3 ++ bareArrow :: functionForms.drop 4 := rfl
    have hexcludes : ∀ other ∈ functionForms.take 3, asyncArrow.excludes other = true := by decide
    have hbefore := firstReading_eq_none_of_excludes hexcludes hread
    have hbare : bareArrow.read line =
        some { parts.found with parameters := trim ('a' :: inner) } := by
      rw [bareArrow_read parts.read, htext, takeBareParameters?_append hinner]
      rfl
    have htrim : trim (indentation parts.after ++ 'a' :: inner) = trim ('a' :: inner) := by
      rw [trim, trim, trimLeft_append_of_allBlank hblank]
    rw [functionOn?, hforms, firstReading_append_cons hbefore hbare, htrim, parts.name]
    rfl

end

/-- **Which asynchronous arrows are reported as such.** A line is reported with this kind exactly
when it has the form and the first equals sign among its parameters begins no arrow. Any other line
of the form is reported as an arrow with the same name, and what stands between the equals sign of
the binding and the first arrow of the line is taken for its parameters. -/
theorem asyncArrow_reported_iff (line : List Char) :
    ((∃ found, functionOn? line = some found ∧ found.kind = .asyncArrow) ↔
      ∃ captures, asyncArrow.Matches line captures ∧ HasPlainEquals captures.parameters) ∧
    ∀ captures, asyncArrow.Matches line captures → ¬HasPlainEquals captures.parameters →
      ∃ binding between rest, '=' ∉ binding ∧ FirstArrow line (binding ++ '=' :: between) rest ∧
        functionOn? line = some ⟨.arrowFunction, String.ofList captures.name,
          (parameterNames (trim between)).map String.ofList⟩ := by
  simp only [← Form.read_eq_some_iff_matches asyncArrow_mem]
  refine ⟨⟨?_, ?_⟩, fun captures => functionOn?_of_not_hasPlainEquals⟩
  · rintro ⟨found, hfound, hkind⟩
    obtain ⟨reading, hreading, rfl⟩ := Option.map_eq_some_iff.1 hfound
    obtain ⟨form, hform, hread⟩ := List.exists_of_findSome?_eq_some hreading
    obtain ⟨captures, hcaptures, rfl⟩ := Option.map_eq_some_iff.1 hread
    -- The kind tells which form of the table it was.
    have hforms : ∀ form ∈ functionForms, form.kind = .asyncArrow →
        form.pieces = asyncArrow.pieces := by decide
    have hasync : asyncArrow.read line = some captures := by
      rw [← hcaptures, Form.read, Form.read, hforms form hform hkind]
    refine ⟨captures, hasync, ?_⟩
    by_contra hplain
    obtain ⟨_, _, _, -, -, harrow⟩ := functionOn?_of_not_hasPlainEquals hasync hplain
    rw [hfound] at harrow
    rw [Option.some.inj harrow] at hkind
    cases hkind
  · rintro ⟨captures, hasync, hplain⟩
    exact ⟨_, functionOn?_of_hasPlainEquals hasync hplain, rfl⟩

/-- An asynchronous arrow with a default value that is an arrow itself. -/
def defaultedArrow : List Char :=
  "const f = async (g = x => x) => g(1)".toList

/-- An asynchronous arrow with an arrow among its parameters and no default value. -/
def nestedArrow : List Char :=
  "let f = async ( x => y ) => y".toList

theorem asyncArrow_reported_iff_twoLines :
    (HasPlainEquals "g = x => x".toList ∧
      ∃ found, functionOn? defaultedArrow = some found ∧ found.kind = .asyncArrow) ∧
    asyncArrow.Matches nestedArrow ⟨['f'], " x => y ".toList⟩ ∧
      ¬HasPlainEquals " x => y ".toList ∧
      ∃ binding between rest, '=' ∉ binding ∧
        FirstArrow nestedArrow (binding ++ '=' :: between) rest ∧
        functionOn? nestedArrow = some ⟨.arrowFunction, "f",
          (parameterNames (trim between)).map String.ofList⟩ := by
  have hdefaulted : asyncArrow.Matches defaultedArrow ⟨['f'], "g = x => x".toList⟩ :=
    (Form.read_eq_some_iff_matches asyncArrow_mem).1 (by decide)
  have hnested : asyncArrow.Matches nestedArrow ⟨['f'], " x => y ".toList⟩ :=
    (Form.read_eq_some_iff_matches asyncArrow_mem).1 (by decide)
  have hplain : HasPlainEquals "g = x => x".toList := by decide
  have hnone : ¬HasPlainEquals " x => y ".toList := by decide
  exact ⟨⟨hplain, (asyncArrow_reported_iff defaultedArrow).1.2 ⟨_, hdefaulted, hplain⟩⟩, hnested,
    hnone, (asyncArrow_reported_iff nestedArrow).2 _ hnested hnone⟩

/-- The word and the parenthesis go to the parameters. -/
example : functionOn? nestedArrow = some ⟨.arrowFunction, "f", ["async ( x"]⟩ := by decide

end Driftwatch
