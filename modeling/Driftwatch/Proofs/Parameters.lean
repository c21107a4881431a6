import Mathlib.Data.List.DropRight
import Driftwatch.Proofs.Splitting
import Driftwatch.Source.Parameter

/-!
# Names in parameter lists

A parameter list is read piece by piece, and no piece has a say in how another one is read. What is
read are names: not empty, without white space at the ends, without the characters that end a piece
or a name, and without the brace of a pattern. A list of such names reads as itself.

## The shape of the argument

A comma splits a list in two (`parameterNames_append_comma`), so a list that is joined with commas
is read name by name, once the blank after each comma is out of the way
(`parameterNames_cons_of_isBlank`). A name that was read is as described
(`isParameterName_of_parameterName?`), and nothing else is needed for it to be read again
(`IsParameterName.parameterNames_eq`). Trimming is done twice, around the cut at a colon. It is said
once what it leaves (`isTrimmed_trim`) and what it leaves alone (`IsTrimmed.trim_eq`).

## Main definitions

* `IsTrimmed`: texts without white space at the ends.
* `IsParameterName`: what a name in a list is like.

## Main results

* `parameterNames_append_comma`: the names of two lists with a comma in between.
* `parameterNames_joinWith`: names that are joined are read back.
* `parameterNames_is_stable`: the laws of parameter lists.
-/

namespace Driftwatch

/-! ### Trimmed texts -/

/-- A text that does not begin or end with white space. -/
structure IsTrimmed (text : List Char) : Prop where
  head : ∀ c, text.head? = some c → isBlank c = false
  last : ∀ c, text.getLast? = some c → isBlank c = false

theorem trimRight_eq_rdropWhile (text : List Char) : trimRight text = text.rdropWhile isBlank :=
  rfl

theorem isTrimmed_trim (text : List Char) : IsTrimmed (trim text) where
  head c hc := by
    -- What is cut off at the end leaves the first character where it is.
    obtain ⟨rest, hrest⟩ : trim text <+: trimLeft text := List.rdropWhile_prefix _ _
    have hhead : (text.dropWhile isBlank).head? = some c := by
      rw [← trimLeft, ← hrest, List.head?_append, hc, Option.some_or]
    have hblank := List.head?_dropWhile_not isBlank text
    rwa [hhead] at hblank
  last c hc := by
    obtain ⟨hne, rfl⟩ := List.mem_getLast?_eq_getLast hc
    exact Bool.eq_false_iff.2 (List.rdropWhile_last_not isBlank (trimLeft text) hne)

theorem IsTrimmed.trim_eq {text : List Char} (h : IsTrimmed text) : trim text = text := by
  have hleft : trimLeft text = text := by
    cases text with
    | nil => rfl
    | cons c rest => exact List.dropWhile_cons_of_neg (by simp [h.head c rfl])
  rw [trim, hleft, trimRight_eq_rdropWhile, List.rdropWhile_eq_self_iff]
  intro hne
  exact Bool.eq_false_iff.1 (h.last _ (List.getLast?_eq_some_getLast hne))

theorem trim_cons_of_isBlank {c : Char} (h : isBlank c = true) (text : List Char) :
    trim (c :: text) = trim text := by
  rw [trim, trimLeft, List.dropWhile_cons_of_pos h, trim, trimLeft]

theorem mem_of_mem_trim {c : Char} {text : List Char} (h : c ∈ trim text) : c ∈ text :=
  (List.dropWhile_suffix isBlank).mem ((List.rdropWhile_prefix isBlank (trimLeft text)).mem h)

/-! ### Single names -/

/-- What a name in a parameter list is like. -/
structure IsParameterName (name : List Char) : Prop where
  ne_nil : name ≠ []
  trimmed : IsTrimmed name
  comma : ',' ∉ name
  colon : ':' ∉ name
  brace : name.head? ≠ some '{'

theorem parameterName?_eq_some_iff {piece name : List Char} :
    parameterName? piece = some name ↔
      name = trim ((trim piece).takeWhile (· != ':')) ∧ name ≠ [] ∧ name.head? ≠ some '{' := by
  simp only [parameterName?]
  generalize trim ((trim piece).takeWhile (· != ':')) = found
  split
  · exact ⟨fun h => absurd h (by simp), fun h => absurd h.1 h.2.1⟩
  · next rest =>
    refine ⟨fun h => absurd h (by simp), ?_⟩
    rintro ⟨rfl, -, hbrace⟩
    exact absurd rfl hbrace
  · next hnil hbrace =>
    have hhead : found.head? ≠ some '{' := by
      intro h
      obtain ⟨rest, rfl⟩ := List.head?_eq_some_iff.1 h
      exact hbrace rest rfl
    constructor
    · intro h
      obtain rfl := Option.some.inj h
      exact ⟨rfl, hnil, hhead⟩
    · rintro ⟨rfl, -, -⟩
      rfl

/-- A piece without commas has a proper name, or none. -/
theorem isParameterName_of_parameterName? {piece name : List Char} (hpiece : ',' ∉ piece)
    (h : parameterName? piece = some name) : IsParameterName name := by
  obtain ⟨rfl, hne, hbrace⟩ := parameterName?_eq_some_iff.1 h
  have hcut : ∀ c ∈ trim ((trim piece).takeWhile (· != ':')),
      c ∈ (trim piece).takeWhile (· != ':') := fun c => mem_of_mem_trim
  refine ⟨hne, isTrimmed_trim _, fun hcomma => ?_, fun hcolon => ?_, hbrace⟩
  · have hmem := (List.takeWhile_prefix _).mem (hcut _ hcomma)
    exact hpiece (mem_of_mem_trim hmem)
  · have hkept := List.mem_takeWhile_imp (hcut _ hcolon)
    exact absurd hkept (by decide)

theorem IsParameterName.parameterName?_eq {name : List Char} (h : IsParameterName name) :
    parameterName? name = some name := by
  have hcut : name.takeWhile (· != ':') = name := by
    refine List.takeWhile_eq_self_iff.2 fun c hc => bne_iff_ne.2 ?_
    rintro rfl
    exact h.colon hc
  refine parameterName?_eq_some_iff.2 ⟨?_, h.ne_nil, h.brace⟩
  rw [h.trimmed.trim_eq, hcut, h.trimmed.trim_eq]

/-! ### Lists -/

/-- **The names of two lists with a comma in between.** -/
theorem parameterNames_append_comma (left right : List Char) :
    parameterNames (left ++ ',' :: right) = parameterNames left ++ parameterNames right := by
  rw [parameterNames, splitOn_append_cons, List.filterMap_append, parameterNames, parameterNames]

/-- White space before a list belongs to its first piece, where it does not matter. -/
theorem parameterNames_cons_of_isBlank {c : Char} (h : isBlank c = true) (list : List Char) :
    parameterNames (c :: list) = parameterNames list := by
  have hcomma : c ≠ ',' := by
    rintro rfl
    exact absurd h (by decide)
  obtain ⟨piece, pieces, hpieces, hcons⟩ := splitOn_cons ',' c list
  have hpiece : parameterName? (c :: piece) = parameterName? piece := by
    rw [parameterName?, parameterName?, trim_cons_of_isBlank h]
  rw [parameterNames, hcons, if_neg hcomma, parameterNames, hpieces, List.filterMap_cons,
    List.filterMap_cons, hpiece]

theorem isParameterName_of_mem {list name : List Char} (h : name ∈ parameterNames list) :
    IsParameterName name := by
  obtain ⟨piece, hpiece, hname⟩ := List.mem_filterMap.1 h
  exact isParameterName_of_parameterName? (not_mem_of_mem_splitOn hpiece) hname

theorem IsParameterName.parameterNames_eq {name : List Char} (h : IsParameterName name) :
    parameterNames name = [name] := by
  rw [parameterNames, splitOn_eq, List.splitOn_eq_singleton h.comma, List.filterMap_cons,
    h.parameterName?_eq, List.filterMap_nil]

/-- What is put between names that are joined. -/
def nameSeparator : List Char :=
  [',', ' ']

/-- **Names that are joined are read back.** -/
theorem parameterNames_joinWith {names : List (List Char)}
    (h : ∀ name ∈ names, IsParameterName name) :
    parameterNames (joinWith nameSeparator names) = names := by
  induction names with
  | nil => decide
  | cons name names ih =>
    obtain ⟨hname, hnames⟩ := List.forall_mem_cons.1 h
    cases names with
    | nil => exact hname.parameterNames_eq
    | cons next names =>
      have hjoin : joinWith nameSeparator (name :: next :: names) =
          name ++ ',' :: ' ' :: joinWith nameSeparator (next :: names) := by
        rw [joinWith_eq, List.intercalate_cons_cons, joinWith_eq, nameSeparator, List.append_assoc,
          List.cons_append, List.singleton_append]
      rw [hjoin, parameterNames_append_comma, hname.parameterNames_eq,
        parameterNames_cons_of_isBlank (by decide), ih hnames, List.singleton_append]

/-- **Reading parameter lists is compositional and stable.** Two lists with a comma in between have
the names of the one and then those of the other. Every name is not empty, has no white space at its
ends, holds no comma and no colon, and does not start with a brace. The names of a list, joined by
commas and blanks, are the names of what was joined. -/
theorem parameterNames_is_stable (list : List Char) :
    (∀ other, parameterNames (list ++ ',' :: other) =
      parameterNames list ++ parameterNames other) ∧
    (∀ name ∈ parameterNames list, IsParameterName name) ∧
    parameterNames (joinWith nameSeparator (parameterNames list)) = parameterNames list :=
  ⟨parameterNames_append_comma list, fun _ => isParameterName_of_mem,
    parameterNames_joinWith fun _ => isParameterName_of_mem⟩

/-- A list with two colons in one piece, a pattern, a piece of white space and a piece without a
name. -/
def crowdedList : List Char :=
  " a : A : B, \x7b c, d \x7d:E ,\u00a0,:F, \u2003...rest\t".toList

/-- The second half of a pattern counts as a name, and the names are read again. -/
theorem parameterNames_is_stable_crowded :
    parameterNames crowdedList = ["a".toList, "d \x7d".toList, "...rest".toList] ∧
      IsParameterName "d \x7d".toList ∧
      parameterNames "a, d \x7d, ...rest".toList =
        ["a".toList, "d \x7d".toList, "...rest".toList] := by
  have hnames : parameterNames crowdedList = ["a".toList, "d \x7d".toList, "...rest".toList] := by
    decide +kernel
  obtain ⟨-, hproper, hagain⟩ := parameterNames_is_stable crowdedList
  rw [hnames] at hproper hagain
  have hjoined : joinWith nameSeparator ["a".toList, "d \x7d".toList, "...rest".toList] =
      "a, d \x7d, ...rest".toList := by decide
  rw [hjoined] at hagain
  exact ⟨hnames, hproper _ (by simp), hagain⟩

end Driftwatch
