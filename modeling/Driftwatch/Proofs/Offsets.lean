import Mathlib.Algebra.GroupWithZero.Nat
import Driftwatch.Proofs.Walk

/-!
# Byte offsets and the text before them

An offset into a line is the number of bytes of the text before it. With that text at hand, dropping
bytes is dropping a first part, and a search that finds nothing in a first part goes on in the rest.

## Main definitions

* `byteLength`: the number of bytes of a text.
* `FirstArrow`: the first arrow of a text, with what stands before and after it.

## Main results

* `dropBytes?_byteLength_add`, `exists_front_of_dropBytes?`: dropping bytes.
* `isPrefix_byteLength_inj`: the beginnings of a line are told apart by their numbers of bytes.
* `offsetOf?_append`, `arrowOffset?_append`: searches behind a first part without a match.
* `arrowOffset?_eq_some_iff`: the search for an arrow finds the first one.
* `offsetOf?_brace_append`: so does the search for an opening brace.
-/

namespace Driftwatch

/-- The number of bytes of a text. -/
def byteLength (text : List Char) : Nat :=
  (text.map Char.utf8Size).sum

theorem byteLength_cons (c : Char) (rest : List Char) :
    byteLength (c :: rest) = c.utf8Size + byteLength rest := by
  rw [byteLength, List.map_cons, List.sum_cons, byteLength]

theorem byteLength_append (first second : List Char) :
    byteLength (first ++ second) = byteLength first + byteLength second := by
  rw [byteLength, List.map_append, List.sum_append, byteLength, byteLength]

theorem eq_nil_of_byteLength {text : List Char} (h : byteLength text = 0) : text = [] := by
  cases text with
  | nil => rfl
  | cons c rest =>
    have hpos := c.utf8Size_pos
    rw [byteLength_cons] at h
    omega

/-- The beginnings of a line are told apart by their numbers of bytes. -/
theorem isPrefix_byteLength_inj {line first second : List Char} (hfirst : first <+: line)
    (hsecond : second <+: line) (h : byteLength first = byteLength second) : first = second := by
  have hext : ∀ {a b : List Char}, a <+: b → byteLength a = byteLength b → a = b := by
    rintro a - ⟨more, rfl⟩ heq
    rw [byteLength_append] at heq
    have hmore : byteLength more = 0 := by omega
    rw [eq_nil_of_byteLength hmore, List.append_nil]
  rcases List.prefix_or_prefix_of_prefix hfirst hsecond with hle | hle
  · exact hext hle h
  · exact (hext hle h.symm).symm

theorem dropBytes?_byteLength_add (front rest : List Char) (n : Nat) :
    dropBytes? (byteLength front + n) (front ++ rest) = dropBytes? n rest := by
  induction front with
  | nil => rw [byteLength, List.map_nil, List.sum_nil, Nat.zero_add, List.nil_append]
  | cons c front ih =>
    rw [byteLength_cons, List.cons_append, Nat.add_assoc, dropBytes?_utf8Size_add, ih]

theorem dropBytes?_byteLength (front rest : List Char) :
    dropBytes? (byteLength front) (front ++ rest) = some rest := by
  have hzero : dropBytes? 0 rest = some rest := by simp [dropBytes?]
  rw [← Nat.add_zero (byteLength front), dropBytes?_byteLength_add, hzero]

theorem exists_front_of_dropBytes? {offset : Nat} {line rest : List Char}
    (h : dropBytes? offset line = some rest) :
    ∃ front, line = front ++ rest ∧ offset = byteLength front := by
  induction line generalizing offset with
  | nil =>
    cases offset with
    | zero =>
      simp only [dropBytes?, Option.some.injEq] at h
      exact ⟨[], h, rfl⟩
    | succ offset => simp [dropBytes?] at h
  | cons c line ih =>
    cases offset with
    | zero =>
      simp only [dropBytes?, Option.some.injEq] at h
      exact ⟨[], h, rfl⟩
    | succ offset =>
      rw [dropBytes?] at h
      split at h
      · next hsize =>
        obtain ⟨front, rfl, hoffset⟩ := ih h
        refine ⟨c :: front, rfl, ?_⟩
        rw [byteLength_cons]
        omega
      · cases h

/-! ### Searches -/

theorem eq_false_of_offsetOf?_eq_none {p : Char → Bool} {text : List Char}
    (h : offsetOf? p text = none) : ∀ c ∈ text, p c = false := by
  induction text with
  | nil => exact fun c hc => absurd hc List.not_mem_nil
  | cons first rest ih =>
    rw [offsetOf?] at h
    split at h
    · cases h
    · next hfirst =>
      rw [Option.map_eq_none_iff] at h
      exact List.forall_mem_cons.2 ⟨Bool.not_eq_true _ ▸ hfirst, ih h⟩

theorem offsetOf?_append {p : Char → Bool} {front : List Char} (h : ∀ c ∈ front, p c = false)
    (rest : List Char) :
    offsetOf? p (front ++ rest) = (offsetOf? p rest).map (byteLength front + ·) := by
  induction front with
  | nil => simp [byteLength]
  | cons c front ih =>
    obtain ⟨hc, hfront⟩ := List.forall_mem_cons.1 h
    rw [List.cons_append, offsetOf?, if_neg (by simp [hc]), ih hfront, Option.map_map]
    congr 1
    funext offset
    rw [Function.comp_apply, byteLength_cons, Nat.add_assoc]

theorem arrowOffset?_cons {c : Char} {rest : List Char} (h : ¬ ['=', '>'] <+: c :: rest) :
    arrowOffset? (c :: rest) =
      (arrowOffset? rest).map fun found => (c.utf8Size + found.1, found.2) := by
  rw [arrowOffset?]
  rintro tail rfl rfl
  exact h (List.prefix_append ['=', '>'] tail)

theorem arrowOffset?_append {front : List Char} (h : '=' ∉ front) (rest : List Char) :
    arrowOffset? (front ++ rest) =
      (arrowOffset? rest).map fun found => (byteLength front + found.1, found.2) := by
  induction front with
  | nil => simp [byteLength]
  | cons c front ih =>
    have hc : c ≠ '=' := fun heq => h (heq ▸ List.mem_cons_self)
    have hfront : '=' ∉ front := fun hmem => h (List.mem_cons_of_mem _ hmem)
    have hstart : ¬ ['=', '>'] <+: c :: (front ++ rest) := by
      rintro ⟨tail, htail⟩
      exact hc (List.cons.inj htail).1.symm
    rw [List.cons_append, arrowOffset?_cons hstart, ih hfront, Option.map_map]
    congr 1
    funext found
    rw [Function.comp_apply, byteLength_cons, Nat.add_assoc]

/-! ### Arrows -/

/-- A text with an arrow in it. -/
def HasArrow (text : List Char) : Prop :=
  ['=', '>'] <:+: text

/-- The first arrow of a text, between what stands before and after it. -/
structure FirstArrow (text before after : List Char) : Prop where
  split : text = before ++ '=' :: '>' :: after
  first : ¬ HasArrow before

theorem byteLength_arrow (before after : List Char) :
    byteLength (before ++ '=' :: '>' :: after) = byteLength before + 2 + byteLength after := by
  have hequals : '='.utf8Size = 1 := rfl
  have hgreater : '>'.utf8Size = 1 := rfl
  simp only [byteLength_append, byteLength_cons, hequals, hgreater]
  omega

theorem FirstArrow.hasArrow {text before after : List Char} (h : FirstArrow text before after) :
    HasArrow text :=
  ⟨before, after, by rw [h.split, List.append_assoc]; rfl⟩

/-- What follows a text leaves its first arrow alone. -/
theorem FirstArrow.append {text before after : List Char} (h : FirstArrow text before after)
    (more : List Char) : FirstArrow (text ++ more) before (after ++ more) where
  split := by rw [h.split, List.append_assoc]; rfl
  first := h.first

/-- An arrow at the front of `c :: text ++ more` is one of `c :: text` or ends in `more`. -/
theorem not_arrow_prefix_cons_append {c : Char} {text : List Char}
    (htext : ¬ ['=', '>'] <+: c :: text) {more : List Char} (hmore : more.head? ≠ some '>') :
    ¬ ['=', '>'] <+: c :: (text ++ more) := by
  rintro ⟨tail, htail⟩
  obtain ⟨rfl, hrest⟩ := List.cons.inj htail
  cases text with
  | nil => exact hmore (congrArg List.head? hrest.symm)
  | cons d text =>
    obtain ⟨rfl, -⟩ := List.cons.inj hrest
    exact htext (List.prefix_append ['=', '>'] text)

theorem not_arrow_prefix_of_eq_none {c : Char} {text : List Char}
    (h : arrowOffset? (c :: text) = none) : ¬ ['=', '>'] <+: c :: text := by
  rintro ⟨tail, htail⟩
  rw [← htail] at h
  cases h

theorem arrowOffset?_of_firstArrow {text before after : List Char}
    (h : FirstArrow text before after) :
    arrowOffset? text = some (byteLength before + 2, after) := by
  obtain ⟨rfl, hfirst⟩ := h
  induction before with
  | nil => rfl
  | cons c before ih =>
    rw [HasArrow, List.infix_cons_iff, not_or] at hfirst
    have hmore : ('=' :: '>' :: after).head? ≠ some '>' := by simp
    rw [List.cons_append, arrowOffset?_cons (not_arrow_prefix_cons_append hfirst.1 hmore),
      ih hfirst.2, byteLength_cons]
    simp only [Option.map_some, Nat.add_assoc]

/-- **The search for an arrow** finds the first one. -/
theorem arrowOffset?_eq_some_iff {text after : List Char} {offset : Nat} :
    arrowOffset? text = some (offset, after) ↔
      ∃ before, FirstArrow text before after ∧ offset = byteLength before + 2 := by
  constructor
  · intro h
    fun_induction arrowOffset? text generalizing offset with
    | case1 => cases h
    | case2 rest =>
      obtain ⟨rfl, rfl⟩ := Prod.mk.inj (Option.some.inj h)
      exact ⟨[], ⟨rfl, by simp [HasArrow]⟩, rfl⟩
    | case3 c rest hne ih =>
      obtain ⟨⟨offset', after'⟩, hrest, heq⟩ := Option.map_eq_some_iff.1 h
      obtain ⟨rfl, rfl⟩ := Prod.mk.inj heq
      obtain ⟨before, ⟨rfl, hfirst⟩, rfl⟩ := ih hrest
      refine ⟨c :: before, ⟨rfl, ?_⟩, by rw [byteLength_cons, Nat.add_assoc]⟩
      rw [HasArrow, List.infix_cons_iff, not_or]
      refine ⟨?_, hfirst⟩
      rintro ⟨tail, htail⟩
      obtain ⟨rfl, rfl⟩ := List.cons.inj htail
      exact hne _ rfl rfl
  · rintro ⟨before, h, rfl⟩
    exact arrowOffset?_of_firstArrow h

theorem FirstArrow.unique {text before after before' after' : List Char}
    (h : FirstArrow text before after) (h' : FirstArrow text before' after') :
    before = before' ∧ after = after' := by
  have hsame := (arrowOffset?_of_firstArrow h).symm.trans (arrowOffset?_of_firstArrow h')
  obtain ⟨-, rfl⟩ := Prod.mk.inj (Option.some.inj hsame)
  exact ⟨List.append_cancel_right (h.split.symm.trans h'.split), rfl⟩

/-- A first part without an equals sign goes to what stands before the arrow. -/
theorem FirstArrow.prepend {text before after front : List Char} (h : FirstArrow text before after)
    (hfront : '=' ∉ front) : FirstArrow (front ++ text) (front ++ before) after := by
  have hfound := arrowOffset?_append hfront text
  rw [arrowOffset?_of_firstArrow h, Option.map_some] at hfound
  obtain ⟨before', h', -⟩ := arrowOffset?_eq_some_iff.1 hfound
  have hsplit : before' ++ '=' :: '>' :: after = front ++ before ++ '=' :: '>' :: after := by
    rw [← h'.split, h.split, List.append_assoc]
  rwa [← List.append_cancel_right hsplit]

/-- Behind a text without an arrow the search goes on, unless a `>` could complete one. -/
theorem arrowOffset?_append_of_none {text more : List Char} (h : arrowOffset? text = none)
    (hmore : more.head? ≠ some '>') : arrowOffset? (text ++ more) =
      (arrowOffset? more).map fun found => (byteLength text + found.1, found.2) := by
  induction text with
  | nil => simp [byteLength]
  | cons c text ih =>
    have hstart := not_arrow_prefix_of_eq_none h
    rw [arrowOffset?_cons hstart, Option.map_eq_none_iff] at h
    rw [List.cons_append, arrowOffset?_cons (not_arrow_prefix_cons_append hstart hmore), ih h,
      Option.map_map]
    congr 1
    funext found
    rw [Function.comp_apply, byteLength_cons, Nat.add_assoc]

/-- A text with an arrow has a first one. -/
theorem exists_firstArrow {text : List Char} (h : HasArrow text) :
    ∃ before after, FirstArrow text before after := by
  obtain ⟨front, rest, rfl⟩ := h
  rw [List.append_assoc]
  cases hfront : arrowOffset? front with
  | none =>
    have hmore : (['=', '>'] ++ rest).head? ≠ some '>' := by simp
    have hfound := arrowOffset?_append_of_none hfront hmore
    obtain ⟨before, hfirst, -⟩ := arrowOffset?_eq_some_iff.1 hfound
    exact ⟨before, rest, hfirst⟩
  | some found =>
    obtain ⟨before, hfirst, -⟩ := arrowOffset?_eq_some_iff.1 hfront
    exact ⟨before, _, hfirst.append _⟩

theorem arrowOffset?_eq_none_iff {text : List Char} :
    arrowOffset? text = none ↔ ¬ HasArrow text := by
  constructor
  · intro h harrow
    obtain ⟨before, after, hfirst⟩ := exists_firstArrow harrow
    rw [arrowOffset?_of_firstArrow hfirst] at h
    cases h
  · intro h
    rw [Option.eq_none_iff_forall_ne_some]
    rintro ⟨offset, after⟩ hsome
    obtain ⟨before, hfirst, -⟩ := arrowOffset?_eq_some_iff.1 hsome
    exact h hfirst.hasArrow

instance (text : List Char) : Decidable (HasArrow text) :=
  decidable_of_iff (arrowOffset? text ≠ none) (by rw [ne_eq, arrowOffset?_eq_none_iff, not_not])

/-! ### Braces -/

theorem isBrace_eq_false {text : List Char} (h : '{' ∉ text) : ∀ c ∈ text, (c == '{') = false := by
  intro c hc
  rw [beq_eq_false_iff_ne]
  rintro rfl
  exact h hc

theorem offsetOf?_brace_append {front : List Char} (h : '{' ∉ front) (rest : List Char) :
    offsetOf? (· == '{') (front ++ '{' :: rest) = some (byteLength front) := by
  rw [offsetOf?_append (isBrace_eq_false h)]
  rfl

theorem offsetOf?_brace_eq_none {text : List Char} (h : '{' ∉ text) :
    offsetOf? (· == '{') text = none := by
  rw [← List.append_nil text, offsetOf?_append (isBrace_eq_false h)]
  rfl

end Driftwatch
