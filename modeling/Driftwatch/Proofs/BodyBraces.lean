import Driftwatch.Proofs.MethodSpans
import Driftwatch.Proofs.Openings

/-!
# The brace of a body

A form that ends in an opening brace reads its line up to the brace of the body. Where the body
begins is found by a reading of its own, which looks for an arrow and a brace anywhere on the line.
Both readings come to the same brace for every class, and for every function whose line has no arrow
and no brace among the parameters. A line with an arrow is measured from the first brace behind its
first arrow, wherever these stand.

## The shape of the argument

All pieces before a parameter list take words and white space only. So the part of a line that a
form has read is a phrase, possibly followed by a parameter list in parentheses, and nothing but the
parameters can hold an arrow or a brace.

## Main definitions

* `Form.EndsInBrace`, `Form.ReadsToBrace`: forms that end in a brace, and the brace on a line.
* `MeasuresClass`, `MeasuresFunction`: where a body begins, told from the brace of its form.

## Main results

* `exists_phrase_of_readPieces`: what pieces take that take words only.
* `exists_header_of_read`: the parts of a line with parameters and a brace.
* `body_opens_behind_header`: the two readings compared.
-/

namespace Driftwatch

/-! ### Phrases -/

/-- A text of words and white space. -/
def IsPhrase (text : List Char) : Prop :=
  ∀ c ∈ text, isWord c = true ∨ isBlank c = true

/-- A character that is in no phrase. -/
theorem IsPhrase.not_mem {text : List Char} (h : IsPhrase text) {c : Char}
    (hword : isWord c = false) (hblank : isBlank c = false) : c ∉ text := by
  intro hc
  rcases h c hc with hc | hc
  · rw [hword] at hc
    cases hc
  · rw [hblank] at hc
    cases hc

theorem isPhrase_nil : IsPhrase [] :=
  fun _ hc => absurd hc List.not_mem_nil

theorem IsPhrase.append {first second : List Char} (hfirst : IsPhrase first)
    (hsecond : IsPhrase second) : IsPhrase (first ++ second) :=
  List.forall_mem_append.2 ⟨hfirst, hsecond⟩

theorem IsWordText.isPhrase {text : List Char} (h : IsWordText text) : IsPhrase text :=
  fun c hc => .inl (h c hc)

/-- White space taken off the front. -/
theorem exists_phrase_trimLeft (text : List Char) :
    ∃ phrase, IsPhrase phrase ∧ text = phrase ++ trimLeft text := by
  refine ⟨text.takeWhile isBlank, ?_, List.takeWhile_append_dropWhile.symm⟩
  intro c hc
  exact .inr (List.mem_takeWhile_imp hc)

theorem exists_phrase_of_takeGap? {text rest : List Char} (h : takeGap? text = some rest) :
    ∃ phrase, IsPhrase phrase ∧ text = phrase ++ rest := by
  obtain ⟨-, rfl⟩ := eq_trimLeft_of_takeGap? h
  exact exists_phrase_trimLeft text

theorem exists_phrase_of_takeWord? {text word rest : List Char}
    (h : takeWord? text = some (word, rest)) :
    ∃ phrase, IsPhrase phrase ∧ text = phrase ++ rest := by
  refine ⟨word, (isWordText_takeWord? h).isPhrase, ?_⟩
  rw [takeWord?] at h
  split at h
  · cases h
  · cases h
    exact List.takeWhile_append_dropWhile.symm

theorem exists_phrase_of_takeHeritage? {text rest : List Char}
    (h : takeHeritage? text = some rest) : ∃ phrase, IsPhrase phrase ∧ text = phrase ++ rest := by
  obtain ⟨afterGap, hgap, h⟩ := Option.bind_eq_some_iff.1 h
  obtain ⟨afterWord, hextends, h⟩ := Option.bind_eq_some_iff.1 h
  obtain ⟨beforeName, hgap', h⟩ := Option.bind_eq_some_iff.1 h
  obtain ⟨⟨name, behind⟩, hname, h⟩ := Option.bind_eq_some_iff.1 h
  cases h
  have hword : IsWordText "extends".toList := by decide
  obtain ⟨first, hfirst, rfl⟩ := exists_phrase_of_takeGap? hgap
  obtain rfl := eq_append_of_takeText? hextends
  obtain ⟨second, hsecond, rfl⟩ := exists_phrase_of_takeGap? hgap'
  obtain ⟨third, hthird, rfl⟩ := exists_phrase_of_takeWord? hname
  refine ⟨first ++ ("extends".toList ++ (second ++ third)),
    hfirst.append (hword.isPhrase.append (hsecond.append hthird)), ?_⟩
  simp only [List.append_assoc]

/-! ### Pieces -/

/-- Pieces that take nothing but words and white space off a line. -/
def Piece.isPhrasal : Piece → Bool
  | blanks | gap | binder | name | heritage => true
  | literal chars => chars.all isWord
  | parameters | bareParameters => false

/-- What such a piece takes. -/
theorem Piece.exists_phrase_of_read {piece : Piece} (hpiece : piece.isPhrasal = true)
    {reading next : Reading} (h : piece.read reading = some next) :
    ∃ phrase, IsPhrase phrase ∧ reading.2 = phrase ++ next.2 := by
  obtain ⟨captures, text⟩ := reading
  cases piece with
  | blanks =>
    cases h
    exact exists_phrase_trimLeft text
  | gap =>
    obtain ⟨rest, hgap, rfl⟩ := Option.map_eq_some_iff.1 h
    exact exists_phrase_of_takeGap? hgap
  | literal chars =>
    obtain ⟨rest, htext, rfl⟩ := Option.map_eq_some_iff.1 h
    have hword : IsWordText chars := List.all_eq_true.1 hpiece
    exact ⟨chars, hword.isPhrase, eq_append_of_takeText? htext⟩
  | binder =>
    obtain ⟨rest, hbinder, rfl⟩ := Option.map_eq_some_iff.1 h
    obtain ⟨word, hmem, htext⟩ := Opening.eq_append_of_takeBinder? hbinder
    have hbinders : ∀ word ∈ Opening.binders, IsWordText word := by decide
    exact ⟨word, (hbinders word hmem).isPhrase, htext⟩
  | name =>
    obtain ⟨⟨word, rest⟩, hname, rfl⟩ := Option.map_eq_some_iff.1 h
    exact exists_phrase_of_takeWord? hname
  | heritage =>
    cases h
    cases hclause : takeHeritage? text with
    | none => exact ⟨[], isPhrase_nil, rfl⟩
    | some rest => exact exists_phrase_of_takeHeritage? hclause
  | parameters | bareParameters => cases hpiece

/-- **What a sequence of such pieces takes.** -/
theorem exists_phrase_of_readPieces {pieces : List Piece}
    (hpieces : ∀ piece ∈ pieces, piece.isPhrasal = true) {reading final : Reading}
    (h : readPieces pieces reading = some final) :
    ∃ phrase, IsPhrase phrase ∧ reading.2 = phrase ++ final.2 := by
  induction pieces generalizing reading with
  | nil =>
    cases h
    exact ⟨[], isPhrase_nil, rfl⟩
  | cons piece pieces ih =>
    obtain ⟨next, hnext, hrest⟩ := Option.bind_eq_some_iff.1 h
    obtain ⟨hpiece, hpieces⟩ := List.forall_mem_cons.1 hpieces
    obtain ⟨first, hfirst, htext⟩ := Piece.exists_phrase_of_read hpiece hnext
    obtain ⟨second, hsecond, hrest⟩ := ih hpieces hrest
    exact ⟨first ++ second, hfirst.append hsecond, by rw [htext, hrest, List.append_assoc]⟩

theorem readPieces_append (first second : List Piece) (reading : Reading) :
    readPieces (first ++ second) reading =
      (readPieces first reading).bind (readPieces second) := by
  induction first generalizing reading with
  | nil => rfl
  | cons piece first ih =>
    rw [List.cons_append, readPieces, readPieces, Option.bind_assoc]
    congr 1
    funext next
    exact ih next

/-- Pieces that take words only, before others. -/
theorem exists_phrase_of_readPieces_append {first last : List Piece}
    (hfirst : ∀ piece ∈ first, piece.isPhrasal = true) {reading final : Reading}
    (h : readPieces (first ++ last) reading = some final) :
    ∃ phrase next, IsPhrase phrase ∧ reading.2 = phrase ++ next.2 ∧
      readPieces last next = some final := by
  rw [readPieces_append] at h
  obtain ⟨next, hnext, hlast⟩ := Option.bind_eq_some_iff.1 h
  obtain ⟨phrase, hphrase, htext⟩ := exists_phrase_of_readPieces hfirst hnext
  exact ⟨phrase, next, hphrase, htext, hlast⟩

theorem eq_of_takeParameters? {text list rest : List Char}
    (h : takeParameters? text = some (list, rest)) : text = '(' :: list ++ ')' :: rest := by
  unfold takeParameters? at h
  split at h
  · next inner =>
    split at h
    · cases h
    · next c behind hdrop =>
      cases h
      have hc := List.head?_dropWhile_not (· != ')') inner
      rw [hdrop] at hc
      obtain rfl : c = ')' := by simpa using hc
      rw [List.cons_append, ← hdrop, List.takeWhile_append_dropWhile]
  · cases h

/-! ### Forms that end in a brace -/

/-- The last thing that a form asks for is an opening brace. -/
def Form.EndsInBrace {κ : Type} (form : Form κ) : Prop :=
  form.pieces.getLast? = some (.word "\x7b")

instance {κ : Type} (form : Form κ) : Decidable form.EndsInBrace :=
  inferInstanceAs (Decidable (_ = _))

/-- A form reads a line up to and with the brace behind `front`. -/
structure Form.ReadsToBrace {κ : Type} (form : Form κ) (line : List Char) (captures : Captures)
    (front rest : List Char) : Prop where
  read : readPieces form.pieces ({}, line) = some (captures, rest)
  split : line = front ++ '{' :: rest

/-- The pieces of a form before its parameters, where these and a brace end it. -/
def Form.header {κ : Type} (form : Form κ) : List Piece :=
  form.pieces.take (form.pieces.length - 3)

theorem pieces_of_mem_classForms : ∀ form ∈ classForms, form.EndsInBrace →
    form.kind.hasMethods = true ∧ form.pieces = form.pieces.dropLast ++ [.word "\x7b"] ∧
      ∀ piece ∈ form.pieces.dropLast, piece.isPhrasal = true := by
  decide

theorem pieces_of_mem_functionForms : ∀ form ∈ functionForms ++ methodForms, form.EndsInBrace →
    form.pieces = form.header ++ [.parameters, .blanks, .word "\x7b"] ∧
      ∀ piece ∈ form.header, piece.isPhrasal = true := by
  decide

/-- A class form reads a phrase and its brace. -/
theorem exists_phrase_of_read_class {form : Form ClassKind} (hform : form ∈ classForms)
    (hbrace : form.EndsInBrace) {line : List Char} {captures : Captures}
    (h : form.read line = some captures) :
    ∃ front rest, IsPhrase front ∧ form.ReadsToBrace line captures front rest := by
  obtain ⟨⟨captures, rest⟩, hread, rfl⟩ := Option.map_eq_some_iff.1 h
  obtain ⟨-, hpieces, hphrasal⟩ := pieces_of_mem_classForms form hform hbrace
  have hparts := hread
  rw [hpieces] at hparts
  obtain ⟨front, next, hphrase, hline, hlast⟩ := exists_phrase_of_readPieces_append hphrasal hparts
  obtain ⟨behind, hword, hend⟩ := Opening.exists_of_readPieces_cons rfl hlast
  obtain ⟨-, rfl⟩ := Prod.mk.inj (Option.some.inj hend)
  refine ⟨front, behind, hphrase, hread, ?_⟩
  exact hline.trans (congrArg (front ++ ·) (eq_append_of_takeText? hword))

/-- What stands before the brace of a body: words, parameters and white space. -/
def headerText (words parameters gap : List Char) : List Char :=
  words ++ '(' :: parameters ++ ')' :: gap

/-- **The parts of a line** that a form of functions reads up to a brace. -/
theorem exists_header_of_read {form : Form FunctionKind}
    (hform : form ∈ functionForms ++ methodForms) (hbrace : form.EndsInBrace) {line : List Char}
    {captures : Captures} (h : form.read line = some captures) :
    ∃ words gap rest, IsPhrase words ∧ IsPhrase gap ∧
      form.ReadsToBrace line captures (headerText words captures.parameters gap) rest := by
  obtain ⟨⟨captures, rest⟩, hread, rfl⟩ := Option.map_eq_some_iff.1 h
  obtain ⟨hpieces, hphrasal⟩ := pieces_of_mem_functionForms form hform hbrace
  have hparts := hread
  rw [hpieces] at hparts
  obtain ⟨words, ⟨captures', text⟩, hwords, hline, hlast⟩ :=
    exists_phrase_of_readPieces_append hphrasal hparts
  obtain ⟨⟨list, behind⟩, hlist, hlast⟩ := Opening.exists_of_readPieces_cons rfl hlast
  obtain ⟨gap, hgap, hbehind⟩ := exists_phrase_trimLeft behind
  -- Blanks always read, so only the brace is left.
  change readPieces [.word "\x7b"] ({ captures' with parameters := list }, trimLeft behind) =
    some (captures, rest) at hlast
  obtain ⟨tail, hword, hend⟩ := Opening.exists_of_readPieces_cons rfl hlast
  obtain ⟨rfl, rfl⟩ := Prod.mk.inj (Option.some.inj hend)
  refine ⟨words, gap, tail, hwords, hgap, hread, ?_⟩
  calc line
    _ = words ++ text := hline
    _ = words ++ ('(' :: list ++ ')' :: (gap ++ '{' :: tail)) := by
      rw [eq_of_takeParameters? hlist, hbehind, eq_append_of_takeText? hword]
      rfl
    _ = headerText words list gap ++ '{' :: tail := by
      simp only [headerText, List.append_assoc, List.cons_append]

/-! ### Arrows and braces around a header -/

section

variable {words parameters gap rest before after : List Char}

/-- Nothing but the parameters of a header can hold a brace. -/
theorem brace_not_mem_headerText (hwords : IsPhrase words) (hgap : IsPhrase gap)
    (h : '{' ∉ parameters) : '{' ∉ headerText words parameters gap := by
  have hwords' : '{' ∉ words := hwords.not_mem (by decide) (by decide)
  have hgap' : '{' ∉ gap := hgap.not_mem (by decide) (by decide)
  simp [headerText, h, hwords', hgap']

theorem equals_not_mem_words (hwords : IsPhrase words) : '=' ∉ words ++ ['('] := by
  have hwords' : '=' ∉ words := hwords.not_mem (by decide) (by decide)
  simp [hwords']

/-- An arrow in the parameters is the first one of the line. -/
theorem FirstArrow.of_parameters (h : FirstArrow parameters before after) (hwords : IsPhrase words)
    (gap rest : List Char) : FirstArrow (headerText words parameters gap ++ '{' :: rest)
      (words ++ ['('] ++ before) (after ++ ')' :: gap ++ '{' :: rest) := by
  have hfirst := (h.append (')' :: gap ++ '{' :: rest)).prepend (equals_not_mem_words hwords)
  simpa [headerText] using hfirst

/-- Nor can anything else hold an arrow. -/
theorem arrowOffset?_headerText (hwords : IsPhrase words) (hgap : IsPhrase gap)
    (h : arrowOffset? parameters = none) :
    arrowOffset? (headerText words parameters gap) = none := by
  have hclose : '=' ∉ ')' :: gap := by
    have hgap' : '=' ∉ gap := hgap.not_mem (by decide) (by decide)
    simp [hgap']
  have hend : arrowOffset? (')' :: gap) = none := by
    rw [← List.append_nil (')' :: gap), arrowOffset?_append hclose]
    rfl
  rw [show headerText words parameters gap = (words ++ ['(']) ++ (parameters ++ ')' :: gap) by
      simp [headerText],
    arrowOffset?_append (equals_not_mem_words hwords), arrowOffset?_append_of_none h (by simp),
    hend]
  rfl

/-- Without an arrow in the parameters, the first one of the line stands behind the brace. -/
theorem byteLength_lt_of_firstArrow (hwords : IsPhrase words) (hgap : IsPhrase gap)
    (h : arrowOffset? parameters = none)
    (hfirst : FirstArrow (headerText words parameters gap ++ '{' :: rest) before after) :
    byteLength (headerText words parameters gap) < byteLength before + 2 := by
  have hheader := arrowOffset?_headerText hwords hgap h
  have hmore : ('{' :: rest).head? ≠ some '>' := by simp
  have hfound := arrowOffset?_append_of_none hheader hmore
  rw [arrowOffset?_of_firstArrow hfirst] at hfound
  obtain ⟨⟨offset, after'⟩, hrest, heq⟩ := Option.map_eq_some_iff.1 hfound.symm
  obtain ⟨front, -, rfl⟩ := arrowOffset?_eq_some_iff.1 hrest
  obtain ⟨hoffset, -⟩ := Prod.mk.inj heq
  omega

/-- The text up to the brace, from an arrow in the parameters on. -/
theorem headerText_of_firstArrow (h : FirstArrow parameters before after) (words gap : List Char) :
    headerText words parameters gap =
      (words ++ ['('] ++ before) ++ '=' :: '>' :: (after ++ ')' :: gap) := by
  simp [headerText, h.split]

/-- **With an arrow on the line**, a function is measured from the brace behind its header exactly
when the first arrow stands in the parameters and no brace follows it there. -/
theorem brace?_eq_headerText_iff (hwords : IsPhrase words) (hgap : IsPhrase gap)
    (harrow : HasArrow (headerText words parameters gap ++ '{' :: rest)) :
    (Body.ofFunctionLine (headerText words parameters gap ++ '{' :: rest)).brace? =
        some (byteLength (headerText words parameters gap)) ↔
      ∃ before after, FirstArrow parameters before after ∧ '{' ∉ after := by
  obtain ⟨before, after, hfirst⟩ := exists_firstArrow harrow
  rw [brace?_of_firstArrow hfirst, Option.map_eq_some_iff]
  constructor
  · rintro ⟨brace, hbrace, hoffset⟩
    cases hparameters : arrowOffset? parameters with
    | none =>
      have hlt := byteLength_lt_of_firstArrow hwords hgap hparameters hfirst
      omega
    | some found =>
      obtain ⟨inside, hinside, -⟩ := arrowOffset?_eq_some_iff.1 hparameters
      refine ⟨inside, found.2, hinside, fun hmem => ?_⟩
      -- A brace between the arrow and the closing parenthesis comes too early.
      obtain ⟨skipped, tail, hsplit, hskipped⟩ := List.eq_append_cons_of_mem hmem
      obtain ⟨rfl, rfl⟩ := hfirst.unique (hinside.of_parameters hwords gap rest)
      have hlength : byteLength skipped < byteLength (found.2 ++ ')' :: gap) := by
        have hpos := '{'.utf8Size_pos
        rw [hsplit, List.append_assoc, byteLength_append, List.cons_append, byteLength_cons]
        omega
      rw [headerText_of_firstArrow hinside, byteLength_arrow] at hoffset
      rw [hsplit, List.append_assoc, List.append_assoc, List.cons_append,
        offsetOf?_brace_append hskipped] at hbrace
      have hfound := Option.some.inj hbrace
      omega
  · rintro ⟨inside, behind, hinside, hbehind⟩
    obtain ⟨rfl, rfl⟩ := hfirst.unique (hinside.of_parameters hwords gap rest)
    have hgap' : '{' ∉ gap := hgap.not_mem (by decide) (by decide)
    have hfree : '{' ∉ behind ++ ')' :: gap := by simp [hbehind, hgap']
    refine ⟨_, offsetOf?_brace_append hfree rest, ?_⟩
    rw [headerText_of_firstArrow hinside, byteLength_arrow]

end

/-! ### Where a body begins -/

/-- The class on a line is measured from the brace behind `front`. -/
structure MeasuresClass (line : List Char) (kind : ClassKind) (front : List Char) : Prop where
  body : Body.ofClassLine line kind = .classBody (some (byteLength front))
  /-- The last line is the one where that brace is closed. -/
  lineEnd : ∀ rows number name, 0 < number → number ≤ rows.length →
    (classEntity rows number line ⟨kind, name⟩).lineEnd =
      closingLine rows (number - 1) (byteLength front)

/-- How the function on a line is measured, when a form has read its parameters and come to the
brace behind `front`. -/
structure MeasuresFunction (line parameters front : List Char) : Prop where
  /-- Without an arrow on the line and without a brace in the parameters, from that brace. -/
  block : ¬ HasArrow line → '{' ∉ parameters →
    Body.ofFunctionLine line = .block (byteLength front)
  /-- With an arrow, from the first brace behind it. -/
  arrowBlock : ∀ before skipped rest, FirstArrow line before (skipped ++ '{' :: rest) →
    '{' ∉ skipped →
      Body.ofFunctionLine line = .arrowBlock (byteLength (before ++ '=' :: '>' :: skipped))
  /-- With an arrow that no brace follows, as an expression. -/
  arrowExpression : ∀ before after, FirstArrow line before after → '{' ∉ after →
    Body.ofFunctionLine line = .arrowExpression
  /-- With an arrow, from the brace behind `front` exactly when the first arrow stands in the
  parameters and no brace follows it there. -/
  ownBrace : HasArrow line → ((Body.ofFunctionLine line).brace? = some (byteLength front) ↔
    ∃ before after, FirstArrow parameters before after ∧ '{' ∉ after)
  /-- The last line is the one where the brace is closed that the function is measured from. -/
  lineEnd : ∀ brace, (Body.ofFunctionLine line).brace? = some brace → ∀ rows number found,
    0 < number → number ≤ rows.length →
      (functionEntity rows number line found).lineEnd = closingLine rows (number - 1) brace

theorem measuresClass_of_isPhrase {kind : ClassKind} (hkind : kind.hasMethods = true)
    {front : List Char} (hfront : IsPhrase front) (rest : List Char) :
    MeasuresClass (front ++ '{' :: rest) kind front := by
  have hbody : Body.ofClassLine (front ++ '{' :: rest) kind =
      .classBody (some (byteLength front)) := by
    rw [Body.ofClassLine, if_pos hkind,
      offsetOf?_brace_append (hfront.not_mem (by decide) (by decide))]
  refine ⟨hbody, ?_⟩
  intro rows number name hpos hle
  exact endLine_of_brace? hpos hle (by rw [hbody]; rfl)

theorem measuresFunction_of_headerText {words parameters gap : List Char} (hwords : IsPhrase words)
    (hgap : IsPhrase gap) (rest : List Char) :
    MeasuresFunction (headerText words parameters gap ++ '{' :: rest) parameters
      (headerText words parameters gap) where
  block := by
    intro harrow hbrace
    rw [Body.ofFunctionLine, arrowOffset?_eq_none_iff.2 harrow]
    simp only [offsetOf?_brace_append (brace_not_mem_headerText hwords hgap hbrace)]
  arrowBlock := by
    intro before skipped tail hfirst hskipped
    rw [Body.ofFunctionLine, arrowOffset?_of_firstArrow hfirst, byteLength_arrow]
    simp only [offsetOf?_brace_append hskipped]
  arrowExpression := by
    intro before after hfirst hafter
    rw [Body.ofFunctionLine, arrowOffset?_of_firstArrow hfirst]
    simp only [offsetOf?_brace_eq_none hafter]
  ownBrace := brace?_eq_headerText_iff hwords hgap
  lineEnd := by
    intro brace hbrace rows number found hpos hle
    exact endLine_of_brace? hpos hle hbrace

/-- **Where bodies begin on the lines that end in a brace.** A class is measured from the brace that
ends its header. A function is, too, unless its line has an arrow, which then decides, or a brace
among the parameters. -/
theorem body_opens_behind_header (line : List Char) (captures : Captures) :
    (∀ form ∈ classForms, form.EndsInBrace → form.read line = some captures →
      ∃ front rest, form.ReadsToBrace line captures front rest ∧
        MeasuresClass line form.kind front) ∧
    ∀ form ∈ functionForms ++ methodForms, form.EndsInBrace → form.read line = some captures →
      ∃ front rest, form.ReadsToBrace line captures front rest ∧
        MeasuresFunction line captures.parameters front := by
  constructor
  · intro form hform hbrace hread
    obtain ⟨front, rest, hfront, hreads⟩ := exists_phrase_of_read_class hform hbrace hread
    have hkind := (pieces_of_mem_classForms form hform hbrace).1
    refine ⟨front, rest, hreads, ?_⟩
    rw [hreads.split]
    exact measuresClass_of_isPhrase hkind hfront rest
  · intro form hform hbrace hread
    obtain ⟨words, gap, rest, hwords, hgap, hreads⟩ := exists_header_of_read hform hbrace hread
    refine ⟨_, rest, hreads, ?_⟩
    rw [hreads.split]
    exact measuresFunction_of_headerText hwords hgap rest

/-- The form of exported classes. -/
def exportedClass : Form ClassKind :=
  ⟨.exportClass, classPieces [.word "export", .gap]⟩

/-- A class with everything that its header can have. -/
def classHeader : List Char :=
  "export class A extends B \x7b m() \x7b \x7d".toList

/-- A method with a body on one line. -/
def methodHeader : List Char :=
  "  static run(a = 1, b) \x7b return \x7b a, b \x7d; \x7d".toList

/-- A method with a parameter that is an arrow if it is left out. -/
def arrowByDefault : List Char :=
  "async run(f = x => x) \x7b return f(1); \x7d".toList

theorem body_opens_behind_header_threeLines :
    (∃ front rest, exportedClass.ReadsToBrace classHeader ⟨['A'], []⟩ front rest ∧
      MeasuresClass classHeader .exportClass front) ∧
    (∃ front rest, (modifiedMethod "static").ReadsToBrace methodHeader
        ⟨"run".toList, "a = 1, b".toList⟩ front rest ∧
      Body.ofFunctionLine methodHeader = .block (byteLength front)) ∧
    ∃ front rest, (modifiedMethod "async").ReadsToBrace arrowByDefault
        ⟨"run".toList, "f = x => x".toList⟩ front rest ∧
      (Body.ofFunctionLine arrowByDefault).brace? = some (byteLength front) := by
  refine ⟨?_, ?_, ?_⟩
  · exact (body_opens_behind_header classHeader ⟨['A'], []⟩).1 exportedClass
      (by simp [classForms, exportedClass]) rfl (by decide)
  · obtain ⟨front, rest, hreads, hmeasures⟩ := (body_opens_behind_header methodHeader
      ⟨"run".toList, "a = 1, b".toList⟩).2 (modifiedMethod "static") (by simp [methodForms]) rfl
      (by decide)
    exact ⟨front, rest, hreads, hmeasures.block (by decide) (by decide)⟩
  · obtain ⟨front, rest, hreads, hmeasures⟩ := (body_opens_behind_header arrowByDefault
      ⟨"run".toList, "f = x => x".toList⟩).2 (modifiedMethod "async") (by simp [methodForms]) rfl
      (by decide)
    have hfirst : FirstArrow "f = x => x".toList "f = x ".toList " x".toList :=
      ⟨by decide, by decide⟩
    exact ⟨front, rest, hreads, (hmeasures.ownBrace (by decide)).2 ⟨_, _, hfirst, by decide⟩⟩

/-- The form of methods without a modifier. -/
def bareMethod : Form FunctionKind :=
  ⟨.method, .blanks :: bodyPieces⟩

/-- A method that returns an arrow with a block. -/
def arrowInBody : List Char :=
  "run(f) \x7b return x => \x7b f(x) \x7d \x7d".toList

/-- A body need not begin at the brace that ends the header: an arrow behind it leads to another. -/
theorem body_opens_behind_arrow :
    bareMethod ∈ functionForms ∧ bareMethod.EndsInBrace ∧
      functionOn? arrowInBody = some ⟨.method, "run", ["f"]⟩ ∧
      bareMethod.ReadsToBrace arrowInBody ⟨"run".toList, ['f']⟩ "run(f) ".toList
        " return x => \x7b f(x) \x7d \x7d".toList ∧
      byteLength "run(f) ".toList = 7 ∧ Body.ofFunctionLine arrowInBody = .arrowBlock 21 :=
  ⟨by simp [functionForms, bareMethod], rfl, by decide, ⟨by decide, by decide⟩, by decide,
    by decide⟩

end Driftwatch
