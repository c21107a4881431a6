import Driftwatch.Proofs.BodyBraces
import Driftwatch.Proofs.Indentation

/-!
# Lines that match a form

A form is read with every piece taking as much as it can and giving nothing back. What a form means
does not need this: a line matches if its beginning can be cut into parts, one for each piece, in
any way at all. For the forms of functions and methods the two come to the same. No line that
matches is missed, and however it is cut, the name and the parameters are those that were read.

## The shape of the argument

A piece could take too much only where the next one begins with what it takes. White space is always
followed by something that is none, and a name by something that is no word character
(`settled`). This is a condition on the pieces alone, which the tables meet by evaluation.

Two forms may also be too alike for the words of a line to tell them apart. Then they agree up to
some piece and ask for different characters there (`diverges`), and again no line matches both.

## Main definitions

* `Piece.Takes`, `TakesAll`: what pieces may take off a text.
* `Form.Matches`, `Form.Fits`: lines of a form.
* `Form.excludes`: two forms that no line has both, by their words or by a character.

## Main results

* `readPieces_of_takesAll`: reading finds what was taken.
* `Form.read_eq_some_iff_matches`: reading decides matching.
* `Form.read_eq_none_of_excludes`: of two forms that exclude each other, a line has at most one.
* `firstReading_append_cons`: which form of a table decides.
-/

namespace Driftwatch

/-! ### Parts of a line -/

/-- What a piece may take off a text, and what that captures. -/
inductive Piece.Takes : Piece → Reading → Reading → Prop where
  | blanks {captures : Captures} {space rest : List Char} (blank : allBlank space = true) :
    Takes .blanks (captures, space ++ rest) (captures, rest)
  | gap {captures : Captures} {space rest : List Char} (blank : allBlank space = true)
    (nonempty : space ≠ []) : Takes .gap (captures, space ++ rest) (captures, rest)
  | literal {captures : Captures} {chars rest : List Char} :
    Takes (.literal chars) (captures, chars ++ rest) (captures, rest)
  | binder {captures : Captures} {word rest : List Char} (mem : word ∈ Opening.binders) :
    Takes .binder (captures, word ++ rest) (captures, rest)
  | name {captures : Captures} {word rest : List Char} (letters : IsWordText word)
    (nonempty : word ≠ []) :
    Takes .name (captures, word ++ rest) ({ captures with name := word }, rest)
  | parameters {captures : Captures} {list rest : List Char} (inside : ')' ∉ list) :
    Takes .parameters (captures, '(' :: list ++ ')' :: rest)
      ({ captures with parameters := list }, rest)
  /-- White space around a list without parentheses does not belong to it. -/
  | bareParameters {captures : Captures} {list rest : List Char} (before : '=' ∉ list) :
    Takes .bareParameters (captures, list ++ '=' :: '>' :: rest)
      ({ captures with parameters := trim list }, rest)
  | noHeritage {captures : Captures} {rest : List Char} :
    Takes .heritage (captures, rest) (captures, rest)
  | heritage {captures : Captures} {space gap word rest : List Char}
    (blank : allBlank space = true) (nonempty : space ≠ []) (blank' : allBlank gap = true)
    (nonempty' : gap ≠ []) (letters : IsWordText word) (named : word ≠ []) :
    Takes .heritage (captures, space ++ ("extends".toList ++ (gap ++ (word ++ rest))))
      (captures, rest)

/-- What pieces may take off a text one after the other. -/
def TakesAll : List Piece → Reading → Reading → Prop
  | [], reading, final => final = reading
  | piece :: pieces, reading, final => ∃ next, piece.Takes reading next ∧ TakesAll pieces next final

/-- A line begins with parts for the pieces of a form, with what they capture. -/
def Form.Matches {κ : Type} (form : Form κ) (line : List Char) (captures : Captures) : Prop :=
  ∃ rest, TakesAll form.pieces ({}, line) (captures, rest)

/-- A line that matches a form. -/
def Form.Fits {κ : Type} (form : Form κ) (line : List Char) : Prop :=
  ∃ captures, form.Matches line captures

/-! ### What is read is taken -/

theorem allBlank_takeWhile (text : List Char) : allBlank (text.takeWhile isBlank) = true :=
  List.all_takeWhile

theorem exists_gap_of_takeGap? {text rest : List Char} (h : takeGap? text = some rest) :
    ∃ space, allBlank space = true ∧ space ≠ [] ∧ text = space ++ rest := by
  cases text with
  | nil => cases h
  | cons c text =>
    rw [takeGap?] at h
    split at h
    · next hc =>
      obtain rfl := Option.some.inj h
      refine ⟨c :: text.takeWhile isBlank, ?_, List.cons_ne_nil _ _, ?_⟩
      · rw [allBlank, List.all_cons, hc]
        exact allBlank_takeWhile text
      · rw [List.cons_append, trimLeft, List.takeWhile_append_dropWhile]
    · cases h

theorem eq_append_of_takeWord? {text word rest : List Char}
    (h : takeWord? text = some (word, rest)) : word ≠ [] ∧ text = word ++ rest := by
  unfold takeWord? at h
  split at h
  · cases h
  · next hne =>
    obtain ⟨rfl, rfl⟩ := Prod.mk.inj (Option.some.inj h)
    exact ⟨hne, List.takeWhile_append_dropWhile.symm⟩

theorem not_mem_takeWhile_ne (c : Char) (text : List Char) : c ∉ text.takeWhile (· != c) := by
  intro hmem
  have hne := List.mem_takeWhile_imp hmem
  simp at hne

theorem not_mem_of_takeParameters? {text list rest : List Char}
    (h : takeParameters? text = some (list, rest)) : ')' ∉ list := by
  unfold takeParameters? at h
  split at h
  · split at h
    · cases h
    · obtain ⟨rfl, -⟩ := Prod.mk.inj (Option.some.inj h)
      exact not_mem_takeWhile_ne _ _
  · cases h

theorem exists_of_takeBareParameters? {text list rest : List Char}
    (h : takeBareParameters? text = some (list, rest)) :
    ∃ inner, list = trim inner ∧ '=' ∉ inner ∧ text = inner ++ '=' :: '>' :: rest := by
  unfold takeBareParameters? at h
  split at h
  · next behind hdrop =>
    obtain ⟨rfl, rfl⟩ := Prod.mk.inj (Option.some.inj h)
    refine ⟨_, rfl, not_mem_takeWhile_ne '=' text, ?_⟩
    rw [← hdrop, List.takeWhile_append_dropWhile]
  · cases h

theorem takes_of_takeHeritage? {captures : Captures} {text rest : List Char}
    (h : takeHeritage? text = some rest) :
    Piece.heritage.Takes (captures, text) (captures, rest) := by
  obtain ⟨afterGap, hgap, h⟩ := Option.bind_eq_some_iff.1 h
  obtain ⟨afterWord, hextends, h⟩ := Option.bind_eq_some_iff.1 h
  obtain ⟨beforeName, hgap', h⟩ := Option.bind_eq_some_iff.1 h
  obtain ⟨⟨name, behind⟩, hname, h⟩ := Option.bind_eq_some_iff.1 h
  cases h
  obtain ⟨space, hblank, hne, rfl⟩ := exists_gap_of_takeGap? hgap
  obtain rfl := eq_append_of_takeText? hextends
  obtain ⟨gap, hblank', hne', rfl⟩ := exists_gap_of_takeGap? hgap'
  have hword := isWordText_takeWord? hname
  obtain ⟨hnamed, rfl⟩ := eq_append_of_takeWord? hname
  exact .heritage hblank hne hblank' hne' hword hnamed

theorem Piece.takes_of_read {piece : Piece} {reading next : Reading}
    (h : piece.read reading = some next) : piece.Takes reading next := by
  obtain ⟨captures, text⟩ := reading
  cases piece with
  | blanks =>
    obtain rfl := Option.some.inj h
    have hsplit := List.takeWhile_append_dropWhile (p := isBlank) (l := text)
    nth_rewrite 1 [← hsplit]
    exact .blanks (allBlank_takeWhile text)
  | gap =>
    obtain ⟨rest, hgap, rfl⟩ := Option.map_eq_some_iff.1 h
    obtain ⟨space, hblank, hne, rfl⟩ := exists_gap_of_takeGap? hgap
    exact .gap hblank hne
  | literal chars =>
    obtain ⟨rest, htext, rfl⟩ := Option.map_eq_some_iff.1 h
    rw [eq_append_of_takeText? htext]
    exact .literal
  | binder =>
    obtain ⟨rest, hbinder, rfl⟩ := Option.map_eq_some_iff.1 h
    obtain ⟨word, hmem, rfl⟩ := Opening.eq_append_of_takeBinder? hbinder
    exact .binder hmem
  | name =>
    obtain ⟨⟨word, rest⟩, hname, rfl⟩ := Option.map_eq_some_iff.1 h
    have hword := isWordText_takeWord? hname
    obtain ⟨hne, rfl⟩ := eq_append_of_takeWord? hname
    exact .name hword hne
  | parameters =>
    obtain ⟨⟨list, rest⟩, hlist, rfl⟩ := Option.map_eq_some_iff.1 h
    rw [eq_of_takeParameters? hlist]
    exact .parameters (not_mem_of_takeParameters? hlist)
  | bareParameters =>
    obtain ⟨⟨list, rest⟩, hlist, rfl⟩ := Option.map_eq_some_iff.1 h
    obtain ⟨inner, rfl, hinner, rfl⟩ := exists_of_takeBareParameters? hlist
    exact .bareParameters hinner
  | heritage =>
    obtain rfl := Option.some.inj h
    cases hclause : takeHeritage? text with
    | none => exact .noHeritage
    | some rest => exact takes_of_takeHeritage? hclause

theorem takesAll_of_readPieces {pieces : List Piece} {reading final : Reading}
    (h : readPieces pieces reading = some final) : TakesAll pieces reading final := by
  induction pieces generalizing reading with
  | nil => exact (Option.some.inj h).symm
  | cons piece pieces ih =>
    obtain ⟨next, hnext, hrest⟩ := Option.bind_eq_some_iff.1 h
    exact ⟨next, Piece.takes_of_read hnext, ih hrest⟩

/-! ### What is taken is read -/

theorem trimLeft_append_of_allBlank {space : List Char} (h : allBlank space = true)
    (rest : List Char) : trimLeft (space ++ rest) = trimLeft rest :=
  List.dropWhile_append_of_pos (List.all_eq_true.1 h)

theorem takeGap?_append {space : List Char} (h : allBlank space = true) (hne : space ≠ [])
    (rest : List Char) : takeGap? (space ++ rest) = some (trimLeft rest) := by
  cases space with
  | nil => exact absurd rfl hne
  | cons c space =>
    rw [allBlank, List.all_cons, Bool.and_eq_true] at h
    rw [List.cons_append, takeGap?, if_pos h.1, trimLeft_append_of_allBlank h.2]

theorem takeText?_append (chars rest : List Char) :
    takeText? chars (chars ++ rest) = some rest := by
  induction chars with
  | nil => rfl
  | cons c chars ih => rw [List.cons_append, takeText?, if_pos rfl, ih]

theorem takeBinder?_append {word : List Char} (h : word ∈ Opening.binders) (rest : List Char) :
    takeBinder? (word ++ rest) = some rest := by
  simp only [Opening.binders, List.mem_cons, List.not_mem_nil, or_false] at h
  rcases h with rfl | rfl | rfl <;> rfl

theorem takeWord?_append {word rest : List Char} (hword : IsWordText word) (hne : word ≠ [])
    (hrest : rest.takeWhile isWord = []) : takeWord? (word ++ rest) = some (word, rest) := by
  have htake : (word ++ rest).takeWhile isWord = word := by
    rw [List.takeWhile_append_of_pos hword, hrest, List.append_nil]
  have hdrop : (word ++ rest).dropWhile isWord = rest := by
    have hsplit := List.takeWhile_append_dropWhile (p := isWord) (l := word ++ rest)
    rw [htake] at hsplit
    exact List.append_cancel_left hsplit
  rw [takeWord?, htake, hdrop]
  split
  · exact absurd rfl hne
  · rfl

theorem takeWhile_ne_append {c : Char} {front : List Char} (h : c ∉ front) (rest : List Char) :
    (front ++ c :: rest).takeWhile (· != c) = front := by
  have hfront : ∀ d ∈ front, (d != c) = true := fun d hd => bne_iff_ne.2 fun heq => h (heq ▸ hd)
  rw [List.takeWhile_append_of_pos hfront, List.takeWhile_cons_of_neg (by simp), List.append_nil]

theorem dropWhile_ne_append {c : Char} {front : List Char} (h : c ∉ front) (rest : List Char) :
    (front ++ c :: rest).dropWhile (· != c) = c :: rest := by
  have hfront : ∀ d ∈ front, (d != c) = true := fun d hd => bne_iff_ne.2 fun heq => h (heq ▸ hd)
  rw [List.dropWhile_append_of_pos hfront, List.dropWhile_cons_of_neg (by simp)]

theorem takeParameters?_append {list : List Char} (h : ')' ∉ list) (rest : List Char) :
    takeParameters? ('(' :: list ++ ')' :: rest) = some (list, rest) := by
  simp only [List.cons_append, takeParameters?, dropWhile_ne_append h, takeWhile_ne_append h]

/-- A list without parentheses ends at the first equals sign, if that begins an arrow. -/
theorem takeBareParameters?_append {list : List Char} (h : '=' ∉ list) (rest : List Char) :
    takeBareParameters? (list ++ '=' :: '>' :: rest) = some (trim list, rest) := by
  simp only [takeBareParameters?, dropWhile_ne_append h, takeWhile_ne_append h]

/-- Pieces that cannot begin with white space, or do not mind it. -/
def startsVisible : List Piece → Bool
  | .literal (c :: _) :: _ => !isBlank c
  | .binder :: _ | .name :: _ | .parameters :: _ | .bareParameters :: _ => true
  | _ => false

/-- Pieces that cannot begin with a word character. -/
def startsBehindWord : List Piece → Bool
  | .blanks :: pieces => startsBehindWord pieces
  | .gap :: _ | .parameters :: _ => true
  | .literal (c :: _) :: _ => !isWord c
  | _ => false

/-- Whether each piece is followed by something that it could not take. -/
def settled : List Piece → Bool
  | [] => true
  | .blanks :: pieces | .gap :: pieces => startsVisible pieces && settled pieces
  | .name :: pieces => startsBehindWord pieces && settled pieces
  | .heritage :: _ => false
  | _ :: pieces => settled pieces

theorem trimLeft_cons_of_visible {c : Char} (h : isBlank c = false) (rest : List Char) :
    trimLeft (c :: rest) = c :: rest :=
  List.dropWhile_cons_of_neg (by simp [h])

theorem trimLeft_append_of_isWordText {word : List Char} (hword : IsWordText word)
    (hne : word ≠ []) (rest : List Char) : trimLeft (word ++ rest) = word ++ rest := by
  refine trimLeft_of_isWord ?_
  rw [List.takeWhile_append_of_pos hword]
  exact List.append_ne_nil_of_left_ne_nil hne _

/-- Trimming the front of a text with a visible character behind it. -/
theorem trimLeft_append_cons (text : List Char) {c : Char} (h : isBlank c = false)
    (rest : List Char) : trimLeft (text ++ c :: rest) = trimLeft text ++ c :: rest := by
  induction text with
  | nil => exact trimLeft_cons_of_visible h rest
  | cons d text ih =>
    by_cases hd : isBlank d = true
    · rw [List.cons_append, trimLeft, List.dropWhile_cons_of_pos hd, trimLeft,
        List.dropWhile_cons_of_pos hd]
      exact ih
    · rw [Bool.not_eq_true] at hd
      rw [List.cons_append, trimLeft_cons_of_visible hd, trimLeft_cons_of_visible hd,
        List.cons_append]

/-- White space before pieces that do not begin with it can go to the piece before them. -/
theorem takesAll_trimLeft {pieces : List Piece} (hpieces : startsVisible pieces = true)
    {captures : Captures} {text : List Char} {final : Reading}
    (h : TakesAll pieces (captures, text) final) :
    TakesAll pieces (captures, trimLeft text) final := by
  cases pieces with
  | nil => cases hpieces
  | cons piece pieces =>
    obtain ⟨next, htakes, hrest⟩ := h
    suffices hhead : piece.Takes (captures, trimLeft text) next from ⟨next, hhead, hrest⟩
    cases htakes with
    | blanks | gap | noHeritage | heritage => cases hpieces
    | @literal _ chars rest =>
      cases chars with
      | nil => cases hpieces
      | cons c chars =>
        have hc : isBlank c = false := by simpa [startsVisible] using hpieces
        rw [List.cons_append, trimLeft_cons_of_visible hc]
        exact .literal
    | @binder _ word rest hmem =>
      have hbinders : ∀ word ∈ Opening.binders, IsWordText word ∧ word ≠ [] := by decide
      obtain ⟨hword, hne⟩ := hbinders word hmem
      rw [trimLeft_append_of_isWordText hword hne]
      exact .binder hmem
    | name hword hne =>
      rw [trimLeft_append_of_isWordText hword hne]
      exact .name hword hne
    | parameters hlist =>
      rw [List.cons_append, trimLeft_cons_of_visible (by decide)]
      exact .parameters hlist
    | @bareParameters _ list rest hlist =>
      -- White space at the front of the list is trimmed in either case.
      have htrimmed : '=' ∉ trimLeft list := fun hmem => hlist ((List.dropWhile_subset _) hmem)
      rw [trimLeft_append_cons list (by decide), ← trim_trimLeft]
      exact .bareParameters htrimmed

/-- A name before pieces that begin with no word character ends where they begin. -/
theorem takeWhile_isWord_of_takesAll {pieces : List Piece}
    (hpieces : startsBehindWord pieces = true) {captures : Captures} {text : List Char}
    {final : Reading} (h : TakesAll pieces (captures, text) final) :
    text.takeWhile isWord = [] := by
  induction pieces generalizing captures text with
  | nil => cases hpieces
  | cons piece pieces ih =>
    obtain ⟨next, htakes, hrest⟩ := h
    cases htakes with
    | @blanks _ space rest hblank =>
      cases space with
      | nil => exact ih hpieces hrest
      | cons c space =>
        have hne : c :: space ≠ [] := List.cons_ne_nil c space
        exact (eq_trimLeft_of_takeGap? (takeGap?_append hblank hne rest)).1
    | gap hblank hne => exact (eq_trimLeft_of_takeGap? (takeGap?_append hblank hne _)).1
    | @literal _ chars rest =>
      cases chars with
      | nil => cases hpieces
      | cons c chars =>
        have hc : isWord c = false := by simpa [startsBehindWord] using hpieces
        exact List.takeWhile_cons_of_neg (by simp [hc])
    | parameters => exact List.takeWhile_cons_of_neg (by decide)
    | binder | name | bareParameters | noHeritage | heritage => cases hpieces

/-- **Reading finds what was taken**, whichever way the text was cut. -/
theorem readPieces_of_takesAll {pieces : List Piece} (hpieces : settled pieces = true)
    {reading final : Reading} (h : TakesAll pieces reading final) :
    readPieces pieces reading = some final := by
  induction pieces generalizing reading with
  | nil => rw [show final = reading from h, readPieces]
  | cons piece pieces ih =>
    obtain ⟨next, htakes, hrest⟩ := h
    rw [readPieces, Option.bind_eq_some_iff]
    cases htakes with
    | @blanks captures space rest hblank =>
      rw [settled, Bool.and_eq_true] at hpieces
      refine ⟨(captures, trimLeft rest), ?_, ih hpieces.2 (takesAll_trimLeft hpieces.1 hrest)⟩
      simp only [Piece.read, trimLeft_append_of_allBlank hblank]
    | @gap captures space rest hblank hne =>
      rw [settled, Bool.and_eq_true] at hpieces
      refine ⟨(captures, trimLeft rest), ?_, ih hpieces.2 (takesAll_trimLeft hpieces.1 hrest)⟩
      simp only [Piece.read, takeGap?_append hblank hne, Option.map_some]
    | literal =>
      refine ⟨_, ?_, ih hpieces hrest⟩
      simp only [Piece.read, takeText?_append, Option.map_some]
    | binder hmem =>
      refine ⟨_, ?_, ih hpieces hrest⟩
      simp only [Piece.read, takeBinder?_append hmem, Option.map_some]
    | name hword hne =>
      rw [settled, Bool.and_eq_true] at hpieces
      refine ⟨_, ?_, ih hpieces.2 hrest⟩
      have hbehind := takeWhile_isWord_of_takesAll hpieces.1 hrest
      simp only [Piece.read, takeWord?_append hword hne hbehind, Option.map_some]
    | parameters hlist =>
      refine ⟨_, ?_, ih hpieces hrest⟩
      simp only [Piece.read, takeParameters?_append hlist, Option.map_some]
    | bareParameters hlist =>
      refine ⟨_, ?_, ih hpieces hrest⟩
      simp only [Piece.read, takeBareParameters?_append hlist, Option.map_some]
    | noHeritage | heritage => cases hpieces

/-- The forms of functions and methods are settled at every piece. -/
theorem settled_of_mem {form : Form FunctionKind} (h : form ∈ functionForms ++ methodForms) :
    settled form.pieces = true := by
  have htables : ∀ form ∈ functionForms ++ methodForms, settled form.pieces = true := by decide
  exact htables form h

/-- **Reading decides matching.** A form of functions or methods reads a line exactly when the line
matches, and captures what every way to match it captures. -/
theorem Form.read_eq_some_iff_matches {form : Form FunctionKind}
    (h : form ∈ functionForms ++ methodForms) {line : List Char} {captures : Captures} :
    form.read line = some captures ↔ form.Matches line captures := by
  rw [Form.read, Option.map_eq_some_iff]
  constructor
  · rintro ⟨⟨found, rest⟩, hread, rfl⟩
    exact ⟨rest, takesAll_of_readPieces hread⟩
  · rintro ⟨rest, htakes⟩
    exact ⟨(captures, rest), readPieces_of_takesAll (settled_of_mem h) htakes, rfl⟩

theorem Form.fits_iff_read {form : Form FunctionKind} (h : form ∈ functionForms ++ methodForms)
    {line : List Char} : form.Fits line ↔ ∃ captures, form.read line = some captures := by
  simp only [Form.Fits, Form.read_eq_some_iff_matches h]

/-! ### Forms that exclude each other -/

/-- The character that a piece begins with, if there is only one. -/
def Piece.firstChar? : Piece → Option Char
  | literal chars => chars.head?
  | parameters => some '('
  | _ => none

theorem Piece.head?_of_read {piece : Piece} {c : Char} (hc : piece.firstChar? = some c)
    {reading next : Reading} (h : piece.read reading = some next) : reading.2.head? = some c := by
  obtain ⟨captures, text⟩ := reading
  cases piece with
  | literal chars =>
    obtain ⟨rest, htext, -⟩ := Option.map_eq_some_iff.1 h
    obtain ⟨chars, rfl⟩ := List.head?_eq_some_iff.1 hc
    rw [eq_append_of_takeText? htext]
    rfl
  | parameters =>
    obtain ⟨⟨list, rest⟩, hlist, -⟩ := Option.map_eq_some_iff.1 h
    rw [eq_of_takeParameters? hlist]
    exact hc
  | blanks | gap | binder | name | bareParameters | heritage => cases hc

/-- Whether two sequences of pieces agree up to a place where they ask for different characters. -/
def diverges : List Piece → List Piece → Bool
  | first :: firsts, second :: seconds =>
    if first = second then diverges firsts seconds
    else first.firstChar?.any fun c => second.firstChar?.any (· ≠ c)
  | _, _ => false

theorem readPieces_eq_none_of_diverges {first second : List Piece}
    (h : diverges first second = true) {reading final : Reading}
    (hfirst : readPieces first reading = some final) : readPieces second reading = none := by
  fun_induction diverges first second generalizing reading with
  | case1 firsts piece seconds ih =>
    obtain ⟨next, hnext, hrest⟩ := Option.bind_eq_some_iff.1 hfirst
    rw [readPieces, hnext, Option.bind_some]
    exact ih h hrest
  | case2 first firsts second seconds hne =>
    obtain ⟨next, hnext, -⟩ := Option.bind_eq_some_iff.1 hfirst
    simp only [Option.any_eq_true, decide_eq_true_eq] at h
    obtain ⟨c, hc, d, hd, hdiffer⟩ := h
    rw [readPieces, Option.bind_eq_none_iff]
    intro other hother
    have hsame := (Piece.head?_of_read hd hother).symm.trans (Piece.head?_of_read hc hnext)
    exact absurd (Option.some.inj hsame) hdiffer
  | case3 => cases h

/-- Two forms that no line has both: their words or a character after the same pieces differ. -/
def Form.excludes {κ κ' : Type} (form : Form κ) (other : Form κ') : Bool :=
  form.opening.clashes other.opening || diverges form.pieces other.pieces

theorem Form.read_eq_none_of_excludes {κ κ' : Type} {form : Form κ} {other : Form κ'}
    (h : form.excludes other = true) {line : List Char} {captures : Captures}
    (hread : form.read line = some captures) : other.read line = none := by
  obtain ⟨final, hpieces, -⟩ := Option.map_eq_some_iff.1 hread
  rw [Form.read, Option.map_eq_none_iff]
  rcases Bool.or_eq_true_iff.1 h with hclash | hdiverges
  · refine Option.eq_none_iff_forall_ne_some.2 fun final' hpieces' => ?_
    exact Opening.not_fits_of_clashes hclash (Opening.fits_of_readPieces hpieces)
      (Opening.fits_of_readPieces hpieces')
  · exact readPieces_eq_none_of_diverges hdiverges hpieces

/-- No form of a table reads a line that a form which excludes them all reads. -/
theorem firstReading_eq_none_of_excludes {κ κ' : Type} {form : Form κ} {forms : List (Form κ')}
    (h : ∀ other ∈ forms, form.excludes other = true) {line : List Char} {captures : Captures}
    (hread : form.read line = some captures) : firstReading forms line = none := by
  refine List.findSome?_eq_none_iff.2 fun other hother => ?_
  rw [Form.read_eq_none_of_excludes (h other hother) hread, Option.map_none]

/-- **The form that decides**: the forms before it do not read the line, and it does. -/
theorem firstReading_append_cons {κ : Type} {before after : List (Form κ)} {form : Form κ}
    {line : List Char} {captures : Captures} (hbefore : firstReading before line = none)
    (hread : form.read line = some captures) :
    firstReading (before ++ form :: after) line = some (form.kind, captures) := by
  rw [firstReading, List.findSome?_append, ← firstReading, hbefore, Option.none_or,
    List.findSome?_cons, hread, Option.map_some]

end Driftwatch
