import Driftwatch.Proofs.Forms

/-!
# The words that a line begins with

Which table of forms a line fits is decided by the words at its beginning. A form fixes some of
these words, leaves others open and may say that there are no more of them, since a symbol comes
next. Two forms that disagree about the words of a line never fit the same one.

What a form says is computed from its pieces. So whether two tables can be confused is a question
about the tables alone, with no line in it, and evaluation answers it.

## Main definitions

* `leadingWords`: the words at the beginning of a text.
* `Opening`: what the words of a line have to be, with `Opening.Fits` and `Opening.ofPieces`.
* `Opening.clashes`: two openings that no line has both.

## Main results

* `Opening.fits_of_readPieces`: the words of a line that a form reads fit its opening.
* `mem_of_readPieces`: a line holds the symbols of a form that reads it.
* `firstReading_eq_none_of_clashes`: of two tables that clash, a line fits at most one.
* `functionOn?_eq_none_or_classOn?_eq_none`: no line declares both a function and a class.
-/

namespace Driftwatch

/-! ### Words and white space -/

/-- The code points of white space. -/
def blankCodes : List Nat :=
  List.range' 9 5 ++ [0x20, 0x85, 0xA0, 0x1680] ++ List.range' 0x2000 11 ++
    [0x2028, 0x2029, 0x202F, 0x205F, 0x3000]

theorem isWord_of_isBlank {c : Char} (h : isBlank c = true) : isWord c = false := by
  have hmem : c.toNat ∈ blankCodes := by
    simp only [isBlank, Bool.or_eq_true, Bool.and_eq_true, decide_eq_true_eq, beq_iff_eq] at h
    simp only [blankCodes, List.mem_append, List.mem_range'_1, List.mem_cons, List.not_mem_nil]
    omega
  have hcodes : ∀ code ∈ blankCodes, isWord (Char.ofNat code) = false := by decide +kernel
  have hword := hcodes c.toNat hmem
  rwa [Char.ofNat_toNat] at hword

instance (text : List Char) : Decidable (IsWordText text) :=
  List.decidableBAll (fun c => isWord c = true) text

theorem trimLeft_of_isWord {text : List Char} (h : text.takeWhile isWord ≠ []) :
    trimLeft text = text := by
  cases text with
  | nil => rfl
  | cons c rest =>
    refine List.dropWhile_cons_of_neg fun hblank => h ?_
    exact List.takeWhile_cons_of_neg (by simp [isWord_of_isBlank hblank])

/-- The words that a text begins with, up to its first character that is neither a word character
nor white space. -/
def leadingWords (text : List Char) : List (List Char) :=
  if _h : (trimLeft text).takeWhile isWord = [] then []
  else (trimLeft text).takeWhile isWord :: leadingWords ((trimLeft text).dropWhile isWord)
termination_by text.length
decreasing_by
  have hsplit := congrArg List.length
    (List.takeWhile_append_dropWhile (p := isWord) (l := trimLeft text))
  have htrim : (trimLeft text).length ≤ text.length := (List.dropWhile_sublist isBlank).length_le
  have hpos := List.length_pos_of_ne_nil _h
  rw [List.length_append] at hsplit
  omega

theorem leadingWords_trimLeft (text : List Char) :
    leadingWords (trimLeft text) = leadingWords text := by
  rw [leadingWords, trimLeft_trimLeft, ← leadingWords]

theorem leadingWords_of_isWord {text : List Char} (h : text.takeWhile isWord ≠ []) :
    leadingWords text = text.takeWhile isWord :: leadingWords (text.dropWhile isWord) := by
  rw [leadingWords, trimLeft_of_isWord h, dif_neg h]

theorem leadingWords_of_takeWord? {text word rest : List Char}
    (h : takeWord? text = some (word, rest)) : leadingWords text = word :: leadingWords rest := by
  unfold takeWord? at h
  split at h
  · cases h
  · next hne =>
    obtain ⟨rfl, rfl⟩ := Prod.mk.inj (Option.some.inj h)
    exact leadingWords_of_isWord hne

theorem suffix_of_takeWord? {text word rest : List Char} (h : takeWord? text = some (word, rest)) :
    rest <:+ text := by
  unfold takeWord? at h
  split at h
  · cases h
  · cases h
    exact List.dropWhile_suffix _

theorem eq_append_of_takeText? {expected text rest : List Char}
    (h : takeText? expected text = some rest) : text = expected ++ rest := by
  fun_induction takeText? expected text with
  | case1 text => exact Option.some.inj h
  | case2 => cases h
  | case3 _ _ _ ih => rw [ih h, List.cons_append]
  | case4 => cases h

theorem eq_trimLeft_of_takeGap? {text rest : List Char} (h : takeGap? text = some rest) :
    text.takeWhile isWord = [] ∧ rest = trimLeft text := by
  cases text with
  | nil => cases h
  | cons c text =>
    rw [takeGap?] at h
    split at h
    · next hblank =>
      refine ⟨List.takeWhile_cons_of_neg (by simp [isWord_of_isBlank hblank]), ?_⟩
      rw [trimLeft, List.dropWhile_cons_of_pos hblank]
      exact (Option.some.inj h).symm
    · cases h

/-- A word before a gap is the first word of the text. -/
theorem leadingWords_append_gap {word text rest : List Char} (hne : word ≠ [])
    (hword : IsWordText word) (hgap : takeGap? text = some rest) :
    leadingWords (word ++ text) = word :: leadingWords rest := by
  obtain ⟨hstop, rfl⟩ := eq_trimLeft_of_takeGap? hgap
  have hsplit := List.takeWhile_append_dropWhile (p := isWord) (l := text)
  have htake : (word ++ text).takeWhile isWord = word := by
    rw [List.takeWhile_append_of_pos hword, hstop, List.append_nil]
  have hdrop : (word ++ text).dropWhile isWord = text := by
    rwa [hstop, List.nil_append, ← List.dropWhile_append_of_pos hword] at hsplit
  have hfirst : (word ++ text).takeWhile isWord ≠ [] := by rwa [htake]
  rw [leadingWords_of_isWord hfirst, htake, hdrop, leadingWords_trimLeft]

theorem leadingWords_cons_of_symbol {c : Char} (hword : isWord c = false)
    (hblank : isBlank c = false) (rest : List Char) : leadingWords (c :: rest) = [] := by
  have htrim : trimLeft (c :: rest) = c :: rest :=
    List.dropWhile_cons_of_neg (by simp [hblank])
  rw [leadingWords, htrim, dif_pos (List.takeWhile_cons_of_neg (by simp [hword]))]

/-! ### Openings -/

/-- What a form says about the words that its lines begin with. -/
inductive Opening where
  /-- A word and what comes after it. If keywords are given, the word is one of them. -/
  | word (keywords : Option (List (List Char))) (rest : Opening)
  /-- A symbol, so there are no more words. -/
  | symbol
  /-- Nothing is said. -/
  | anything
  deriving Repr, DecidableEq

namespace Opening

/-- Words that are as an opening says. -/
def Fits : Opening → List (List Char) → Prop
  | word keywords rest, first :: words => (∀ allowed ∈ keywords, first ∈ allowed) ∧ rest.Fits words
  | word _ _, [] => False
  | symbol, words => words = []
  | anything, _ => True

/-- Whether two openings exclude each other: at some word they give different keywords, or one has
a symbol in place of a word. -/
def clashes : Opening → Opening → Bool
  | word keywords rest, word keywords' rest' =>
    (keywords.any fun allowed => keywords'.any fun allowed' => allowed.all (· ∉ allowed')) ||
      rest.clashes rest'
  | word _ _, symbol => true
  | symbol, word _ _ => true
  | _, _ => false

theorem not_fits_of_clashes {first second : Opening} (h : first.clashes second = true)
    {words : List (List Char)} (hfirst : first.Fits words) : ¬ second.Fits words := by
  intro hsecond
  induction first generalizing second words with
  | word keywords rest ih =>
    cases words with
    | nil => exact hfirst
    | cons w words =>
      cases second with
      | word keywords' rest' =>
        simp only [clashes, Bool.or_eq_true, Option.any_eq_true, List.all_eq_true,
          decide_eq_true_eq] at h
        obtain ⟨allowed, hkeywords, allowed', hkeywords', hdisjoint⟩ | h := h
        · exact hdisjoint w (hfirst.1 allowed hkeywords) (hsecond.1 allowed' hkeywords')
        · exact ih h hfirst.2 hsecond.2
      | symbol => cases hsecond
      | anything => cases h
  | symbol =>
    cases second with
    | word keywords' rest' =>
      cases hfirst
      exact hsecond
    | symbol => cases h
    | anything => cases h
  | anything => cases second <;> cases h

/-- The words that introduce a binding. -/
def binders : List (List Char) :=
  ["const".toList, "let".toList, "var".toList]

/-- What a sequence of pieces says about the words of a line. -/
def ofPieces : List Piece → Opening
  | .blanks :: pieces => ofPieces pieces
  | .gap :: pieces => ofPieces pieces
  | .name :: pieces => word none (ofPieces pieces)
  -- It is the gap that makes a keyword the whole word: `classroom` begins with one, too.
  | .binder :: .gap :: pieces => word (some binders) (ofPieces pieces)
  | .literal chars :: .gap :: pieces =>
    if chars ≠ [] ∧ IsWordText chars then word (some [chars]) (ofPieces pieces) else anything
  | .literal (c :: _) :: _ => if isWord c || isBlank c then anything else symbol
  | .parameters :: _ => symbol
  | _ => anything

theorem eq_append_of_takeBinder? {text rest : List Char} (h : takeBinder? text = some rest) :
    ∃ word ∈ binders, text = word ++ rest := by
  rcases Option.or_eq_some_iff.1 h with hconst | ⟨-, h⟩
  · exact ⟨_, by simp [binders], eq_append_of_takeText? hconst⟩
  · rcases Option.or_eq_some_iff.1 h with hlet | ⟨-, hvar⟩
    · exact ⟨_, by simp [binders], eq_append_of_takeText? hlet⟩
    · exact ⟨_, by simp [binders], eq_append_of_takeText? hvar⟩

/-- A piece that takes something off a line, before other pieces. -/
theorem exists_of_readPieces_cons {α : Type} {found : Option α} {next : α → Reading}
    {piece : Piece} {pieces : List Piece} {reading final : Reading}
    (hpiece : piece.read reading = found.map next)
    (h : readPieces (piece :: pieces) reading = some final) :
    ∃ taken, found = some taken ∧ readPieces pieces (next taken) = some final := by
  rwa [readPieces, hpiece, Option.bind_map, Option.bind_eq_some_iff] at h

/-- The words of a line fit the opening of any pieces that can be taken off it. -/
theorem fits_of_readPieces {pieces : List Piece} {captures : Captures} {text : List Char}
    {final : Reading} (h : readPieces pieces (captures, text) = some final) :
    (ofPieces pieces).Fits (leadingWords text) := by
  fun_induction ofPieces pieces generalizing captures text with
  | case1 pieces ih =>
    rw [← leadingWords_trimLeft]
    exact ih h
  | case2 pieces ih =>
    obtain ⟨rest, hgap, hrest⟩ := exists_of_readPieces_cons rfl h
    rw [← leadingWords_trimLeft, ← (eq_trimLeft_of_takeGap? hgap).2]
    exact ih hrest
  | case3 pieces ih =>
    obtain ⟨⟨name, rest⟩, hname, hrest⟩ := exists_of_readPieces_cons rfl h
    rw [leadingWords_of_takeWord? hname]
    exact ⟨fun allowed hallowed => (nomatch hallowed), ih hrest⟩
  | case4 pieces ih =>
    obtain ⟨rest, hbinder, hrest⟩ := exists_of_readPieces_cons rfl h
    obtain ⟨behind, hgap, hbehind⟩ := exists_of_readPieces_cons rfl hrest
    obtain ⟨word, hmem, rfl⟩ := eq_append_of_takeBinder? hbinder
    have hbinders : ∀ word ∈ binders, word ≠ [] ∧ IsWordText word := by decide
    obtain ⟨hne, hword⟩ := hbinders word hmem
    rw [leadingWords_append_gap hne hword hgap]
    refine ⟨fun allowed hallowed => ?_, ih hbehind⟩
    rwa [← Option.some.inj hallowed]
  | case5 chars pieces hchars ih =>
    obtain ⟨rest, htext, hrest⟩ := exists_of_readPieces_cons rfl h
    obtain ⟨behind, hgap, hbehind⟩ := exists_of_readPieces_cons rfl hrest
    rw [eq_append_of_takeText? htext, leadingWords_append_gap hchars.1 hchars.2 hgap]
    refine ⟨fun allowed hallowed => ?_, ih hbehind⟩
    rw [← Option.some.inj hallowed]
    exact List.mem_singleton_self chars
  | case6 => trivial
  | case7 => trivial
  | case8 c chars pieces _ hc =>
    obtain ⟨rest, htext, -⟩ := exists_of_readPieces_cons rfl h
    simp only [Bool.or_eq_true, not_or, Bool.not_eq_true] at hc
    rw [eq_append_of_takeText? htext, List.cons_append]
    exact leadingWords_cons_of_symbol hc.1 hc.2 _
  | case9 pieces =>
    obtain ⟨found, hparameters, -⟩ := exists_of_readPieces_cons rfl h
    unfold takeParameters? at hparameters
    split at hparameters
    · exact leadingWords_cons_of_symbol (by decide) (by decide) _
    · cases hparameters
  | case10 => trivial

end Opening

/-! ### Symbols on a line -/

theorem suffix_of_takeHeritage? {text rest : List Char} (h : takeHeritage? text = some rest) :
    rest <:+ text := by
  obtain ⟨afterGap, hgap, h⟩ := Option.bind_eq_some_iff.1 h
  obtain ⟨afterWord, hextends, h⟩ := Option.bind_eq_some_iff.1 h
  obtain ⟨beforeName, hgap', h⟩ := Option.bind_eq_some_iff.1 h
  obtain ⟨⟨name, behind⟩, hname, h⟩ := Option.bind_eq_some_iff.1 h
  cases h
  have hfirst : afterGap <:+ text := (eq_trimLeft_of_takeGap? hgap).2 ▸ List.dropWhile_suffix _
  have hsecond : afterWord <:+ afterGap := eq_append_of_takeText? hextends ▸ List.suffix_append _ _
  have hthird : beforeName <:+ afterWord :=
    (eq_trimLeft_of_takeGap? hgap').2 ▸ List.dropWhile_suffix _
  exact (suffix_of_takeWord? hname).trans (hthird.trans (hsecond.trans hfirst))

/-- What a piece leaves of a line is the end of it. -/
theorem Piece.suffix_of_read {piece : Piece} {reading next : Reading}
    (h : piece.read reading = some next) : next.2 <:+ reading.2 := by
  obtain ⟨captures, text⟩ := reading
  cases piece with
  | blanks =>
    cases h
    exact List.dropWhile_suffix _
  | gap =>
    obtain ⟨rest, hgap, rfl⟩ := Option.map_eq_some_iff.1 h
    exact (eq_trimLeft_of_takeGap? hgap).2 ▸ List.dropWhile_suffix _
  | literal chars =>
    obtain ⟨rest, htext, rfl⟩ := Option.map_eq_some_iff.1 h
    exact eq_append_of_takeText? htext ▸ List.suffix_append _ _
  | binder =>
    obtain ⟨rest, hbinder, rfl⟩ := Option.map_eq_some_iff.1 h
    obtain ⟨word, -, rfl⟩ := Opening.eq_append_of_takeBinder? hbinder
    exact List.suffix_append _ _
  | name =>
    obtain ⟨⟨word, rest⟩, hname, rfl⟩ := Option.map_eq_some_iff.1 h
    exact suffix_of_takeWord? hname
  | parameters =>
    obtain ⟨⟨list, rest⟩, hlist, rfl⟩ := Option.map_eq_some_iff.1 h
    unfold takeParameters? at hlist
    split at hlist
    · next inner =>
      split at hlist
      · cases hlist
      · next c behind hdrop =>
        cases hlist
        have hinner : c :: rest <:+ inner := hdrop ▸ List.dropWhile_suffix _
        exact (List.suffix_cons c rest).trans (hinner.trans (List.suffix_cons _ _))
    · cases hlist
  | bareParameters =>
    obtain ⟨⟨list, rest⟩, hlist, rfl⟩ := Option.map_eq_some_iff.1 h
    unfold takeBareParameters? at hlist
    split at hlist
    · next behind hdrop =>
      cases hlist
      have harrow : '=' :: '>' :: rest <:+ text := hdrop ▸ List.dropWhile_suffix _
      exact (List.suffix_append ['=', '>'] rest).trans harrow
    · cases hlist
  | heritage =>
    cases h
    cases hclause : takeHeritage? text with
    | none => exact List.suffix_refl text
    | some rest => exact suffix_of_takeHeritage? hclause

/-- A line holds the characters of every word and symbol that is taken off it. -/
theorem mem_of_readPieces {pieces : List Piece} {reading final : Reading}
    (h : readPieces pieces reading = some final) {chars : List Char}
    (hpiece : .literal chars ∈ pieces) {c : Char} (hc : c ∈ chars) : c ∈ reading.2 := by
  induction pieces generalizing reading with
  | nil => cases hpiece
  | cons piece pieces ih =>
    obtain ⟨next, hnext, hrest⟩ := Option.bind_eq_some_iff.1 h
    rcases List.mem_cons.1 hpiece with rfl | hpiece
    · obtain ⟨rest, htext, -⟩ := Option.map_eq_some_iff.1 hnext
      rw [eq_append_of_takeText? htext]
      exact List.mem_append_left _ hc
    · exact (Piece.suffix_of_read hnext).subset (ih hrest hpiece)

/-! ### Tables -/

/-- The opening of a form. -/
def Form.opening {κ : Type} (form : Form κ) : Opening :=
  .ofPieces form.pieces

/-- The words of a line fit the opening of the form that reads it. -/
theorem exists_fits_of_firstReading {κ : Type} {forms : List (Form κ)} {line : List Char}
    {found : κ × Captures} (h : firstReading forms line = some found) :
    ∃ form ∈ forms, form.opening.Fits (leadingWords line) := by
  obtain ⟨form, hmem, hform⟩ := List.exists_of_findSome?_eq_some h
  obtain ⟨captures, hcaptures, -⟩ := Option.map_eq_some_iff.1 hform
  obtain ⟨final, hread, -⟩ := Option.map_eq_some_iff.1 hcaptures
  exact ⟨form, hmem, Opening.fits_of_readPieces hread⟩

/-- Of two tables whose forms clash, a line fits at most one. -/
theorem firstReading_eq_none_of_clashes {κ κ' : Type} {forms : List (Form κ)}
    {forms' : List (Form κ')}
    (h : ∀ form ∈ forms, ∀ form' ∈ forms', form.opening.clashes form'.opening = true)
    (line : List Char) : firstReading forms line = none ∨ firstReading forms' line = none := by
  cases hfound : firstReading forms line with
  | none => exact .inl rfl
  | some found =>
    right
    refine Option.eq_none_iff_forall_ne_some.2 fun found' hfound' => ?_
    obtain ⟨form, hform, hfits⟩ := exists_fits_of_firstReading hfound
    obtain ⟨form', hform', hfits'⟩ := exists_fits_of_firstReading hfound'
    exact Opening.not_fits_of_clashes (h form hform form' hform') hfits hfits'

/-- Every form of methods ends in an opening brace. -/
theorem brace_mem_of_methodOn? {line : List Char} {found : FunctionDeclaration}
    (h : methodOn? line = some found) : '{' ∈ line := by
  obtain ⟨reading, hreading, -⟩ := Option.map_eq_some_iff.1 h
  obtain ⟨form, hform, hread⟩ := List.exists_of_findSome?_eq_some hreading
  obtain ⟨captures, hcaptures, -⟩ := Option.map_eq_some_iff.1 hread
  obtain ⟨final, hpieces, -⟩ := Option.map_eq_some_iff.1 hcaptures
  have hbrace : ∀ form ∈ methodForms, .literal ['{'] ∈ form.pieces := by decide
  exact mem_of_readPieces hpieces (hbrace form hform) List.mem_cons_self

/-- No line declares both a function and a class, an interface or a type. -/
theorem functionOn?_eq_none_or_classOn?_eq_none (line : List Char) :
    functionOn? line = none ∨ classOn? line = none := by
  have htables : ∀ form ∈ functionForms, ∀ form' ∈ classForms,
      form.opening.clashes form'.opening = true := by decide
  simpa only [functionOn?, classOn?, Option.map_eq_none_iff] using
    firstReading_eq_none_of_clashes htables line

end Driftwatch
