import Driftwatch.Proofs.Extraction
import Driftwatch.Proofs.InertText

/-!
# Indentation does not matter

The white space at the beginning of a line moves all offsets on that line and may stand inside a
string or a comment. It changes nothing about what is extracted: white space is inert wherever a
line begins, since no backslash reaches over the end of a line, and every offset that the extraction
finds on a line is counted from the same end.

The statements compare lines with the same lines without indentation. Each function of the
extraction has one lemma that says so.

## Main definitions

* `indentation`, `dedent`: the white space at the beginning of a line, and lines without it.
* `Body.indent`: how a body is delimited on a line that is indented.

## Main results

* `closingLine_dedent`, `endLine_dedent`: closing braces and last lines.
* `extractLines_dedent`: extraction.
* `extract_reindent`: two texts that differ in the indentation of their lines declare the same.
-/

namespace Driftwatch

/-- The white space at the beginning of a line. -/
def indentation (line : List Char) : List Char :=
  line.takeWhile isBlank

/-- Lines without their indentation. -/
def dedent (lines : List (List Char)) : List (List Char) :=
  lines.map trimLeft

theorem indentation_append_trimLeft (line : List Char) :
    indentation line ++ trimLeft line = line :=
  List.takeWhile_append_dropWhile

theorem isBlank_of_mem_indentation (line : List Char) :
    ∀ c ∈ indentation line, isBlank c = true :=
  fun _ hc => List.mem_takeWhile_imp hc

theorem dedent_cons (line : List Char) (following : List (List Char)) :
    dedent (line :: following) = trimLeft line :: dedent following :=
  rfl

theorem dedent_drop_take (lines : List (List Char)) (start window : Nat) :
    ((dedent lines).drop start).take window = dedent ((lines.drop start).take window) := by
  rw [dedent, dedent, List.map_take, List.map_drop]

theorem getElem?_dedent {lines : List (List Char)} {i : Nat} {line : List Char}
    (h : lines[i]? = some line) : (dedent lines)[i]? = some (trimLeft line) := by
  rw [dedent, List.getElem?_map, h, Option.map_some]

/-! ### White space is inert -/

theorem ne_of_isBlank {c d : Char} (hc : isBlank c = true) (hd : isBlank d = false) : c ≠ d := by
  rintro rfl
  rw [hc] at hd
  cases hd

theorem isInert_of_isBlank {c : Char} (h : isBlank c = true) : IsInert c := by
  have hvisible : lexicalChars.all (fun d => !isBlank d) = true := by decide
  intro hmem
  have hc := List.all_eq_true.1 hvisible c hmem
  rw [h] at hc
  cases hc

theorem Visit.brace?_of_isBlank {c : Char} (h : isBlank c = true) (index offset : Nat)
    (role : CharRole) : Visit.brace? index ⟨offset, c, role⟩ = none := by
  have hopen : c ≠ '{' := ne_of_isBlank h (by decide)
  have hclose : c ≠ '}' := ne_of_isBlank h (by decide)
  simp [brace?, CodeBrace.ofChar?, hopen, hclose]

namespace Phase

variable {indent : List Char}

theorem finish_append_blanks (h : ∀ c ∈ indent, isBlank c = true) (mode : Mode)
    (rest : List Char) :
    (between ⟨mode, false⟩).finish (indent ++ rest) = (between ⟨mode, false⟩).finish rest := by
  induction indent with
  | nil => rfl
  | cons c indent ih =>
    obtain ⟨hc, hindent⟩ := List.forall_mem_cons.1 h
    rw [List.cons_append, finish, step_of_isInert (isInert_of_isBlank hc)]
    exact ih hindent

theorem map_mark_braces_append_blanks (h : ∀ c ∈ indent, isBlank c = true) (mode : Mode)
    (index offset offset' : Nat) (rest : List Char) :
    ((between ⟨mode, false⟩).braces index offset (indent ++ rest)).map CodeBrace.mark =
      ((between ⟨mode, false⟩).braces index offset' rest).map CodeBrace.mark := by
  induction indent generalizing offset with
  | nil => exact map_mark_visits (visits_alike _ _ _ _) index
  | cons c indent ih =>
    obtain ⟨hc, hindent⟩ := List.forall_mem_cons.1 h
    rw [braces, List.cons_append, visits, step_of_isInert (isInert_of_isBlank hc),
      List.filterMap_cons, Visit.brace?_of_isBlank hc]
    exact ih hindent _

end Phase

/-! ### Closing braces -/

theorem map_mark_bracesFrom_dedent (mode : Mode) (index : Nat) (lines : List (List Char)) :
    (bracesFrom ⟨mode, false⟩ index (dedent lines)).map CodeBrace.mark =
      (bracesFrom ⟨mode, false⟩ index lines).map CodeBrace.mark := by
  induction lines generalizing mode index with
  | nil => rfl
  | cons line following ih =>
    have hblank := isBlank_of_mem_indentation line
    have hbraces := Phase.map_mark_braces_append_blanks hblank mode index 0 0 (trimLeft line)
    have hfinish := Phase.finish_append_blanks hblank mode (trimLeft line)
    rw [indentation_append_trimLeft] at hbraces hfinish
    obtain ⟨next, hnext⟩ := (Phase.between ⟨mode, false⟩).exists_finish_eq line
    rw [dedent_cons, bracesFrom_cons, bracesFrom_cons, ← hfinish, hnext, List.map_append,
      List.map_append, hbraces, ih]

/-- A line is scanned behind its indentation as the line without it. -/
theorem Cursor.scanLine_trimLeft (cursor : Cursor) (line : List Char) (offset : Nat) :
    (cursor.scanLine (trimLeft line) offset).Alike
      (cursor.scanLine line (byteLength (indentation line) + offset)) := by
  have hdrop := dropBytes?_byteLength_add (indentation line) (trimLeft line) offset
  rw [indentation_append_trimLeft] at hdrop
  cases hrest : dropBytes? offset (trimLeft line) with
  | none =>
    rw [scanLine_of_none hrest, scanLine_of_none (hdrop.trans hrest)]
    exact ScannedLine.Alike.refl _
  | some rest =>
    rw [scanLine_of_some hrest, scanLine_of_some (hdrop.trans hrest)]
    exact ⟨Phase.visits_alike _ _ _ _, rfl⟩

theorem Cursor.exists_scanLine_cursor (line : List Char) (offset : Nat) :
    ∃ mode, (({} : Cursor).scanLine line offset).cursor = ⟨mode, false⟩ := by
  cases hrest : dropBytes? offset line with
  | none =>
    rw [scanLine_of_none hrest]
    exact ⟨.code, rfl⟩
  | some rest =>
    rw [scanLine_of_some hrest]
    exact Phase.exists_finish_eq _ rest

/-- The brace that closes one on an indented line is on the same line as without indentation. -/
theorem closingLine_dedent {lines : List (List Char)} {i : Nat} {line : List Char}
    (hline : lines[i]? = some line) (brace : Nat) :
    closingLine (dedent lines) i brace =
      closingLine lines i (byteLength (indentation line) + brace) := by
  obtain ⟨hi, hget⟩ := List.getElem?_eq_some_iff.1 hline
  have hdrop : lines.drop i = line :: lines.drop (i + 1) := by
    rw [List.drop_eq_getElem_cons hi, hget]
  have halike := Cursor.scanLine_trimLeft {} line (brace + 1)
  obtain ⟨mode, hmode⟩ := Cursor.exists_scanLine_cursor (trimLeft line) (brace + 1)
  rw [closingLine_eq_scan, closingLine_eq_scan, scanBehind, scanBehind, dedent, ← List.map_drop,
    hdrop, ← dedent, dedent_cons, scanFrom, scanFrom, scannedBraces, scannedBraces]
  simp only [scannedBraces_scanFrom]
  congr 1
  refine closer?_congr ?_ 1
  rw [List.map_append, List.map_append, map_mark_visits halike.1, Nat.add_assoc, ← halike.2, hmode,
    map_mark_bracesFrom_dedent]

/-! ### Bodies -/

/-- How a body is delimited when its line has `width` bytes of indentation. -/
def Body.indent (width : Nat) : Body → Body
  | arrowBlock brace => arrowBlock (width + brace)
  | block brace => block (width + brace)
  | classBody brace => classBody (brace.map (width + ·))
  | arrowExpression => arrowExpression
  | blockAhead => blockAhead
  | typeLike => typeLike

theorem offsetOf?_brace (line : List Char) :
    offsetOf? (· == '{') line =
      (offsetOf? (· == '{') (trimLeft line)).map (byteLength (indentation line) + ·) := by
  have hnone : ∀ c ∈ indentation line, (c == '{') = false := fun c hc =>
    beq_eq_false_iff_ne.2 (ne_of_isBlank (isBlank_of_mem_indentation line c hc) (by decide))
  rw [← offsetOf?_append hnone, indentation_append_trimLeft]

theorem arrowOffset?_trimLeft (line : List Char) :
    arrowOffset? line = (arrowOffset? (trimLeft line)).map fun found =>
      (byteLength (indentation line) + found.1, found.2) := by
  have hnone : '=' ∉ indentation line := fun hmem =>
    ne_of_isBlank (isBlank_of_mem_indentation line _ hmem) (by decide) rfl
  rw [← arrowOffset?_append hnone, indentation_append_trimLeft]

theorem Body.ofFunctionLine_trimLeft (line : List Char) :
    ofFunctionLine line =
      (ofFunctionLine (trimLeft line)).indent (byteLength (indentation line)) := by
  rw [ofFunctionLine, ofFunctionLine, arrowOffset?_trimLeft]
  cases arrowOffset? (trimLeft line) with
  | none =>
    rw [offsetOf?_brace]
    cases offsetOf? (· == '{') (trimLeft line) <;> rfl
  | some found =>
    simp only [Option.map_some]
    cases offsetOf? (· == '{') found.2 with
    | none => rfl
    | some brace => simp only [indent, Nat.add_assoc]

theorem Body.ofClassLine_trimLeft (line : List Char) (kind : ClassKind) :
    ofClassLine line kind =
      (ofClassLine (trimLeft line) kind).indent (byteLength (indentation line)) := by
  rw [ofClassLine, ofClassLine, offsetOf?_brace]
  split <;> rfl

/-! ### Last lines -/

theorem trim_trimLeft (line : List Char) : trim (trimLeft line) = trim line := by
  rw [trim, trim, trimLeft_trimLeft]

theorem closesStatement_trimLeft (line : List Char) :
    closesStatement (trimLeft line) = closesStatement line := by
  rw [closesStatement, closesStatement, trim_trimLeft]

theorem endsDeclaration_trimLeft (line : List Char) :
    endsDeclaration (trimLeft line) = endsDeclaration line := by
  have hclose : (trimLeft line).contains '}' = line.contains '}' := by
    have hnone : (indentation line).contains '}' = false := by
      rw [List.contains_eq_mem, decide_eq_false_iff_not]
      exact fun hmem => ne_of_isBlank (isBlank_of_mem_indentation line _ hmem) (by decide) rfl
    nth_rewrite 2 [← indentation_append_trimLeft line]
    rw [List.contains_append, hnone, Bool.false_or]
  rw [endsDeclaration, endsDeclaration, trim_trimLeft, hclose]

/-- A search for a line that does not mind indentation. -/
theorem firstLine?_dedent {p : List Char → Bool} (hp : ∀ line, p (trimLeft line) = p line)
    (number : Nat) (lines : List (List Char)) :
    firstLine? p number (dedent lines) = firstLine? p number lines := by
  induction lines generalizing number with
  | nil => rfl
  | cons line following ih =>
    rw [dedent_cons, firstLine?, firstLine?, hp, ih]

/-- The first brace on some lines is found on the same line, behind the indentation of that
line. -/
theorem firstBrace?_dedent (index : Nat) (lines : List (List Char)) :
    firstBrace? index lines = none ∧ firstBrace? index (dedent lines) = none ∨
    ∃ i line brace, lines[i]? = some line ∧
      firstBrace? index lines = some (index + i, byteLength (indentation line) + brace) ∧
      firstBrace? index (dedent lines) = some (index + i, brace) := by
  induction lines generalizing index with
  | nil => exact .inl ⟨rfl, rfl⟩
  | cons line following ih =>
    rw [dedent_cons, firstBrace?, firstBrace?, offsetOf?_brace line]
    cases offsetOf? (· == '{') (trimLeft line) with
    | some brace => exact .inr ⟨0, line, brace, rfl, rfl, rfl⟩
    | none =>
      rcases ih (index + 1) with hnone | ⟨i, found, brace, hfound, hbrace, hdedent⟩
      · exact .inl hnone
      · refine .inr ⟨i + 1, found, brace, hfound, ?_, ?_⟩
        · rw [Option.map_none, show index + (i + 1) = index + 1 + i by omega]
          exact hbrace
        · rw [show index + (i + 1) = index + 1 + i by omega]
          exact hdedent

/-- The last line of a declaration is the same without indentation. -/
theorem endLine_dedent {lines : List (List Char)} {start : Nat} {line : List Char}
    (hline : lines[start - 1]? = some line) (body : Body) :
    endLine (dedent lines) start body =
      endLine lines start (body.indent (byteLength (indentation line))) := by
  have hlength : (dedent lines).length = lines.length := List.length_map ..
  rw [endLine, endLine, hlength]
  by_cases hrange : start = 0 ∨ lines.length < start
  · rw [if_pos hrange, if_pos hrange]
  · rw [if_neg hrange, if_neg hrange]
    simp only [dedent_drop_take]
    cases body with
    | arrowBlock brace => exact closingLine_dedent hline brace
    | block brace => exact closingLine_dedent hline brace
    | classBody brace =>
      cases brace with
      | none => rfl
      | some brace => exact closingLine_dedent hline brace
    | arrowExpression =>
      simp only [Body.indent, getElem?_dedent hline, hline, Option.any_some,
        closesStatement_trimLeft, firstLine?_dedent closesStatement_trimLeft]
    | blockAhead =>
      rcases firstBrace?_dedent start ((lines.drop start).take blockWindow) with
        ⟨hnone, hdedent⟩ | ⟨i, found, brace, hfound, hbrace, hdedent⟩
      · simp only [Body.indent, hnone, hdedent]
      · simp only [Body.indent, hbrace, hdedent]
        refine closingLine_dedent ?_ brace
        have hi : i < blockWindow := by
          obtain ⟨hlt, -⟩ := List.getElem?_eq_some_iff.1 hfound
          rw [List.length_take] at hlt
          omega
        rwa [List.getElem?_take_of_lt hi, List.getElem?_drop] at hfound
    | typeLike => simp only [Body.indent, firstLine?_dedent endsDeclaration_trimLeft]

/-! ### Entities -/

theorem functionEntity_dedent {lines : List (List Char)} {number : Nat} {line : List Char}
    (hline : lines[number - 1]? = some line) (found : FunctionDeclaration) :
    functionEntity (dedent lines) number (trimLeft line) found =
      functionEntity lines number line found := by
  rw [functionEntity, functionEntity, endLine_dedent hline, ← Body.ofFunctionLine_trimLeft]

/-- The first of some consecutive lines, and where the others stand. -/
theorem isPrefix_drop_cons {lines rest : List (List Char)} {number : Nat} {line : List Char}
    (hnumber : 0 < number) (h : line :: rest <+: lines.drop (number - 1)) :
    lines[number - 1]? = some line ∧ rest <+: lines.drop (number + 1 - 1) := by
  obtain ⟨more, hmore⟩ := h
  constructor
  · rw [← List.head?_drop, ← hmore]
    rfl
  · refine ⟨more, ?_⟩
    have htail := congrArg List.tail hmore
    rwa [List.tail_drop, show number - 1 + 1 = number + 1 - 1 by omega] at htail

theorem methodsFrom_dedent {lines rest : List (List Char)} {number : Nat} (hnumber : 0 < number)
    (h : rest <+: lines.drop (number - 1)) :
    methodsFrom (dedent lines) number (dedent rest) = methodsFrom lines number rest := by
  induction rest generalizing number with
  | nil => rfl
  | cons line rest ih =>
    obtain ⟨hline, hrest⟩ := isPrefix_drop_cons hnumber h
    have hmethods := ih (Nat.succ_pos number) hrest
    rw [dedent_cons]
    simp only [methodsFrom, methodOn?_trimLeft, functionEntity_dedent hline, hmethods]

theorem methodsBetween_dedent (lines : List (List Char)) (first last : Nat) :
    methodsBetween (dedent lines) first last = methodsBetween lines first last := by
  rw [methodsBetween, methodsBetween, dedent_drop_take]
  exact methodsFrom_dedent (Nat.succ_pos first) (List.take_prefix _ _)

theorem classEntity_dedent {lines : List (List Char)} {number : Nat} {line : List Char}
    (hline : lines[number - 1]? = some line) (found : ClassDeclaration) :
    classEntity (dedent lines) number (trimLeft line) found =
      classEntity lines number line found := by
  simp only [classEntity, endLine_dedent hline, ← Body.ofClassLine_trimLeft, methodsBetween_dedent]

theorem entitiesOn_dedent {lines : List (List Char)} {number : Nat} {line : List Char}
    (hline : lines[number - 1]? = some line) :
    entitiesOn (dedent lines) number (trimLeft line) = entitiesOn lines number line := by
  simp only [entitiesOn, functionOn?_trimLeft, classOn?_trimLeft, functionEntity_dedent hline,
    classEntity_dedent hline]

theorem entitiesFrom_dedent {lines rest : List (List Char)} {number : Nat} (hnumber : 0 < number)
    (h : rest <+: lines.drop (number - 1)) :
    entitiesFrom (dedent lines) number (dedent rest) = entitiesFrom lines number rest := by
  induction rest generalizing number with
  | nil => rfl
  | cons line rest ih =>
    obtain ⟨hline, hrest⟩ := isPrefix_drop_cons hnumber h
    have hentities := ih (Nat.succ_pos number) hrest
    rw [dedent_cons, entitiesFrom, entitiesFrom, entitiesOn_dedent hline, hentities]

/-- Lines declare what they declare without indentation. -/
theorem extractLines_dedent (lines : List (List Char)) :
    extractLines (dedent lines) = extractLines lines := by
  have hlength : (dedent lines).length = lines.length := List.length_map ..
  have hentities := entitiesFrom_dedent Nat.one_pos (List.prefix_refl lines)
  rw [extractLines, extractLines, hlength, hentities]

/-- A line is some white space and the text of another line. -/
def IsReindented (line line' : List Char) : Prop :=
  ∃ indent, allBlank indent = true ∧ '\n' ∉ indent ∧ line' = indent ++ trimLeft line

theorem IsReindented.trimLeft_eq {line line' : List Char} (h : IsReindented line line') :
    trimLeft line' = trimLeft line := by
  obtain ⟨indent, hblank, -, rfl⟩ := h
  rw [trimLeft, List.dropWhile_append_of_pos (List.all_eq_true.1 hblank)]
  exact trimLeft_trimLeft line

/-- **Indentation does not matter.** Two texts with the same number of lines, where each line of the
one is white space and the text of the line of the other, declare exactly the same on the same
lines. -/
theorem extract_reindent {text text' : String}
    (h : List.Forall₂ IsReindented (lines text.toList) (lines text'.toList)) :
    extract text' = extract text := by
  have hdedent : dedent (lines text'.toList) = dedent (lines text.toList) := by
    rw [dedent, dedent, ← List.forall₂_eq_eq_eq, List.forall₂_map_left_iff,
      List.forall₂_map_right_iff]
    exact h.flip.imp fun _ _ hline => IsReindented.trimLeft_eq hline
  rw [extract, extract, ← extractLines_dedent, hdedent, extractLines_dedent]

/-- A class with a method, in which a string over two lines holds a closing brace. -/
def indentedText : String :=
  "class A \x7b\n  f(a) \x7b\n    \u0060\n    \x7d\u0060\n  \x7d\n\x7d"

/-- The same class with other indentation, in the string as well. -/
def reindentedText : String :=
  "\tclass A \x7b\nf(a) \x7b\n\u0060\n\t \x7d\u0060\n\x7d\n        \x7d"

theorem extract_reindent_class :
    List.Forall₂ IsReindented (lines indentedText.toList) (lines reindentedText.toList) ∧
      (extract reindentedText).entities =
        [.classLike ⟨"A", .plainClass, 1, 6, [⟨"f", .method, 2, 5, ["a"]⟩]⟩,
          .function ⟨"f", .method, 2, 5, ["a"]⟩] := by
  have hlines : List.Forall₂ IsReindented (lines indentedText.toList)
      (lines reindentedText.toList) := by
    refine .cons ⟨['\t'], by decide⟩ (.cons ⟨[], by decide⟩ (.cons ⟨[], by decide⟩
      (.cons ⟨['\t', ' '], by decide⟩ (.cons ⟨[], by decide⟩
        (.cons ⟨List.replicate 8 ' ', by decide⟩ .nil)))))
  exact ⟨hlines, (congrArg Extraction.entities (extract_reindent hlines)).trans (by decide)⟩

end Driftwatch
