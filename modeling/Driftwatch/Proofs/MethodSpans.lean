import Driftwatch.Proofs.InertText
import Driftwatch.Proofs.WellFormed

/-!
# Methods and the end of their class

The end of a class and the ends of its methods come from searches of their own. A method ends inside
its class when the search for the end of the class goes over the brace from which the method is
measured: from there on both searches see the same braces, and the one that has less to close ends
first.

The condition matters. A line that reads like a method may stand in a comment, or behind the brace
that ends the class, and then its brace is none that the class has. And a line with an arrow that no
brace follows is not measured by braces at all: it ends where one of the next few lines ends a
statement, inside of the class or not.

## Main definitions

* `searched`: the braces that a search goes over before it ends.
* `FunctionEntity.openingBrace?`: the brace from which the end of a function is found.
* `ClassEntity.innerBraces`: the braces that the search for the end of a class goes over.

## Main results

* `scannedBraces_of_split`: a new scan behind a brace sees what the scan sees that came to it.
* `closingLine_le_of_mem_searched`: inner blocks end no later than outer ones.
* `method_ends_within_class`: methods that end inside their class.
* `method_ends_behind_class`: methods that do not.
-/

namespace Driftwatch

/-! ### The braces that a search goes over -/

/-- The braces that a search goes over before it ends. -/
def searched (depth : Nat) : List CodeBrace → List CodeBrace
  | [] => []
  | brace :: rest =>
    match countBrace brace.char depth with
    | .done _ => []
    | .yield depth => brace :: searched depth rest

/-- The search behind an opening brace that another search goes over ends where that one ends, or
before. -/
theorem closer?_of_mem_searched {depth : Nat} {braces : List CodeBrace} {brace last : CodeBrace}
    (hdepth : 0 < depth) (hsorted : braces.Pairwise CodeBrace.Before)
    (hopening : brace.isOpening = true) (hmem : brace ∈ searched depth braces)
    (hlast : closer? depth braces = some last) :
    ∃ before after inner, braces = before ++ brace :: after ∧ closer? 1 after = some inner ∧
      inner.line ≤ last.line := by
  induction braces generalizing depth with
  | nil => cases hmem
  | cons first rest ih =>
    obtain ⟨-, hrest⟩ := List.pairwise_cons.1 hsorted
    rw [searched] at hmem
    rw [closer?] at hlast
    cases hstep : countBrace first.char depth with
    | done final =>
      rw [hstep] at hmem
      cases hmem
    | yield deeper =>
      rw [hstep] at hmem hlast
      rcases List.mem_cons.1 hmem with rfl | hmem
      · -- The search is one brace deeper now, so it has at least as much to close as a new one.
        have hdeeper : deeper = depth + 1 := by
          rw [countBrace_opening hopening] at hstep
          cases hstep
          rfl
        obtain ⟨inner, hinner, hle⟩ := closer?_le Nat.one_pos (by omega) hrest hlast
        exact ⟨[], rest, inner, rfl, hinner, hle⟩
      · have hpos : 0 < deeper := by
          rcases countBrace_cases first hdepth with ⟨-, h⟩ | ⟨-, -, h⟩ | ⟨-, inner, -, h⟩
          · rw [h] at hstep
            cases hstep
            exact Nat.succ_pos depth
          · rw [h] at hstep
            cases hstep
          · rw [h] at hstep
            cases hstep
            exact Nat.succ_pos inner
        obtain ⟨before, after, inner, rfl, hinner, hle⟩ := ih hpos hrest hmem hlast
        exact ⟨first :: before, after, inner, rfl, hinner, hle⟩

/-! ### Scans behind a brace -/

variable {rows : List (List Char)} {start offset : Nat}

theorem scannedBraces_of_drop {line rest : List Char} {following : List (List Char)}
    (hdrop : rows.drop start = line :: following)
    (hrest : dropBytes? (offset + 1) line = some rest) :
    scannedBraces start (scanBehind rows start offset) =
      (Phase.between {}).braces start (offset + 1) rest ++
        bracesFrom ((Phase.between {}).finish rest) (start + 1) following := by
  rw [scanBehind, hdrop, scanFrom, scannedBraces, Cursor.scanLine_of_some hrest,
    scannedBraces_scanFrom]
  rfl

/-- A scan behind an offset that is none of its line starts with the next line. -/
theorem scannedBraces_of_drop_none {line : List Char} {following : List (List Char)}
    (hdrop : rows.drop start = line :: following) (hrest : dropBytes? (offset + 1) line = none) :
    scannedBraces start (scanBehind rows start offset) = bracesFrom {} (start + 1) following := by
  rw [scanBehind, hdrop, scanFrom, scannedBraces, Cursor.scanLine_of_none hrest,
    scannedBraces_scanFrom]
  rfl

theorem pairwise_before_scannedBraces (rows : List (List Char)) (start offset : Nat) :
    (scannedBraces start (scanBehind rows start offset)).Pairwise CodeBrace.Before := by
  cases hdrop : rows.drop start with
  | nil =>
    rw [scanBehind, hdrop]
    exact List.Pairwise.nil
  | cons line following =>
    cases hrest : dropBytes? (offset + 1) line with
    | none =>
      rw [scannedBraces_of_drop_none hdrop hrest]
      exact pairwise_before_bracesFrom _ _ _
    | some rest =>
      rw [scannedBraces_of_drop hdrop hrest]
      exact pairwise_before_append (Phase.pairwise_before_braces _ _ _ _)
        (pairwise_before_bracesFrom _ _ _) (fun _ => Phase.line_of_mem_braces)
        fun _ => le_line_of_mem_bracesFrom

theorem dropBytes?_add {first second : Nat} {line middle rest : List Char}
    (hfirst : dropBytes? first line = some middle)
    (hsecond : dropBytes? second middle = some rest) :
    dropBytes? (first + second) line = some rest := by
  obtain ⟨front, rfl, rfl⟩ := exists_front_of_dropBytes? hfirst
  rw [dropBytes?_byteLength_add, hsecond]

/-- A new scan behind a brace in code sees what the scan sees that came to that brace. -/
theorem scannedBraces_of_split {before after : List CodeBrace} {brace : CodeBrace}
    (h : scannedBraces start (scanBehind rows start offset) = before ++ brace :: after) :
    scannedBraces brace.line (scanBehind rows brace.line brace.offset) = after := by
  -- The brace is on one of the lines after the first, which are read from their beginning.
  have hlater : ∀ cursor line following skipped, rows.drop start = line :: following →
      bracesFrom cursor (start + 1) following = skipped ++ brace :: after →
      scannedBraces brace.line (scanBehind rows brace.line brace.offset) = after := by
    intro cursor line following skipped hdrop hskip
    obtain ⟨hle, line', following', rest, hdrop', hrest, rfl⟩ := bracesFrom_split hskip
    refine scannedBraces_of_drop ?_ hrest
    calc rows.drop brace.line
        = (rows.drop start).drop (brace.line - start) := by
          rw [List.drop_drop, show start + (brace.line - start) = brace.line by omega]
      _ = following.drop (brace.line - (start + 1)) := by
          rw [hdrop, show brace.line - start = brace.line - (start + 1) + 1 by omega,
            List.drop_succ_cons]
      _ = line' :: following' := hdrop'
  cases hdrop : rows.drop start with
  | nil =>
    rw [scanBehind, hdrop] at h
    simp [scanFrom, scannedBraces] at h
  | cons line following =>
    cases hrest : dropBytes? (offset + 1) line with
    | none =>
      rw [scannedBraces_of_drop_none hdrop hrest] at h
      exact hlater _ line following before hdrop h
    | some rest =>
      rw [scannedBraces_of_drop hdrop hrest] at h
      rcases List.append_eq_append_iff.1 h with ⟨skipped, -, hskip⟩ | ⟨onLine, hline, hafter⟩
      · exact hlater _ line following skipped hdrop hskip
      · cases onLine with
        | nil => exact hlater _ line following [] hdrop hafter.symm
        | cons first onLine =>
          obtain ⟨rfl, rfl⟩ := List.cons.inj hafter
          obtain ⟨rfl, hle, tail, htail, honLine, hfinish⟩ := Phase.braces_split hline
          have hbrace : dropBytes? (brace.offset + 1) line = some tail := by
            rw [show brace.offset + 1 = offset + 1 + (brace.offset - (offset + 1) + 1) by omega]
            exact dropBytes?_add hrest htail
          rw [scannedBraces_of_drop hdrop hbrace, honLine, hfinish]
          rfl

/-- **A block that opens inside another one ends no later**, wherever the search for the end of the
outer one starts, in code or not. -/
theorem closingLine_le_of_mem_searched {brace : CodeBrace} (hopening : brace.isOpening = true)
    (hmem : brace ∈ searched 1 (scannedBraces start (scanBehind rows start offset)))
    (hends : start + 1 < closingLine rows start offset) :
    closingLine rows brace.line brace.offset ≤ closingLine rows start offset := by
  rw [closingLine_eq_scan rows start offset] at hends ⊢
  cases hlast : closer? 1 (scannedBraces start (scanBehind rows start offset)) with
  | none =>
    rw [hlast, Option.map_none, Option.getD_none] at hends
    omega
  | some last =>
    obtain ⟨before, after, inner, hsplit, hinner, hle⟩ := closer?_of_mem_searched Nat.one_pos
      (pairwise_before_scannedBraces rows start offset) hopening hmem hlast
    rw [closingLine_eq_scan, scannedBraces_of_split hsplit, hinner]
    simp only [Option.map_some, Option.getD_some]
    omega

/-! ### Methods -/

/-- The brace on the line of a declaration from which its end is found. -/
def Body.brace? : Body → Option Nat
  | arrowBlock brace | block brace | classBody (some brace) => some brace
  | _ => none

/-- The brace from which the end of a function is found, if it is on the line of the function. -/
def FunctionEntity.openingBrace? (rows : List (List Char)) (entity : FunctionEntity) :
    Option CodeBrace :=
  (rows[entity.lineStart - 1]?).bind fun line =>
    (Body.ofFunctionLine line).brace?.map fun offset => ⟨entity.lineStart - 1, offset, true⟩

/-- The braces that the search for the end of a class goes over. -/
def ClassEntity.innerBraces (rows : List (List Char)) (entity : ClassEntity) : List CodeBrace :=
  let row := entity.lineStart - 1
  match (rows[row]?).bind fun line => (Body.ofClassLine line entity.kind).brace? with
  | some offset => searched 1 (scannedBraces row (scanBehind rows row offset))
  | none => []

variable {number : Nat}

theorem endLine_of_brace? {body : Body} {brace : Nat} (hpos : 0 < number)
    (hle : number ≤ rows.length) (h : body.brace? = some brace) :
    endLine rows number body = closingLine rows (number - 1) brace := by
  rw [endLine, if_neg (by omega)]
  cases body with
  | arrowBlock found | block found =>
    cases h
    rfl
  | classBody found =>
    cases found with
    | none => cases h
    | some found =>
      cases h
      rfl
  | arrowExpression | blockAhead | typeLike => cases h

/-- A line with an arrow is measured from the first brace behind its first arrow. -/
theorem brace?_of_firstArrow {line before after : List Char}
    (h : FirstArrow line before after) :
    (Body.ofFunctionLine line).brace? =
      (offsetOf? (· == '{') after).map (byteLength before + 2 + ·) := by
  rw [Body.ofFunctionLine, arrowOffset?_of_firstArrow h]
  cases hbrace : offsetOf? (· == '{') after <;> simp [hbrace, Body.brace?]

/-- A function with an arrow on its line and no brace behind it is measured from none. -/
theorem openingBrace?_of_firstArrow {function : FunctionEntity} {line before after : List Char}
    (hline : rows[function.lineStart - 1]? = some line) (harrow : FirstArrow line before after)
    (hnone : '{' ∉ after) : function.openingBrace? rows = none := by
  rw [FunctionEntity.openingBrace?, hline, Option.bind_some, brace?_of_firstArrow harrow,
    offsetOf?_brace_eq_none hnone]
  rfl

/-- A method whose opening brace is not on its line is an expression behind an arrow. -/
theorem ofFunctionLine_of_brace?_eq_none {line : List Char} {found : FunctionDeclaration}
    (hmethod : methodOn? line = some found) (h : (Body.ofFunctionLine line).brace? = none) :
    Body.ofFunctionLine line = .arrowExpression := by
  unfold Body.ofFunctionLine at h ⊢
  split
  · split
    · simp_all [Body.brace?]
    · rfl
  · split
    · simp_all [Body.brace?]
    · next hnone =>
      have habsent := eq_false_of_offsetOf?_eq_none hnone '{' (brace_mem_of_methodOn? hmethod)
      cases habsent

/-- An expression ends at most three lines behind its first. -/
theorem endLine_arrowExpression_le (rows : List (List Char)) (number : Nat) :
    endLine rows number .arrowExpression ≤ number + expressionWindow := by
  rw [endLine]
  split
  · omega
  · simp only
    split
    · omega
    · cases hfound : firstLine? closesStatement (number + 1)
        ((rows.drop number).take expressionWindow) with
      | none => exact Nat.le_add_right _ _
      | some found =>
        have hbounds := firstLine?_bounds hfound
        have hlength := List.length_take_le expressionWindow (rows.drop number)
        rw [Option.getD_some]
        omega

/-- A method of a class in a text, with the two lines and what they declare. -/
theorem exists_lines_of_mem_methods {entity : ClassEntity} {method : FunctionEntity}
    (hentity : .classLike entity ∈ (extractLines rows).entities)
    (hmethod : method ∈ entity.methods) :
    ∃ number header found start line declaration, 0 < number ∧ number < start ∧
      start ≤ entity.lineEnd ∧ entity.lineEnd ≤ rows.length ∧
      rows[number - 1]? = some header ∧ entity = classEntity rows number header found ∧
      rows[start - 1]? = some line ∧ methodOn? line = some declaration ∧
      method = functionEntity rows start line declaration := by
  obtain ⟨number, header, hpos, hle, hheader, hon⟩ := mem_extractLines hentity
  obtain ⟨found, -, heq⟩ := (mem_entitiesOn.1 hon).resolve_left fun ⟨_, _, heq⟩ => nomatch heq
  obtain rfl := Entity.classLike.inj heq
  obtain ⟨start, line, declaration, hlt, hend, hline, hdeclaration, rfl⟩ :=
    mem_methodsBetween (mem_methods_classEntity hmethod)
  exact ⟨number, header, found, start, line, declaration, hpos, hlt, hend,
    (endLine_bounds hpos hle _).2, hheader, rfl, hline, hdeclaration, rfl⟩

/-- A method with a brace among those of its class ends inside of it. -/
theorem lineEnd_le_of_mem_innerBraces {entity : ClassEntity} {method : FunctionEntity}
    {brace : CodeBrace} (hentity : .classLike entity ∈ (extractLines rows).entities)
    (hmethod : method ∈ entity.methods) (hbrace : method.openingBrace? rows = some brace)
    (hinner : brace ∈ entity.innerBraces rows) : method.lineEnd ≤ entity.lineEnd := by
  obtain ⟨number, header, found, start, line, declaration, hpos, hlt, hend, hlast, hheader, rfl,
    hline, -, rfl⟩ := exists_lines_of_mem_methods hentity hmethod
  -- The brace of the method and the braces of the class, each from its line.
  have hopening : (Body.ofFunctionLine line).brace?.map
      (fun offset => (⟨start - 1, offset, true⟩ : CodeBrace)) = some brace := by
    rw [FunctionEntity.openingBrace?] at hbrace
    simpa only [functionEntity, hline, Option.bind_some] using hbrace
  obtain ⟨inner, hinnerBrace, rfl⟩ := Option.map_eq_some_iff.1 hopening
  simp only [ClassEntity.innerBraces, classEntity, hheader, Option.bind_some] at hinner
  cases houter : (Body.ofClassLine header found.kind).brace? with
  | none =>
    rw [houter] at hinner
    cases hinner
  | some outer =>
    rw [houter] at hinner
    have hclass : (classEntity rows number header found).lineEnd =
        closingLine rows (number - 1) outer := endLine_of_brace? hpos (by omega) houter
    have hfunction : (functionEntity rows start line declaration).lineEnd =
        closingLine rows (start - 1) inner :=
      endLine_of_brace? (by omega) (by omega) hinnerBrace
    rw [hclass] at hend
    rw [hclass, hfunction]
    exact @closingLine_le_of_mem_searched rows _ _ ⟨start - 1, inner, true⟩ rfl hinner (by omega)

/-- A method without a brace ends at most three lines behind its first. -/
theorem lineEnd_le_of_openingBrace?_eq_none {entity : ClassEntity} {method : FunctionEntity}
    (hentity : .classLike entity ∈ (extractLines rows).entities) (hmethod : method ∈ entity.methods)
    (hbrace : method.openingBrace? rows = none) :
    method.lineEnd ≤ method.lineStart + expressionWindow := by
  obtain ⟨_, _, _, start, line, declaration, -, -, -, -, -, -, hline, hdeclaration, rfl⟩ :=
    exists_lines_of_mem_methods hentity hmethod
  have hnone : (Body.ofFunctionLine line).brace? = none := by
    rw [FunctionEntity.openingBrace?] at hbrace
    simpa only [functionEntity, hline, Option.bind_some, Option.map_eq_none_iff] using hbrace
  show endLine rows start (.ofFunctionLine line) ≤ start + expressionWindow
  rw [ofFunctionLine_of_brace?_eq_none hdeclaration hnone]
  exact endLine_arrowExpression_le rows start

/-- **Methods end inside their class**, if the search for the end of the class goes over the brace
from which the method is measured. A method that is measured from no brace ends at most three lines
behind its first, wherever the class ends, and so does one with an arrow on its line and no brace
behind the arrow, since it is measured from none. -/
theorem method_ends_within_class (text : String) {entity : ClassEntity} {method : FunctionEntity}
    (hentity : .classLike entity ∈ (extract text).entities) (hmethod : method ∈ entity.methods) :
    (∀ brace, method.openingBrace? (lines text.toList) = some brace →
      brace ∈ entity.innerBraces (lines text.toList) → method.lineEnd ≤ entity.lineEnd) ∧
    (method.openingBrace? (lines text.toList) = none → method.lineEnd ≤ method.lineStart + 3) ∧
    ∀ line before after, (lines text.toList)[method.lineStart - 1]? = some line →
      FirstArrow line before after → '{' ∉ after →
        method.openingBrace? (lines text.toList) = none ∧
          method.lineEnd ≤ method.lineStart + 3 := by
  refine ⟨fun brace hbrace hinner => ?_, fun hbrace => ?_,
    fun line before after hline harrow hnone => ?_⟩
  · exact lineEnd_le_of_mem_innerBraces hentity hmethod hbrace hinner
  · exact lineEnd_le_of_openingBrace?_eq_none hentity hmethod hbrace
  · have hbrace := openingBrace?_of_firstArrow hline harrow hnone
    exact ⟨hbrace, lineEnd_le_of_openingBrace?_eq_none hentity hmethod hbrace⟩

/-- A class with two methods, the second of which is measured as an expression. -/
def twoMethods : String :=
  "class A \x7b\n  f(a) \x7b\n  \x7d\n  async g(x) \x7b return y => y; \x7d\n\x7d\n"

theorem method_ends_within_class_twoMethods :
    ∃ entity f g, .classLike entity ∈ (extract twoMethods).entities ∧ entity.methods = [f, g] ∧
      (f.openingBrace? (lines twoMethods.toList) = some ⟨1, 7, true⟩ ∧
        ⟨1, 7, true⟩ ∈ entity.innerBraces (lines twoMethods.toList) ∧
        f.lineEnd ≤ entity.lineEnd) ∧
      g.openingBrace? (lines twoMethods.toList) = none ∧ g.lineEnd ≤ g.lineStart + 3 := by
  have hentity : .classLike ⟨"A", .plainClass, 1, 5,
      [⟨"f", .method, 2, 3, ["a"]⟩, ⟨"g", .method, 4, 4, ["x"]⟩]⟩ ∈
        (extract twoMethods).entities := by decide
  have hbrace : FunctionEntity.openingBrace? (lines twoMethods.toList)
      ⟨"f", .method, 2, 3, ["a"]⟩ = some ⟨1, 7, true⟩ := by decide
  have hinner : ⟨1, 7, true⟩ ∈ ClassEntity.innerBraces (lines twoMethods.toList) ⟨"A", .plainClass,
      1, 5, [⟨"f", .method, 2, 3, ["a"]⟩, ⟨"g", .method, 4, 4, ["x"]⟩]⟩ := by decide
  have hline : (lines twoMethods.toList)[3]? =
      some "  async g(x) \x7b return y => y; \x7d".toList := by decide
  have harrow : FirstArrow "  async g(x) \x7b return y => y; \x7d".toList
      "  async g(x) \x7b return y ".toList " y; \x7d".toList := ⟨by decide, by decide⟩
  have hfirst := method_ends_within_class twoMethods hentity List.mem_cons_self
  have hsecond := method_ends_within_class twoMethods hentity
    (List.mem_cons_of_mem _ List.mem_cons_self)
  exact ⟨_, _, _, hentity, rfl, ⟨hbrace, hinner, hfirst.1 _ hbrace hinner⟩,
    hsecond.2.2 _ _ _ hline harrow (by decide)⟩

/-- A class whose method has an arrow on its line that no brace follows. The next line that ends a
statement is the one after the class. -/
def arrowInMethod : String :=
  "class A \x7b\n  async m(x) \x7b return y => y\n  \x7d\n\x7d\nrun();\n"

/-- A class with a line in a comment that reads like a method with two open braces. -/
def methodInComment : String :=
  "class A \x7b\n  /*\n  async m() \x7b \x7b\n  */\n\x7d\n\x7d\n"

/-- A method can end behind its class, without a brace and with one that the class does not have. -/
theorem method_ends_behind_class :
    (∃ entity method, .classLike entity ∈ (extract arrowInMethod).entities ∧
      method ∈ entity.methods ∧ entity.lineEnd < method.lineEnd) ∧
    ∃ entity method, .classLike entity ∈ (extract methodInComment).entities ∧
      method ∈ entity.methods ∧ entity.lineEnd < method.lineEnd := by
  have harrow : (extract arrowInMethod).entities =
      [.classLike ⟨"A", .plainClass, 1, 4, [⟨"m", .method, 2, 5, ["x"]⟩]⟩] := by decide
  have hcomment : (extract methodInComment).entities =
      [.classLike ⟨"A", .plainClass, 1, 5, [⟨"m", .method, 3, 6, []⟩]⟩] := by decide
  constructor
  · refine ⟨⟨"A", .plainClass, 1, 4, [⟨"m", .method, 2, 5, ["x"]⟩]⟩, ⟨"m", .method, 2, 5, ["x"]⟩,
      ?_, List.mem_cons_self, by decide⟩
    rw [harrow]
    exact List.mem_cons_self
  · refine ⟨⟨"A", .plainClass, 1, 5, [⟨"m", .method, 3, 6, []⟩]⟩, ⟨"m", .method, 3, 6, []⟩,
      ?_, List.mem_cons_self, by decide⟩
    rw [hcomment]
    exact List.mem_cons_self

end Driftwatch
