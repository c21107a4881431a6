import Mathlib.Data.List.Forall2
import Driftwatch.Proofs.Signature
import Driftwatch.Report.Text

/-!
# The text report tells reports apart

A list of changes is written as lines, without any mark around the paths and signatures in it. A
path may look like a heading, like an entry or like a number of lines. As long as every one of them
stays on its line, what is written can nevertheless be told from the text.

## The shape of the argument

A line feed ends a line, so the text gives the lines (`Changes.changeLines_eq_of_text_eq`). Lines
are told apart by how far they are indented. A heading begins at the margin, the line of a file two
columns further, and the line of a signature behind that. So the lines under a heading are the lines
up to the next one that begins no later than it, on each of the two levels
(`IsOutline.eq_of_blockLines_eq`). A section that is left out is an empty one. Within a line, a path
stands between a fixed beginning and the last opening parenthesis (`ModifiedFile.eq_of_line_eq`),
behind which there is nothing but a number.

## Main definitions

* `IsOutline`: blocks of lines that are indented below their heading.
* `Changes.sections`: the lines of a report by heading, with the empty sections.
* `Changes.names`, `Changes.FitsLines`: what a report shows, and that it needs no second line.
* `Changes.ShowsSame`: reports that show the same.

## Main results

* `IsOutline.eq_of_blockLines_eq`: the blocks of an outline.
* `Changes.showsSame_of_changeLines_eq`: what a report shows, from its lines.
* `text_tells_changes_apart`: what a report shows, from its text.
-/

namespace Driftwatch

/-! ### Outlines -/

/-- The lines of blocks, each of which is a heading and what is below it. -/
def blockLines (blocks : List (String × List String)) : List String :=
  blocks.flatMap fun block => block.1 :: block.2

/-- Whether a line is not blank at a column. -/
def reaches (column : Nat) (line : String) : Bool :=
  line.toList[column]? != some ' '

/-- Every heading is not blank at a column, and every line below a heading is. -/
def IsOutline (column : Nat) (blocks : List (String × List String)) : Prop :=
  ∀ block ∈ blocks, reaches column block.1 = true ∧ ∀ line ∈ block.2, reaches column line = false

section

variable {column : Nat} {blocks others : List (String × List String)}

theorem blockLines_cons (block : String × List String) (blocks : List (String × List String)) :
    blockLines (block :: blocks) = block.1 :: (block.2 ++ blockLines blocks) := by
  rw [blockLines, List.flatMap_cons, List.cons_append, blockLines]

theorem IsOutline.of_cons {block : String × List String} (h : IsOutline column (block :: blocks)) :
    IsOutline column blocks :=
  fun other hother => h other (List.mem_cons_of_mem _ hother)

/-- The lines below the first heading end before the second one. -/
theorem IsOutline.takeWhile_eq {block : String × List String}
    (h : IsOutline column (block :: blocks)) :
    (block.2 ++ blockLines blocks).takeWhile (!reaches column ·) = block.2 := by
  have hbelow : ∀ line ∈ block.2, (!reaches column line) = true := by
    intro line hline
    rw [(h block List.mem_cons_self).2 line hline, Bool.not_false]
  rw [List.takeWhile_append_of_pos hbelow]
  cases blocks with
  | nil => rw [blockLines, List.flatMap_nil, List.takeWhile_nil, List.append_nil]
  | cons next blocks =>
    have hnext := (h.of_cons next List.mem_cons_self).1
    rw [blockLines_cons, List.takeWhile_cons_of_neg (by simp [hnext]), List.append_nil]

/-- **The blocks of an outline can be told from its lines.** -/
theorem IsOutline.eq_of_blockLines_eq (h : IsOutline column blocks)
    (hothers : IsOutline column others) (heq : blockLines blocks = blockLines others) :
    blocks = others := by
  induction blocks generalizing others with
  | nil =>
    cases others with
    | nil => rfl
    | cons other others => cases heq
  | cons block blocks ih =>
    cases others with
    | nil => cases heq
    | cons other others =>
      rw [blockLines_cons, blockLines_cons] at heq
      obtain ⟨hheading, hlines⟩ := List.cons.inj heq
      have hbelow : block.2 = other.2 := by
        rw [← h.takeWhile_eq, ← hothers.takeWhile_eq, hlines]
      rw [hbelow] at hlines
      rw [ih h.of_cons hothers.of_cons (List.append_cancel_left hlines),
        Prod.ext hheading hbelow]

/-- The lines below a heading. -/
def linesBelow (heading : String) (blocks : List (String × List String)) : List String :=
  blocks.flatMap fun block => if block.1 = heading then block.2 else []

/-- Nothing is below a heading that was left out because nothing is below it. -/
theorem linesBelow_filter (heading : String) (blocks : List (String × List String)) :
    linesBelow heading (blocks.filter (!·.2.isEmpty)) = linesBelow heading blocks := by
  induction blocks with
  | nil => rfl
  | cons block blocks ih =>
    obtain ⟨title, lines⟩ := block
    rw [linesBelow, linesBelow] at ih
    cases lines with
    | nil =>
      rw [List.filter_cons_of_neg (by simp), linesBelow, ih, linesBelow, List.flatMap_cons,
        ite_self, List.nil_append]
    | cons line lines =>
      rw [List.filter_cons_of_pos (by simp), linesBelow, List.flatMap_cons, ih, linesBelow,
        List.flatMap_cons]

end

/-- Lists that one function does not tell apart are not told apart by one that sees less. -/
theorem map_eq_map_of_imp {ι κ μ : Type} {f : ι → κ} {g : ι → μ}
    (h : ∀ x y, f x = f y → g x = g y) {xs ys : List ι} (heq : xs.map f = ys.map f) :
    xs.map g = ys.map g := by
  rw [← List.forall₂_eq_eq_eq, List.forall₂_map_left_iff, List.forall₂_map_right_iff] at heq ⊢
  exact heq.imp h

/-- Entries are told apart behind a mark that all of them have. -/
theorem eq_of_map_append_eq (mark : String) {xs ys : List String}
    (h : xs.map (mark ++ ·) = ys.map (mark ++ ·)) : xs = ys :=
  List.map_injective_iff.2 (fun _ _ => (String.append_right_inj mark).1) h

/-! ### Lines of files -/

theorem SignatureSet.eq_of_items_eq {a b : SignatureSet} (h : a.items = b.items) : a = b := by
  obtain ⟨items, increasing⟩ := a
  subst h
  rfl

/-- What is added comes before what is removed, and each is marked. -/
theorem EntityChanges.eq_of_textLines_eq {a b : EntityChanges} (h : a.textLines = b.textLines) :
    a.added = b.added ∧ a.removed = b.removed := by
  have hfilter : ∀ changes : EntityChanges,
      changes.textLines.filter (·.toList[6]? == some '+') =
          changes.added.items.map ("      + " ++ ·) ∧
        changes.textLines.filter (·.toList[6]? == some '-') =
          changes.removed.items.map ("      - " ++ ·) := by
    intro changes
    simp [textLines, List.filter_append, List.filter_map, Function.comp_def]
  have hadded := (hfilter a).1.symm.trans ((congrArg _ h).trans (hfilter b).1)
  have hremoved := (hfilter a).2.symm.trans ((congrArg _ h).trans (hfilter b).2)
  exact ⟨SignatureSet.eq_of_items_eq (eq_of_map_append_eq _ hadded),
    SignatureSet.eq_of_items_eq (eq_of_map_append_eq _ hremoved)⟩

/-- The lines of signatures stand below those of files. -/
theorem EntityChanges.reaches_of_mem_textLines {changes : EntityChanges} {line : String}
    (h : line ∈ changes.textLines) : reaches 2 line = false := by
  rcases List.mem_append.1 h with h | h
  all_goals
    obtain ⟨signature, -, rfl⟩ := List.mem_map.1 h
    simp [reaches]

theorem signed_injective {m n : Int} (h : signed m = signed n) : m = n := by
  obtain ⟨hsign, hdigits⟩ := List.cons.inj h
  have habs : m.natAbs = n.natAbs := toDigits_injective hdigits
  by_cases hm : m < 0
  · by_cases hn : n < 0
    · omega
    · rw [if_pos hm, if_neg hn] at hsign
      exact absurd hsign (by decide)
  · by_cases hn : n < 0
    · rw [if_neg hm, if_pos hn] at hsign
      exact absurd hsign (by decide)
    · omega

theorem not_mem_signed {c : Char} (hc : c.isDigit = false) (hsigns : c ≠ '-' ∧ c ≠ '+') (n : Int) :
    c ∉ signed n := by
  intro h
  rcases List.mem_cons.1 h with h | h
  · split at h
    · exact hsigns.1 h
    · exact hsigns.2 h
  · rw [Nat.isDigit_of_mem_toDigits (by decide) (by decide) h] at hc
    cases hc

/-- A text is told apart at the last occurrence of a character. -/
theorem eq_of_append_cons_eq {c : Char} {a b s t : List Char} (hs : c ∉ s) (ht : c ∉ t)
    (h : a ++ c :: s = b ++ c :: t) : a = b ∧ s = t := by
  have hright : ∀ {more s t : List Char}, c ∉ s → c :: s = more ++ c :: t → more = [] := by
    intro more s t hs heq
    cases more with
    | nil => rfl
    | cons d more =>
      rw [(List.cons.inj heq).2] at hs
      exact absurd (List.mem_append_right more List.mem_cons_self) hs
  obtain ⟨more, rfl, heq⟩ | ⟨more, rfl, heq⟩ := List.append_eq_append_iff.1 h
  · obtain rfl := hright hs heq
    exact ⟨(List.append_nil a).symm, (List.cons.inj heq).2⟩
  · obtain rfl := hright ht heq
    exact ⟨List.append_nil b, (List.cons.inj heq).2.symm⟩

namespace ModifiedFile

/-- The line of a modified file. -/
def line (file : ModifiedFile) : String :=
  "  ~ " ++ file.filePath ++ " (" ++ String.ofList (signed file.lineDiff) ++ " lines)"

/-- What a report shows of a modified file. -/
def shown (file : ModifiedFile) : String × Int × SignatureSet × SignatureSet :=
  (file.filePath, file.lineDiff, file.changes.added, file.changes.removed)

theorem toList_line (file : ModifiedFile) :
    file.line.toList = "  ~ ".toList ++ (file.filePath.toList ++ [' '] ++
      '(' :: signed file.lineDiff ++ " lines)".toList) := by
  simp [line]

/-- Behind the last opening parenthesis of its line there is only a number. -/
theorem eq_of_line_eq {a b : ModifiedFile} (h : a.line = b.line) :
    a.filePath = b.filePath ∧ a.lineDiff = b.lineDiff := by
  have hlist := congrArg String.toList h
  rw [toList_line, toList_line] at hlist
  have hmiddle := List.append_cancel_right (List.append_cancel_left hlist)
  have hparen : ∀ file : ModifiedFile, '(' ∉ signed file.lineDiff :=
    fun file => not_mem_signed (by decide) (by decide) file.lineDiff
  obtain ⟨hpath, hdiff⟩ := eq_of_append_cons_eq (hparen a) (hparen b) hmiddle
  exact ⟨String.toList_inj.1 (List.append_cancel_right hpath), signed_injective hdiff⟩

theorem flatMap_textLines (files : List ModifiedFile) :
    files.flatMap textLines =
      blockLines (files.map fun file => (file.line, file.changes.textLines)) := by
  rw [blockLines, List.flatMap_map]
  rfl

theorem isOutline (files : List ModifiedFile) :
    IsOutline 2 (files.map fun file => (file.line, file.changes.textLines)) := by
  intro block hblock
  obtain ⟨file, -, rfl⟩ := List.mem_map.1 hblock
  refine ⟨?_, fun line hline => EntityChanges.reaches_of_mem_textLines hline⟩
  simp [reaches, toList_line]

/-- What a report shows of modified files can be told from their lines. -/
theorem map_shown_eq {a b : List ModifiedFile} (h : a.flatMap textLines = b.flatMap textLines) :
    a.map shown = b.map shown := by
  rw [flatMap_textLines, flatMap_textLines] at h
  refine map_eq_map_of_imp (fun x y hxy => ?_) ((isOutline a).eq_of_blockLines_eq (isOutline b) h)
  obtain ⟨hline, hchanges⟩ := Prod.mk.inj hxy
  obtain ⟨hpath, hdiff⟩ := eq_of_line_eq hline
  obtain ⟨hadded, hremoved⟩ := EntityChanges.eq_of_textLines_eq hchanges
  rw [shown, hpath, hdiff, hadded, hremoved, shown]

end ModifiedFile

namespace DriftedFile

/-- What a report shows of a drifted file. -/
def shown (file : DriftedFile) : String × SignatureSet × SignatureSet :=
  (file.filePath, file.changes.added, file.changes.removed)

theorem flatMap_textLines (files : List DriftedFile) :
    files.flatMap textLines =
      blockLines (files.map fun file => ("  * " ++ file.filePath, file.changes.textLines)) := by
  rw [blockLines, List.flatMap_map]
  rfl

theorem isOutline (files : List DriftedFile) :
    IsOutline 2 (files.map fun file => ("  * " ++ file.filePath, file.changes.textLines)) := by
  intro block hblock
  obtain ⟨file, -, rfl⟩ := List.mem_map.1 hblock
  refine ⟨?_, fun line hline => EntityChanges.reaches_of_mem_textLines hline⟩
  simp [reaches]

/-- What a report shows of drifted files can be told from their lines. -/
theorem map_shown_eq {a b : List DriftedFile} (h : a.flatMap textLines = b.flatMap textLines) :
    a.map shown = b.map shown := by
  rw [flatMap_textLines, flatMap_textLines] at h
  refine map_eq_map_of_imp (fun x y hxy => ?_) ((isOutline a).eq_of_blockLines_eq (isOutline b) h)
  obtain ⟨hline, hchanges⟩ := Prod.mk.inj hxy
  obtain ⟨hadded, hremoved⟩ := EntityChanges.eq_of_textLines_eq hchanges
  rw [shown, (String.append_right_inj _).1 hline, hadded, hremoved, shown]

end DriftedFile

/-! ### Sections -/

namespace Changes

/-- The lines of a report by heading, with the sections that have none. -/
def sections (report : Changes) : List (String × List String) :=
  [("New files:", report.newFiles.map ("  + " ++ ·)),
   ("Deleted files:", report.deletedFiles.map ("  - " ++ ·)),
   ("Modified files:", report.modifiedFiles.flatMap ModifiedFile.textLines),
   ("Function changes:", report.driftedFiles.flatMap DriftedFile.textLines)]

theorem textSection_eq (heading : String) (entries : List String) :
    textSection heading entries = blockLines ([(heading, entries)].filter (!·.2.isEmpty)) := by
  cases entries with
  | nil => rfl
  | cons entry entries => simp [textSection, blockLines]

theorem changeLines_eq (report : Changes) :
    report.changeLines = blockLines (report.sections.filter (!·.2.isEmpty)) := by
  have happend : ∀ first second : List (String × List String),
      blockLines (first ++ second) = blockLines first ++ blockLines second :=
    fun first second => List.flatMap_append
  simp only [changeLines, textSection_eq, ← happend, ← List.filter_append, List.cons_append,
    List.nil_append, sections]

end Changes

/-! ### Names in lines -/

/-- An indented line with a name in it, and no line feed around the name. -/
def IsEntry (name line : String) : Prop :=
  ∃ mark tail, line.toList = ' ' :: mark ++ name.toList ++ tail ∧ '\n' ∉ mark ∧ '\n' ∉ tail

theorem IsEntry.reaches_eq {name line : String} (h : IsEntry name line) :
    reaches 0 line = false := by
  obtain ⟨mark, tail, hline, -, -⟩ := h
  simp [reaches, hline]

theorem IsEntry.lineFeed_not_mem {name line : String} (h : IsEntry name line)
    (hname : '\n' ∉ name.toList) : '\n' ∉ line.toList := by
  obtain ⟨mark, tail, hline, hmark, htail⟩ := h
  simp [hline, hmark, hname, htail]

theorem isEntry_append {mark : String} {rest : List Char} (hmark : mark.toList = ' ' :: rest)
    (hrest : '\n' ∉ rest) (name : String) : IsEntry name (mark ++ name) :=
  ⟨rest, [], by simp [hmark], hrest, List.not_mem_nil⟩

/-- The signatures that a change of declarations shows. -/
def EntityChanges.names (changes : EntityChanges) : List String :=
  changes.added.items ++ changes.removed.items

theorem EntityChanges.exists_isEntry {changes : EntityChanges} {line : String}
    (h : line ∈ changes.textLines) : ∃ name ∈ changes.names, IsEntry name line := by
  rcases List.mem_append.1 h with h | h
  · obtain ⟨name, hname, rfl⟩ := List.mem_map.1 h
    exact ⟨name, List.mem_append_left _ hname, isEntry_append rfl (by decide) name⟩
  · obtain ⟨name, hname, rfl⟩ := List.mem_map.1 h
    exact ⟨name, List.mem_append_right _ hname, isEntry_append rfl (by decide) name⟩

/-- The path and the signatures that a report shows of a modified file. -/
def ModifiedFile.names (file : ModifiedFile) : List String :=
  file.filePath :: file.changes.names

theorem ModifiedFile.exists_isEntry {file : ModifiedFile} {line : String}
    (h : line ∈ file.textLines) : ∃ name ∈ file.names, IsEntry name line := by
  rcases List.mem_cons.1 h with rfl | h
  · refine ⟨file.filePath, List.mem_cons_self, " ~ ".toList,
      ' ' :: '(' :: signed file.lineDiff ++ " lines)".toList, ?_, by decide, ?_⟩
    · simp
    · have hdiff : '\n' ∉ signed file.lineDiff := not_mem_signed (by decide) (by decide) _
      simp [hdiff]
  · obtain ⟨name, hname, hentry⟩ := EntityChanges.exists_isEntry h
    exact ⟨name, List.mem_cons_of_mem _ hname, hentry⟩

/-- The path and the signatures that a report shows of a drifted file. -/
def DriftedFile.names (file : DriftedFile) : List String :=
  file.filePath :: file.changes.names

theorem DriftedFile.exists_isEntry {file : DriftedFile} {line : String}
    (h : line ∈ file.textLines) : ∃ name ∈ file.names, IsEntry name line := by
  rcases List.mem_cons.1 h with rfl | h
  · exact ⟨file.filePath, List.mem_cons_self, isEntry_append rfl (by decide) _⟩
  · obtain ⟨name, hname, hentry⟩ := EntityChanges.exists_isEntry h
    exact ⟨name, List.mem_cons_of_mem _ hname, hentry⟩

namespace Changes

/-- The paths and signatures that a report shows. -/
def names (report : Changes) : List String :=
  report.newFiles ++ report.deletedFiles ++ report.modifiedFiles.flatMap ModifiedFile.names ++
    report.driftedFiles.flatMap DriftedFile.names

/-- Every line of a section has a name of the report in it. -/
theorem exists_isEntry {report : Changes} {block : String × List String}
    (hblock : block ∈ report.sections) {line : String} (hline : line ∈ block.2) :
    ∃ name ∈ report.names, IsEntry name line := by
  simp only [sections, List.mem_cons, List.not_mem_nil, or_false] at hblock
  rcases hblock with rfl | rfl | rfl | rfl
  · obtain ⟨path, hpath, rfl⟩ := List.mem_map.1 hline
    exact ⟨path, by simp [names, hpath], isEntry_append rfl (by decide) path⟩
  · obtain ⟨path, hpath, rfl⟩ := List.mem_map.1 hline
    exact ⟨path, by simp [names, hpath], isEntry_append rfl (by decide) path⟩
  · obtain ⟨file, hfile, hline⟩ := List.mem_flatMap.1 hline
    obtain ⟨name, hname, hentry⟩ := ModifiedFile.exists_isEntry hline
    have hmem := List.mem_flatMap.2 ⟨file, hfile, hname⟩
    exact ⟨name, List.mem_append_left _ (List.mem_append_right _ hmem), hentry⟩
  · obtain ⟨file, hfile, hline⟩ := List.mem_flatMap.1 hline
    obtain ⟨name, hname, hentry⟩ := DriftedFile.exists_isEntry hline
    exact ⟨name, List.mem_append_right _ (List.mem_flatMap.2 ⟨file, hfile, hname⟩), hentry⟩

/-- The headings of a report. -/
def headings : List String :=
  ["New files:", "Deleted files:", "Modified files:", "Function changes:"]

theorem heading_mem {report : Changes} {block : String × List String}
    (hblock : block ∈ report.sections) : block.1 ∈ headings := by
  have hheadings : report.sections.map Prod.fst = headings := rfl
  rw [← hheadings]
  exact List.mem_map_of_mem hblock

theorem isOutline_sections (report : Changes) : IsOutline 0 report.sections := by
  have hheadings : ∀ heading ∈ headings, reaches 0 heading = true := by decide
  intro block hblock
  refine ⟨hheadings _ (heading_mem hblock), fun line hline => ?_⟩
  obtain ⟨name, -, hentry⟩ := exists_isEntry hblock hline
  exact hentry.reaches_eq

/-! ### Reports -/

/-- Reports that show the same changes: the same new and deleted files, the same modified files with
their differences of lines and their declarations, and the same drifted files with theirs. -/
structure ShowsSame (a b : Changes) : Prop where
  newFiles : a.newFiles = b.newFiles
  deletedFiles : a.deletedFiles = b.deletedFiles
  modifiedFiles : a.modifiedFiles.map ModifiedFile.shown = b.modifiedFiles.map ModifiedFile.shown
  driftedFiles : a.driftedFiles.map DriftedFile.shown = b.driftedFiles.map DriftedFile.shown

/-- **What a report shows can be told from its lines.** -/
theorem showsSame_of_changeLines_eq {a b : Changes} (h : a.changeLines = b.changeLines) :
    a.ShowsSame b := by
  have houtline : ∀ report : Changes, IsOutline 0 (report.sections.filter (!·.2.isEmpty)) :=
    fun report block hblock => report.isOutline_sections block (List.mem_of_mem_filter hblock)
  rw [changeLines_eq, changeLines_eq] at h
  have hblocks := (houtline a).eq_of_blockLines_eq (houtline b) h
  have hbelow : ∀ heading, linesBelow heading a.sections = linesBelow heading b.sections := by
    intro heading
    rw [← linesBelow_filter, hblocks, linesBelow_filter]
  refine ⟨eq_of_map_append_eq "  + " ?_, eq_of_map_append_eq "  - " ?_,
    ModifiedFile.map_shown_eq ?_, DriftedFile.map_shown_eq ?_⟩
  · simpa [linesBelow, sections] using hbelow "New files:"
  · simpa [linesBelow, sections] using hbelow "Deleted files:"
  · simpa [linesBelow, sections] using hbelow "Modified files:"
  · simpa [linesBelow, sections] using hbelow "Function changes:"

/-- No path and no signature that a report shows has a line feed in it. -/
def FitsLines (report : Changes) : Prop :=
  ∀ name ∈ report.names, '\n' ∉ name.toList

theorem FitsLines.isLine {report : Changes} (h : report.FitsLines) {line : String}
    (hline : line ∈ report.changeLines) : '\n' ∉ line.toList ∧ line.toList ≠ [] := by
  rw [changeLines_eq] at hline
  obtain ⟨block, hblock, hline⟩ := List.mem_flatMap.1 hline
  have hmem : block ∈ report.sections := List.mem_of_mem_filter hblock
  rcases List.mem_cons.1 hline with rfl | hline
  · have hheadings : ∀ heading ∈ headings, '\n' ∉ heading.toList ∧ heading.toList ≠ [] := by
      decide
    exact hheadings _ (heading_mem hmem)
  · obtain ⟨name, hname, hentry⟩ := exists_isEntry hmem hline
    refine ⟨hentry.lineFeed_not_mem (h name hname), ?_⟩
    obtain ⟨mark, tail, htext, -, -⟩ := hentry
    simp [htext]

theorem toList_text {report : Changes} (h : report.hasChanges = true) :
    report.text.toList = ['\n'].intercalate (report.changeLines.map String.toList) := by
  rw [text, if_pos h, String.toList_intercalate]
  rfl

/-- Lines are told apart by line feeds, if nothing else has one. -/
theorem changeLines_eq_of_text_eq {a b : Changes} (ha : a.hasChanges = true)
    (hb : b.hasChanges = true) (hafits : a.FitsLines) (hbfits : b.FitsLines)
    (h : a.text = b.text) : a.changeLines = b.changeLines := by
  have hlines : ∀ {report : Changes}, report.FitsLines →
      ∀ text ∈ report.changeLines.map String.toList, '\n' ∉ text ∧ text ≠ [] := by
    intro report hfits text htext
    obtain ⟨line, hline, rfl⟩ := List.mem_map.1 htext
    exact hfits.isLine hline
  have htext := congrArg String.toList h
  rw [toList_text ha, toList_text hb] at htext
  exact List.map_injective_iff.2 (fun _ _ => String.toList_inj.1)
    (intercalate_inj (hlines hafits) (hlines hbfits) htext)

/-- A report with changes is empty, or it begins with a heading. -/
theorem heading_prefix_or_eq_nil {report : Changes} (h : report.hasChanges = true) :
    report.text.toList = [] ∨ ∃ heading ∈ headings, heading.toList <+: report.text.toList := by
  rw [toList_text h, changeLines_eq]
  cases hblocks : report.sections.filter (!·.2.isEmpty) with
  | nil => exact .inl rfl
  | cons block blocks =>
    have hblock : block ∈ report.sections :=
      List.mem_of_mem_filter (hblocks ▸ List.mem_cons_self)
    refine .inr ⟨block.1, heading_mem hblock, ?_⟩
    rw [blockLines_cons, List.map_cons]
    cases (block.2 ++ blockLines blocks).map String.toList with
    | nil => exact List.intercalate_singleton ▸ List.prefix_rfl
    | cons line lines =>
      rw [List.intercalate_cons_cons, List.append_assoc]
      exact List.prefix_append _ _

end Changes

/-- **The text report tells reports apart.** Two reports with changes that have the same text show
the same changes, if no path and no signature in them has a line feed. No report with changes has
the text of a report without. -/
theorem text_tells_changes_apart (a b : Changes) (ha : a.hasChanges = true) :
    (b.hasChanges = true → a.FitsLines → b.FitsLines → a.text = b.text → a.ShowsSame b) ∧
      (b.hasChanges = false → a.text ≠ b.text) := by
  refine ⟨fun hb hafits hbfits h => ?_, fun hb h => ?_⟩
  · exact Changes.showsSame_of_changeLines_eq
      (Changes.changeLines_eq_of_text_eq ha hb hafits hbfits h)
  · have hnone : b.text = "No changes since last scan." := by rw [Changes.text, hb]; rfl
    have hheadings : ∀ heading ∈ Changes.headings,
        ¬heading.toList <+: "No changes since last scan.".toList := by decide
    rcases Changes.heading_prefix_or_eq_nil ha with hnil | ⟨heading, hheading, hprefix⟩
    · rw [h, hnone] at hnil
      exact absurd hnil (by decide)
    · rw [h, hnone] at hprefix
      exact hheadings heading hheading hprefix

/-! ### Paths that look like something else -/

/-- A report about a new file whose path is a heading and about a modified file whose path ends in a
number of lines, next to files of which nothing is shown. -/
def misleadingReport (previousLines : Nat) (unchangedFiles : List String) : Changes where
  hasChanges := true
  newFiles := ["Modified files:"]
  modifiedFiles := [⟨"  + a (+1 lines)", previousLines, previousLines + 2, 2,
    { added := .ofList ["function:f:1"], removed := .empty, unchanged := .empty }⟩]
  unchangedFiles := unchangedFiles

/-- Reports that differ in what is not shown have the same text. -/
theorem text_tells_changes_apart_misleading :
    (misleadingReport 3 []).text = (misleadingReport 7 ["b"]).text ∧
      (misleadingReport 3 []).ShowsSame (misleadingReport 7 ["b"]) ∧
      (misleadingReport 3 []).text ≠ ({} : Changes).text := by
  have htext : (misleadingReport 3 []).text = (misleadingReport 7 ["b"]).text := rfl
  have hfits : ∀ lines paths, (misleadingReport lines paths).FitsLines := by
    intro lines paths
    have hnames : (misleadingReport lines paths).names =
        ["Modified files:", "  + a (+1 lines)", "function:f:1"] := rfl
    rw [Changes.FitsLines, hnames]
    decide
  exact ⟨htext,
    (text_tells_changes_apart _ (misleadingReport 7 ["b"]) rfl).1 rfl (hfits 3 []) (hfits 7 ["b"])
      htext,
    (text_tells_changes_apart (misleadingReport 3 []) {} rfl).2 rfl⟩

end Driftwatch
