import Driftwatch.Report.Render

/-!
# Tags of the page report

A tag of a text runs from a `<` to the next `>`. On a page all tags stand in the markup: a value is
escaped, and no tag of the markup is still open where a value begins. So the tags of two reports are
the same whenever both list equally many things, whatever these things are called.

## The shape of the argument

The template of a page is its markup without the values. When every piece of markup closes its own
tags, the tags of the page are those of the template (`tags_render`). The template of a report is
fixed by its shape (`template_pageReport`), which holds only numbers.

## Main definitions

* `tags`: the tags of a text.
* `Page.template`: the markup of a page.
* `pageShape`: how many things a report lists, at every level.

## Main results

* `tags_render`: the tags of a page whose markup closes its tags.
* `template_pageReport`: reports of one shape have one template.
* `page_admits_no_markup`: no value adds, removes or changes a tag.
-/

namespace Driftwatch

/-! ### Tags of a text -/

/-- The tags of a text. Each `<` begins one if a `>` follows it anywhere. -/
def tags : List Char → List (List Char)
  | [] => []
  | c :: rest =>
    if c = '<' ∧ '>' ∈ rest then (c :: rest.takeWhile (· ≠ '>') ++ ['>']) :: tags rest
    else tags rest

example : tags "a<b x=1>1 > 0</b> <".toList = ["<b x=1>".toList, "</b>".toList] := by decide

/-- Whether every `<` of a text has a `>` behind it. -/
def closesTags : List Char → Bool
  | [] => true
  | c :: rest => (c != '<' || rest.contains '>') && closesTags rest

/-- Whether a character begins or ends a tag. -/
def isAngle (c : Char) : Bool :=
  c == '<' || c == '>'

theorem closesTags_of_not_mem {text : List Char} (h : '<' ∉ text) : closesTags text = true := by
  induction text with
  | nil => rfl
  | cons c rest ih =>
    rw [List.mem_cons, not_or] at h
    rw [closesTags, ih h.2, bne_iff_ne.2 (Ne.symm h.1)]
    rfl

theorem tags_of_not_mem {text : List Char} (h : '<' ∉ text) : tags text = [] := by
  induction text with
  | nil => rfl
  | cons c rest ih =>
    rw [List.mem_cons, not_or] at h
    rw [tags, if_neg (fun hc => h.1 hc.1.symm), ih h.2]

/-- What follows a `>` does not change what stands before it. -/
theorem takeWhile_append_of_mem {text : List Char} (h : '>' ∈ text) (rest : List Char) :
    (text ++ rest).takeWhile (· ≠ '>') = text.takeWhile (· ≠ '>') := by
  induction text with
  | nil => exact absurd h List.not_mem_nil
  | cons c text ih =>
    by_cases hc : c = '>'
    · simp [hc]
    · have htext : '>' ∈ text := (List.mem_cons.1 h).resolve_left (Ne.symm hc)
      simpa [hc] using ih htext

/-- A text that closes its tags shares none with what follows it. -/
theorem tags_append {text : List Char} (h : closesTags text = true) (rest : List Char) :
    tags (text ++ rest) = tags text ++ tags rest := by
  induction text with
  | nil => rfl
  | cons c text ih =>
    rw [closesTags, Bool.and_eq_true, Bool.or_eq_true, bne_iff_ne, List.contains_iff_mem] at h
    rw [List.cons_append, tags, tags, ih h.2]
    by_cases hc : c = '<'
    · have hclose : '>' ∈ text := h.1.resolve_left (fun hne => hne hc)
      rw [if_pos ⟨hc, List.mem_append_left rest hclose⟩, if_pos ⟨hc, hclose⟩,
        takeWhile_append_of_mem hclose, List.cons_append]
      rfl
    · rw [if_neg (fun hand => hc hand.1), if_neg (fun hand => hc hand.1)]

/-! ### Escaped values -/

theorem filter_isAngle_escapeMarkupChar (c : Char) : (escapeMarkupChar c).filter isAngle = [] := by
  fun_cases escapeMarkupChar c with
  | case1 | case2 | case3 | case4 | case5 | case6 => decide
  | case7 _ _ hless hgreater => simpa [isAngle] using ⟨hless, hgreater⟩

/-- An escaped value holds neither `<` nor `>`. -/
theorem filter_isAngle_escapeMarkup (text : List Char) :
    (escapeMarkup text).filter isAngle = [] := by
  rw [escapeMarkup, List.filter_flatMap, List.flatMap_eq_nil_iff]
  intro c _
  exact filter_isAngle_escapeMarkupChar c

theorem not_mem_escapeMarkup (text : List Char) : '<' ∉ escapeMarkup text := by
  intro h
  exact List.filter_eq_nil_iff.1 (filter_isAngle_escapeMarkup text) '<' h rfl

/-! ### Templates -/

/-- The text of a piece of markup. -/
def PagePiece.markup? : PagePiece → Option String
  | .markup text => some text
  | .value _ => none

/-- The markup of a page, without the values. -/
def Page.template (page : Page) : List String :=
  page.filterMap PagePiece.markup?

/-- Whether each piece of markup closes its own tags, so that no value stands inside a tag. -/
def Page.IsClosed (page : Page) : Prop :=
  ∀ text ∈ page.template, closesTags text.toList = true

section

variable (text : String) (page rest : Page)

@[simp] theorem template_cons_markup :
    Page.template (.markup text :: page) = text :: page.template := rfl

@[simp] theorem template_cons_value : Page.template (.value text :: page) = page.template := rfl

@[simp] theorem template_append :
    Page.template (page ++ rest) = page.template ++ rest.template :=
  List.filterMap_append

theorem template_flatMap {α : Type} (items : List α) (part : α → Page) :
    Page.template (items.flatMap part) = items.flatMap fun item => (part item).template :=
  List.filterMap_flatMap

@[simp] theorem isClosed_nil : Page.IsClosed [] ↔ True :=
  iff_true_intro fun _ h => absurd h List.not_mem_nil

@[simp] theorem isClosed_cons_markup :
    Page.IsClosed (.markup text :: page) ↔ closesTags text.toList = true ∧ page.IsClosed :=
  List.forall_mem_cons

@[simp] theorem isClosed_cons_value : Page.IsClosed (.value text :: page) ↔ page.IsClosed :=
  Iff.rfl

@[simp] theorem isClosed_append : Page.IsClosed (page ++ rest) ↔ page.IsClosed ∧ rest.IsClosed := by
  rw [Page.IsClosed, template_append, List.forall_mem_append]
  rfl

theorem isClosed_flatMap {α : Type} {items : List α} {part : α → Page}
    (h : ∀ item, (part item).IsClosed) : Page.IsClosed (items.flatMap part) := by
  rw [Page.IsClosed, template_flatMap, List.forall_mem_flatMap]
  intro item _
  exact h item

end

theorem toList_render (page : Page) : page.render.toList = page.flatMap PagePiece.render :=
  String.toList_ofList

/-- **The tags of a page** are those of its template. -/
theorem tags_render {page : Page} (h : page.IsClosed) :
    tags page.render.toList = page.template.flatMap (tags ·.toList) := by
  rw [toList_render]
  induction page with
  | nil => rfl
  | cons piece page ih =>
    rw [List.flatMap_cons]
    cases piece with
    | markup text =>
      rw [isClosed_cons_markup] at h
      rw [PagePiece.render, tags_append h.1, ih h.2, template_cons_markup, List.flatMap_cons]
    | value text =>
      have hfree := not_mem_escapeMarkup text.toList
      rw [PagePiece.render, tags_append (closesTags_of_not_mem hfree), tags_of_not_mem hfree,
        List.nil_append, ih h, template_cons_value]

/-- **The angle brackets of a page** are those of its template. -/
theorem filter_isAngle_render (page : Page) :
    page.render.toList.filter isAngle = page.template.flatMap (·.toList.filter isAngle) := by
  rw [toList_render]
  induction page with
  | nil => rfl
  | cons piece page ih =>
    rw [List.flatMap_cons, List.filter_append, ih]
    cases piece with
    | markup text => rfl
    | value text => rw [PagePiece.render, filter_isAngle_escapeMarkup, List.nil_append,
        template_cons_value]

/-! ### The markup of a report closes its tags -/

theorem not_mem_toList_ofList {c : Char} {chars : List Char} (h : c ∉ chars) :
    c ∉ (String.ofList chars).toList := by
  rwa [String.toList_ofList]

theorem not_mem_styleSheet : ∀ line ∈ styleSheet, '<' ∉ line.toList := by
  simp only [styleSheet, List.forall_mem_cons, List.not_mem_nil, false_imp_iff, implies_true,
    and_true]
  and_intros <;> exact not_mem_toList_ofList (by decide)

theorem closesTags_styleSheet :
    closesTags (String.join (styleSheet.map (· ++ "\n"))).toList = true := by
  apply closesTags_of_not_mem
  rw [String.toList_join, List.mem_flatMap]
  rintro ⟨_, hmem, hless⟩
  obtain ⟨line, hline, rfl⟩ := List.mem_map.1 hmem
  rw [String.toList_append, List.mem_append] at hless
  obtain hless | hless := hless
  · exact not_mem_styleSheet line hline hless
  · exact absurd hless (by decide)

/-- A literal is checked by its characters. -/
theorem closesTags_toList_ofList {chars : List Char} (h : closesTags chars = true) :
    closesTags (String.ofList chars).toList = true := by
  rwa [String.toList_ofList]

theorem isClosed_pageHead (snapshot : Snapshot) : (pageHead snapshot).IsClosed := by
  simp only [pageHead, isClosed_cons_markup, isClosed_cons_value, isClosed_nil, and_true,
    closesTags_styleSheet, true_and]
  and_intros <;> exact closesTags_toList_ofList (by decide)

theorem isClosed_pageCards (summary : Summary) : (pageCards summary).IsClosed := by
  simp only [pageCards, pageCard, isClosed_cons_markup, isClosed_cons_value, isClosed_nil,
    List.cons_append, List.nil_append, and_true]
  and_intros <;> exact closesTags_toList_ofList (by decide)

theorem isClosed_pageFileItem {style label : String}
    (h : closesTags ("\n<li class=\"" ++ style ++ "\">" ++ label ++ ": ").toList = true)
    (path : String) : (pageFileItem style label path).IsClosed := by
  simp only [pageFileItem, isClosed_cons_markup, isClosed_cons_value, isClosed_nil, and_true]
  exact ⟨h, closesTags_toList_ofList (by decide)⟩

theorem isClosed_pageEntityChanges (changes : EntityChanges) :
    (pageEntityChanges changes).IsClosed := by
  simp only [pageEntityChanges, List.cons_append, isClosed_cons_markup, isClosed_append,
    isClosed_nil, and_true]
  refine ⟨closesTags_toList_ofList (by decide), ⟨isClosed_flatMap fun _ => ?_,
    isClosed_flatMap fun _ => ?_⟩, closesTags_toList_ofList (by decide)⟩
  all_goals
    simp only [isClosed_cons_markup, isClosed_cons_value, isClosed_nil, and_true]
    and_intros <;> exact closesTags_toList_ofList (by decide)

theorem isClosed_pageModified (file : ModifiedFile) : (pageModified file).IsClosed := by
  have hlist : Page.IsClosed
      (if file.changes.isStructural then pageEntityChanges file.changes else []) := by
    split
    · exact isClosed_pageEntityChanges file.changes
    · exact isClosed_nil.2 trivial
  simp only [pageModified, List.cons_append, List.nil_append, isClosed_append, hlist,
    isClosed_cons_markup, isClosed_cons_value, isClosed_nil, and_true, true_and]
  and_intros <;> exact closesTags_toList_ofList (by decide)

theorem isClosed_pageDrifted (file : DriftedFile) : (pageDrifted file).IsClosed := by
  simp only [pageDrifted, List.cons_append, List.nil_append, isClosed_append,
    isClosed_pageEntityChanges, isClosed_cons_markup, isClosed_cons_value, isClosed_nil, and_true,
    true_and]
  and_intros <;> exact closesTags_toList_ofList (by decide)

theorem isClosed_pageChanges (changes : Changes) : (pageChanges changes).IsClosed := by
  simp only [pageChanges, List.cons_append, isClosed_append, isClosed_cons_markup, isClosed_nil,
    and_true]
  refine ⟨closesTags_toList_ofList (by decide), ?_, closesTags_toList_ofList (by decide)⟩
  split
  · simp only [isClosed_append, isClosed_cons_markup, isClosed_nil, and_true]
    exact ⟨closesTags_toList_ofList (by decide),
      ⟨⟨⟨isClosed_flatMap (isClosed_pageFileItem (by decide)),
        isClosed_flatMap (isClosed_pageFileItem (by decide))⟩,
        isClosed_flatMap isClosed_pageModified⟩, isClosed_flatMap isClosed_pageDrifted⟩,
      closesTags_toList_ofList (by decide)⟩
  · simp only [isClosed_cons_markup, isClosed_nil, and_true]
    exact closesTags_toList_ofList (by decide)

theorem isClosed_pageStack (texts : List String) : (pageStack texts).IsClosed := by
  fun_induction pageStack texts with
  | case1 => exact isClosed_nil.2 trivial
  | case2 text => exact isClosed_nil.2 trivial
  | case3 text texts _ ih =>
    rw [isClosed_cons_value, isClosed_cons_markup]
    exact ⟨by decide, ih⟩

theorem isClosed_pageFileRow (file : ScannedFile) : (pageFileRow file).IsClosed := by
  simp only [pageFileRow, List.cons_append, List.nil_append, isClosed_append, isClosed_pageStack,
    isClosed_cons_markup, isClosed_cons_value, isClosed_nil, and_true, true_and]
  and_intros <;> exact closesTags_toList_ofList (by decide)

theorem isClosed_pageFiles (files : List ScannedFile) : (pageFiles files).IsClosed := by
  simp only [pageFiles, List.cons_append, List.nil_append, isClosed_append,
    isClosed_flatMap isClosed_pageFileRow, isClosed_cons_markup, isClosed_nil, and_true, true_and]
  and_intros <;> exact closesTags_toList_ofList (by decide)

/-- No value of a report stands inside a tag. -/
theorem isClosed_pageReport (snapshot : Snapshot) (changes : Changes) :
    (pageReport snapshot changes).IsClosed := by
  simp only [pageReport, isClosed_append]
  exact ⟨⟨⟨isClosed_pageHead snapshot, isClosed_pageCards snapshot.summary⟩,
    isClosed_pageChanges changes⟩, isClosed_pageFiles snapshot.files⟩

/-! ### Shapes -/

/-- How many declarations were added and removed. -/
def EntityChanges.counts (changes : EntityChanges) : Nat × Nat :=
  (changes.added.items.length, changes.removed.items.length)

/-- How many functions and classes are at the top level. -/
def Extraction.counts (extraction : Extraction) : Nat × Nat :=
  (extraction.functions.length, extraction.classes.length)

/-- How many changes are listed. -/
structure ChangesShape where
  newFiles : Nat
  deletedFiles : Nat
  modifiedFiles : List (Nat × Nat)
  driftedFiles : List (Nat × Nat)
  deriving DecidableEq

/-- The changes that are listed, which are none when nothing changed. -/
def Changes.shape (changes : Changes) : Option ChangesShape :=
  if changes.hasChanges then
    some
      { newFiles := changes.newFiles.length
        deletedFiles := changes.deletedFiles.length
        modifiedFiles := changes.modifiedFiles.map (·.changes.counts)
        driftedFiles := changes.driftedFiles.map (·.changes.counts) }
  else none

/-- How many things a report lists. -/
structure PageShape where
  changes : Option ChangesShape
  files : List (Nat × Nat)
  deriving DecidableEq

/-- How many things the report for a scan and its changes lists. -/
def pageShape (snapshot : Snapshot) (changes : Changes) : PageShape where
  changes := changes.shape
  files := snapshot.files.map (·.analysis.counts)

/-! ### Reports of one shape have one template -/

/-- Lists of parts have one template when their items agree in what the part depends on. -/
theorem template_flatMap_congr {α β : Type} {part : α → Page} (shape : α → β)
    (hpart : ∀ a b, shape a = shape b → (part a).template = (part b).template)
    {left right : List α} (h : left.map shape = right.map shape) :
    Page.template (left.flatMap part) = Page.template (right.flatMap part) := by
  rw [template_flatMap, template_flatMap]
  induction left generalizing right with
  | nil => rw [List.map_eq_nil_iff.1 h.symm]
  | cons a left ih =>
    obtain ⟨b, right', rfl, hhead, htail⟩ := List.map_eq_cons_iff.1 h.symm
    rw [List.flatMap_cons, List.flatMap_cons, hpart a b hhead.symm, ih htail.symm]

/-- Where the part is the same for all items, only their number counts. -/
theorem template_flatMap_of_length {α : Type} {part : α → Page}
    (hpart : ∀ a b, (part a).template = (part b).template)
    {left right : List α} (h : left.length = right.length) :
    Page.template (left.flatMap part) = Page.template (right.flatMap part) := by
  refine template_flatMap_congr (fun _ => ()) (fun a b _ => hpart a b) ?_
  rw [List.map_const', List.map_const', h]

theorem template_pageEntityChanges {left right : EntityChanges} (h : left.counts = right.counts) :
    (pageEntityChanges left).template = (pageEntityChanges right).template := by
  obtain ⟨hadded, hremoved⟩ := Prod.mk.inj h
  simp only [pageEntityChanges, List.cons_append, template_append, template_cons_markup]
  rw [template_flatMap_of_length (fun _ _ => rfl) hadded,
    template_flatMap_of_length (fun _ _ => rfl) hremoved]

theorem isStructural_of_counts {left right : EntityChanges} (h : left.counts = right.counts) :
    left.isStructural = right.isStructural := by
  obtain ⟨hadded, hremoved⟩ := Prod.mk.inj h
  rw [Bool.eq_iff_iff]
  simp [EntityChanges.isStructural, SignatureSet.isEmpty, ← List.length_eq_zero_iff, hadded,
    hremoved]

theorem template_pageModified {left right : ModifiedFile}
    (h : left.changes.counts = right.changes.counts) :
    (pageModified left).template = (pageModified right).template := by
  simp only [pageModified, template_append, isStructural_of_counts h]
  split
  · rw [template_pageEntityChanges h]
    rfl
  · rfl

theorem template_pageDrifted {left right : DriftedFile}
    (h : left.changes.counts = right.changes.counts) :
    (pageDrifted left).template = (pageDrifted right).template := by
  simp only [pageDrifted, template_append, template_pageEntityChanges h]
  rfl

theorem template_pageChanges {left right : Changes} (h : left.shape = right.shape) :
    (pageChanges left).template = (pageChanges right).template := by
  simp only [Changes.shape] at h
  simp only [pageChanges, template_append, template_cons_markup, List.cons_append]
  by_cases hleft : left.hasChanges = true <;> by_cases hright : right.hasChanges = true
  · rw [if_pos hleft, if_pos hright] at h
    obtain ⟨hnew, hdeleted, hmodified, hdrifted⟩ := ChangesShape.mk.inj (Option.some.inj h)
    rw [if_pos hleft, if_pos hright]
    simp only [template_append, template_cons_markup]
    rw [template_flatMap_of_length (fun _ _ => rfl) hnew,
      template_flatMap_of_length (fun _ _ => rfl) hdeleted,
      template_flatMap_congr _ (fun _ _ => template_pageModified) hmodified,
      template_flatMap_congr _ (fun _ _ => template_pageDrifted) hdrifted]
  · simp [hleft, hright] at h
  · simp [hleft, hright] at h
  · rw [if_neg hleft, if_neg hright]

theorem template_pageStack (texts : List String) :
    (pageStack texts).template = List.replicate (texts.length - 1) "<br>" := by
  fun_induction pageStack texts with
  | case1 => rfl
  | case2 text => rfl
  | case3 text texts hne ih =>
    have hlength : 0 < texts.length := List.length_pos_iff.2 (by simpa using hne)
    rw [template_cons_value, template_cons_markup, ih, ← List.replicate_succ]
    congr 1
    simp only [List.length_cons]
    omega

theorem template_pageFileRow {left right : ScannedFile}
    (h : left.analysis.counts = right.analysis.counts) :
    (pageFileRow left).template = (pageFileRow right).template := by
  obtain ⟨hfunctions, hclasses⟩ := Prod.mk.inj h
  simp only [pageFileRow, template_append, template_pageStack, List.length_map, hfunctions,
    hclasses]
  rfl

/-- **The template of a report** is fixed by its shape. -/
theorem template_pageReport {snapshot snapshot' : Snapshot} {changes changes' : Changes}
    (h : pageShape snapshot changes = pageShape snapshot' changes') :
    (pageReport snapshot changes).template = (pageReport snapshot' changes').template := by
  obtain ⟨hchanges, hfiles⟩ := PageShape.mk.inj h
  simp only [pageReport, pageFiles, template_append, template_pageChanges hchanges,
    template_flatMap_congr _ (fun _ _ => template_pageFileRow) hfiles]
  rfl

/-- **No value adds, removes or changes a tag.** Reports that list equally many things have the same
tags, and all angle brackets of a report are those of its template. -/
theorem page_admits_no_markup {snapshot snapshot' : Snapshot} {changes changes' : Changes}
    (h : pageShape snapshot changes = pageShape snapshot' changes') :
    tags (ReportFormat.html.render snapshot changes).toList =
        tags (ReportFormat.html.render snapshot' changes').toList ∧
      (pageReport snapshot changes).template = (pageReport snapshot' changes').template ∧
      tags (ReportFormat.html.render snapshot changes).toList =
        (pageReport snapshot changes).template.flatMap (tags ·.toList) ∧
      (ReportFormat.html.render snapshot changes).toList.filter isAngle =
        (pageReport snapshot changes).template.flatMap (·.toList.filter isAngle) := by
  have htags := tags_render (isClosed_pageReport snapshot changes)
  have htags' := tags_render (isClosed_pageReport snapshot' changes')
  have htemplate := template_pageReport h
  refine ⟨?_, htemplate, htags, filter_isAngle_render _⟩
  calc tags (pageReport snapshot changes).render.toList
    _ = (pageReport snapshot changes).template.flatMap (tags ·.toList) := htags
    _ = (pageReport snapshot' changes').template.flatMap (tags ·.toList) := by rw [htemplate]
    _ = tags (pageReport snapshot' changes').render.toList := htags'.symm

/-- A scan of one file with a function and a class, called by the given name throughout. -/
def scanNamed (name : String) : Snapshot where
  scanId := name
  timestamp := .epoch
  targetFolder := name
  files := [⟨name, name, 9, none, name, .braceFamily, ⟨name,
    [.function ⟨name, .arrowFunction, 1, 1, [name]⟩,
      .classLike ⟨name, .plainClass, 2, 9, [⟨name, .method, 3, 4, [name, name]⟩]⟩], 9⟩⟩]
  folders := []
  summary := {}

/-- A new, a modified and a drifted file of the given name. -/
def changesNamed (name : String) : Changes where
  hasChanges := true
  newFiles := [name]
  modifiedFiles :=
    [⟨name, 1, 2, 1, ⟨.ofList [name], .empty, .empty⟩⟩, ⟨name, 1, 2, 1, ⟨.empty, .empty, .empty⟩⟩]
  driftedFiles := [⟨name, ⟨.empty, .ofList [name], .empty⟩⟩]

theorem page_admits_no_markup_script :
    pageShape (scanNamed "<script>") (changesNamed "</li><b") =
        pageShape (scanNamed "main.js") (changesNamed "run") ∧
      tags (ReportFormat.html.render (scanNamed "<script>") (changesNamed "</li><b")).toList =
        tags (ReportFormat.html.render (scanNamed "main.js") (changesNamed "run")).toList := by
  have hshape : pageShape (scanNamed "<script>") (changesNamed "</li><b") =
      pageShape (scanNamed "main.js") (changesNamed "run") := by decide
  exact ⟨hshape, (page_admits_no_markup hshape).1⟩

end Driftwatch
