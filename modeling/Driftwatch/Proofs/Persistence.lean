import Driftwatch.Proofs.StoredForms
import Driftwatch.Report.Render

/-!
# Written files read back

Two files hold structured values: the history of scans and the report in the structured format. What
is written to either of them is read back as it was, whatever characters its texts hold. The only
conditions are those of the data itself. Counts fit a word, differences of counts fit a word with a
sign, and moments are of a year that a moment can have.

The changes between two scans hold sets of signatures. A set is written as the list of its members
and read by putting them together again, which gives the same set because its members are listed in
their order.

## Main definitions

* `ModifiedFile.IsStorable`, `Changes.IsStorable`: counts and differences within bounds.
* `readReport?`: the scan and the changes that a report in the structured format holds.

## Main results

* `SignatureSet.ofList_items`: a set is the set of its members.
* `Changes.stores`: changes between scans.
* `written_files_read_back`: histories and reports.
-/

namespace Driftwatch

namespace Stores

theorem flag (value : Bool) : Stores 0 value :=
  ⟨rfl, fun _ _ => .bool value⟩

theorem difference {n : Int} (hlow : -(signLimit : Int) ≤ n) (hhigh : n < signLimit) :
    Stores 0 n := by
  have hword : (signLimit : Int) ≤ wordLimit := by decide
  refine ⟨?_, fun _ _ => .int hlow (by omega)⟩
  show (if -(signLimit : Int) ≤ n ∧ n < signLimit then some n else none) = some n
  rw [if_pos ⟨hlow, hhigh⟩]

theorem texts (items : List String) : Stores 1 items :=
  Stores.list fun text _ => Stores.string text

end Stores

/-! ### Sets of signatures -/

/-- A text before all others of a list is put at its head. -/
theorem insertText_of_lt {text : String} {list : List String} (h : ∀ x ∈ list, text < x) :
    insertText text list = text :: list := by
  cases list with
  | nil => rfl
  | cons head tail => rw [insertText, if_pos (h head List.mem_cons_self)]

namespace SignatureSet

theorem items_ofList {list : List String} (h : list.Pairwise (· < ·)) :
    (ofList list).items = list := by
  induction list with
  | nil => rfl
  | cons head tail ih =>
    obtain ⟨hhead, htail⟩ := List.pairwise_cons.1 h
    show insertText head (ofList tail).items = head :: tail
    rw [ih htail, insertText_of_lt hhead]

/-- A set is the set of its members. -/
theorem ofList_items (set : SignatureSet) : ofList set.items = set := by
  have hitems := items_ofList set.increasing
  cases hset : ofList set.items
  cases set
  rw [hset] at hitems
  cases hitems
  rfl

theorem stores (set : SignatureSet) : Stores 1 set := by
  have hitems := Stores.texts set.items
  refine ⟨?_, hitems.fits⟩
  show (ofJson? (toJson set.items)).map ofList = some set
  rw [hitems.reads, Option.map_some, ofList_items]

end SignatureSet

theorem EntityChanges.stores (changes : EntityChanges) : Stores 2 changes := by
  constructor
  · have hfields : (toJson changes).fields? ["added", "removed", "unchanged"] =
        some [some (toJson changes.added), some (toJson changes.removed),
          some (toJson changes.unchanged)] :=
      Json.fields?_obj (by simp)
    show EntityChanges.ofJson? (toJson changes) = some changes
    simp only [EntityChanges.ofJson?, hfields, (SignatureSet.stores _).required,
      Option.bind_eq_bind, Option.bind_some]
    rfl
  · intro level hlevel
    refine fits_obj hlevel ?_
    simp only [List.forall_mem_cons]
    exact ⟨(SignatureSet.stores _).fits, (SignatureSet.stores _).fits, (SignatureSet.stores _).fits,
      List.forall_mem_nil _⟩

/-! ### Changes between scans -/

namespace ModifiedFile

/-- The line counts of a file fit words, and their difference fits a word with a sign. -/
structure IsStorable (file : ModifiedFile) : Prop where
  previousLines : file.previousLines < wordLimit
  currentLines : file.currentLines < wordLimit
  neg_le_lineDiff : -(signLimit : Int) ≤ file.lineDiff
  lineDiff_lt : file.lineDiff < signLimit

variable {file : ModifiedFile}

-- As for totals, the fields are variables, so that no count is compared with its bound.
theorem ofJson?_of_fields {value : Json} {path previous current difference changes : Option Json}
    (hfields : value.fields?
        ["file_path", "previous_lines", "current_lines", "line_diff", "function_changes"] =
      some [path, previous, current, difference, changes])
    (hpath : Json.required? path = some file.filePath)
    (hprevious : Json.required? previous = some file.previousLines)
    (hcurrent : Json.required? current = some file.currentLines)
    (hdifference : Json.required? difference = some file.lineDiff)
    (hchanges : Json.required? changes = some file.changes) :
    ModifiedFile.ofJson? value = some file := by
  simp only [ModifiedFile.ofJson?, hfields, hpath, hprevious, hcurrent, hdifference, hchanges,
    Option.bind_eq_bind, Option.bind_some]
  rfl

theorem stores (h : file.IsStorable) : Stores 3 file := by
  have hprevious := Stores.count h.previousLines
  have hcurrent := Stores.count h.currentLines
  have hdifference := Stores.difference h.neg_le_lineDiff h.lineDiff_lt
  constructor
  · have hfields : (toJson file).fields?
          ["file_path", "previous_lines", "current_lines", "line_diff", "function_changes"] =
        some [some (toJson file.filePath), some (toJson file.previousLines),
          some (toJson file.currentLines), some (toJson file.lineDiff),
          some (toJson file.changes)] :=
      Json.fields?_obj (by simp)
    exact ofJson?_of_fields hfields (Stores.string _).required hprevious.required
      hcurrent.required hdifference.required (EntityChanges.stores _).required
  · intro level hlevel
    refine fits_obj hlevel ?_
    simp only [List.forall_mem_cons]
    exact ⟨((Stores.string _).mono (by omega)).fits, (hprevious.mono (by omega)).fits,
      (hcurrent.mono (by omega)).fits, (hdifference.mono (by omega)).fits,
      (EntityChanges.stores _).fits, List.forall_mem_nil _⟩

end ModifiedFile

theorem DriftedFile.stores (file : DriftedFile) : Stores 3 file := by
  constructor
  · have hfields : (toJson file).fields? ["file_path", "function_changes"] =
        some [some (toJson file.filePath), some (toJson file.changes)] :=
      Json.fields?_obj (by simp)
    show DriftedFile.ofJson? (toJson file) = some file
    simp only [DriftedFile.ofJson?, hfields, (Stores.string _).required,
      (EntityChanges.stores _).required, Option.bind_eq_bind, Option.bind_some]
    rfl
  · intro level hlevel
    refine fits_obj hlevel ?_
    simp only [List.forall_mem_cons]
    exact ⟨((Stores.string _).mono (by omega)).fits, (EntityChanges.stores _).fits,
      List.forall_mem_nil _⟩

namespace Changes

/-- The counts of all modified files are within their bounds. -/
def IsStorable (changes : Changes) : Prop :=
  ∀ file ∈ changes.modifiedFiles, file.IsStorable

variable {changes : Changes}

theorem stores (h : changes.IsStorable) : Stores 5 changes := by
  have hmodified : Stores 4 changes.modifiedFiles :=
    Stores.list fun file hfile => ModifiedFile.stores (h file hfile)
  have hdrifted : Stores 4 changes.driftedFiles := Stores.list fun file _ => file.stores
  constructor
  · have hfields : (toJson changes).fields? fieldNames =
        some [some (toJson changes.hasChanges), some (toJson changes.newFiles),
          some (toJson changes.deletedFiles), some (toJson changes.modifiedFiles),
          some (toJson changes.driftedFiles), some (toJson changes.unchangedFiles)] :=
      Json.fields?_obj (by simp)
    show Changes.ofJson? (toJson changes) = some changes
    simp only [Changes.ofJson?, hfields, (Stores.flag _).required, (Stores.texts _).required,
      hmodified.required, hdrifted.required, Option.bind_eq_bind, Option.bind_some]
    rfl
  · intro level hlevel
    refine fits_obj hlevel ?_
    simp only [List.forall_mem_cons]
    exact ⟨((Stores.flag _).mono (by omega)).fits, ((Stores.texts _).mono (by omega)).fits,
      ((Stores.texts _).mono (by omega)).fits, hmodified.fits, hdrifted.fits,
      ((Stores.texts _).mono (by omega)).fits, List.forall_mem_nil _⟩

end Changes

/-! ### Reports -/

/-- The scan and the changes that a report in the structured format holds. -/
def readReport? (text : String) : Option (Snapshot × Changes) := do
  let [snapshot, changes] ← (← Json.parse? text).fields? ["snapshot", "changes"] | none
  return (← Json.required? snapshot, ← Json.required? changes)

theorem readReport?_render {snapshot : Snapshot} {changes : Changes}
    (hsnapshot : snapshot.IsStorable) (hchanges : changes.IsStorable) :
    readReport? (ReportFormat.json.render snapshot changes) = some (snapshot, changes) := by
  have hleft := Snapshot.stores hsnapshot
  have hright := Changes.stores hchanges
  have hfits : (reportJson snapshot changes).Fits 0 := by
    refine fits_obj (show 0 + (9 + 1) ≤ Json.levelLimit by decide) ?_
    simp only [List.forall_mem_cons]
    exact ⟨hleft.fits, (hright.mono (by omega)).fits, List.forall_mem_nil _⟩
  have hparse : Json.parse? (ReportFormat.json.render snapshot changes) =
      some (reportJson snapshot changes) :=
    Json.parse?_pretty hfits
  have hfields : (reportJson snapshot changes).fields? ["snapshot", "changes"] =
      some [some (toJson snapshot), some (toJson changes)] :=
    Json.fields?_obj (by simp)
  simp only [readReport?, hparse, hfields, hleft.required, hright.required, Option.bind_eq_bind,
    Option.bind_some]
  rfl

/-- **Written files read back.** The text of a history gives back its scans, and the text of a
report in the structured format gives back the scan and the changes that it was made of. -/
theorem written_files_read_back :
    (∀ scans : List Snapshot, (∀ scan ∈ scans, scan.IsStorable) →
      History.decode? (History.encode scans) = some scans) ∧
    ∀ (snapshot : Snapshot) (changes : Changes), snapshot.IsStorable → changes.IsStorable →
      readReport? (ReportFormat.json.render snapshot changes) = some (snapshot, changes) := by
  constructor
  · intro scans hscans
    exact History.decode?_encode hscans
  · intro snapshot changes hsnapshot hchanges
    exact readReport?_render hsnapshot hchanges

/-- A scan in a leap second of the year zero, of a class in a file of the largest size. -/
def leapSecondScan : Snapshot where
  scanId := "a\"b\\c\u0000\n"
  timestamp := ⟨⟨0, 12, 31⟩, 23, 59, 60, 123456789⟩
  targetFolder := "\t\u007fπ"
  files :=
    [⟨"d/x.js", "x.js", wordLimit - 1, none, "", .braceFamily,
      ⟨"d/x.js", [.classLike ⟨"A", .plainClass, 1, 3, [⟨"f", .method, 2, 2, ["a"]⟩]⟩,
        .function ⟨"f", .method, 2, 2, ["a"]⟩], 3⟩⟩]
  folders := [⟨"d", "d"⟩]
  summary := { totalFiles := 1, totalFolders := 1, totalLines := 3, braceFamilyFiles := 1 }

/-- Changes with the smallest difference of line counts. -/
def leapSecondChanges : Changes where
  hasChanges := true
  newFiles := ["d/x.js"]
  modifiedFiles :=
    [⟨"y\r", wordLimit - 1, 0, -signLimit, ⟨.ofList ["\u0001", ""], .empty, .ofList ["\\"]⟩⟩]

theorem written_files_read_back_leapSecond :
    leapSecondScan.IsStorable ∧ leapSecondChanges.IsStorable ∧
      History.decode? (History.encode [leapSecondScan, leapSecondScan]) =
        some [leapSecondScan, leapSecondScan] ∧
      readReport? (ReportFormat.json.render leapSecondScan leapSecondChanges) =
        some (leapSecondScan, leapSecondChanges) := by
  have hfunction : FunctionEntity.IsStorable ⟨"f", .method, 2, 2, ["a"]⟩ := ⟨by decide, by decide⟩
  have hscan : leapSecondScan.IsStorable := by
    refine ⟨by decide, ?_, by constructor <;> decide⟩
    refine List.forall_mem_singleton.2 ⟨by decide, fun _ htime => (nomatch htime), ?_, by decide⟩
    refine List.forall_mem_cons.2 ⟨⟨by decide, by decide, ?_⟩, ?_⟩
    · exact List.forall_mem_singleton.2 hfunction
    · exact List.forall_mem_singleton.2 hfunction
  have hchanges : leapSecondChanges.IsStorable :=
    List.forall_mem_singleton.2 ⟨by decide, by decide, by decide, by decide⟩
  have hscans : ∀ scan ∈ [leapSecondScan, leapSecondScan], scan.IsStorable :=
    List.forall_mem_cons.2 ⟨hscan, List.forall_mem_singleton.2 hscan⟩
  obtain ⟨hhistory, hreport⟩ := written_files_read_back
  exact ⟨hscan, hchanges, hhistory _ hscans, hreport _ _ hscan hchanges⟩

end Driftwatch
