import Driftwatch.Proofs.Extraction
import Driftwatch.Proofs.MemoryStore
import Driftwatch.Proofs.Repair
import Driftwatch.Proofs.StoredForms
import Driftwatch.Scan.Folder

/-!
# Counts of a snapshot

Every count that a scan records is bounded by the room that the scanned files take. A store that
fits the memory of a machine therefore has snapshots that can be stored and read back.

## The shape of the argument

A listing is built by insertions into an ordered list, so each of its sums is bounded by the sum
over the files that were put in (`Memory.sum_listing_le`). With the measure one this bounds the
number of files and folders, and with the number of lines it bounds the total of lines: a listed
file is read back under its own path, and it has no more lines than bytes.

## Main definitions

* `Memory.extent`: the room that files and paths take.

## Main results

* `extractLines_isStorable`: lines of declarations.
* `Memory.sum_listing_le`, `Memory.forall_listing`: what a listing holds.
* `scanTarget_isStorable`: snapshots of stores in memory.
-/

namespace Driftwatch

/-! ### Lines -/

theorem length_lines_le (text : List Char) : (lines text).length ≤ text.length := by
  fun_induction lines text with
  | case1 => exact Nat.le_refl _
  | case2 rest ih => simp only [List.length_cons]; omega
  | case3 rest ih => simp only [List.length_cons]; omega
  | case4 c rest _ _ hlines _ => simp
  | case5 c rest _ _ line following hlines ih =>
    simp only [hlines, List.length_cons] at ih ⊢
    omega

theorem length_repairFrom_le (count : Nat) (bytes : List UInt8) :
    (repairFrom count bytes).length ≤ bytes.length := by
  fun_induction repairFrom count bytes with
  | case1 => exact Nat.le_refl _
  | case2 _ _ _ ih => exact Nat.le_succ_of_le ih
  | case3 _ _ _ ih => exact Nat.succ_le_succ ih

theorem size_toUTF8_le (text : String) : text.toUTF8.size ≤ 4 * text.length := by
  have hencode : ∀ chars : List Char, chars.utf8Encode.size ≤ 4 * chars.length := by
    intro chars
    induction chars with
    | nil => exact Nat.le_refl _
    | cons c chars ih =>
      have hchar := c.utf8Size_le_four
      rw [List.utf8Encode_cons, ByteArray.size_append, List.utf8Encode_singleton,
        List.size_toByteArray, String.length_utf8EncodeChar, List.length_cons]
      omega
  have htext := hencode text.toList
  rwa [String.utf8Encode_toList, String.length_toList] at htext

theorem length_repairUtf8_le (bytes : ByteArray) : (repairUtf8 bytes).length ≤ bytes.size := by
  rw [← String.length_toList, toList_repairUtf8]
  exact length_repairFrom_le 0 _

/-! ### Analyses -/

variable {rows : List (List Char)}

/-- A function on a line of a text names lines of the text. -/
theorem functionEntity_isStorable (h : rows.length < wordLimit) {number : Nat} (hpos : 0 < number)
    (hle : number ≤ rows.length) (line : List Char) (found : FunctionDeclaration) :
    (functionEntity rows number line found).IsStorable := by
  have hbounds := endLine_bounds hpos hle (.ofFunctionLine line)
  refine ⟨?_, ?_⟩
  · exact Nat.lt_of_le_of_lt hle h
  · exact Nat.lt_of_le_of_lt hbounds.2 h

theorem classEntity_isStorable (h : rows.length < wordLimit) {number : Nat} (hpos : 0 < number)
    (hle : number ≤ rows.length) (line : List Char) (found : ClassDeclaration) :
    (classEntity rows number line found).IsStorable := by
  have hbounds := endLine_bounds hpos hle (.ofClassLine line found.kind)
  refine ⟨Nat.lt_of_le_of_lt hle h, Nat.lt_of_le_of_lt hbounds.2 h, fun method hmethod => ?_⟩
  simp only [classEntity] at hmethod
  split at hmethod
  · obtain ⟨number, line, found, hfirst, hlast, -, -, rfl⟩ := mem_methodsBetween hmethod
    exact functionEntity_isStorable h (by omega) (by omega) line found
  · cases hmethod

theorem extractLines_isStorable (h : rows.length < wordLimit) : (extractLines rows).IsStorable := by
  refine ⟨fun entity hentity => ?_, h⟩
  obtain ⟨number, line, hpos, hle, -, hentity⟩ := mem_extractLines hentity
  obtain ⟨found, -, rfl⟩ | ⟨found, -, rfl⟩ := mem_entitiesOn.1 hentity
  · exact functionEntity_isStorable h hpos hle line found
  · exact classEntity_isStorable h hpos hle line found

theorem ofLineCount_isStorable (filePath : String) {count : Nat} (h : count < wordLimit) :
    (Extraction.ofLineCount filePath count).IsStorable :=
  ⟨fun _ hentity => absurd hentity List.not_mem_nil, h⟩

namespace Language

variable (language : Language) (filePath text : String)

theorem totalLines_analyse : (language.analyse filePath text).totalLines =
    (lines text.toList).length := by
  cases language <;> rfl

theorem analyse_isStorable (h : (lines text.toList).length < wordLimit) :
    (language.analyse filePath text).IsStorable := by
  cases language with
  | braceFamily => exact ⟨(extractLines_isStorable h).entities, h⟩
  | python => exact ofLineCount_isStorable filePath h
  | other => exact ofLineCount_isStorable filePath h

end Language

/-! ### Listings -/

/-- The item for a folder above a listed file. -/
def ListedItem.folder (path : Path) : ListedItem :=
  ⟨path, true, 0, none⟩

/-- The item for a listed file. -/
def ListedItem.file (path : Path) (content : Content) : ListedItem :=
  ⟨path, false, content.size, some .epoch⟩

namespace Memory

variable {memory : Memory} {root : Path} {names : List String} {items : List ListedItem}

/-- What a file adds to a sum over a listing: its folders and itself. -/
def added (measure : ListedItem → Nat) (relative : Path) (content : Content) : Nat :=
  (relative.properAncestors.map fun folder => measure (.folder folder)).sum +
    measure (.file relative content)

theorem weight_addEntries_le (measure : ListedItem → Nat) (names : List String) (relative : Path)
    (content : Content) (entries : PathMap ListedItem) :
    (addEntries names relative content entries).weight measure ≤
      entries.weight measure + added measure relative content := by
  have hfolders : ∀ (folders : List Path) (entries : PathMap ListedItem),
      PathMap.weight measure (folders.foldl
        (fun entries folder => entries.insertNew folder (.folder folder)) entries) ≤
      entries.weight measure + (folders.map fun folder => measure (.folder folder)).sum := by
    intro folders
    induction folders with
    | nil => exact fun entries => Nat.le_refl _
    | cons folder folders ih =>
      intro entries
      have hrest := ih (entries.insertNew folder (.folder folder))
      have hnew := PathMap.weight_insertNew_le measure folder (.folder folder) entries
      rw [List.foldl_cons, List.map_cons, List.sum_cons]
      omega
  unfold addEntries added
  split
  · omega
  · have hall := hfolders relative.properAncestors entries
    have hfile := PathMap.weight_insert_le measure relative (.file relative content)
      (relative.properAncestors.foldl
        (fun entries folder => entries.insertNew folder (.folder folder)) entries)
    exact Nat.le_trans hfile (by omega)

theorem sum_listing_le_below (h : memory.listing root names = .ok items)
    (measure : ListedItem → Nat) : (items.map measure).sum ≤
      ((memory.below root).map fun file => added measure file.1 file.2).sum := by
  have hfold : ∀ (files : List (Path × Content)) (entries : PathMap ListedItem),
      PathMap.weight measure
        (files.foldl (fun entries file => addEntries names file.1 file.2 entries) entries) ≤
      entries.weight measure + (files.map fun file => added measure file.1 file.2).sum := by
    intro files
    induction files with
    | nil => exact fun entries => Nat.le_refl _
    | cons file files ih =>
      intro entries
      have hrest := ih (addEntries names file.1 file.2 entries)
      have hfirst := weight_addEntries_le measure names file.1 file.2 entries
      rw [List.foldl_cons, List.map_cons, List.sum_cons]
      omega
  unfold listing at h
  split at h
  · cases h
  · cases h
    have hall := hfold (memory.below root) .empty
    simp only [PathMap.weight, PathMap.entries_empty, List.map_nil, List.sum_nil,
      Nat.zero_add] at hall
    simpa only [List.map_map, Function.comp_def] using hall

/-- A sum over a listing is bounded by a sum over the stored files that bounds what each of them
adds. -/
theorem sum_listing_le (h : memory.listing root names = .ok items) {measure : ListedItem → Nat}
    {bound : Path × Content → Nat}
    (hbound : ∀ entry ∈ memory.files.entries, ∀ relative,
      entry.1.stripPrefix? root = some relative → added measure relative entry.2 ≤ bound entry) :
    (items.map measure).sum ≤ (memory.files.entries.map bound).sum := by
  refine Nat.le_trans (sum_listing_le_below h measure) ?_
  rw [below]
  generalize memory.files.entries = files at hbound
  induction files with
  | nil => exact Nat.le_refl _
  | cons entry files ih =>
    obtain ⟨hentry, hrest⟩ := List.forall_mem_cons.1 hbound
    have hfiles := ih hrest
    rw [List.filterMap_cons, List.map_cons, List.sum_cons]
    cases hstrip : entry.1.stripPrefix? root with
    | none =>
      simp only [Option.map_none]
      omega
    | some relative =>
      have hadded := hentry relative hstrip
      simp only [Option.map_some, List.map_cons, List.sum_cons]
      omega

/-- What holds of all folders and of the stored files below the root that are not left out holds of
a listing. -/
theorem forall_listing (h : memory.listing root names = .ok items) {P : ListedItem → Prop}
    (hfolder : ∀ folder, P (.folder folder))
    (hfile : ∀ entry ∈ memory.files.entries, ∀ relative,
      entry.1.stripPrefix? root = some relative →
      ¬(ignores names relative || relative.bytes = []) = true → P (.file relative entry.2)) :
    ∀ item ∈ items, P item := by
  have hall : ∀ entry ∈ ((memory.below root).foldl
      (fun entries file => addEntries names file.1 file.2 entries) .empty).entries, P entry.2 := by
    refine List.foldlRecOn
      (motive := fun map : PathMap ListedItem => ∀ entry ∈ map.entries, P entry.2) _ _
      (fun _ hnil => absurd hnil List.not_mem_nil) fun entries hentries file hmem => ?_
    unfold addEntries
    split
    · exact hentries
    · next hshown =>
      obtain ⟨entry, hentry, hstrip⟩ := List.mem_filterMap.1 hmem
      obtain ⟨relative, hrelative, rfl⟩ := Option.map_eq_some_iff.1 hstrip
      refine PathMap.forall_insert ?_ (hfile entry hentry relative hrelative hshown)
      exact List.foldlRecOn
        (motive := fun map : PathMap ListedItem => ∀ entry ∈ map.entries, P entry.2) _ _ hentries
        fun entries hentries folder _ => PathMap.forall_insertNew hentries (hfolder folder)
  unfold listing at h
  split at h
  · cases h
  · cases h
    intro item hitem
    obtain ⟨entry, hentry, rfl⟩ := List.mem_map.1 hitem
    exact hall entry hentry

/-! ### The room that files take -/

/-- The room that the files of a store take: their bytes, the bytes of their paths and one for each
of them. -/
def extent (memory : Memory) : Nat :=
  (memory.files.entries.map fun entry => entry.1.bytes.length + 1 + entry.2.size).sum

theorem size_le_extent {entry : Path × Content} (h : entry ∈ memory.files.entries) :
    entry.2.size ≤ memory.extent := by
  unfold extent
  generalize memory.files.entries = files at h
  induction files with
  | nil => cases h
  | cons first files ih =>
    rw [List.map_cons, List.sum_cons]
    rcases List.mem_cons.1 h with rfl | h
    · omega
    · have hle := ih h
      omega

theorem size_le_extent_of_readBytes {path : Path} {data : ByteArray}
    (h : memory.readBytes path = .ok data) : data.size ≤ memory.extent := by
  unfold readBytes at h
  split at h
  · next hfind =>
    cases h
    obtain ⟨key, hmem, -⟩ := PathMap.exists_mem_of_find? hfind
    exact size_le_extent hmem
  · cases h
  · cases h

/-- A listing has no more items than the paths of the files have bytes, and one for each. -/
theorem length_listing_le (h : memory.listing root names = .ok items) :
    items.length ≤ memory.extent := by
  have hone : ∀ entry ∈ memory.files.entries, ∀ relative,
      entry.1.stripPrefix? root = some relative →
      added (fun _ => 1) relative entry.2 ≤ entry.1.bytes.length + 1 + entry.2.size := by
    intro entry _ relative hrelative
    have hancestors := relative.length_properAncestors_le
    have hcomponents := congrArg List.length (Path.stripPrefix?_spec hrelative).1
    have htext := entry.1.length_components_le
    rw [List.length_append] at hcomponents
    simp only [added, List.map_const', List.sum_replicate_nat]
    omega
  have hsum := sum_listing_le h hone
  rwa [List.map_const', List.sum_replicate_nat, Nat.mul_one] at hsum

end Memory

/-! ### Records -/

variable {memory : Memory} {target : Path}

theorem recordFile_isStorable (hextent : memory.extent < wordLimit) {item : ListedItem}
    (hsize : item.size ≤ memory.extent)
    (htime : ∀ time, item.modified = some time → time.IsStorable) :
    (recordFile memory target item).IsStorable := by
  refine ⟨Nat.lt_of_le_of_lt hsize hextent, htime, ?_⟩
  simp only [recordFile, ScannedFile.ofListed]
  cases hread : FileStore.readBytes memory (target.join item.path) with
  | error fault => exact ofLineCount_isStorable _ (by decide)
  | ok data =>
    have hdata : data.size ≤ memory.extent := Memory.size_le_extent_of_readBytes hread
    have hlines := length_lines_le (repairUtf8 data).toList
    have htext := length_repairUtf8_le data
    rw [String.length_toList] at hlines
    exact Language.analyse_isStorable _ _ _ (by omega)

/-- A listed file is read under its own path, so its record is known from its content. -/
theorem recordFile_file {path relative : Path} {content : Content}
    (hmem : (path, content) ∈ memory.files.entries)
    (hrelative : path.stripPrefix? target = some relative) :
    recordFile memory target (.file relative content) =
      .ofListed (.file relative content) content.bytes? := by
  have hfind : memory.files.find? (target.join relative) = some content :=
    memory.files.find?_of_mem hmem (Path.components_join_stripPrefix? hrelative).symm
  have hread : (FileStore.readBytes memory (target.join relative)).toOption =
      (memory.readBytes (target.join relative)).toOption := rfl
  rw [Memory.toOption_readBytes, hfind] at hread
  exact congrArg _ hread

/-- A listed file has no more lines than bytes. -/
theorem totalLines_recordFile_le {path relative : Path} {content : Content}
    (hmem : (path, content) ∈ memory.files.entries)
    (hrelative : path.stripPrefix? target = some relative) :
    (recordFile memory target (.file relative content)).analysis.totalLines ≤ content.size := by
  rw [recordFile_file hmem hrelative]
  cases content with
  | locked => exact Nat.le_refl _
  | bytes data =>
    have hlines := length_lines_le (repairUtf8 data).toList
    have htext := length_repairUtf8_le data
    rw [String.length_toList] at hlines
    simp only [ScannedFile.ofListed, Content.bytes?, Language.totalLines_analyse, Content.size]
    omega

/-! ### Snapshots -/

/-- The lines of a file in a listing, and none for a folder. -/
def listedLines (memory : Memory) (target : Path) (item : ListedItem) : Nat :=
  if item.isDir then 0 else (recordFile memory target item).analysis.totalLines

theorem totalLines_eq_sum (items : List ListedItem) (folders : Nat) :
    (Summary.ofFiles ((items.filter (!·.isDir)).map (recordFile memory target))
      folders).totalLines = (items.map (listedLines memory target)).sum := by
  simp only [Summary.ofFiles]
  induction items with
  | nil => rfl
  | cons item items ih =>
    cases hdir : item.isDir with
    | true => simp [hdir, listedLines, ih]
    | false => simp [hdir, listedLines, ih]

theorem sum_listedLines_le {names : List String} {items : List ListedItem}
    (h : memory.listing target names = .ok items) :
    (items.map (listedLines memory target)).sum ≤ memory.extent := by
  refine Memory.sum_listing_le h fun entry hentry relative hrelative => ?_
  have hlines := totalLines_recordFile_le hentry hrelative
  have hfolders : ∀ folder, listedLines memory target (.folder folder) = 0 := fun folder => rfl
  have hfile : listedLines memory target (.file relative entry.2) =
      (recordFile memory target (.file relative entry.2)).analysis.totalLines := rfl
  simp only [Memory.added, hfolders, hfile, List.map_const', List.sum_replicate_nat]
  omega

theorem summary_isStorable {files : List ScannedFile} {folders : Nat}
    (hfiles : files.length < wordLimit) (hfolders : folders < wordLimit)
    (hlines : (Summary.ofFiles files folders).totalLines < wordLimit) :
    (Summary.ofFiles files folders).IsStorable := by
  have hcount (p : ScannedFile → Bool) : files.countP p < wordLimit :=
    Nat.lt_of_le_of_lt List.countP_le_length hfiles
  exact ⟨hfiles, hfolders, hlines, hcount _, hcount _, hcount _⟩

theorem takeSnapshot_isStorable {workspace : Workspace Memory} {names : List String}
    {items : List ListedItem} (hextent : workspace.store.extent < wordLimit)
    (hnow : workspace.now.IsStorable)
    (h : workspace.store.listing target names = .ok items) :
    (takeSnapshot workspace target items).IsStorable := by
  have hlength := Memory.length_listing_le h
  have hlisted : ∀ item ∈ items, item.size ≤ workspace.store.extent ∧
      ∀ time, item.modified = some time → time.IsStorable := by
    refine Memory.forall_listing h (fun folder => ?_) (fun entry hentry relative _ _ => ?_)
    · exact ⟨Nat.zero_le _, fun time htime => by cases htime⟩
    · exact ⟨Memory.size_le_extent hentry, fun time htime => by cases htime; decide⟩
  refine ⟨hnow, fun file hfile => ?_, summary_isStorable ?_ ?_ ?_⟩
  · obtain ⟨item, hitem, rfl⟩ := List.mem_map.1 hfile
    obtain ⟨hsize, htime⟩ := hlisted item (List.mem_of_mem_filter hitem)
    exact recordFile_isStorable hextent hsize htime
  · have hfilter := List.length_filter_le (!·.isDir) items
    rw [List.length_map]
    omega
  · have hfilter := List.length_filter_le (·.isDir) items
    rw [List.length_map]
    omega
  · rw [totalLines_eq_sum]
    exact Nat.lt_of_le_of_lt (sum_listedLines_le h) hextent

/-- **Snapshots of a store that fits the memory of a machine can be stored.** -/
theorem scanTarget_isStorable {workspace : Workspace Memory} {config : Config} {snapshot : Snapshot}
    (hextent : workspace.store.extent < wordLimit) (hnow : workspace.now.IsStorable)
    (h : scanTarget workspace config = .ok snapshot) : snapshot.IsStorable := by
  unfold scanTarget at h
  split at h
  · split at h
    · cases h
    · next items hitems =>
      cases h
      exact takeSnapshot_isStorable hextent hnow hitems
  · cases h

end Driftwatch
