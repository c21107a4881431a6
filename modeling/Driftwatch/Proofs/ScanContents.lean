import Mathlib.Data.List.Sort
import Driftwatch.Proofs.Ancestors
import Driftwatch.Proofs.Listing
import Driftwatch.Proofs.ShownNames

/-!
# Contents of a scan

A scan has one record for every file that it shows and one for every folder that these files need.
A path can be both a file and above one. It is then listed as a file, whichever of the two was met
first.

Records are in the order of the paths that they were made of. They say these paths in texts, so
records of files whose names are texts have different paths, and records of other files need not.

## The shape of the argument

A listing puts files and the folders above them into one ordered map, one stored file after another.
What a path has in this map is known from the files alone: a file where one of them is, a folder
where one of them is below, and nothing elsewhere (`Memory.Shows`). One more file keeps this true
(`Memory.Shows.addEntries`), so it holds of the whole listing (`Memory.shows_entries`). The listed
files and the shown files are then lists in the same order with the same members, and such lists are
equal.

The record of a file comes from its own path and content (`ScannedFile.ofStored`), so another
content changes one record. It changes no folder, since the files are still at the same paths.

## Main definitions

* `Memory.shown`: the files that a listing shows.
* `Memory.Shows`: what files make of a path.
* `ScannedFile.ofStored`, `ScannedFolder.ofPath`: the records of a stored file and of a folder.
* `RecordsOnce`: a snapshot with one record for each file and each folder.

## Main results

* `Memory.filter_listing_file`, `Memory.exists_folder_iff`: the files and folders of a listing.
* `nodup_filePath_of_isText`: files whose names are texts are recorded under different paths.
* `scanTarget_put`: the content of a file matters to its own record only.
* `scan_lists_every_file_once`: a scan has one record for each file and each folder.
* `scan_records_names_alike`: files with different names can be recorded under one path.
-/

namespace Driftwatch

/-- Lists in the order of paths are known by their members. -/
theorem eq_of_pairwise_compare {α : Type} (key : α → List Component) {first second : List α}
    (hfirst : first.Pairwise fun a b => Path.compareComponents (key a) (key b) = .lt)
    (hsecond : second.Pairwise fun a b => Path.compareComponents (key a) (key b) = .lt)
    (h : ∀ x, x ∈ first ↔ x ∈ second) : first = second := by
  have hasymm : ∀ a b, Path.compareComponents (key a) (key b) = .lt →
      Path.compareComponents (key b) (key a) ≠ .lt := by
    intro a b hab hba
    rw [Path.compareComponents_eq] at hab hba
    exact absurd (hba.symm.trans (Std.OrientedCmp.gt_of_lt hab)) (by decide)
  have hirrefl : Std.Irrefl fun a b => Path.compareComponents (key a) (key b) = .lt :=
    ⟨fun a hlt => hasymm a a hlt hlt⟩
  have hantisymm : Std.Antisymm fun a b => Path.compareComponents (key a) (key b) = .lt :=
    ⟨fun a b hab hba => absurd hba (hasymm a b hab)⟩
  exact hfirst.eq_of_mem_iff hsecond h

namespace Memory

variable {memory : Memory} {root path : Path} {names : List String} {items : List ListedItem}

/-! ### Shown files -/

/-- A stored file, under its path from a folder above it. -/
def fromRoot (root : Path) (entry : Path × Content) : Path × Content :=
  ((entry.1.stripPrefix? root).getD entry.1, entry.2)

theorem stripPrefix?_of_shown {entry : Path × Content} (h : ¬IsHidden root names entry.1) :
    entry.1.stripPrefix? root = some (fromRoot root entry).1 := by
  obtain ⟨relative, hrelative⟩ := Option.ne_none_iff_exists'.1 (mt isHidden_of_stripPrefix? h)
  rw [fromRoot, hrelative, Option.getD_some]

theorem components_fromRoot {entry : Path × Content} (h : ¬IsHidden root names entry.1) :
    entry.1.components = root.components ++ (fromRoot root entry).1.components :=
  (Path.stripPrefix?_spec (stripPrefix?_of_shown h)).1

/-- The paths from the folder are in the order of the store. -/
theorem pairwise_fromRoot (memory : Memory) (root : Path) (names : List String) :
    ((memory.files.entries.filter fun entry => ¬IsHidden root names entry.1).map
      (fromRoot root)).Pairwise fun a b => a.1.compare b.1 = .lt := by
  rw [List.pairwise_map]
  refine (memory.files.ordered.filter _).imp_of_mem ?_
  intro a b ha hb hlt
  have hfirst := components_fromRoot (of_decide_eq_true (List.mem_filter.1 ha).2)
  have hsecond := components_fromRoot (of_decide_eq_true (List.mem_filter.1 hb).2)
  rwa [Path.compare, hfirst, hsecond, Path.compareComponents_append_left] at hlt

/-- The files that a listing shows, with their paths from the folder. -/
def shown (memory : Memory) (root : Path) (names : List String) : PathMap Content :=
  ⟨_, memory.pairwise_fromRoot root names⟩

/-- The paths of the shown files come from the paths of the stored ones. -/
theorem map_fst_shown (memory : Memory) (root : Path) (names : List String) :
    (memory.shown root names).entries.map (·.1) =
      ((memory.files.entries.map (·.1)).filter fun path => ¬IsHidden root names path).map
        fun path => (path.stripPrefix? root).getD path := by
  rw [shown, List.map_map, List.filter_map, List.map_map]
  rfl

/-- A listing passes over hidden files. -/
theorem entries_eq (memory : Memory) (root : Path) (names : List String) :
    memory.entries root names = (memory.shown root names).entries.foldl
      (fun entries file => addEntries names file.1 file.2 entries) .empty := by
  rw [entries, below, shown, List.foldl_filterMap, List.foldl_map, List.foldl_filter]
  congr 1
  funext entries entry
  by_cases hhidden : IsHidden root names entry.1
  · rw [if_neg (by simp [hhidden])]
    cases hstrip : entry.1.stripPrefix? root with
    | none => rfl
    | some relative => exact if_pos ((isHidden_iff hstrip).1 hhidden)
  · rw [if_pos (by simp [hhidden]), stripPrefix?_of_shown hhidden]
    rfl

/-! ### What files make of a path -/

/-- What a path has in a listing of files. -/
inductive Shows (files : List (Path × Content)) (path : Path) : Option ListedItem → Prop where
  /-- A file is at the path. -/
  | file {file : Path × Content} (mem : file ∈ files) (same : file.1.components = path.components) :
    Shows files path (some (.file file.1 file.2))
  /-- No file is at the path, but one is below. -/
  | folder {folder : Path} (vacant : ∀ file ∈ files, file.1.components ≠ path.components)
    (below : ∃ file ∈ files, path.IsAbove file.1) (same : folder.components = path.components) :
    Shows files path (some (.folder folder))
  /-- No file is at the path or below. -/
  | nothing (vacant : ∀ file ∈ files, file.1.components ≠ path.components)
    (bare : ∀ file ∈ files, ¬path.IsAbove file.1) : Shows files path none

/-- The folders above a file are put where nothing is. -/
theorem find?_foldl_insertNew (folders : List Path) (entries : PathMap ListedItem) :
    PathMap.find? (folders.foldl
      (fun entries folder => entries.insertNew folder (.folder folder)) entries) path =
    (entries.find? path).or ((folders.find? (·.same path)).map .folder) := by
  induction folders generalizing entries with
  | nil => rw [List.foldl_nil, List.find?_nil, Option.map_none, Option.or_none]
  | cons folder folders ih =>
    rw [List.foldl_cons, ih, PathMap.find?_insertNew, Option.or_assoc]
    by_cases hsame : folder.components = path.components
    · rw [if_pos hsame, List.find?_cons_of_pos (by exact Path.same_iff.2 hsame)]
      rfl
    · rw [if_neg hsame, List.find?_cons_of_neg (by exact mt Path.same_iff.1 hsame), Option.none_or]

theorem find?_addEntries {relative : Path}
    (h : ¬(ignores names relative || relative.bytes = []) = true) (content : Content)
    (entries : PathMap ListedItem) : (addEntries names relative content entries).find? path =
      if relative.components = path.components then some (.file relative content)
      else (entries.find? path).or
        ((relative.properAncestors.find? (·.same path)).map .folder) := by
  rw [addEntries, if_neg h]
  split
  · next hsame => exact PathMap.find?_insert_self hsame
  · next hne =>
    rw [PathMap.find?_insert_of_ne hne]
    exact find?_foldl_insertNew _ _

/-- One more file is put into a listing. -/
theorem Shows.addEntries {files : List (Path × Content)} {entries : PathMap ListedItem}
    {relative : Path} (h : Shows files path (entries.find? path))
    (hshown : ¬(ignores names relative || relative.bytes = []) = true) (content : Content) :
    Shows (files ++ [(relative, content)]) path
      ((addEntries names relative content entries).find? path) := by
  have hmem : (relative, content) ∈ files ++ [(relative, content)] := by simp
  rw [find?_addEntries hshown]
  split
  · next hsame => exact .file hmem hsame
  · next hne =>
    have hvacant : (∀ file ∈ files, file.1.components ≠ path.components) →
        ∀ file ∈ files ++ [(relative, content)], file.1.components ≠ path.components := by
      intro hfiles
      rw [List.forall_mem_append]
      exact ⟨hfiles, List.forall_mem_singleton.2 hne⟩
    generalize entries.find? path = found at h
    obtain ⟨hfile, hsame⟩ | ⟨hfiles, ⟨file, hfile, habove⟩, hsame⟩ | ⟨hfiles, hbare⟩ := h
    · exact .file (List.mem_append_left _ hfile) hsame
    · exact .folder (hvacant hfiles) ⟨file, List.mem_append_left _ hfile, habove⟩ hsame
    · -- Nothing was there, so what the path has now comes from the folders above the new file.
      rw [Option.none_or]
      cases hfind : relative.properAncestors.find? (·.same path) with
      | none =>
        refine .nothing (hvacant hfiles) ?_
        rw [List.forall_mem_append]
        refine ⟨hbare, List.forall_mem_singleton.2 fun habove => ?_⟩
        obtain ⟨folder, hfolder, hsame⟩ := Path.exists_mem_properAncestors.2 habove
        have hne := List.find?_eq_none.1 hfind folder hfolder
        rw [Path.same_iff] at hne
        exact hne hsame
      | some folder =>
        have hsame := List.find?_some hfind
        rw [Path.same_iff] at hsame
        refine .folder (hvacant hfiles) ⟨_, hmem, ?_⟩ hsame
        exact Path.exists_mem_properAncestors.1 ⟨folder, List.mem_of_find?_eq_some hfind, hsame⟩

theorem shows_foldl {files : List (Path × Content)}
    (h : ∀ file ∈ files, ¬(ignores names file.1 || file.1.bytes = []) = true) (path : Path) :
    Shows files path (PathMap.find?
      (files.foldl (fun entries file => addEntries names file.1 file.2 entries) .empty) path) := by
  induction files using List.reverseRecOn with
  | nil => exact .nothing (List.forall_mem_nil _) (List.forall_mem_nil _)
  | append_singleton files file ih =>
    rw [List.forall_mem_append, List.forall_mem_singleton] at h
    rw [List.foldl_concat]
    exact (ih h.1).addEntries h.2 file.2

/-- **What a path has in a listing is known from the shown files.** -/
theorem shows_entries (memory : Memory) (root : Path) (names : List String) (path : Path) :
    Shows (memory.shown root names).entries path ((memory.entries root names).find? path) := by
  rw [entries_eq]
  refine shows_foldl (fun file hfile => ?_) path
  obtain ⟨entry, hentry, rfl⟩ := List.mem_map.1 hfile
  have hshown : ¬IsHidden root names entry.1 := of_decide_eq_true (List.mem_filter.1 hentry).2
  exact mt (isHidden_iff (stripPrefix?_of_shown hshown)).2 hshown

/-! ### Listed items -/

theorem mem_listing_iff (h : memory.listing root names = .ok items) {item : ListedItem} :
    item ∈ items ↔ (memory.entries root names).find? item.path = some item := by
  have hkeyed := memory.entries_keyed root names
  rw [listing_eq] at h
  split at h
  · obtain rfl := Except.ok.inj h
    constructor
    · intro hitem
      obtain ⟨⟨key, value⟩, hentry, rfl⟩ := List.mem_map.1 hitem
      have hkey : key.components = value.path.components := hkeyed (key, value) hentry
      exact PathMap.find?_of_mem _ hentry hkey
    · intro hfind
      obtain ⟨key, hmem, -⟩ := PathMap.exists_mem_of_find? hfind
      exact List.mem_map.2 ⟨(key, item), hmem, rfl⟩
  · cases h

/-- **The files of a listing are the shown ones, one item for each.** -/
theorem filter_listing_file (h : memory.listing root names = .ok items) :
    items.filter (!·.isDir) =
      (memory.shown root names).entries.map fun file => .file file.1 file.2 := by
  refine eq_of_pairwise_compare (fun item : ListedItem => item.path.components)
    ((pairwise_listing h).filter _) (List.pairwise_map.2 (memory.shown root names).ordered)
    fun item => ?_
  rw [List.mem_filter, List.mem_map, mem_listing_iff h]
  constructor
  · rintro ⟨hfind, hfile⟩
    have hshows := memory.shows_entries root names item.path
    rw [hfind] at hshows
    obtain ⟨hmem, -⟩ | ⟨-, -, -⟩ := hshows
    · exact ⟨_, hmem, rfl⟩
    · cases hfile
  · rintro ⟨file, hfile, rfl⟩
    refine ⟨?_, rfl⟩
    have hshows := memory.shows_entries root names file.1
    show (memory.entries root names).find? file.1 = _
    generalize (memory.entries root names).find? file.1 = found at hshows
    obtain ⟨hmem, hsame⟩ | ⟨hvacant, -, -⟩ | ⟨hvacant, -⟩ := hshows
    · rw [(memory.shown root names).eq_of_components hmem hfile hsame]
    · exact absurd rfl (hvacant file hfile)
    · exact absurd rfl (hvacant file hfile)

/-- **The folders of a listing are those that the shown files need.** -/
theorem exists_folder_iff (h : memory.listing root names = .ok items) :
    (∃ item ∈ items, item.isDir = true ∧ item.path.components = path.components) ↔
      path.IsFolderOf ((memory.shown root names).entries.map (·.1)) := by
  have hshows := memory.shows_entries root names path
  rw [Path.IsFolderOf, List.forall_mem_map]
  constructor
  · rintro ⟨item, hitem, hfolder, hpath⟩
    rw [mem_listing_iff h, PathMap.find?_congr hpath] at hitem
    rw [hitem] at hshows
    obtain ⟨-, -⟩ | ⟨hvacant, ⟨file, hfile, habove⟩, -⟩ := hshows
    · cases hfolder
    · exact ⟨⟨file.1, List.mem_map_of_mem hfile, habove⟩, hvacant⟩
  · rintro ⟨⟨above, hmem, habove⟩, hvacant⟩
    obtain ⟨file, hfile, rfl⟩ := List.mem_map.1 hmem
    generalize hfound : (memory.entries root names).find? path = found at hshows
    obtain ⟨hthere, hsame⟩ | ⟨-, -, hsame⟩ | ⟨-, hbare⟩ := hshows
    · exact absurd hsame (hvacant _ hthere)
    · refine ⟨.folder _, (mem_listing_iff h).2 ?_, rfl, hsame⟩
      exact (PathMap.find?_congr hsame).trans hfound
    · exact absurd habove (hbare file hfile)

end Memory

/-! ### Records of files -/

/-- The record of a stored file, which its own path and content give. -/
def ScannedFile.ofStored (target : Path) (entry : Path × Content) : ScannedFile :=
  .ofListed (.file (Memory.fromRoot target entry).1 entry.2) entry.2.bytes?

namespace ScannedFile

variable {target : Path} {entry : Path × Content}

theorem filePath_ofStored (target : Path) (entry : Path × Content) :
    (ofStored target entry).filePath = (Memory.fromRoot target entry).1.slashed := by
  simp only [ofStored, ofListed, ListedItem.file]

theorem ofStored_of_bytes? (h : entry.2.bytes? = none) (target : Path) :
    (ofStored target entry).fileHash = "" ∧ (ofStored target entry).analysis.entities = [] ∧
      (ofStored target entry).analysis.totalLines = 0 := by
  rw [ofStored, h]
  exact ⟨rfl, rfl, rfl⟩

end ScannedFile

variable {workspace : Workspace Memory} {config : Config} {snapshot : Snapshot}

/-- Files whose names are texts are told apart by the paths in their records. -/
theorem eq_of_filePath_ofStored {memory : Memory} {target : Path} {names : List String}
    {first second : Path × Content} (hfirst : first ∈ memory.files.entries)
    (hsecond : second ∈ memory.files.entries) (hfirstShown : ¬Memory.IsHidden target names first.1)
    (hsecondShown : ¬Memory.IsHidden target names second.1)
    (hfirstText : (Memory.fromRoot target first).1.IsText)
    (hsecondText : (Memory.fromRoot target second).1.IsText)
    (h : (ScannedFile.ofStored target first).filePath =
      (ScannedFile.ofStored target second).filePath) : first = second := by
  rw [ScannedFile.filePath_ofStored, ScannedFile.filePath_ofStored] at h
  refine memory.files.eq_of_components hfirst hsecond ?_
  rw [Memory.components_fromRoot hfirstShown, Memory.components_fromRoot hsecondShown,
    Path.components_eq_of_slashed hfirstText hsecondText h]

/-- **Files whose names are texts are recorded under different paths.** -/
theorem nodup_filePath_of_isText (memory : Memory) (target : Path) (names : List String) :
    (((memory.files.entries.filter fun entry => ¬Memory.IsHidden target names entry.1 ∧
      (Memory.fromRoot target entry).1.IsText).map (.ofStored target)).map
        ScannedFile.filePath).Nodup := by
  rw [List.map_map]
  refine (memory.files.nodup_entries.filter _).map_on fun first hfirst second hsecond heq => ?_
  rw [List.mem_filter, decide_eq_true_eq] at hfirst hsecond
  obtain ⟨hfirst, hfirstShown, hfirstText⟩ := hfirst
  obtain ⟨hsecond, hsecondShown, hsecondText⟩ := hsecond
  exact eq_of_filePath_ofStored hfirst hsecond hfirstShown hsecondShown hfirstText hsecondText heq

/-- The records of stored files, one for each file that is shown. -/
def recordsOf (config : Config) (files : List (Path × Content)) : List ScannedFile :=
  (files.filter fun entry => ¬Memory.IsHidden config.target config.ignore entry.1).map
    (.ofStored config.target)

theorem recordsOf_append_cons {path : Path}
    (h : ¬Memory.IsHidden config.target config.ignore path) (before after : List (Path × Content))
    (content : Content) : recordsOf config (before ++ (path, content) :: after) =
      recordsOf config before ++ .ofStored config.target (path, content) ::
        recordsOf config after := by
  rw [recordsOf, List.filter_append, List.map_append, List.filter_cons_of_pos, List.map_cons]
  · rfl
  · exact decide_eq_true h

theorem files_of_scanTarget (h : scanTarget workspace config = .ok snapshot) :
    snapshot.files = recordsOf config workspace.store.files.entries := by
  obtain ⟨items, hitems, rfl⟩ := scanTarget_eq_ok_iff.1 h
  show (items.filter (!·.isDir)).map (recordFile workspace.store config.target) = _
  rw [Memory.filter_listing_file hitems, recordsOf, Memory.shown, List.map_map, List.map_map]
  refine List.map_congr_left fun entry hentry => ?_
  obtain ⟨hmem, hshown⟩ := List.mem_filter.1 hentry
  exact recordFile_file hmem (Memory.stripPrefix?_of_shown (of_decide_eq_true hshown))

/-- A scan of a folder in which a file is shown succeeds. -/
theorem exists_scanTarget_of_readBytes {path : Path} {bytes : ByteArray}
    (hread : workspace.store.readBytes path = .ok bytes)
    (hshown : ¬Memory.IsHidden config.target config.ignore path) :
    ∃ snapshot, scanTarget workspace config = .ok snapshot := by
  obtain ⟨key, hmem, hkey⟩ := PathMap.exists_mem_of_find? (Memory.find?_of_readBytes hread)
  rw [exists_scanTarget_iff, Memory.contains, List.any_eq_true]
  have hpath : ¬Memory.IsHidden config.target config.ignore (path, Content.bytes bytes).1 := hshown
  refine ⟨(key, .bytes bytes), hmem, ?_⟩
  rw [Path.startsWith, List.isPrefixOf_iff_prefix, hkey, Memory.components_fromRoot hpath]
  exact List.prefix_append _ _

/-- A file that is shown and can be read has a record. The store may spell its path in another way,
with the same components. -/
theorem exists_mem_files_of_readBytes (h : scanTarget workspace config = .ok snapshot)
    {path : Path} {bytes : ByteArray} (hread : workspace.store.readBytes path = .ok bytes)
    (hshown : ¬Memory.IsHidden config.target config.ignore path) :
    ∃ key, (key, .bytes bytes) ∈ workspace.store.files.entries ∧
      key.components = path.components ∧ ¬Memory.IsHidden config.target config.ignore key ∧
      .ofStored config.target (key, .bytes bytes) ∈ snapshot.files := by
  obtain ⟨key, hmem, hkey⟩ := PathMap.exists_mem_of_find? (Memory.find?_of_readBytes hread)
  have hkeyShown : ¬Memory.IsHidden config.target config.ignore key := by
    rwa [Memory.IsHidden, hkey, ← Memory.IsHidden]
  refine ⟨key, hmem, hkey, hkeyShown, ?_⟩
  rw [files_of_scanTarget h, recordsOf]
  exact List.mem_map_of_mem (List.mem_filter.2 ⟨hmem, decide_eq_true hkeyShown⟩)

/-! ### Records of folders -/

/-- The record of a folder. -/
def ScannedFolder.ofPath (path : Path) : ScannedFolder :=
  ⟨path.slashed, (path.fileName?.map RawText.shown).getD ""⟩

/-- The record of a folder comes from the components of its path. -/
theorem ScannedFolder.map_ofPath_congr {first second : List Path}
    (h : first.map Path.components = second.map Path.components) :
    first.map ofPath = second.map ofPath := by
  induction first generalizing second with
  | nil => rw [List.map_eq_nil_iff.1 h.symm]
  | cons path first ih =>
    obtain ⟨other, others, rfl, hpath, hrest⟩ := List.map_eq_cons_iff.1 h.symm
    have hrecord : ofPath path = ofPath other := by
      rw [ofPath, ofPath, Path.slashed, Path.slashed, Path.fileName?, Path.fileName?, hpath]
    rw [List.map_cons, List.map_cons, hrecord, ih hrest.symm]

/-- The folders of a scan are those that the shown files need, in the order of paths. -/
theorem exists_folders_of_scanTarget (h : scanTarget workspace config = .ok snapshot) :
    ∃ paths : List Path, snapshot.folders = paths.map .ofPath ∧
      paths.Pairwise (fun a b => a.compare b = .lt) ∧
      ∀ path : Path, (∃ folder ∈ paths, folder.components = path.components) ↔ path.IsFolderOf
        ((workspace.store.shown config.target config.ignore).entries.map (·.1)) := by
  obtain ⟨items, hitems, rfl⟩ := scanTarget_eq_ok_iff.1 h
  refine ⟨(items.filter (·.isDir)).map ListedItem.path, ?_, ?_, fun path => ?_⟩
  · rw [List.map_map]
    rfl
  · exact List.pairwise_map.2 ((Memory.pairwise_listing hitems).filter _)
  · rw [← Memory.exists_folder_iff hitems]
    constructor
    · rintro ⟨folder, hfolder, hsame⟩
      obtain ⟨item, hitem, rfl⟩ := List.mem_map.1 hfolder
      obtain ⟨hmem, hdir⟩ := List.mem_filter.1 hitem
      exact ⟨item, hmem, hdir, hsame⟩
    · rintro ⟨item, hmem, hdir, hsame⟩
      exact ⟨item.path, List.mem_map_of_mem (List.mem_filter.2 ⟨hmem, hdir⟩), hsame⟩

/-- Scans that show files at the same paths list the same folders. -/
theorem folders_eq_of_scanTarget {other : Workspace Memory} {changed : Snapshot}
    (h : scanTarget workspace config = .ok snapshot)
    (hchanged : scanTarget other config = .ok changed)
    (hpaths : (other.store.shown config.target config.ignore).entries.map (·.1) =
      (workspace.store.shown config.target config.ignore).entries.map (·.1)) :
    changed.folders = snapshot.folders := by
  obtain ⟨paths, hfolders, hordered, hneeded⟩ := exists_folders_of_scanTarget h
  obtain ⟨others, hothers, hotherOrdered, hotherNeeded⟩ := exists_folders_of_scanTarget hchanged
  rw [hfolders, hothers]
  refine ScannedFolder.map_ofPath_congr (eq_of_pairwise_compare id
    (List.pairwise_map.2 hotherOrdered) (List.pairwise_map.2 hordered) fun components => ?_)
  rw [List.mem_map, List.mem_map]
  constructor
  · rintro ⟨folder, hfolder, rfl⟩
    exact (hneeded folder).2 (hpaths ▸ (hotherNeeded folder).1 ⟨folder, hfolder, rfl⟩)
  · rintro ⟨folder, hfolder, rfl⟩
    exact (hotherNeeded folder).2 (hpaths ▸ (hneeded folder).1 ⟨folder, hfolder, rfl⟩)

/-- **The content of a file matters to its own record only.** -/
theorem scanTarget_put (h : scanTarget workspace config = .ok snapshot) {path : Path}
    {old : Content} (hmem : (path, old) ∈ workspace.store.files.entries)
    (hshown : ¬Memory.IsHidden config.target config.ignore path) :
    ∃ before after, snapshot.files = before ++ .ofStored config.target (path, old) :: after ∧
      ∀ content, ∃ changed,
        scanTarget (workspace.withStore (workspace.store.put path content)) config = .ok changed ∧
          changed.files = before ++ .ofStored config.target (path, content) :: after ∧
          changed.folders = snapshot.folders := by
  obtain ⟨before, after, hsplit⟩ := List.append_of_mem hmem
  have hfiles := files_of_scanTarget h
  rw [hsplit, recordsOf_append_cons hshown] at hfiles
  refine ⟨recordsOf config before, recordsOf config after, hfiles, fun content => ?_⟩
  have hput : (workspace.store.put path content).files.entries =
      before ++ (path, content) :: after := by
    show PathMap.insertInto path content workspace.store.files.entries = _
    rw [hsplit]
    exact PathMap.insertInto_append (hsplit ▸ workspace.store.files.ordered) content
  have hcontains : (workspace.store.put path content).contains config.target = true := by
    rw [Memory.contains_put, exists_scanTarget_iff.1 ⟨snapshot, h⟩, Bool.or_true]
  obtain ⟨changed, hchanged⟩ : ∃ changed,
      scanTarget (workspace.withStore (workspace.store.put path content)) config = .ok changed :=
    exists_scanTarget_iff.2 hcontains
  have hrecords := files_of_scanTarget hchanged
  have hpaths : (workspace.store.put path content).files.entries.map (·.1) =
      workspace.store.files.entries.map (·.1) := by
    rw [hput, hsplit, List.map_append, List.map_append, List.map_cons, List.map_cons]
  refine ⟨changed, hchanged, ?_, folders_eq_of_scanTarget h hchanged ?_⟩
  · rw [hrecords, ← recordsOf_append_cons hshown, ← hput]
    rfl
  · rw [Memory.map_fst_shown, Memory.map_fst_shown, ← hpaths]
    rfl

/-! ### Totals -/

namespace Summary

theorem ofFiles_eq (files : List ScannedFile) (folders : Nat) : ofFiles files folders =
    { totalFiles := files.length
      totalFolders := folders
      totalLines := (files.map (·.analysis.totalLines)).sum
      braceFamilyFiles := (files.filter (·.language = .braceFamily)).length
      pythonFiles := (files.filter (·.language = .python)).length
      otherFiles := (files.filter (·.language = .other)).length } := by
  simp only [ofFiles, List.sum_eq_foldr, List.foldr_map, List.countP_eq_length_filter,
    beq_eq_decide]

/-- Every file has one language. -/
theorem languages_ofFiles (files : List ScannedFile) (folders : Nat) :
    (ofFiles files folders).braceFamilyFiles + (ofFiles files folders).pythonFiles +
      (ofFiles files folders).otherFiles = files.length := by
  simp only [ofFiles]
  induction files with
  | nil => rfl
  | cons file files ih =>
    simp only [List.countP_cons, List.length_cons]
    cases file.language <;> simp <;> omega

end Summary

/-! ### The records of a scan -/

/-- A snapshot that has one record for each file and for each folder of a scan. -/
structure RecordsOnce (workspace : Workspace Memory) (config : Config) (snapshot : Snapshot) :
    Prop where
  /-- There is one record for each stored file that is not hidden, and there are no others. -/
  files : snapshot.files = (workspace.store.files.entries.filter fun entry =>
    ¬Memory.IsHidden config.target config.ignore entry.1).map (.ofStored config.target)
  /-- A record has the path of its file from the folder, as it is shown. -/
  relative : ∀ entry ∈ workspace.store.files.entries,
    ¬Memory.IsHidden config.target config.ignore entry.1 →
    entry.1.components =
      config.target.components ++ (Memory.fromRoot config.target entry).1.components ∧
    (ScannedFile.ofStored config.target entry).filePath =
      (Memory.fromRoot config.target entry).1.slashed
  /-- What is shown of a path of texts is the path. -/
  texts : ∀ entry ∈ workspace.store.files.entries,
    (Memory.fromRoot config.target entry).1.IsText →
    Path.components ⟨(ScannedFile.ofStored config.target entry).filePath⟩ =
      (Memory.fromRoot config.target entry).1.components
  /-- Files whose paths are texts are recorded under different paths. -/
  nodup : (((workspace.store.files.entries.filter fun entry =>
    ¬Memory.IsHidden config.target config.ignore entry.1 ∧
      (Memory.fromRoot config.target entry).1.IsText).map (.ofStored config.target)).map
        ScannedFile.filePath).Nodup
  /-- Records are in strictly increasing order of the paths of their files. -/
  increasing : ((workspace.store.files.entries.filter fun entry =>
    ¬Memory.IsHidden config.target config.ignore entry.1).map
      (Memory.fromRoot config.target)).Pairwise fun a b => a.1.compare b.1 = .lt
  /-- There is one record for each folder above a listed file, unless a file is there. -/
  folders : ∃ paths : List Path, snapshot.folders = paths.map .ofPath ∧
    paths.Pairwise (fun a b => a.compare b = .lt) ∧
    ∀ path : Path, (∃ folder ∈ paths, folder.components = path.components) ↔
      path.IsFolderOf ((workspace.store.files.entries.filter fun entry =>
        ¬Memory.IsHidden config.target config.ignore entry.1).map fun entry =>
          (Memory.fromRoot config.target entry).1)
  /-- The record of a file that cannot be read says nothing about contents. Whatever the file held
  instead, all other records would be the same. -/
  unreadable : ∀ path content fault, (path, content) ∈ workspace.store.files.entries →
    ¬Memory.IsHidden config.target config.ignore path →
    workspace.store.readBytes path = .error fault →
    ∃ before file after, snapshot.files = before ++ file :: after ∧
      file = .ofStored config.target (path, content) ∧
      file.fileHash = "" ∧ file.analysis.entities = [] ∧ file.analysis.totalLines = 0 ∧
      ∀ other, ∃ changed,
        scanTarget (workspace.withStore (workspace.store.put path other)) config = .ok changed ∧
          changed.files = before ++ .ofStored config.target (path, other) :: after ∧
          changed.folders = snapshot.folders
  summary : snapshot.summary =
    { totalFiles := snapshot.files.length
      totalFolders := snapshot.folders.length
      totalLines := (snapshot.files.map (·.analysis.totalLines)).sum
      braceFamilyFiles := (snapshot.files.filter (·.language = .braceFamily)).length
      pythonFiles := (snapshot.files.filter (·.language = .python)).length
      otherFiles := (snapshot.files.filter (·.language = .other)).length }
  languages : snapshot.summary.braceFamilyFiles + snapshot.summary.pythonFiles +
    snapshot.summary.otherFiles = snapshot.summary.totalFiles

/-- **A scan that succeeds lists every file once, and every folder that the files need.** -/
theorem scan_lists_every_file_once (h : scanTarget workspace config = .ok snapshot) :
    RecordsOnce workspace config snapshot where
  files := files_of_scanTarget h
  relative := fun entry _ hshown =>
    ⟨Memory.components_fromRoot hshown, ScannedFile.filePath_ofStored config.target entry⟩
  texts := by
    intro entry _ htext
    rw [ScannedFile.filePath_ofStored]
    exact Path.components_mk_slashed htext
  nodup := nodup_filePath_of_isText workspace.store config.target config.ignore
  increasing := workspace.store.pairwise_fromRoot config.target config.ignore
  folders := by
    obtain ⟨paths, hfolders, hordered, hneeded⟩ := exists_folders_of_scanTarget h
    refine ⟨paths, hfolders, hordered, fun path => ?_⟩
    rw [hneeded, Memory.shown, List.map_map]
    rfl
  unreadable := by
    intro path content fault hmem hshown hread
    have hbytes : (path, content).2.bytes? = none := by
      have hoption := workspace.store.toOption_readBytes path
      rw [hread, workspace.store.files.find?_of_mem hmem rfl] at hoption
      exact hoption.symm
    obtain ⟨before, after, hfiles, hchanged⟩ := scanTarget_put h hmem hshown
    obtain ⟨hhash, hentities, hlines⟩ := ScannedFile.ofStored_of_bytes? hbytes config.target
    exact ⟨before, _, after, hfiles, rfl, hhash, hentities, hlines, hchanged⟩
  summary := by
    obtain ⟨items, -, rfl⟩ := scanTarget_eq_ok_iff.1 h
    exact Summary.ofFiles_eq _ _
  languages := by
    obtain ⟨items, -, rfl⟩ := scanTarget_eq_ok_iff.1 h
    exact Summary.languages_ofFiles _ _

/-- A workspace where a file is above another one that cannot be read. -/
def nestedSources : Workspace Memory where
  store := ({} : Memory)
    |>.put ⟨"lib/x.js"⟩ .locked
    |>.put ⟨"src/a"⟩ (.bytes "one\ntwo\n".toUTF8)
    |>.put ⟨"src/a/b.js"⟩ .locked
    |>.put ⟨"src/c/d/e.py"⟩ (.bytes "x = 1\n".toUTF8)
    |>.put ⟨"src/c/node_modules/f.js"⟩ .locked
  now := .epoch
  label := fun _ => "scan"

/-- The configuration that scans its sources. -/
def nestedConfig : Config where
  target := ⟨"src"⟩
  outputDir := ⟨"out"⟩
  intervalMinutes := 10
  historyLimit := 20
  ignore := ["node_modules"]
  formats := []

/-- The path of a file is not among the folders, although another file is below. -/
theorem scan_lists_every_file_once_nested :
    ∃ snapshot, scanTarget nestedSources nestedConfig = .ok snapshot ∧
      RecordsOnce nestedSources nestedConfig snapshot ∧
      snapshot.files.map (·.filePath) = ["a", "a/b.js", "c/d/e.py"] ∧
      snapshot.folders.map (·.folderPath) = ["c", "c/d"] := by
  have hscan : scanTarget nestedSources nestedConfig = .ok (takeSnapshot nestedSources ⟨"src"⟩
      [.file ⟨"a"⟩ (.bytes "one\ntwo\n".toUTF8), .file ⟨"a/b.js"⟩ .locked, .folder ⟨"c"⟩,
        .folder ⟨"c/d"⟩, .file ⟨"c/d/e.py"⟩ (.bytes "x = 1\n".toUTF8)]) := by
    with_unfolding_all rfl
  refine ⟨_, hscan, scan_lists_every_file_once hscan, ?_, ?_⟩
  · decide +kernel
  · decide +kernel

/-! ### Names that are shown alike -/

/-- A workspace with two sources, whose names are bytes that encode no text. -/
def byteNames : Workspace Memory where
  store := ({} : Memory)
    |>.put (byteNamed 0xFE) (.bytes "one\n".toUTF8)
    |>.put (byteNamed 0xFF) (.bytes "two\n".toUTF8)
  now := .epoch
  label := fun _ => "scan"

/-- What a scan of the two sources lists. -/
def byteItems : List ListedItem :=
  [.file ⟨⟨[0xFE]⟩⟩ (.bytes "one\n".toUTF8), .file ⟨⟨[0xFF]⟩⟩ (.bytes "two\n".toUTF8)]

/-- **Files with different names can be recorded under one path**, so the paths of records are
neither different nor increasing. And a file that cannot be read takes the place of the record of a
folder, where another file is below it. -/
theorem scan_records_names_alike :
    (∃ snapshot, scanTarget byteNames nestedConfig = .ok snapshot ∧
      snapshot.files.map (·.filePath) = ["\uFFFD", "\uFFFD"] ∧
      ¬(snapshot.files.map (·.filePath)).Nodup ∧
      ¬snapshot.files.Pairwise fun a b => Path.compare ⟨a.filePath⟩ ⟨b.filePath⟩ = .lt) ∧
    (scanTarget (nestedSources.withStore (nestedSources.store.remove ⟨"src/a"⟩)) nestedConfig).map
        (fun snapshot => snapshot.folders.map (·.folderPath)) = .ok ["a", "c", "c/d"] ∧
      (scanTarget (nestedSources.withStore (nestedSources.store.put ⟨"src/a"⟩ .locked))
        nestedConfig).map (fun snapshot => snapshot.folders.map (·.folderPath)) =
          .ok ["c", "c/d"] := by
  have hscan : scanTarget byteNames nestedConfig =
      .ok (takeSnapshot byteNames ⟨"src"⟩ byteItems) := by
    with_unfolding_all rfl
  refine ⟨⟨_, hscan, ?_, ?_, ?_⟩, ?_, ?_⟩
  · decide +kernel
  · decide +kernel
  · decide +kernel
  · with_unfolding_all rfl
  · with_unfolding_all rfl

end Driftwatch
