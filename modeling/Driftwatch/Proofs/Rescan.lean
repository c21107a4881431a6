import Driftwatch.Proofs.Classification
import Driftwatch.Proofs.Decoding
import Driftwatch.Proofs.OwnOutput

/-!
# Scanning twice

A cycle changes the store that it scans: it writes a history and reports. Where these are hidden
from scans, a second cycle right after the first sees the same files, reads the first scan back from
the history and compares every file with the last one that was recorded under its path. So it finds
nothing changed unless different files were recorded under one path, which their names can do only
if they are no texts.

## The shape of the argument

Hidden writes change neither the listing of the folder nor the bytes of a listed file, so the
second scan makes the same records (`scanTarget_of_writesAll`). The first scan is the last one of
the history that the second cycle loads, and the scans before it can be read back as well, since
they were read before (`History.isStorable_of_load`). Between scans with the same files, a file is
unchanged if it agrees with the last record of its path, so all of them are if and only if records
of one path agree (`changesSince_of_files_eq_iff`). And the second cycle cannot fail, since it reads
what was written and writes where the first one could write (`runCycle_of_accepts`).

## Main definitions

* `Snapshot.PathsAgree`: records of one path have one fingerprint and the same signatures.

## Main results

* `changesSince_of_files_eq_iff`: what changed between scans with the same files.
* `pathsAgree_of_isText`: names that are texts.
* `scanTarget_of_writesAll`: hidden writes leave a scan as it was.
* `rescan_is_quiet`: two cycles in a row.
* `rescan_of_names_alike`: two cycles over files that are recorded under one path.
-/

namespace Driftwatch

/-! ### Files compared with themselves -/

/-- Files that are recorded under one path have the same fingerprint and the same signatures. -/
def Snapshot.PathsAgree (snapshot : Snapshot) : Prop :=
  ∀ file ∈ snapshot.files, ∀ other ∈ snapshot.files, other.filePath = file.filePath →
    other.fileHash = file.fileHash ∧ other.analysis.signatures = file.analysis.signatures

theorem ScannedFile.changeSince_eq_unchanged_iff {file old : ScannedFile} :
    file.changeSince (some old) = .unchanged ↔
      file.fileHash = old.fileHash ∧ file.analysis.signatures = old.analysis.signatures := by
  rw [← kindSince_eq_unchanged_iff, changeSince_some]
  obtain h | h | h := file.kindSince_cases old <;> simp [h]

/-- All files are unchanged, compared with themselves, if and only if records of one path agree. -/
theorem Snapshot.forall_unchanged_iff {snapshot : Snapshot} :
    (∀ file ∈ snapshot.files, file.changeIn snapshot.files = .unchanged) ↔
      snapshot.PathsAgree := by
  -- A file is compared with the last record of its path, and there is one.
  have hlast : ∀ file ∈ snapshot.files, ∃ last ∈ snapshot.files, last.filePath = file.filePath ∧
      lastRecord? snapshot.files file.filePath = some last := by
    intro file hfile
    cases hfind : lastRecord? snapshot.files file.filePath with
    | none => exact absurd (List.mem_map_of_mem hfile) (lastRecord?_eq_none_iff.1 hfind)
    | some last =>
      obtain ⟨hmem, hpath⟩ := mem_of_lastRecord? hfind
      exact ⟨last, hmem, hpath, rfl⟩
  constructor
  · intro h file hfile other hother hpath
    obtain ⟨last, -, -, hfind⟩ := hlast file hfile
    have hfirst := h file hfile
    have hsecond := h other hother
    rw [ScannedFile.changeIn, hfind, ScannedFile.changeSince_eq_unchanged_iff] at hfirst
    rw [ScannedFile.changeIn, hpath, hfind, ScannedFile.changeSince_eq_unchanged_iff] at hsecond
    exact ⟨hsecond.1.trans hfirst.1.symm, hsecond.2.trans hfirst.2.symm⟩
  · intro h file hfile
    obtain ⟨last, hmem, hpath, hfind⟩ := hlast file hfile
    rw [ScannedFile.changeIn, hfind, ScannedFile.changeSince_eq_unchanged_iff]
    exact h last hmem file hfile hpath.symm

/-- Files that are all unchanged. -/
theorem foldr_add_unchanged {previous : List ScannedFile} {files : List ScannedFile}
    (h : ∀ file ∈ files, file.changeIn previous = .unchanged) :
    files.foldr (fun file (report : Changes) =>
      report.add file.filePath (file.changeSince (lastRecord? previous file.filePath))) {} =
        { unchangedFiles := files.map (·.filePath) } := by
  induction files with
  | nil => rfl
  | cons file files ih =>
    obtain ⟨hfile, hfiles⟩ := List.forall_mem_cons.1 h
    rw [List.foldr_cons, ih hfiles, ← ScannedFile.changeIn, hfile]
    rfl

/-- **Nothing changed between two scans with the same files**, if and only if records of one path
agree. -/
theorem changesSince_of_files_eq_iff {current previous : Snapshot}
    (h : current.files = previous.files) :
    current.changesSince (some previous) =
        { hasChanges := false, newFiles := [], deletedFiles := [], modifiedFiles := [],
          driftedFiles := [], unchangedFiles := current.files.map (·.filePath) } ↔
      previous.PathsAgree := by
  rw [← Snapshot.forall_unchanged_iff, ← h]
  constructor
  · intro hquiet
    have hlisted : (compareFiles current.files previous.files).listed .unchanged =
        current.files.map (·.filePath) := congrArg Changes.unchangedFiles hquiet
    rw [← h, listed_compareFiles _ _ (by decide)] at hlisted
    have hall := List.length_filter_eq_length_iff.1
      (by simpa only [List.length_map] using congrArg List.length hlisted)
    intro file hfile
    have hkind := of_decide_eq_true (hall file hfile)
    cases hchange : file.changeIn current.files with
    | unchanged => rfl
    | added | modified | drifted =>
      rw [hchange] at hkind
      cases hkind
  · intro hunchanged
    have hdeleted : (current.files.filter fun file =>
        !current.files.any (·.filePath == file.filePath)) = [] := by
      rw [List.filter_eq_nil_iff]
      intro file hfile hnone
      have hany : current.files.any (·.filePath == file.filePath) = true :=
        List.any_eq_true.2 ⟨file, hfile, beq_self_eq_true _⟩
      rw [hany] at hnone
      cases hnone
    simp only [Snapshot.changesSince, compareFiles, ← h, foldr_add_unchanged hunchanged, hdeleted]
    rfl

/-- Records of one path agree where the names of the files are texts. -/
theorem pathsAgree_of_isText {workspace : Workspace Memory} {config : Config} {snapshot : Snapshot}
    (hscan : scanTarget workspace config = .ok snapshot)
    (h : ∀ entry ∈ workspace.store.files.entries,
      ¬Memory.IsHidden config.target config.ignore entry.1 →
        (Memory.fromRoot config.target entry).1.IsText) : snapshot.PathsAgree := by
  intro file hfile other hother hpath
  rw [files_of_scanTarget hscan, recordsOf] at hfile hother
  obtain ⟨first, hfirst, rfl⟩ := List.mem_map.1 hfile
  obtain ⟨second, hsecond, rfl⟩ := List.mem_map.1 hother
  rw [List.mem_filter, decide_eq_true_eq] at hfirst hsecond
  rw [eq_of_filePath_ofStored hsecond.1 hfirst.1 hsecond.2 hfirst.2 (h second hsecond.1 hsecond.2)
    (h first hfirst.1 hfirst.2) hpath]
  exact ⟨rfl, rfl⟩

/-! ### Writes that a scan does not see -/

section

variable {root : Path} {names : List String} {items : List ListedItem} {store after : Memory}
  {writes : List (Path × String)}

theorem WritesAll.listing_eq (h : WritesAll store writes after)
    (hhidden : ∀ write ∈ writes, Memory.IsHidden root names write.1)
    (hitems : store.listing root names = .ok items) : after.listing root names = .ok items := by
  induction h with
  | nil => exact hitems
  | @cons store next after path text writes hwrite hrest ih =>
    obtain ⟨hpath, hothers⟩ := List.forall_mem_cons.1 hhidden
    refine ih hothers ?_
    rw [Memory.eq_put_of_write hwrite]
    exact Memory.listing_put_of_isHidden hitems hpath _

/-- A listed file is recorded as before. -/
theorem WritesAll.recordFile_eq (h : WritesAll store writes after)
    (hhidden : ∀ write ∈ writes, Memory.IsHidden root names write.1)
    (hitems : store.listing root names = .ok items) {item : ListedItem} (hitem : item ∈ items)
    (hfile : item.isDir = false) : recordFile after root item = recordFile store root item := by
  obtain ⟨entry, -, relative, hrelative, hshown, rfl⟩ :=
    Memory.exists_stored_of_mem_listing hitems item hitem hfile
  have hnone : ∀ write ∈ writes, ¬write.1.same (root.join relative) = true := by
    intro write hwrite hsame
    rw [Path.same_iff, Path.components_join_stripPrefix? hrelative] at hsame
    refine hshown fun rest hrest => hhidden write hwrite rest ?_
    rw [hsame, hrest]
  have hread := h.readBytes_of_unwritten hnone
  rw [recordFile, recordFile]
  exact congrArg (fun bytes => ScannedFile.ofListed _ (Except.toOption bytes)) hread

end

section

variable {workspace second : Workspace Memory} {config : Config} {snapshot : Snapshot}

/-- Writes that are hidden from a scan leave it as it was, but for its time and its identifier. -/
theorem scanTarget_of_writesAll {writes : List (Path × String)}
    (h : WritesAll workspace.store writes second.store)
    (hhidden : ∀ write ∈ writes, Memory.IsHidden config.target config.ignore write.1)
    (hscan : scanTarget workspace config = .ok snapshot) :
    ∃ again, scanTarget second config = .ok again ∧ again.files = snapshot.files ∧
      again.folders = snapshot.folders ∧ again.summary = snapshot.summary := by
  obtain ⟨items, hitems, rfl⟩ := scanTarget_eq_ok_iff.1 hscan
  have hlisting := h.listing_eq hhidden hitems
  have hfiles : (takeSnapshot second config.target items).files =
      (takeSnapshot workspace config.target items).files := by
    refine List.map_congr_left fun item hitem => ?_
    obtain ⟨hmem, hdir⟩ := List.mem_filter.1 hitem
    exact h.recordFile_eq hhidden hitems hmem (by simpa using hdir)
  refine ⟨_, scanTarget_eq_ok_iff.2 ⟨items, hlisting, rfl⟩, hfiles, rfl, ?_⟩
  exact congrArg (fun files => Summary.ofFiles files _) hfiles

/-! ### Two cycles -/

/-- Where the output is hidden from scans, a cycle that follows one that succeeded succeeds as well.
It finds the same files, folders and totals, and compares them with those of the first one. -/
theorem exists_rescan {after : Workspace Memory} {outcome : Outcome}
    (hfits : workspace.FitsMachine) (hhidden : config.HidesOutput)
    (hcycle : runCycle workspace config = (.ok outcome, after))
    (hstore : second.store = after.store) :
    ∃ again final, runCycle second config = (.ok again, final) ∧
      again.snapshot.files = outcome.snapshot.files ∧
      again.snapshot.folders = outcome.snapshot.folders ∧
      again.snapshot.summary = outcome.snapshot.summary ∧
      again.changes = again.snapshot.changesSince (some outcome.snapshot) := by
  obtain ⟨scans, hscan, hload, -, hwrites⟩ := exists_writesAll_of_runCycle hcycle
  rw [← hstore] at hwrites
  have hsnapshot := scanTarget_isStorable hfits.extent hfits.now hscan
  have hholds := hwrites.holdsScans (History.isStorable_of_load hload) hsnapshot
  have hloaded := hholds.load_of_ne_nil
    ((History.ofConfig config).keep_append_ne_nil scans outcome.snapshot) (History.ofConfig config)
    rfl
  have hplaces := map_fst_outputs config outcome.snapshot scans
  obtain ⟨again, hagain, hfiles, hfolders, hsummary⟩ := scanTarget_of_writesAll hwrites
    (fun write hwrite => hhidden.isHidden (hplaces ▸ List.mem_map_of_mem hwrite)) hscan
  obtain ⟨paths, final, hsecond⟩ := runCycle_of_accepts hagain hloaded fun path hpath =>
    (hwrites.accepts_iff path).2 (hwrites.accepts_of_mem path (hplaces ▸ hpath))
  refine ⟨_, final, hsecond, hfiles, hfolders, hsummary, ?_⟩
  rw [History.getLast?_keep]

/-- **A second scan right after a first one is quiet.** Where the output is hidden from scans, a
cycle that follows one that succeeded, with no other change of the store in between and at any time,
succeeds as well. It finds the same files, folders and totals. It reports every file as unchanged
and nothing else if and only if files that are recorded under one path have the same fingerprint and
the same signatures, and they do where the names of the files are texts. -/
theorem rescan_is_quiet {after : Workspace Memory} {outcome : Outcome}
    (hfits : workspace.FitsMachine) (hhidden : config.HidesOutput)
    (hcycle : runCycle workspace config = (.ok outcome, after))
    (hstore : second.store = after.store) :
    ∃ again final, runCycle second config = (.ok again, final) ∧
      again.snapshot.files = outcome.snapshot.files ∧
      again.snapshot.folders = outcome.snapshot.folders ∧
      again.snapshot.summary = outcome.snapshot.summary ∧
      (again.changes =
          { hasChanges := false, newFiles := [], deletedFiles := [], modifiedFiles := [],
            driftedFiles := [], unchangedFiles := again.snapshot.files.map (·.filePath) } ↔
        outcome.snapshot.PathsAgree) ∧
      ((∀ entry ∈ workspace.store.files.entries,
          ¬Memory.IsHidden config.target config.ignore entry.1 →
            (Memory.fromRoot config.target entry).1.IsText) → outcome.snapshot.PathsAgree) := by
  obtain ⟨again, final, hagain, hfiles, hfolders, hsummary, hchanges⟩ :=
    exists_rescan hfits hhidden hcycle hstore
  obtain ⟨-, hscan, -⟩ := exists_writesAll_of_runCycle hcycle
  refine ⟨again, final, hagain, hfiles, hfolders, hsummary, ?_, pathsAgree_of_isText hscan⟩
  rw [hchanges]
  exact changesSince_of_files_eq_iff hfiles

end

/-! ### Two scans of a folder that holds their output -/

/-- A workspace with a file that cannot be read and one that can. -/
def twoSources : Workspace Memory :=
  renameStart.withStore (renameStart.store.put ⟨"src/b.py"⟩ (.bytes "x = 1\n".toUTF8))

/-- The output is below the folder to scan, and both files are unchanged in the second scan. -/
theorem rescan_is_quiet_twoSources :
    ∃ first after again final,
      runCycle twoSources (configIn ⟨"src/out"⟩ ["out"]) = (.ok first, after) ∧
      runCycle after (configIn ⟨"src/out"⟩ ["out"]) = (.ok again, final) ∧
      again.changes.hasChanges = false ∧ again.changes.unchangedFiles = ["a.js", "b.py"] := by
  have hscan : scanTarget twoSources (configIn ⟨"src/out"⟩ ["out"]) = .ok (takeSnapshot twoSources
      ⟨"src"⟩ [.file ⟨"a.js"⟩ .locked, .file ⟨"b.py"⟩ (.bytes "x = 1\n".toUTF8)]) := by
    with_unfolding_all rfl
  have hload : (History.ofConfig (configIn ⟨"src/out"⟩ ["out"])).load twoSources.store =
      .ok [] := by
    with_unfolding_all rfl
  have hfits : twoSources.FitsMachine := ⟨by decide +kernel, by decide⟩
  have hcomponents : (⟨"src/out"⟩ : Path).components =
      (⟨"src"⟩ : Path).components ++ [.name "out"] := by
    decide +kernel
  have hhidden : (configIn ⟨"src/out"⟩ ["out"]).HidesOutput := by
    intro relative hrelative
    obtain rfl := List.append_cancel_left (hcomponents.symm.trans hrelative)
    decide +kernel
  have htexts : ∀ entry ∈ twoSources.store.files.entries,
      ¬Memory.IsHidden ⟨"src"⟩ (configIn ⟨"src/out"⟩ ["out"]).ignore entry.1 →
        (Memory.fromRoot ⟨"src"⟩ entry).1.IsText := by
    decide +kernel
  obtain ⟨first, hfirst, hsnapshot⟩ := runCycle_succeeds hscan hload rfl
  obtain ⟨again, final, hagain, hfiles, -, -, hquiet, hagree⟩ :=
    rescan_is_quiet hfits hhidden (Prod.ext hfirst rfl) rfl
  have hchanges := hquiet.2 (hagree htexts)
  refine ⟨first, _, again, final, Prod.ext hfirst rfl, hagain, by rw [hchanges], ?_⟩
  rw [hchanges, hfiles, hsnapshot]
  with_unfolding_all rfl

/-! ### Two scans of files that are recorded under one path -/

/-- **A second scan of files that are recorded under one path is not quiet.** The two files have
different contents, and the first is compared with the second. -/
theorem rescan_of_names_alike :
    nestedConfig.HidesOutput ∧
    ∃ first after again final, runCycle byteNames nestedConfig = (.ok first, after) ∧
      runCycle after nestedConfig = (.ok again, final) ∧
      again.changes.hasChanges = true ∧
      again.changes.modifiedFiles.map (·.filePath) = ["\uFFFD"] := by
  have hhidden : nestedConfig.HidesOutput := by
    intro relative hrelative
    have hout : nestedConfig.outputDir.components = [.name "out"] := by decide +kernel
    have hsrc : nestedConfig.target.components = [.name "src"] := by decide +kernel
    rw [hout, hsrc] at hrelative
    exact absurd (List.cons.inj hrelative).1 (by decide)
  have hscan : scanTarget byteNames nestedConfig =
      .ok (takeSnapshot byteNames ⟨"src"⟩ byteItems) := by
    with_unfolding_all rfl
  have hload : (History.ofConfig nestedConfig).load byteNames.store = .ok [] := by
    with_unfolding_all rfl
  have hfits : byteNames.FitsMachine := ⟨by decide +kernel, by decide⟩
  obtain ⟨first, hfirst, hsnapshot⟩ := runCycle_succeeds hscan hload rfl
  obtain ⟨again, final, hagain, hfiles, -, -, hchanges⟩ :=
    exists_rescan hfits hhidden (Prod.ext hfirst rfl) rfl
  refine ⟨hhidden, first, _, again, final, Prod.ext hfirst rfl, hagain, ?_, ?_⟩
  · rw [hchanges, Snapshot.changesSince, hfiles, hsnapshot]
    decide +kernel
  · rw [hchanges, Snapshot.changesSince, hfiles, hsnapshot]
    decide +kernel

end Driftwatch
