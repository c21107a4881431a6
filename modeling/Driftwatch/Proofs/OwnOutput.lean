import Driftwatch.Proofs.Layers
import Driftwatch.Proofs.ScanContents
import Driftwatch.Proofs.ScanRun

/-!
# What a cycle writes, and what a scan sees

A configuration does not keep the place of its output apart. It ignores a name, the last component
of the output folder, wherever that name occurs below the folder to scan. This hides the output from
scans as long as the name lies between the two folders. It does not where the output folder is the
folder to scan itself, or where its last component is no name or no text.

## Main definitions

* `Config.HidesOutput`: an ignored name lies between the folder to scan and the output folder.
* `ListsHistory`: a scan lists the history that the cycle before it wrote.

## Main results

* `Config.HidesOutput.isHidden`: no scan shows the files that a cycle writes.
* `Config.mem_ignore_of_load`: every layered configuration ignores the name of its output folder.
* `own_output_is_not_listed`: so scans do not list what cycles write.
* `listsHistory_of_not_isHidden`, `own_output_is_listed`: they do where no such name lies between.
-/

namespace Driftwatch

/-! ### Places of the output -/

namespace Config

/-- Where the output folder is at or below the folder to scan, some component from there is an
ignored name. -/
def HidesOutput (config : Config) : Prop :=
  ∀ relative, config.outputDir.components = config.target.components ++ relative →
    ∃ component ∈ relative, ∃ name ∈ config.ignore, component.text = .ofString name

variable {config : Config}

/-- The outputs are hidden from scans with the folder that they lie in. -/
theorem HidesOutput.isHidden (h : config.HidesOutput) {path : Path}
    (hpath : path ∈ config.outputPaths) : Memory.IsHidden config.target config.ignore path := by
  obtain ⟨last, hlast⟩ := components_of_mem_outputPaths hpath
  intro relative hrelative
  rcases List.eq_nil_or_concat relative with rfl | ⟨inner, final, rfl⟩
  · exact .inl rfl
  · -- All but the last component lead from the folder to scan to the output folder.
    rw [hlast, List.concat_eq_append, ← List.append_assoc] at hrelative
    obtain ⟨component, hmem, hname⟩ := h inner (List.append_inj' hrelative rfl).1
    refine .inr ⟨component, ?_, hname⟩
    rw [List.concat_eq_append]
    exact List.mem_append_left _ hmem

/-! ### Layered configurations -/

theorem mem_addName (names : List String) (name : String) : name ∈ addName names name := by
  unfold addName
  split
  · next h => exact List.contains_iff_mem.1 h
  · exact List.mem_append_right _ (List.mem_singleton_self name)

theorem mem_ignore_ignoreOutput {name : String}
    (h : config.ignoreOutput.outputDir.fileName? = some (.ofString name)) :
    name ∈ config.ignoreOutput.ignore := by
  have hname : config.outputDir.fileName?.bind RawText.text? = some name := by
    rw [ignoreOutput_eq] at h
    rw [h, Option.bind_some, RawText.text?_ofString]
  rw [ignoreOutput_eq, hname]
  exact mem_addName _ _

/-- A layered configuration ignores the name of its output folder if it is a text, whichever layer
gave it. -/
theorem mem_ignore_of_load {σ : Type} [FileStore σ] {store : σ} {env : Environment}
    {given : GivenSettings} (h : load store env given = .ok config) {name : String}
    (hname : config.outputDir.fileName? = some (.ofString name)) : name ∈ config.ignore := by
  obtain ⟨-, settings, -, -, rfl, -⟩ := load_eq_ok_iff.1 h
  exact mem_ignore_ignoreOutput hname

/-- A layered configuration hides its output where a name that is a text ends the way from the
folder to scan to the output folder. -/
theorem hidesOutput_of_load {σ : Type} [FileStore σ] {store : σ} {env : Environment}
    {given : GivenSettings} (h : load store env given = .ok config)
    (hbetween : ∀ relative, config.outputDir.components = config.target.components ++ relative →
      (∃ name : String, relative.getLast? = some (.name name)) ∨
        ∃ component ∈ relative, ∃ name ∈ config.ignore, component.text = .ofString name) :
    config.HidesOutput := by
  intro relative hrelative
  rcases hbetween relative hrelative with ⟨name, hlast⟩ | hignored
  · have hdir : config.outputDir.fileName? = some (.ofString name) := by
      rw [Path.fileName?, hrelative, List.getLast?_append, hlast]
      rfl
    exact ⟨.name name, List.mem_of_getLast? hlast, name, mem_ignore_of_load h hdir, rfl⟩
  · exact hignored

end Config

/-- **Scans do not list what cycles write**, for every layered configuration, unless the way from
the folder to scan to the output folder has no ignored name and does not end in a name that is a
text. The records of a scan are those of some stored files, and none of these is an output. Nor is
one recorded under the path of an output, if both paths are texts. -/
theorem own_output_is_not_listed {memory : Memory} {env : Environment} {given : GivenSettings}
    {config : Config} (hload : Config.load memory env given = .ok config)
    (hbetween : ∀ relative, config.outputDir.components = config.target.components ++ relative →
      (∃ name : String, relative.getLast? = some (.name name)) ∨
        ∃ component ∈ relative, ∃ name ∈ config.ignore, component.text = .ofString name)
    {workspace : Workspace Memory} {snapshot : Snapshot}
    (hscan : scanTarget workspace config = .ok snapshot) :
    ∃ listed : List (Path × Content), listed.Sublist workspace.store.files.entries ∧
      snapshot.files = listed.map (.ofStored config.target) ∧
      ∀ entry ∈ listed, ∀ path ∈ config.outputPaths, entry.1.components ≠ path.components ∧
        (entry.1.IsText → path.IsText → ∀ relative,
          path.stripPrefix? config.target = some relative →
            (ScannedFile.ofStored config.target entry).filePath ≠ relative.slashed) := by
  refine ⟨_, List.filter_sublist, files_of_scanTarget hscan, fun entry hentry path hpath => ?_⟩
  have hshown := of_decide_eq_true (List.mem_filter.1 hentry).2
  have hhidden := (Config.hidesOutput_of_load hload hbetween).isHidden hpath
  have hne : entry.1.components ≠ path.components := by
    intro heq
    exact hshown fun relative hrelative => hhidden relative (heq ▸ hrelative)
  refine ⟨hne, fun hentryText hpathText relative hrelative heq => hne ?_⟩
  have hentrySplit := Memory.components_fromRoot hshown
  have hpathSplit := (Path.stripPrefix?_spec hrelative).1
  rw [ScannedFile.filePath_ofStored] at heq
  rw [hentrySplit, hpathSplit]
  refine congrArg _ (Path.components_eq_of_slashed ?_ ?_ heq)
  · exact hentryText.of_append hentrySplit
  · exact hpathText.of_append hpathSplit

/-! ### Output folders inside the folder to scan -/

/-- A workspace with a file to scan and the history of an earlier scan. -/
def scannedBefore : Workspace Memory :=
  renameStart.withStore (renameStart.store.put ⟨"src/out/history.json"⟩ .locked)

/-- A history in a folder below is not listed. -/
theorem own_output_is_not_listed_below :
    Config.load scannedBefore.store (fun _ => none) (keepIn ⟨"src/out"⟩) =
        .ok (configIn ⟨"src/out"⟩ ["out"]) ∧
      ∃ (snapshot : Snapshot) (listed : List (Path × Content)),
        scanTarget scannedBefore (configIn ⟨"src/out"⟩ ["out"]) = .ok snapshot ∧
        snapshot.files.map (·.filePath) = ["a.js"] ∧
        snapshot.files = listed.map (.ofStored ⟨"src"⟩) ∧
        ∀ entry ∈ listed, entry.1.components ≠ (historyFile ⟨"src/out"⟩).components := by
  have hload : Config.load scannedBefore.store (fun _ => none) (keepIn ⟨"src/out"⟩) =
      .ok (configIn ⟨"src/out"⟩ ["out"]) := by with_unfolding_all rfl
  have hscan : scanTarget scannedBefore (configIn ⟨"src/out"⟩ ["out"]) =
      .ok (takeSnapshot scannedBefore ⟨"src"⟩ [.file ⟨"a.js"⟩ .locked]) := by
    with_unfolding_all rfl
  have hcomponents : (⟨"src/out"⟩ : Path).components =
      (⟨"src"⟩ : Path).components ++ [.name "out"] := by
    decide +kernel
  have hbetween : ∀ relative, (⟨"src/out"⟩ : Path).components =
      (⟨"src"⟩ : Path).components ++ relative →
        ∃ name : String, relative.getLast? = some (.name name) := by
    intro relative hrelative
    obtain rfl := List.append_cancel_left (hcomponents.symm.trans hrelative)
    exact ⟨"out", rfl⟩
  obtain ⟨listed, -, hfiles, hlisted⟩ := own_output_is_not_listed hload
    (fun relative hrelative => .inl (hbetween relative hrelative)) hscan
  exact ⟨hload, _, listed, hscan, by with_unfolding_all rfl, hfiles,
    fun entry hentry => (hlisted entry hentry _ List.mem_cons_self).1⟩

/-- After a cycle, a scan with the same configuration lists the history that the cycle wrote. -/
def ListsHistory (workspace : Workspace Memory) (config : Config) : Prop :=
  ∃ outcome after snapshot, runCycle workspace config = (.ok outcome, after) ∧
    scanTarget after config = .ok snapshot ∧
    ∃ entry ∈ after.store.files.entries,
      entry.1.components = (historyFile config.outputDir).components ∧
        .ofStored config.target entry ∈ snapshot.files

/-- A history is listed where it is shown. -/
theorem listsHistory_of_not_isHidden {workspace : Workspace Memory} {config : Config}
    (snapshot : Snapshot) (scans : List Snapshot)
    (hscan : scanTarget workspace config = .ok snapshot)
    (hload : (History.ofConfig config).load workspace.store = .ok scans)
    (hrefused : workspace.store.refused = [])
    (hshown : ¬Memory.IsHidden config.target config.ignore (historyFile config.outputDir)) :
    ListsHistory workspace config := by
  obtain ⟨outcome, houtcome, -⟩ := runCycle_succeeds hscan hload hrefused
  have hcycle : runCycle workspace config = (.ok outcome, (runCycle workspace config).2) :=
    Prod.ext houtcome rfl
  obtain ⟨scans, -, -, -, hwrites⟩ := exists_writesAll_of_runCycle hcycle
  have hread := hwrites.readBytes_of_mem List.mem_cons_self (Path.same_iff.2 rfl)
  obtain ⟨again, hagain⟩ := exists_scanTarget_of_readBytes hread hshown
  obtain ⟨key, hmem, hkey, -, hrecord⟩ := exists_mem_files_of_readBytes hagain hread hshown
  exact ⟨outcome, _, again, hcycle, hagain, _, hmem, hkey, hrecord⟩

/-- **Scans list what cycles write where no name that is a text lies in between**: the output folder
is the folder to scan, or it lies below by a path that does not end in a name, or its name is no
text. -/
theorem own_output_is_listed :
    (Config.load renameStart.store (fun _ => none) (keepIn ⟨"src"⟩) =
        .ok (configIn ⟨"src"⟩ ["src"]) ∧ ListsHistory renameStart (configIn ⟨"src"⟩ ["src"])) ∧
      (Config.load renameStart.store (fun _ => none) (keepIn ⟨"src/.."⟩) =
        .ok (configIn ⟨"src/.."⟩ []) ∧ ListsHistory renameStart (configIn ⟨"src/.."⟩ [])) ∧
      Config.load renameStart.store (fun _ => none) (keepIn (byteNamed 0xFF)) =
        .ok (configIn (byteNamed 0xFF) []) ∧
          ListsHistory renameStart (configIn (byteNamed 0xFF) []) := by
  refine ⟨⟨?_, ?_⟩, ⟨?_, ?_⟩, ?_, ?_⟩
  · with_unfolding_all rfl
  · refine listsHistory_of_not_isHidden (snapshotOf renameStart "a.js") [] ?_ ?_ rfl ?_
    · with_unfolding_all rfl
    · with_unfolding_all rfl
    · decide +kernel
  · with_unfolding_all rfl
  · refine listsHistory_of_not_isHidden (snapshotOf renameStart "a.js") [] ?_ ?_ rfl ?_
    · with_unfolding_all rfl
    · with_unfolding_all rfl
    · decide +kernel
  · with_unfolding_all rfl
  · refine listsHistory_of_not_isHidden (snapshotOf renameStart "a.js") [] ?_ ?_ rfl ?_
    · with_unfolding_all rfl
    · with_unfolding_all rfl
    · decide +kernel

end Driftwatch
