import Driftwatch.Proofs.Comparison
import Driftwatch.Proofs.CycleEnding
import Driftwatch.Proofs.SnapshotBounds

/-!
# Runs of scans

A scan never has the scan before it at hand. It reads that one from the history file, and it writes
itself there for the next one, in a text that is cut to the limit, next to the reports. Along every
run of scans, with any edits of other files in between, each report is nevertheless the comparison
with the scan before, so the reports together give the files of every scan.

## The shape of the argument

After every step of a run the history file holds some scans, the last of which is the last scan of
the run (`Run.holdsScans`). A step that edits files leaves the history file alone. A step that scans
reads the scans (`HoldsScans.eq_of_load`), adds its own, and then writes reports under other names
(`WritesAll.holdsScans`). That the new scan can be read back at all is where the size of the store
matters (`scanTarget_isStorable`).

## Main definitions

* `Run`: runs of scans and edits, with the outcomes of the scans.
* `replay`: the set of paths that the reports of a run lead to.

## Main results

* `runCycle_eq_ok`: what a successful cycle does.
* `Run.holdsScans`: the invariant.
* `run_reports_every_change`: the reports of a run.
-/

namespace Driftwatch

/-! ### One cycle -/

/-- What every workspace of a real machine has: files and paths that take less room than a word can
count, and a clock that shows a moment of the calendar. -/
structure Workspace.FitsMachine (workspace : Workspace Memory) : Prop where
  extent : workspace.store.extent < wordLimit
  now : workspace.now.IsStorable

theorem runCycle_eq_ok {workspace after : Workspace Memory} {config : Config} {outcome : Outcome}
    {scans : List Snapshot} (hholds : HoldsScans config.outputDir workspace.store scans)
    (hfits : workspace.FitsMachine) (h : runCycle workspace config = (.ok outcome, after)) :
    outcome.changes = outcome.snapshot.changesSince scans.getLast? ∧
      HoldsScans config.outputDir after.store
        ((History.ofConfig config).keep (scans ++ [outcome.snapshot])) := by
  obtain ⟨_, hscan, hload, hchanges, hwrites⟩ := exists_writesAll_of_runCycle h
  obtain rfl := hholds.eq_of_load rfl hload
  have hsnapshot := scanTarget_isStorable hfits.extent hfits.now hscan
  exact ⟨hchanges, hwrites.holdsScans hholds.storable hsnapshot⟩

/-- A cycle succeeds where the folder can be scanned, the history can be read and nothing is
refused. -/
theorem runCycle_succeeds {workspace : Workspace Memory} {config : Config} {snapshot : Snapshot}
    {scans : List Snapshot} (hscan : scanTarget workspace config = .ok snapshot)
    (hload : (History.ofConfig config).load workspace.store = .ok scans)
    (hrefused : workspace.store.refused = []) :
    ∃ outcome, (runCycle workspace config).1 = .ok outcome ∧ outcome.snapshot = snapshot := by
  obtain ⟨paths, final, hcycle⟩ := runCycle_of_accepts hscan hload
    fun path _ => Memory.accepts_of_refused_eq_nil hrefused path
  rw [hcycle]
  exact ⟨_, rfl, rfl⟩

/-! ### Runs -/

/-- Runs of scans that keep their history in one folder. A run starts without a history. A step
edits files other than the history in any way, or it is a scan that succeeds, of any folder and with
any settings. The outcomes of the scans are listed in order. -/
inductive Run (outputDir : Path) : List Outcome → Workspace Memory → Prop
  | start {workspace : Workspace Memory}
    (hnone : workspace.store.files.find? (historyFile outputDir) = none) :
    Run outputDir [] workspace
  | edit {outcomes : List Outcome} {workspace edited : Workspace Memory}
    (hrun : Run outputDir outcomes workspace)
    (hhistory : edited.store.files.find? (historyFile outputDir) =
      workspace.store.files.find? (historyFile outputDir)) : Run outputDir outcomes edited
  | scan {outcomes : List Outcome} {workspace after : Workspace Memory} {config : Config}
    {outcome : Outcome} (hrun : Run outputDir outcomes workspace)
    (hdir : config.outputDir = outputDir) (hfits : workspace.FitsMachine)
    (hcycle : runCycle workspace config = (.ok outcome, after)) :
    Run outputDir (outcomes ++ [outcome]) after

/-- The snapshot of the last scan. -/
def lastSnapshot? (outcomes : List Outcome) : Option Snapshot :=
  outcomes.getLast?.map (·.snapshot)

/-- The set of paths that reports lead to, one after the other and from no paths on. -/
def replay (outcomes : List Outcome) : Finset String :=
  outcomes.foldl (fun paths outcome => outcome.changes.apply paths) ∅

/-- The history file holds the last scan of a run in the last place. -/
theorem Run.holdsScans {outputDir : Path} {outcomes : List Outcome} {workspace : Workspace Memory}
    (h : Run outputDir outcomes workspace) : ∃ scans, scans.getLast? = lastSnapshot? outcomes ∧
      HoldsScans outputDir workspace.store scans := by
  induction h with
  | start hnone => exact ⟨[], rfl, fun scan hscan => absurd hscan List.not_mem_nil, hnone⟩
  | edit hrun hhistory ih =>
    obtain ⟨scans, hlast, hholds⟩ := ih
    exact ⟨scans, hlast, hholds.storable, by rw [hhistory, hholds.content]⟩
  | scan hrun hdir hfits hcycle ih =>
    subst hdir
    obtain ⟨scans, hlast, hholds⟩ := ih
    obtain ⟨-, hstored⟩ := runCycle_eq_ok hholds hfits hcycle
    refine ⟨_, ?_, hstored⟩
    rw [History.getLast?_keep, lastSnapshot?, List.getLast?_concat, Option.map_some]

variable {outputDir : Path} {outcomes before : List Outcome} {workspace : Workspace Memory}

/-- The beginning of a run is a run. -/
theorem Run.of_prefix (h : Run outputDir outcomes workspace) (hbefore : before <+: outcomes) :
    ∃ earlier, Run outputDir before earlier := by
  induction h with
  | @start workspace hnone =>
    obtain rfl := List.prefix_nil.1 hbefore
    exact ⟨workspace, .start hnone⟩
  | edit hrun hhistory ih => exact ih hbefore
  | @scan outcomes workspace after config outcome hrun hdir hfits hcycle ih =>
    rcases List.prefix_concat_iff.1 hbefore with rfl | hbefore
    · exact ⟨after, hrun.scan hdir hfits hcycle⟩
    · exact ih hbefore

/-- Putting a file anywhere but in the place of the history is an edit. -/
theorem Run.put (h : Run outputDir outcomes workspace) {path : Path}
    (hpath : path.components ≠ (historyFile outputDir).components) (content : Content) :
    Run outputDir outcomes (workspace.withStore (workspace.store.put path content)) :=
  h.edit (PathMap.find?_insert_of_ne hpath)

/-- Removing a file other than the history is an edit. -/
theorem Run.remove (h : Run outputDir outcomes workspace) {path : Path}
    (hpath : path.components ≠ (historyFile outputDir).components) :
    Run outputDir outcomes (workspace.withStore (workspace.store.remove path)) :=
  h.edit (PathMap.find?_erase_of_ne hpath)

/-- After a first scan, a scan succeeds where the folder can be scanned and nothing is refused. -/
theorem Run.scan_succeeds (h : Run outputDir outcomes workspace) (hne : outcomes ≠ [])
    {config : Config} (hdir : config.outputDir = outputDir) (hfits : workspace.FitsMachine)
    (hrefused : workspace.store.refused = []) {snapshot : Snapshot}
    (hscan : scanTarget workspace config = .ok snapshot) :
    ∃ outcome, outcome.snapshot = snapshot ∧
      Run outputDir (outcomes ++ [outcome]) (runCycle workspace config).2 := by
  obtain ⟨scans, hlast, hholds⟩ := h.holdsScans
  have hscans : scans ≠ [] := by
    rintro rfl
    obtain ⟨before, outcome, rfl⟩ := (List.eq_nil_or_concat outcomes).resolve_left hne
    rw [lastSnapshot?, List.concat_eq_append, List.getLast?_concat] at hlast
    cases hlast
  have hload := hholds.load_of_ne_nil hscans (History.ofConfig config) hdir
  obtain ⟨outcome, hok, hsnapshot⟩ := runCycle_succeeds hscan hload hrefused
  exact ⟨outcome, hsnapshot, h.scan hdir hfits (Prod.ext hok rfl)⟩

/-- The last report of a run compares with the scan before. -/
theorem Run.last_changes {outcome : Outcome} (h : Run outputDir (before ++ [outcome]) workspace) :
    outcome.changes = outcome.snapshot.changesSince (lastSnapshot? before) := by
  generalize hall : before ++ [outcome] = outcomes at h
  induction h with
  | start hnone => exact absurd hall (List.append_ne_nil_of_right_ne_nil _ (by simp))
  | edit hrun hhistory ih => exact ih hall
  | scan hrun hdir hfits hcycle ih =>
    subst hdir
    obtain ⟨rfl, houtcome⟩ := List.append_inj' hall rfl
    cases houtcome
    obtain ⟨scans, hlast, hholds⟩ := hrun.holdsScans
    rw [← hlast]
    exact (runCycle_eq_ok hholds hfits hcycle).1

theorem replay_concat (before : List Outcome) (outcome : Outcome) :
    replay (before ++ [outcome]) = outcome.changes.apply (replay before) := by
  rw [replay, List.foldl_concat, replay]

/-- The reports of a run lead to the paths of its last scan. -/
theorem Run.replay_eq (h : Run outputDir outcomes workspace) :
    replay outcomes = ((lastSnapshot? outcomes).map Snapshot.paths).getD ∅ := by
  induction h with
  | start hnone => rfl
  | edit hrun hhistory ih => exact ih
  | scan hrun hdir hfits hcycle ih =>
    rw [replay_concat, ih, (hrun.scan hdir hfits hcycle).last_changes, apply_changesSince,
      lastSnapshot?, List.getLast?_concat]
    rfl

/-- **No change is lost or invented along a run of scans.** The first scan reports everything as
new, and every other one reports its changes since the scan before it. Taking the deleted files of
each report away and adding its new ones, from no files on, gives the files of every scan. -/
theorem run_reports_every_change (h : Run outputDir outcomes workspace) :
    (∀ first, outcomes[0]? = some first → first.changes = first.snapshot.changesSince none) ∧
    (∀ k previous current, outcomes[k]? = some previous → outcomes[k + 1]? = some current →
      current.changes = current.snapshot.changesSince (some previous.snapshot)) ∧
    ∀ k outcome, outcomes[k]? = some outcome →
      replay (outcomes.take (k + 1)) = outcome.snapshot.paths := by
  have hstep : ∀ k outcome, outcomes[k]? = some outcome →
      outcomes.take (k + 1) = outcomes.take k ++ [outcome] := by
    intro k outcome hk
    rw [List.take_add_one, hk, Option.toList_some]
  refine ⟨fun first hfirst => ?_, fun k previous current hprevious hcurrent => ?_,
    fun k outcome hk => ?_⟩
  · obtain ⟨earlier, hrun⟩ := h.of_prefix (List.take_prefix 1 outcomes)
    rw [hstep 0 first hfirst] at hrun
    exact hrun.last_changes
  · obtain ⟨earlier, hrun⟩ := h.of_prefix (List.take_prefix (k + 2) outcomes)
    rw [hstep (k + 1) current hcurrent] at hrun
    have hlast : lastSnapshot? (outcomes.take (k + 1)) = some previous.snapshot := by
      rw [hstep k previous hprevious, lastSnapshot?, List.getLast?_concat, Option.map_some]
    rw [← hlast]
    exact hrun.last_changes
  · obtain ⟨earlier, hrun⟩ := h.of_prefix (List.take_prefix (k + 1) outcomes)
    rw [hrun.replay_eq, hstep k outcome hk, lastSnapshot?, List.getLast?_concat]
    rfl

/-! ### A file that is renamed between two scans -/

/-- A configuration that keeps no more than the last scan. -/
def renameConfig : Config where
  target := ⟨"src"⟩
  outputDir := ⟨"out"⟩
  intervalMinutes := 10
  historyLimit := 0
  ignore := []
  formats := []

/-- A workspace with one file, which cannot be read. -/
def renameStart : Workspace Memory where
  store := ({} : Memory).put ⟨"src/a.js"⟩ .locked
  now := .epoch
  label := fun _ => "scan"

/-- The snapshot of a folder with a single file. -/
def snapshotOf (workspace : Workspace Memory) (name : String) : Snapshot :=
  takeSnapshot workspace ⟨"src"⟩ [.file ⟨name⟩ .locked]

/-- The workspace after a scan and the renaming of the file. -/
def renameMiddle : Workspace Memory :=
  let scanned := (runCycle renameStart renameConfig).2
  let removed := scanned.withStore (scanned.store.remove ⟨"src/a.js"⟩)
  removed.withStore (removed.store.put ⟨"src/b.js"⟩ .locked)

theorem entries_renameMiddle : renameMiddle.store.files.entries =
    [(⟨"out/history.json"⟩, .bytes (History.encode [snapshotOf renameStart "a.js"]).toUTF8),
     (⟨"src/b.js"⟩, .locked)] := by
  with_unfolding_all rfl

-- The scans are a variable here, so that nothing evaluates the bytes of their text.
theorem extent_lt_of_length {memory : Memory} {scans : List Snapshot}
    {others : List (Path × Content)} (hlength : (Json.prettyAt 0 (toJson scans)).length < 1000)
    (hfiles : memory.files.entries =
      (⟨"out/history.json"⟩, .bytes (History.encode scans).toUTF8) :: others)
    (hothers : (others.map fun entry => entry.1.bytes.length + 1 + entry.2.size).sum < 1000) :
    memory.extent < wordLimit := by
  have htext : (History.encode scans).length = (Json.prettyAt 0 (toJson scans)).length := by
    rw [← String.length_toList]
    exact congrArg List.length String.toList_ofList
  have hsize : (Content.bytes (History.encode scans).toUTF8).size ≤
      4 * (History.encode scans).length := size_toUTF8_le (History.encode scans)
  have hlimit : wordLimit = 18446744073709551616 := rfl
  have hhistory : (⟨"out/history.json"⟩ : Path).bytes.length = 16 := by decide
  rw [Memory.extent, hfiles, List.map_cons, List.sum_cons]
  dsimp only
  rw [hhistory]
  omega

theorem fitsMachine_renameMiddle : renameMiddle.FitsMachine :=
  ⟨extent_lt_of_length (by decide +kernel) entries_renameMiddle (by decide), by decide⟩

/-- A run in which a file is renamed between two scans. -/
theorem run_reports_every_change_renamed :
    ∃ first second workspace, Run ⟨"out"⟩ [first, second] workspace ∧
      first.snapshot.paths = {"a.js"} ∧ second.snapshot.paths = {"b.js"} ∧
      first.changes = first.snapshot.changesSince none ∧
      second.changes = second.snapshot.changesSince (some first.snapshot) ∧
      replay [first, second] = second.snapshot.paths := by
  have hscan : scanTarget renameStart renameConfig = .ok (snapshotOf renameStart "a.js") := by
    with_unfolding_all rfl
  have hload : (History.ofConfig renameConfig).load renameStart.store = .ok [] := by
    with_unfolding_all rfl
  have hnone : renameStart.store.files.find? (historyFile ⟨"out"⟩) = none := by
    with_unfolding_all rfl
  have hold : (⟨"src/a.js"⟩ : Path).components ≠ (historyFile ⟨"out"⟩).components := by
    decide +kernel
  have hnew : (⟨"src/b.js"⟩ : Path).components ≠ (historyFile ⟨"out"⟩).components := by
    decide +kernel
  have hrescan : scanTarget renameMiddle renameConfig = .ok (snapshotOf renameMiddle "b.js") := by
    with_unfolding_all rfl
  have hrefused : renameMiddle.store.refused = [] := by with_unfolding_all rfl
  obtain ⟨first, hok, hfirst⟩ := runCycle_succeeds hscan hload rfl
  have hstart : Run ⟨"out"⟩ [] renameStart := .start hnone
  have hscanned : Run ⟨"out"⟩ [first] (runCycle renameStart renameConfig).2 :=
    hstart.scan rfl ⟨by decide +kernel, by decide⟩ (Prod.ext hok rfl)
  have hmiddle : Run ⟨"out"⟩ [first] renameMiddle := (hscanned.remove hold).put hnew .locked
  obtain ⟨second, hsecond, hrun⟩ := hmiddle.scan_succeeds (List.cons_ne_nil _ _) rfl
    fitsMachine_renameMiddle hrefused hrescan
  obtain ⟨hreport, hreports, hreplay⟩ := run_reports_every_change hrun
  refine ⟨first, second, _, hrun, ?_, ?_, hreport first rfl, hreports 0 first second rfl rfl,
    hreplay 1 second rfl⟩
  · rw [hfirst]
    decide +kernel
  · rw [hsecond]
    decide +kernel

end Driftwatch
