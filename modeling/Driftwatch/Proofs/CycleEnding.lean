import Driftwatch.Proofs.HistoryFile
import Driftwatch.Scan.Cycle

/-!
# How a cycle can end

A cycle reads everything before it writes anything: it scans, it loads the history, then it writes
the history and one report after the other. There are four places where it can fail, and only the
last of them lies behind a write that succeeded. In a store where a write that succeeds replaces one
file and a write that fails changes nothing, the ending of a cycle therefore tells what every file
holds.

## The shape of the argument

The writes of a cycle form a list, the history first (`outputs`), and a cycle that gets past the
history has carried out a first part of it. `runCycle_ends` says this for every store. What the
files hold after a list of writes is one induction (`WritesAll.readBytes_eq`). It asks that writes
to one place agree in their text, and outputs do: a format that is configured twice is rendered the
same way twice, and different outputs have different names (`text_eq_of_mem_outputs`).

## Main definitions

* `WritesAll`: writes that all succeed, one after the other.
* `CycleEnd`: the five endings of a cycle.
* `ExactWrites`: stores in which a write replaces one file or changes nothing.
* `LeavesOutputs`: what a cycle leaves after the history and some reports were written.

## Main results

* `runCycle_ends`: every cycle has one of the endings.
* `exists_writesAll_of_runCycle`: what a cycle that succeeds has done.
* `cycle_leaves_known_files`: what the files hold after each of them.
* `runCycle_of_accepts`: cycles in memory that succeed.
-/

namespace Driftwatch

/-! ### Places of outputs -/

theorem components_historyFile (outputDir : Path) :
    (historyFile outputDir).components = outputDir.components ++ [.name "history.json"] :=
  Path.components_join outputDir
    (.inr ⟨(RawText.ofString "history.json").bytes, [], by decide, by decide⟩)

theorem components_reportPath (config : Config) (format : ReportFormat) :
    (config.reportPath format).components =
      config.outputDir.components ++ [.name ("latest_report." ++ format.extension)] := by
  have hplain : Path.IsPlain (Path.mk ("latest_report." ++ format.extension)).bytes := by
    refine .inr ⟨(Path.mk ("latest_report." ++ format.extension)).bytes, [], ?_⟩
    cases format <;> decide
  have hname : (Path.mk ("latest_report." ++ format.extension)).components =
      [.name ("latest_report." ++ format.extension)] := by
    cases format <;> decide
  rw [← hname]
  exact Path.components_join config.outputDir hplain

/-- No report is written over the history. -/
theorem components_reportPath_ne (config : Config) (format : ReportFormat) :
    (config.reportPath format).components ≠ (historyFile config.outputDir).components := by
  rw [components_reportPath, components_historyFile]
  intro heq
  have hnames := List.append_cancel_left heq
  cases format <;> exact absurd hnames (by decide)

/-- Reports in different formats have different names. -/
theorem eq_of_components_reportPath {config : Config} {format other : ReportFormat}
    (h : (config.reportPath format).components = (config.reportPath other).components) :
    format = other := by
  rw [components_reportPath, components_reportPath] at h
  have hnames := List.append_cancel_left h
  revert hnames
  cases format <;> cases other <;> decide

/-- The files that a cycle writes. -/
def Config.outputPaths (config : Config) : List Path :=
  historyFile config.outputDir :: config.formats.map config.reportPath

/-- Every output lies directly in the output folder. -/
theorem Config.components_of_mem_outputPaths {config : Config} {path : Path}
    (h : path ∈ config.outputPaths) :
    ∃ last, path.components = config.outputDir.components ++ [last] := by
  rcases List.mem_cons.1 h with rfl | h
  · exact ⟨_, components_historyFile config.outputDir⟩
  · obtain ⟨format, -, rfl⟩ := List.mem_map.1 h
    exact ⟨_, components_reportPath config format⟩

section

variable {σ : Type} [FileStore σ]

/-! ### Writes in a row -/

/-- Writes that all succeed, one after the other. -/
inductive WritesAll : σ → List (Path × String) → σ → Prop
  | nil {store : σ} : WritesAll store [] store
  | cons {store next after : σ} {path : Path} {text : String} {writes : List (Path × String)}
    (hwrite : FileStore.write store path text = (.ok (), next))
    (hrest : WritesAll next writes after) : WritesAll store ((path, text) :: writes) after

/-- The reports of a scan in some formats, with their places. -/
def reports (config : Config) (snapshot : Snapshot) (changes : Changes)
    (formats : List ReportFormat) : List (Path × String) :=
  formats.map fun format => (config.reportPath format, format.render snapshot changes)

/-- The history to which a scan was added and the reports in some formats, with their places. -/
def outputs (config : Config) (snapshot : Snapshot) (scans : List Snapshot)
    (formats : List ReportFormat) : List (Path × String) :=
  (historyFile config.outputDir,
      History.encode ((scans ++ [snapshot]).rtake (max config.historyLimit 1))) ::
    reports config snapshot (snapshot.changesSince scans.getLast?) formats

/-- The outputs of a cycle go to its files. -/
theorem map_fst_outputs (config : Config) (snapshot : Snapshot) (scans : List Snapshot) :
    (outputs config snapshot scans config.formats).map Prod.fst = config.outputPaths := by
  rw [outputs, reports, List.map_cons, List.map_map]
  rfl

/-- Reports are written until one of them fails. -/
theorem writeReports_cases (config : Config) (snapshot : Snapshot) (changes : Changes)
    (formats : List ReportFormat) (store : σ) :
    (∃ after, WritesAll store (reports config snapshot changes formats) after ∧
      writeReports config snapshot changes formats store =
        (.ok (formats.map config.reportPath), after)) ∨
    ∃ reported format rest stored fault after, formats = reported ++ format :: rest ∧
      WritesAll store (reports config snapshot changes reported) stored ∧
      FileStore.write stored (config.reportPath format) (format.render snapshot changes) =
        (.error fault, after) ∧
      writeReports config snapshot changes formats store =
        (.error (.unwritable (config.reportPath format) fault), after) := by
  induction formats generalizing store with
  | nil => exact .inl ⟨store, .nil, rfl⟩
  | cons format formats ih =>
    cases hwrite : FileStore.write store (config.reportPath format)
      (format.render snapshot changes) with
    | mk written next =>
      cases written with
      | error fault =>
        refine .inr ⟨[], format, formats, store, fault, next, rfl, .nil, hwrite, ?_⟩
        rw [writeReports, hwrite]
      | ok done =>
        obtain ⟨after, hall, heq⟩ | ⟨reported, failing, rest, stored, fault, after, hformats, hall,
          hfault, heq⟩ := ih next
        · refine .inl ⟨after, .cons hwrite hall, ?_⟩
          simp only [writeReports, hwrite, heq]
          rfl
        · refine .inr ⟨format :: reported, failing, rest, stored, fault, after, ?_,
            .cons hwrite hall, hfault, ?_⟩
          · rw [hformats, List.cons_append]
          · simp only [writeReports, hwrite, heq]
            rfl

/-! ### The endings -/

/-- A cycle that fails before any write succeeded, and the store that it leaves: there is no folder
to scan, no history to read, or the history cannot be written. -/
inductive FailsBeforeOutput (workspace : Workspace σ) (config : Config) : Error → σ → Prop
  | unscanned {error : Error} (hscan : scanTarget workspace config = .error error) :
    FailsBeforeOutput workspace config error workspace.store
  | historyUnread {snapshot : Snapshot} {error : Error}
    (hscan : scanTarget workspace config = .ok snapshot)
    (hload : (History.ofConfig config).load workspace.store = .error error) :
    FailsBeforeOutput workspace config error workspace.store
  | historyUnwritten {snapshot : Snapshot} {scans : List Snapshot} {fault : StoreFault} {after : σ}
    (hscan : scanTarget workspace config = .ok snapshot)
    (hload : (History.ofConfig config).load workspace.store = .ok scans)
    (hwrite : FileStore.write workspace.store (historyFile config.outputDir)
      (History.encode ((scans ++ [snapshot]).rtake (max config.historyLimit 1))) =
        (.error fault, after)) :
    FailsBeforeOutput workspace config (.unwritable (historyFile config.outputDir) fault) after

/-- The endings of a cycle, with its result and the store that it leaves. -/
inductive CycleEnd (workspace : Workspace σ) (config : Config) : Except Error Outcome → σ → Prop
  | failedEarly {error : Error} {after : σ}
    (hfails : FailsBeforeOutput workspace config error after) :
    CycleEnd workspace config (.error error) after
  | reportUnwritten {snapshot : Snapshot} {scans : List Snapshot}
    {reported rest : List ReportFormat} {format : ReportFormat} {fault : StoreFault}
    {stored after : σ}
    (hscan : scanTarget workspace config = .ok snapshot)
    (hload : (History.ofConfig config).load workspace.store = .ok scans)
    (hformats : config.formats = reported ++ format :: rest)
    (hwrites : WritesAll workspace.store (outputs config snapshot scans reported) stored)
    (hfault : FileStore.write stored (config.reportPath format)
      (format.render snapshot (snapshot.changesSince scans.getLast?)) = (.error fault, after)) :
    CycleEnd workspace config (.error (.unwritable (config.reportPath format) fault)) after
  | finished {snapshot : Snapshot} {scans : List Snapshot} {after : σ}
    (hscan : scanTarget workspace config = .ok snapshot)
    (hload : (History.ofConfig config).load workspace.store = .ok scans)
    (hwrites : WritesAll workspace.store (outputs config snapshot scans config.formats) after) :
    CycleEnd workspace config (.ok ⟨snapshot, snapshot.changesSince scans.getLast?,
      config.formats.map config.reportPath⟩) after

/-- Every cycle has one of the endings. -/
theorem runCycle_ends (workspace : Workspace σ) (config : Config) :
    CycleEnd workspace config (runCycle workspace config).1
      (runCycle workspace config).2.store := by
  unfold runCycle
  split
  · next error hscan => exact .failedEarly (.unscanned hscan)
  · next snapshot hscan =>
    simp only [recordSnapshot, History.latest]
    cases hload : (History.ofConfig config).load workspace.store with
    | error error => exact .failedEarly (.historyUnread hscan hload)
    | ok scans =>
      simp only [Except.map]
      cases hwrite : FileStore.write workspace.store (History.ofConfig config).path
        (History.encode ((History.ofConfig config).keep (scans ++ [snapshot]))) with
      | mk written store =>
        have hkept := hwrite
        rw [History.keep_eq_rtake] at hkept
        cases written with
        | error fault =>
          have happend : (History.ofConfig config).append workspace.store snapshot =
              (.error (.unwritable (History.ofConfig config).path fault), store) :=
            History.append_of_load hload hwrite
          simp only [happend]
          exact .failedEarly (.historyUnwritten hscan hload hkept)
        | ok done =>
          have happend : (History.ofConfig config).append workspace.store snapshot =
              (.ok (), store) :=
            History.append_of_load hload hwrite
          simp only [happend]
          obtain ⟨after, hall, heq⟩ | ⟨reported, format, rest, stored, fault, after, hformats, hall,
            hfault, heq⟩ := writeReports_cases config snapshot
              (snapshot.changesSince scans.getLast?) config.formats store
          · simp only [heq]
            exact .finished hscan hload (.cons hkept hall)
          · simp only [heq]
            exact .reportUnwritten hscan hload hformats (.cons hkept hall) hfault

/-- A cycle that succeeds has carried out all of its writes. -/
theorem exists_writesAll_of_runCycle {workspace after : Workspace σ} {config : Config}
    {outcome : Outcome} (h : runCycle workspace config = (.ok outcome, after)) :
    ∃ scans, scanTarget workspace config = .ok outcome.snapshot ∧
      (History.ofConfig config).load workspace.store = .ok scans ∧
      outcome.changes = outcome.snapshot.changesSince scans.getLast? ∧
      WritesAll workspace.store (outputs config outcome.snapshot scans config.formats)
        after.store := by
  have hend := runCycle_ends workspace config
  rw [h] at hend
  generalize after.store = left at hend ⊢
  cases hend with
  | finished hscan hload hwrites => exact ⟨_, hscan, hload, rfl, hwrites⟩

/-! ### Stores with exact writes -/

/-- Stores in which a write that succeeds replaces the file at a path and no other, and a write that
fails changes nothing. -/
class ExactWrites (σ : Type) [FileStore σ] : Prop where
  readBytes_of_write {store after : σ} {path : Path} {text : String}
    (h : FileStore.write store path text = (.ok (), after)) (other : Path) :
    FileStore.readBytes after other =
      if path.same other then .ok text.toUTF8 else FileStore.readBytes store other
  eq_of_write_error {store after : σ} {path : Path} {text : String} {fault : StoreFault}
    (h : FileStore.write store path text = (.error fault, after)) : after = store

instance : ExactWrites Memory where
  readBytes_of_write {store after path text} h other := by
    obtain rfl := Memory.eq_put_of_write h
    show Memory.readBytes _ other = if _ then _ else Memory.readBytes store other
    by_cases hsame : path.components = other.components
    · rw [if_pos (Path.same_iff.2 hsame), Memory.readBytes, Memory.put,
        PathMap.find?_insert_self hsame]
    · rw [if_neg (mt Path.same_iff.1 hsame), Memory.readBytes, Memory.put,
        PathMap.find?_insert_of_ne hsame, Memory.readBytes]
  eq_of_write_error {store after path text fault} h := by
    obtain hwrite | ⟨found, hwrite⟩ := store.write_cases path text
    · rw [hwrite] at h
      cases h
    · rw [hwrite] at h
      exact (congrArg Prod.snd h).symm

variable [ExactWrites σ] {store after : σ}

/-- What a file holds after writes that agree on its text. -/
theorem WritesAll.readBytes_eq {writes : List (Path × String)} (h : WritesAll store writes after)
    (other : Path) (text : String)
    (hagree : ∀ write ∈ writes, write.1.same other → write.2 = text) :
    FileStore.readBytes after other = if writes.any (·.1.same other) then .ok text.toUTF8
      else FileStore.readBytes store other := by
  induction h with
  | nil => rfl
  | @cons store next after path written writes hwrite hrest ih =>
    obtain ⟨hfirst, hothers⟩ := List.forall_mem_cons.1 hagree
    rw [ih hothers, ExactWrites.readBytes_of_write hwrite other, List.any_cons]
    by_cases hlater : writes.any (·.1.same other)
    · rw [hlater, Bool.or_true]
      rfl
    · by_cases hsame : path.same other
      · obtain rfl : written = text := hfirst hsame
        rw [if_neg hlater, if_pos hsame, hsame, Bool.true_or, if_pos rfl]
      · rw [if_neg hlater, if_neg hsame, if_neg]
        simpa [hsame] using hlater

theorem WritesAll.readBytes_of_unwritten {writes : List (Path × String)}
    (h : WritesAll store writes after) {other : Path}
    (hnone : ∀ write ∈ writes, ¬write.1.same other) :
    FileStore.readBytes after other = FileStore.readBytes store other := by
  -- No write goes to the path, so any text will do.
  rw [h.readBytes_eq other "" fun write hwrite hsame => absurd hsame (hnone write hwrite), if_neg]
  simpa using hnone

/-! ### What a cycle leaves -/

/-- The files after the history and the reports in some formats were written: these hold what was
written, and all others hold what they held before. -/
structure LeavesOutputs (config : Config) (snapshot : Snapshot) (scans : List Snapshot)
    (reported : List ReportFormat) (before after : σ) : Prop where
  history {path : Path} (hpath : (historyFile config.outputDir).same path) :
    FileStore.readBytes after path =
      .ok (History.encode ((scans ++ [snapshot]).rtake (max config.historyLimit 1))).toUTF8
  report {format : ReportFormat} (hformat : format ∈ reported) {path : Path}
    (hpath : (config.reportPath format).same path) : FileStore.readBytes after path =
      .ok (format.render snapshot (snapshot.changesSince scans.getLast?)).toUTF8
  other {path : Path} (hhistory : ¬(historyFile config.outputDir).same path)
    (hreports : ∀ format ∈ reported, ¬(config.reportPath format).same path) :
    FileStore.readBytes after path = FileStore.readBytes before path

section

variable {config : Config} {snapshot : Snapshot} {scans : List Snapshot}
  {reported : List ReportFormat}

/-- Outputs in one place have one text. -/
theorem text_eq_of_mem_outputs {write other : Path × String}
    (hwrite : write ∈ outputs config snapshot scans reported)
    (hother : other ∈ outputs config snapshot scans reported)
    (hsame : write.1.components = other.1.components) : write.2 = other.2 := by
  rcases List.mem_cons.1 hwrite with rfl | hwrite
  · rcases List.mem_cons.1 hother with rfl | hother
    · rfl
    · obtain ⟨format, -, rfl⟩ := List.mem_map.1 hother
      exact absurd hsame.symm (components_reportPath_ne config format)
  · obtain ⟨format, -, rfl⟩ := List.mem_map.1 hwrite
    rcases List.mem_cons.1 hother with rfl | hother
    · exact absurd hsame (components_reportPath_ne config format)
    · obtain ⟨second, -, rfl⟩ := List.mem_map.1 hother
      obtain rfl := eq_of_components_reportPath hsame
      rfl

/-- The text of an output is what its place holds afterwards. -/
theorem WritesAll.readBytes_of_mem
    (h : WritesAll store (outputs config snapshot scans reported) after)
    {write : Path × String} (hwrite : write ∈ outputs config snapshot scans reported) {path : Path}
    (hpath : write.1.same path) : FileStore.readBytes after path = .ok write.2.toUTF8 := by
  have hagree : ∀ other ∈ outputs config snapshot scans reported,
      other.1.same path → other.2 = write.2 := by
    intro other hother hsame
    refine text_eq_of_mem_outputs hother hwrite ?_
    rw [Path.same_iff.1 hsame, Path.same_iff.1 hpath]
  rw [h.readBytes_eq path write.2 hagree, if_pos (List.any_eq_true.2 ⟨write, hwrite, hpath⟩)]

theorem WritesAll.leavesOutputs
    (h : WritesAll store (outputs config snapshot scans reported) after) :
    LeavesOutputs config snapshot scans reported store after where
  history hpath := h.readBytes_of_mem List.mem_cons_self hpath
  report hformat _ hpath :=
    h.readBytes_of_mem (List.mem_cons_of_mem _ (List.mem_map_of_mem hformat)) hpath
  other {path} hhistory hreports := by
    refine h.readBytes_of_unwritten (List.forall_mem_cons.2 ⟨hhistory, ?_⟩)
    intro write hwrite
    obtain ⟨format, hformat, rfl⟩ := List.mem_map.1 hwrite
    exact hreports format hformat

end

theorem FailsBeforeOutput.eq_store {workspace : Workspace σ} {config : Config} {error : Error}
    (h : FailsBeforeOutput workspace config error after) : after = workspace.store := by
  cases h with
  | unscanned hscan => rfl
  | historyUnread hscan hload => rfl
  | historyUnwritten hscan hload hwrite => exact ExactWrites.eq_of_write_error hwrite

/-- **What the files hold after a cycle, however it ends.** A cycle that fails before its history
was written leaves the store as it was. A cycle that fails in the report of some format leaves the
history with the new scan, the reports of the formats before, and every other file as it was. A
cycle that succeeds leaves the history and the reports of all formats, every other file as it was,
and lists the file of each report in the order of the formats. -/
theorem cycle_leaves_known_files {workspace after : Workspace σ} {config : Config}
    {result : Except Error Outcome} (h : runCycle workspace config = (result, after)) :
    (∃ error, result = .error error ∧ FailsBeforeOutput workspace config error after.store ∧
      after.store = workspace.store) ∨
    (∃ snapshot scans reported format rest fault,
      scanTarget workspace config = .ok snapshot ∧
      (History.ofConfig config).load workspace.store = .ok scans ∧
      config.formats = reported ++ format :: rest ∧
      FileStore.write after.store (config.reportPath format)
        (format.render snapshot (snapshot.changesSince scans.getLast?)) =
          (.error fault, after.store) ∧
      result = .error (.unwritable (config.reportPath format) fault) ∧
      LeavesOutputs config snapshot scans reported workspace.store after.store) ∨
    ∃ snapshot scans, scanTarget workspace config = .ok snapshot ∧
      (History.ofConfig config).load workspace.store = .ok scans ∧
      result = .ok ⟨snapshot, snapshot.changesSince scans.getLast?,
        config.formats.map config.reportPath⟩ ∧
      LeavesOutputs config snapshot scans config.formats workspace.store after.store := by
  have hend := runCycle_ends workspace config
  rw [h] at hend
  generalize hstore : after.store = left at hend ⊢
  cases hend with
  | failedEarly hfails => exact .inl ⟨_, rfl, hfails, hfails.eq_store⟩
  | reportUnwritten hscan hload hformats hwrites hfault =>
    obtain rfl := ExactWrites.eq_of_write_error hfault
    exact .inr (.inl ⟨_, _, _, _, _, _, hscan, hload, hformats, hfault, rfl, hwrites.leavesOutputs⟩)
  | finished hscan hload hwrites =>
    exact .inr (.inr ⟨_, _, hscan, hload, rfl, hwrites.leavesOutputs⟩)

end

/-! ### Cycles in memory -/

section

variable {store after : Memory} {writes : List (Path × String)}

theorem WritesAll.refused_eq (h : WritesAll store writes after) :
    after.refused = store.refused := by
  induction h with
  | nil => rfl
  | cons hwrite hrest ih =>
    rw [ih, Memory.eq_put_of_write hwrite]
    rfl

theorem WritesAll.accepts_iff (h : WritesAll store writes after) (path : Path) :
    after.Accepts path ↔ store.Accepts path := by
  rw [Memory.Accepts, Memory.Accepts, h.refused_eq]

theorem WritesAll.accepts_of_mem (h : WritesAll store writes after) :
    ∀ path ∈ writes.map Prod.fst, store.Accepts path := by
  induction h with
  | nil => exact List.forall_mem_nil _
  | cons hwrite hrest ih =>
    refine List.forall_mem_cons.2 ⟨Memory.accepts_of_write hwrite, fun path hpath => ?_⟩
    exact ((WritesAll.cons hwrite .nil).accepts_iff path).1 (ih path hpath)

variable {config : Config} {snapshot : Snapshot} {scans : List Snapshot}

/-- The history that a cycle leaves, whatever its file held before. -/
theorem WritesAll.holdsScans {formats : List ReportFormat}
    (h : WritesAll store (outputs config snapshot scans formats) after)
    (hscans : ∀ scan ∈ scans, scan.IsStorable) (hsnapshot : snapshot.IsStorable) :
    HoldsScans config.outputDir after ((History.ofConfig config).keep (scans ++ [snapshot])) := by
  refine ⟨History.isStorable_of_mem_keep hscans hsnapshot, ?_⟩
  rw [if_neg ((History.ofConfig config).keep_append_ne_nil scans snapshot), History.keep_eq_rtake]
  exact Memory.find?_of_readBytes (h.leavesOutputs.history (Path.same_iff.2 rfl))

/-- A cycle succeeds where the folder can be scanned, the history can be read and no output is
refused. -/
theorem runCycle_of_accepts {workspace : Workspace Memory}
    (hscan : scanTarget workspace config = .ok snapshot)
    (hload : (History.ofConfig config).load workspace.store = .ok scans)
    (haccepts : ∀ path ∈ config.outputPaths, workspace.store.Accepts path) :
    ∃ paths final, runCycle workspace config =
      (.ok ⟨snapshot, snapshot.changesSince scans.getLast?, paths⟩, final) := by
  generalize hcycle : runCycle workspace config = cycle
  obtain ⟨result, final⟩ := cycle
  have hend := runCycle_ends workspace config
  rw [hcycle] at hend
  generalize final.store = left at hend
  cases hend with
  | failedEarly hfails =>
    cases hfails with
    | unscanned hfault => exact absurd (hscan.symm.trans hfault) (by simp)
    | historyUnread _ hfault => exact absurd (hload.symm.trans hfault) (by simp)
    | historyUnwritten _ _ hfault =>
      exact absurd (haccepts _ List.mem_cons_self) (Memory.not_accepts_of_write_error hfault)
  | @reportUnwritten _ _ _ _ format _ _ _ _ _ hformats hwrites hfault =>
    have hformat : format ∈ config.formats := by
      rw [hformats]
      exact List.mem_append_right _ List.mem_cons_self
    have haccepted := haccepts _ (List.mem_cons_of_mem _ (List.mem_map_of_mem hformat))
    exact absurd ((hwrites.accepts_iff _).2 haccepted) (Memory.not_accepts_of_write_error hfault)
  | finished hagain hloaded hwrites =>
    obtain rfl := Except.ok.inj (hscan.symm.trans hagain)
    obtain rfl := Except.ok.inj (hload.symm.trans hloaded)
    exact ⟨_, final, rfl⟩

end

/-! ### A report that is refused -/

/-- A configuration with two reports. -/
def twoReports : Config where
  target := ⟨"src"⟩
  outputDir := ⟨"out"⟩
  intervalMinutes := 10
  historyLimit := 20
  ignore := []
  formats := [.text, .html]

/-- A workspace with one file, which cannot be read, and a place for the second report that cannot
be written. -/
def secondRefused : Workspace Memory where
  store := (({} : Memory).put ⟨"src/a.js"⟩ .locked).refuse (twoReports.reportPath .html)
  now := .epoch
  label := fun _ => "scan"

/-- The snapshot of the only file there. -/
def secondRefusedScan : Snapshot :=
  takeSnapshot secondRefused ⟨"src"⟩ [⟨⟨"a.js"⟩, false, 0, some .epoch⟩]

/-- The history and the first report are there after the second one failed. -/
theorem cycle_leaves_known_files_refused :
    ∃ after, runCycle secondRefused twoReports = (.error (.unwritable (twoReports.reportPath .html)
        (.refused (twoReports.reportPath .html))), after) ∧
      LeavesOutputs twoReports secondRefusedScan [] [.text] secondRefused.store after.store := by
  have herror : (runCycle secondRefused twoReports).1 = .error (.unwritable
      (twoReports.reportPath .html) (.refused (twoReports.reportPath .html))) := by
    with_unfolding_all rfl
  have hscanned : scanTarget secondRefused twoReports = .ok secondRefusedScan := by
    with_unfolding_all rfl
  have hloaded : (History.ofConfig twoReports).load secondRefused.store = .ok [] := by
    with_unfolding_all rfl
  generalize hcycle : runCycle secondRefused twoReports = cycle at herror
  obtain ⟨result, after⟩ := cycle
  obtain rfl := herror
  refine ⟨after, rfl, ?_⟩
  obtain ⟨error, hresult, hfails, -⟩ | ⟨snapshot, scans, reported, format, rest, fault, hscan,
    hload, hformats, -, hresult, hleaves⟩ | ⟨snapshot, scans, -, -, hresult, -⟩ :=
      cycle_leaves_known_files hcycle
  · obtain rfl := Except.error.inj hresult
    generalize hpath : twoReports.reportPath .html = path at hfails
    generalize after.store = left at hfails
    cases hfails with
    | unscanned hfault => exact absurd (hscanned.symm.trans hfault) (by simp)
    | historyUnread _ hfault => exact absurd (hloaded.symm.trans hfault) (by simp)
    | historyUnwritten =>
      exact absurd (congrArg Path.components hpath) (components_reportPath_ne twoReports .html)
  · obtain rfl := Except.ok.inj (hscanned.symm.trans hscan)
    obtain rfl := Except.ok.inj (hloaded.symm.trans hload)
    have hpath := (Error.unwritable.inj (Except.error.inj hresult)).1
    obtain rfl := eq_of_components_reportPath (congrArg Path.components hpath)
    have hreported : reported = [.text] := by
      have hsplit : [.text, .html] = reported ++ ReportFormat.html :: rest := hformats
      rcases reported with _ | ⟨first, _ | ⟨second, more⟩⟩
      · cases hsplit
      · rw [(List.cons.inj hsplit).1]
      · simp at hsplit
    exact hreported ▸ hleaves
  · cases hresult

end Driftwatch
