import Mathlib.Data.List.DropRight
import Driftwatch.Command.Run
import Driftwatch.Proofs.Decoding
import Driftwatch.Proofs.HistoryQueue
import Driftwatch.Proofs.OwnOutput

/-!
# A listing finds what a scan stored

A scan and a listing find the output folder on their own. The scan resolves all layers of the
configuration and then writes into the scanned store. The listing resolves them again, in a store
that the scan has changed and without the formats that the scan was given, or it does not know the
folder at all. Both find the same history nevertheless.

## The shape of the argument

The outputs of a scan lie directly in the output folder and do not have the name of a file with
settings, so that file is at its place after the scan if and only if it was before, and it has the
same text (`WritesAll.givenBy`). Formats given to a command decide about nothing but the formats, so
the layers lead to the same output folder without them (`Config.load_without_formats`). A listing
without a folder leaves out the layer of its settings, which matters only if they set an output
folder that nothing replaces (`Config.Follows.outputDirOf_eq`). What is then loaded is what the
cycle wrote, and what is printed has a row for each scan that was loaded
(`printedLines_historyTable`).

## Main definitions

* `Settings.path`: the file with the settings of a folder.
* `Snapshot.row`, `table`: the row of a scan, and rows under their titles.

## Main results

* `WritesAll.givenBy`: writes that leave the settings of a folder alone.
* `Config.load_without_formats`: the layers without the formats of a command.
* `run_scan_eq_ok_iff` and `run_history_eq_ok`: what the two commands do.
* `load_of_runCycle`, `givenBy_of_runCycle`: the history and the settings after a cycle.
* `history_lists_what_scan_stored`: a listing after a scan.
-/

namespace Driftwatch

/-! ### Settings behind writes -/

/-- The file with the settings of a folder. -/
def Settings.path (target : Path) : Path :=
  target.join ⟨fileName⟩

theorem Settings.components_path (target : Path) :
    (path target).components = target.components ++ [.name fileName] :=
  Path.components_join target (.inr ⟨(RawText.ofString fileName).bytes, [], by decide, by decide⟩)

section

variable {store after : Memory} {writes : List (Path × String)}

theorem WritesAll.contains_eq (h : WritesAll store writes after) (root : Path) :
    after.contains root = (writes.any (·.1.startsWith root) || store.contains root) := by
  induction h with
  | nil => rfl
  | cons hwrite hrest ih =>
    rw [ih, Memory.eq_put_of_write hwrite, Memory.contains_put, List.any_cons, Bool.or_left_comm,
      Bool.or_assoc]

theorem WritesAll.readText_of_unwritten (h : WritesAll store writes after) {path : Path}
    (hnone : ∀ write ∈ writes, ¬write.1.same path) : after.readText path = store.readText path := by
  have hread : after.readBytes path = store.readBytes path := h.readBytes_of_unwritten hnone
  rw [Memory.readText, hread, Memory.readText]

/-- Writes that go neither to the file with the settings of a folder nor below it leave the settings
as they are. -/
theorem WritesAll.givenBy (h : WritesAll store writes after) {target : Path}
    (houtside : ∀ write ∈ writes, write.1.startsWith (Settings.path target) = false)
    {settings : Settings} (hgiven : Settings.GivenBy store target settings) :
    Settings.GivenBy after target settings := by
  have hthere : after.contains (Settings.path target) = store.contains (Settings.path target) := by
    have hnone : writes.any (·.1.startsWith (Settings.path target)) = false :=
      List.any_eq_false.2 fun write hwrite => Bool.eq_false_iff.1 (houtside write hwrite)
    rw [h.contains_eq, hnone, Bool.false_or]
  have hread : after.readText (Settings.path target) = store.readText (Settings.path target) := by
    refine h.readText_of_unwritten fun write hwrite hsame => ?_
    refine Bool.eq_false_iff.1 (houtside write hwrite) ?_
    rw [Path.startsWith, Path.same_iff.1 hsame]
    exact List.isPrefixOf_iff_prefix.2 List.prefix_rfl
  cases hgiven with
  | absent hgone => exact .absent (hthere.trans hgone)
  | blank hwas htext hblank => exact .blank (hthere.trans hwas) (hread.trans htext) hblank
  | decoded hwas htext hblank hdecoded =>
    exact .decoded (hthere.trans hwas) (hread.trans htext) hblank hdecoded

end

/-- No output has the name of a file with settings, so an output is at or below such a file only
with the whole output folder. -/
theorem Config.startsWith_settings_eq_false {config : Config} {target path : Path}
    (hdir : config.outputDir.startsWith (Settings.path target) = false)
    (hpath : path ∈ config.outputPaths) : path.startsWith (Settings.path target) = false := by
  obtain ⟨last, hlast, hname⟩ : ∃ last, path.components = config.outputDir.components ++ [last] ∧
      last ≠ .name Settings.fileName := by
    rcases List.mem_cons.1 hpath with rfl | hpath
    · exact ⟨_, components_historyFile config.outputDir, by decide⟩
    · obtain ⟨format, -, rfl⟩ := List.mem_map.1 hpath
      exact ⟨_, components_reportPath config format, by cases format <;> decide⟩
  refine Bool.eq_false_iff.2 fun hstarts => ?_
  rw [Path.startsWith, List.isPrefixOf_iff_prefix, hlast] at hstarts
  rcases List.prefix_concat_iff.1 hstarts with heq | hbelow
  · rw [Settings.components_path] at heq
    have hnames := (List.append_inj' heq rfl).2
    exact hname (List.singleton_inj.1 hnames).symm
  · refine Bool.eq_false_iff.1 hdir ?_
    rw [Path.startsWith]
    exact List.isPrefixOf_iff_prefix.2 hbelow

/-! ### The layers of a listing -/

theorem lastSet_layers {α : Type} (field : Layer → Option α) (settings : Settings)
    (env : Environment) (given : GivenSettings) :
    lastSet field (layers settings env given) = (field given.layer).or
      ((field env.layer).or ((field settings.layer).or (field .defaults))) := by
  have hlayers : layers settings env given =
      [] ++ [.defaults] ++ [settings.layer] ++ [env.layer] ++ [given.layer] := rfl
  have hnone : lastSet field [] = none := rfl
  simp only [hlayers, lastSet_append_singleton, hnone, Option.or_none]

namespace Config

/-- **Formats given to a command decide about nothing else.** Where a configuration is loaded, the
same command without formats leads to the same output folder, in every store where the folder has
the same settings. It is refused only if these set an empty list of formats. -/
theorem load_without_formats {σ : Type} [FileStore σ] {store : σ} {settings : Settings}
    {env : Environment} {given : GivenSettings}
    (hthere : FileStore.contains store given.target = true)
    (hgiven : Settings.GivenBy store given.target settings)
    (hreadable : env.IsReadable intervalVariable ∧ env.IsReadable historyVariable)
    (hsound : (layered settings env given).IsSound) (hformats : settings.formats ≠ some []) :
    ∃ config, load store env { given with formats := [] } = .ok config ∧
      config.outputDir = (layered settings env given).outputDir := by
  have hwith := follows_layered settings env given
  have hwithout := follows_layered settings env { given with formats := [] }
  have houtput := Option.some.inj (hwithout.outputDir.symm.trans hwith.outputDir)
  have hminutes := Option.some.inj (hwithout.intervalMinutes.symm.trans hwith.intervalMinutes)
  have hlimit := Option.some.inj (hwithout.historyLimit.symm.trans hwith.historyLimit)
  refine ⟨_, load_eq_ok_iff.2 ⟨hthere, settings, hgiven, hreadable, rfl, ?_, ?_, ?_⟩, houtput⟩
  · rw [hminutes]
    exact hsound.intervalMinutes
  · rw [hlimit]
    exact hsound.historyLimit
  · -- Without formats of the command, those of the settings are left, or those of the defaults.
    have hlast : settings.formats.or (some [.html]) =
        some (layered settings env { given with formats := [] }).formats :=
      (lastSet_layers (·.formats) settings env { given with formats := [] }).symm.trans
        hwithout.formats
    intro hnone
    rw [hnone] at hlast
    cases hset : settings.formats with
    | none =>
      rw [hset] at hlast
      cases hlast
    | some formats =>
      rw [hset, Option.some_or] at hlast
      exact hformats (hset.trans hlast)

/-- The output folder without the layer of the settings. -/
theorem Follows.outputDirOf_eq {config : Config} {settings : Settings} {env : Environment}
    {given : GivenSettings} (h : config.Follows (layers settings env given))
    (hset : given.outputDir.isSome = true ∨ settings.outputDir = none) :
    outputDirOf given.outputDir env = config.outputDir := by
  have hlast : given.outputDir.or ((env.setFolder? outputVariable).or
      (settings.outputDir.or (some defaultOutputDir))) = some config.outputDir :=
    (lastSet_layers (·.outputDir) settings env given).symm.trans h.outputDir
  rw [outputDirOf, Environment.outputDir?_eq]
  rcases hset with hset | hset
  · obtain ⟨outputDir, houtput⟩ := Option.isSome_iff_exists.1 hset
    rw [houtput, Option.some_or] at hlast ⊢
    exact Option.some.inj hlast
  · rw [hset, Option.none_or, ← Option.or_assoc, Option.or_some] at hlast
    exact Option.some.inj hlast

end Config

/-! ### Rows of a listing -/

/-- The columns of a listing: an identifier and a time with blanks after them, and two counts with
blanks before them. -/
def columns (scanId time files lines : List Char) : List Char :=
  scanId.rightpad 38 ' ' ++ ' ' :: time.rightpad 20 ' ' ++ ' ' :: files.leftpad 7 ' ' ++
    ' ' :: lines.leftpad 9 ' '

/-- The row of a scan: its identifier, its time and its numbers of files and of lines. -/
def Snapshot.row (snapshot : Snapshot) : List Char :=
  columns snapshot.scanId.toList snapshot.timestamp.civil.toList
    (Nat.toDigits 10 snapshot.summary.totalFiles) (Nat.toDigits 10 snapshot.summary.totalLines)

/-- Rows below the titles of their columns, each on a line of its own. -/
def table (rows : List (List Char)) : String :=
  let titles := columns "SCAN ID".toList "TIMESTAMP (UTC)".toList "FILES".toList "LINES".toList
  String.ofList ((titles :: rows).flatMap (· ++ ['\n']))

theorem toList_padEnd (width : Nat) (text : String) :
    (padEnd width text).toList = text.toList.rightpad width ' ' := by
  rw [padEnd, String.toList_append, String.toList_ofList, List.rightpad, String.length_toList]

theorem toList_padStart (width : Nat) (text : String) :
    (padStart width text).toList = text.toList.leftpad width ' ' := by
  rw [padStart, String.toList_append, String.toList_ofList, List.leftpad, String.length_toList]

theorem toList_historyRow (scanId time files lines : String) :
    (historyRow scanId time files lines).toList =
      columns scanId.toList time.toList files.toList lines.toList := by
  have hblank : " ".toList = [' '] := rfl
  simp only [historyRow, columns, String.toList_append, toList_padEnd, toList_padStart, hblank,
    List.append_assoc, List.cons_append, List.nil_append]

theorem Snapshot.toList_historyRow (snapshot : Snapshot) :
    snapshot.historyRow.toList = snapshot.row := by
  rw [historyRow, Driftwatch.toList_historyRow, row]
  simp only [Nat.toString_eq_repr, Nat.toList_repr]

/-- **A listing prints one row for each scan**, in order and below a line of titles. -/
theorem printedLines_historyTable (scans : List Snapshot) :
    printedLines (historyTable scans) = table (scans.map Snapshot.row) := by
  have hrows : ∀ lines : List String, (printedLines lines).toList =
      (lines.map String.toList).flatMap (· ++ ['\n']) := by
    intro lines
    rw [printedLines, String.toList_join, List.flatMap_map, List.flatMap_map]
    simp only [String.toList_append]
    rfl
  rw [← String.toList_inj, hrows, table, String.toList_ofList, historyTable, List.map_cons,
    toList_historyRow, List.map_map]
  simp only [Function.comp_def, Snapshot.toList_historyRow]

/-! ### Commands -/

section

variable {σ : Type} [FileStore σ]

/-- What a scan of a folder is given. -/
def scanSettings (target : Path) (output : Option Path) (formats : List ReportFormat) :
    GivenSettings :=
  { target := target, outputDir := output, formats := formats }

/-- A scan that succeeds loads a configuration and runs one cycle with it. -/
theorem run_scan_eq_ok_iff {workspace after : Workspace σ} {env : Environment} {target : Path}
    {output : Option Path} {formats : List ReportFormat} {reply : Reply} :
    (Command.scan target output formats).run workspace env = (.ok reply, after) ↔
      ∃ config outcome,
        Config.load workspace.store env (scanSettings target output formats) = .ok config ∧
        runCycle workspace config = (.ok outcome, after) ∧ reply = .printed outcome.printed := by
  simp only [Command.run, runScan]
  rw [← scanSettings]
  constructor
  · intro h
    cases hload : Config.load workspace.store env (scanSettings target output formats) with
    | error error =>
      rw [hload] at h
      cases h
    | ok config =>
      rw [hload] at h
      dsimp only at h
      generalize hcycle : runCycle workspace config = cycle at h
      obtain ⟨outcome, store⟩ := cycle
      cases outcome with
      | error error => cases h
      | ok outcome =>
        obtain ⟨hreply, rfl⟩ := Prod.mk.inj h
        exact ⟨config, outcome, rfl, hcycle, (Except.ok.inj hreply).symm⟩
  · rintro ⟨config, outcome, hload, hcycle, rfl⟩
    rw [hload]
    dsimp only
    rw [hcycle]
    rfl

/-- A listing prints the rows of the scans of its history, if there are any. -/
theorem run_history_eq_ok {workspace : Workspace σ} {env : Environment}
    {target output : Option Path} {history : History} {scans : List Snapshot}
    (hhistory : historyOf workspace.store env target output = .ok history)
    (hload : history.load workspace.store = .ok scans) (hne : scans ≠ []) :
    (Command.history target output).run workspace env =
      (.ok (.printed (table (scans.map Snapshot.row))), workspace) := by
  have hempty : scans.isEmpty = false := by simpa using hne
  rw [← printedLines_historyTable]
  simp only [Command.run, runHistory, hhistory, hload]
  simp only [Except.map, hempty, Bool.false_eq_true, if_false]

end

/-! ### Cycles -/

/-- After a cycle that succeeds, its snapshot is the last one of the history in its output folder,
with whatever limit this is loaded. -/
theorem load_of_runCycle {workspace after : Workspace Memory} {config : Config} {outcome : Outcome}
    (hfits : workspace.FitsMachine) (h : runCycle workspace config = (.ok outcome, after)) :
    ∃ earlier, (History.ofConfig config).load workspace.store = .ok earlier ∧
      ∀ history : History, history.outputDir = config.outputDir → history.load after.store =
        .ok ((earlier ++ [outcome.snapshot]).rtake (max config.historyLimit 1)) := by
  obtain ⟨earlier, hscan, hearlier, -, hwrites⟩ := exists_writesAll_of_runCycle h
  have hstorable := scanTarget_isStorable hfits.extent hfits.now hscan
  have hholds := hwrites.holdsScans (History.isStorable_of_load hearlier) hstorable
  have hloaded := hholds.load_of_ne_nil (History.keep_append_ne_nil _ _ _)
  rw [History.keep_eq_rtake] at hloaded
  exact ⟨earlier, hearlier, hloaded⟩

/-- A cycle that succeeds leaves a folder and its settings alone, unless its output folder is at or
below the file with the settings. -/
theorem givenBy_of_runCycle {workspace after : Workspace Memory} {config : Config}
    {outcome : Outcome} {target : Path} {settings : Settings}
    (hdir : config.outputDir.startsWith (Settings.path target) = false)
    (hthere : workspace.store.contains target = true)
    (hgiven : Settings.GivenBy workspace.store target settings)
    (h : runCycle workspace config = (.ok outcome, after)) :
    after.store.contains target = true ∧ Settings.GivenBy after.store target settings := by
  obtain ⟨earlier, -, -, -, hwrites⟩ := exists_writesAll_of_runCycle h
  have hplaces := map_fst_outputs config outcome.snapshot earlier
  refine ⟨?_, hwrites.givenBy (fun write hwrite => ?_) hgiven⟩
  · rw [hwrites.contains_eq, hthere, Bool.or_true]
  · exact Config.startsWith_settings_eq_false hdir (hplaces ▸ List.mem_map_of_mem hwrite)

/-! ### A listing after a scan -/

/-- **A listing finds what a scan stored.** Let the output folder not be at or below the file with
the settings of the folder, and let these settings not have an empty list of formats. After a scan
that succeeds, whatever formats it was given, the stored scans are the latest ones of those before
and the new one, as many as the limit allows. A listing for the same folder, output folder and
environment prints one row for each of them, the oldest first and the new one last. A listing
without the folder prints the same if an output folder is given or the settings have none. -/
theorem history_lists_what_scan_stored {workspace after : Workspace Memory} {env : Environment}
    {target : Path} {output : Option Path} {formats : List ReportFormat} {reply : Reply}
    (hfits : workspace.FitsMachine)
    (hplace : ∀ config,
      Config.load workspace.store env (scanSettings target output formats) = .ok config →
        config.outputDir.startsWith (Settings.path target) = false)
    (hformats : ∀ settings, Settings.GivenBy workspace.store target settings →
      settings.formats ≠ some [])
    (hscan : (Command.scan target output formats).run workspace env = (.ok reply, after)) :
    ∃ config outcome earlier stored rows,
      Config.load workspace.store env (scanSettings target output formats) = .ok config ∧
      runCycle workspace config = (.ok outcome, after) ∧ reply = .printed outcome.printed ∧
      (History.ofConfig config).load workspace.store = .ok earlier ∧
      (History.ofConfig config).load after.store = .ok stored ∧
      stored = (earlier ++ [outcome.snapshot]).rtake config.historyLimit ∧
      stored.getLast? = some outcome.snapshot ∧
      rows = stored.map Snapshot.row ∧ rows.getLast? = some outcome.snapshot.row ∧
      rows.length = min (earlier.length + 1) config.historyLimit ∧
      (Command.history (some target) output).run after env =
        (.ok (.printed (table rows)), after) ∧
      ((output.isSome = true ∨ ∀ settings, Settings.GivenBy workspace.store target settings →
          settings.outputDir = none) →
        (Command.history none output).run after env = (.ok (.printed (table rows)), after)) := by
  obtain ⟨config, outcome, hload, hcycle, rfl⟩ := run_scan_eq_ok_iff.1 hscan
  obtain ⟨hthere, settings, hgiven, hreadable, hconfig, hsound⟩ := Config.load_eq_ok_iff.1 hload
  obtain ⟨earlier, hearlier, hloaded⟩ := load_of_runCycle hfits hcycle
  rw [Nat.max_eq_left hsound.historyLimit] at hloaded
  have hlast : ((earlier ++ [outcome.snapshot]).rtake config.historyLimit).getLast? =
      some outcome.snapshot := by
    obtain ⟨limit, hlimit⟩ := Nat.exists_eq_add_of_le' hsound.historyLimit
    rw [hlimit, List.rtake_concat_succ, List.getLast?_concat]
  have hne : (earlier ++ [outcome.snapshot]).rtake config.historyLimit ≠ [] := by
    intro hnil
    rw [hnil] at hlast
    cases hlast
  refine ⟨config, outcome, earlier, _, _, hload, hcycle, rfl, hearlier, hloaded _ rfl, rfl, hlast,
    rfl, ?_, ?_, ?_, ?_⟩
  · rw [List.getLast?_map, hlast, Option.map_some]
  · rw [List.length_map, List.rtake, List.length_drop, List.length_append, List.length_singleton]
    omega
  · -- The layers are resolved again, with the same settings and without formats.
    obtain ⟨hstill, hafter⟩ := givenBy_of_runCycle (hplace config hload) hthere hgiven hcycle
    obtain ⟨listed, hlisted, houtput⟩ := Config.load_without_formats hstill hafter hreadable
      (hconfig ▸ hsound) (hformats settings hgiven)
    rw [← hconfig] at houtput
    have hhistory : historyOf after.store env (some target) output =
        .ok (History.ofConfig listed) := congrArg (Except.map History.ofConfig) hlisted
    exact run_history_eq_ok hhistory (hloaded _ houtput) hne
  · -- The layer of the settings is left out, and it does not set an output folder that counts.
    intro hset
    have hfollows : config.Follows (layers settings env (scanSettings target output formats)) :=
      hconfig ▸ Config.follows_layered settings env (scanSettings target output formats)
    have hfolder : outputDirOf output env = config.outputDir :=
      hfollows.outputDirOf_eq (hset.imp_right fun hnone => hnone settings hgiven)
    exact run_history_eq_ok rfl (hloaded _ hfolder) hne

/-! ### A limit in the settings -/

/-- A workspace with a file to scan, settings that set the limit and a history of two scans. -/
def limitedStart : Workspace Memory :=
  renameStart.withStore (renameStart.store
    |>.put ⟨"src/.code-monitor.yaml"⟩ (.bytes "history_limit: 2\n".toUTF8)
    |>.put ⟨"out/history.json"⟩ (.bytes (History.encode [emptyScan "a", emptyScan "b"]).toUTF8))

/-- Variables that set the output folder. -/
def keptOutside : Environment := fun name => if name = outputVariable then some "out" else none

/-- The configuration that the settings, the variables and a scan with a format lead to. -/
def limitedConfig : Config where
  target := ⟨"src"⟩
  outputDir := ⟨"out"⟩
  intervalMinutes := 10
  historyLimit := 2
  ignore := [".git", "node_modules", "target", "monitoring_output", "out"]
  formats := [.text]

/-- What the scan records. -/
def limitedSnapshot : Snapshot :=
  takeSnapshot limitedStart ⟨"src"⟩
    [.file ⟨".code-monitor.yaml"⟩ (.bytes "history_limit: 2\n".toUTF8), .file ⟨"a.js"⟩ .locked]

theorem fitsMachine_limitedStart : limitedStart.FitsMachine := by
  refine ⟨?_, by decide⟩
  have hfiles : limitedStart.store.files.entries =
      [(⟨"out/history.json"⟩, .bytes (History.encode [emptyScan "a", emptyScan "b"]).toUTF8),
       (⟨"src/.code-monitor.yaml"⟩, .bytes "history_limit: 2\n".toUTF8),
       (⟨"src/a.js"⟩, .locked)] := by
    with_unfolding_all rfl
  exact extent_lt_of_length (by decide +kernel) hfiles (by decide +kernel)

theorem load_history_limitedStart :
    (History.ofConfig limitedConfig).load limitedStart.store =
      .ok [emptyScan "a", emptyScan "b"] := by
  have hholds : HoldsScans ⟨"out"⟩ limitedStart.store [emptyScan "a", emptyScan "b"] := by
    refine ⟨?_, by with_unfolding_all rfl⟩
    simp [emptyScan_isStorable]
  exact hholds.load_of_ne_nil (List.cons_ne_nil _ _) _ rfl

theorem givenBy_limitedStart :
    Settings.GivenBy limitedStart.store ⟨"src"⟩ { historyLimit := some 2 } := by
  have hread : FileStore.readText limitedStart.store (Settings.path ⟨"src"⟩) =
      .ok "history_limit: 2\n" := Memory.readText_of_find? (by with_unfolding_all rfl)
  exact .decoded (by decide +kernel) hread (by decide +kernel) (by decide +kernel)

theorem load_limitedStart :
    Config.load limitedStart.store keptOutside (scanSettings ⟨"src"⟩ none [.text]) =
      .ok limitedConfig := by
  have hreadable : keptOutside.IsReadable intervalVariable ∧
      keptOutside.IsReadable historyVariable := by
    refine ⟨fun value hvalue => ?_, fun value hvalue => ?_⟩
    · cases hvalue
    · cases hvalue
  exact Config.load_eq_ok_iff.2 ⟨by decide +kernel, _, givenBy_limitedStart, hreadable,
    by decide +kernel, by decide +kernel, by decide +kernel, by decide +kernel⟩

/-- The oldest of two scans goes, and a listing has a row for the other and one for the new scan,
with the folder or without. -/
theorem history_lists_what_scan_stored_limited :
    ∃ reply after text,
      (Command.scan ⟨"src"⟩ none [.text]).run limitedStart keptOutside = (.ok reply, after) ∧
      (Command.history (some ⟨"src"⟩) none).run after keptOutside = (.ok (.printed text), after) ∧
      (Command.history none none).run after keptOutside = (.ok (.printed text), after) ∧
      text =
        "SCAN ID                                TIMESTAMP (UTC)        FILES     LINES\n" ++
        "b                                      1970-01-01 00:00:00        0         0\n" ++
        "scan                                   1970-01-01 00:00:00        2         1\n" := by
  have honly : ∀ settings, Settings.GivenBy limitedStart.store ⟨"src"⟩ settings →
      settings = { historyLimit := some 2 } := fun settings hsettings =>
    Except.ok.inj ((Settings.load_eq_ok_iff.2 hsettings).symm.trans
      (Settings.load_eq_ok_iff.2 givenBy_limitedStart))
  have hsnapshot : scanTarget limitedStart limitedConfig = .ok limitedSnapshot := by
    with_unfolding_all rfl
  obtain ⟨paths, after, hruns⟩ := runCycle_of_accepts hsnapshot load_history_limitedStart
    fun path _ => Memory.accepts_of_refused_eq_nil rfl path
  have hscan := run_scan_eq_ok_iff.2 ⟨_, _, load_limitedStart, hruns, rfl⟩
  have hplace : ∀ config,
      Config.load limitedStart.store keptOutside (scanSettings ⟨"src"⟩ none [.text]) = .ok config →
        config.outputDir.startsWith (Settings.path ⟨"src"⟩) = false := by
    intro config hload
    obtain rfl := Except.ok.inj (load_limitedStart.symm.trans hload)
    decide +kernel
  have hformats : ∀ settings, Settings.GivenBy limitedStart.store ⟨"src"⟩ settings →
      settings.formats ≠ some [] := by
    intro settings hsettings
    rw [honly settings hsettings]
    decide
  obtain ⟨config, outcome, earlier, stored, rows, hload, hcycle, -, hearlier, -, hstored, -, hrows,
    -, -, hlisted, hunnamed⟩ :=
    history_lists_what_scan_stored fitsMachine_limitedStart hplace hformats hscan
  obtain rfl := Except.ok.inj (load_limitedStart.symm.trans hload)
  obtain rfl := Except.ok.inj (load_history_limitedStart.symm.trans hearlier)
  have houtcome := Except.ok.inj (Prod.mk.inj (hruns.symm.trans hcycle)).1
  refine ⟨_, _, table rows, hscan, hlisted, hunnamed (.inr fun settings hsettings => ?_), ?_⟩
  · rw [honly settings hsettings]
  · rw [hrows, hstored, ← houtcome]
    dsimp only
    decide +kernel

end Driftwatch
