import Driftwatch.Config.Load
import Driftwatch.Proofs.MemoryStore
import Driftwatch.Proofs.ShownNames

/-!
# The last layer that sets a field

A configuration is made of four layers: the defaults, the settings of the folder, the variables of
the environment and what a command gives. A layer may leave a field open. Each field has the value
of the last layer that sets it, whatever the layers say about the other fields. Only the ignored
names are collected instead of replaced. The last component of the output folder is among them if it
is a name and a text, and not otherwise.

## The shape of the argument

Each of the three layers above the defaults is applied in its own way, and each way comes down to
`Config.apply`: a field that the layer sets is replaced, any other is kept. If the configuration so
far follows the layers so far, it follows one more layer after it was applied (`Follows.apply`). The
defaults follow themselves, so the whole follows all four. The functions on the way either fail or
return what was just described, and one lemma for each says when (`Settings.load_eq_ok_iff`,
`Config.applyEnvironment_eq_ok_iff`, `Config.check_eq_ok_iff`).

## Main definitions

* `Layer`: what a layer sets, with `layers` for all four.
* `lastSet`: the value of a field in the last layer that sets it.
* `Config.Follows`: every field has the value of the last layer that sets it.
* `Settings.GivenBy`: what the file of a folder sets.
* `ignoredNames`: the ignored names in their order.

## Main results

* `Config.load_eq_ok_iff`: when a configuration is loaded, and which one.
* `Config.follows_layered`: it follows the four layers.
* `Config.ignore_layered`: the names that it ignores.
* `layers_resolve_field_by_field`: all of it together.
* `output_component_is_not_ignored`: output folders whose last component is no ignored name.
-/

namespace Driftwatch

/-! ### Layers -/

/-- What a layer sets. A field that it leaves open is `none`. -/
structure Layer where
  outputDir : Option Path
  intervalMinutes : Option Nat
  historyLimit : Option Nat
  formats : Option (List ReportFormat)

/-- The defaults set every field. -/
def Layer.defaults : Layer where
  outputDir := some ⟨"monitoring_output"⟩
  intervalMinutes := some 10
  historyLimit := some 20
  formats := some [.html]

/-- What the file of a folder sets, but for the names to ignore. -/
def Settings.layer (settings : Settings) : Layer where
  outputDir := settings.outputDir
  intervalMinutes := settings.intervalMinutes
  historyLimit := settings.historyLimit
  formats := settings.formats

/-- The count that a variable sets. White space around it does not matter. -/
def Environment.setCount? (env : Environment) (name : String) : Option Nat :=
  (env name).bind fun value => readCount? (trim value.toList)

/-- The folder that a variable sets. A value of white space only sets none. -/
def Environment.setFolder? (env : Environment) (name : String) : Option Path :=
  (env name).bind fun value =>
    if value.toList.any fun c => !isBlank c then some ⟨value⟩ else none

/-- What the variables set. There is none for formats. -/
def Environment.layer (env : Environment) : Layer where
  outputDir := env.setFolder? outputVariable
  intervalMinutes := env.setCount? intervalVariable
  historyLimit := env.setCount? historyVariable
  formats := none

/-- What a command gives. It cannot limit the history, and no formats set nothing. -/
def GivenSettings.layer (given : GivenSettings) : Layer where
  outputDir := given.outputDir
  intervalMinutes := given.intervalMinutes
  historyLimit := none
  formats := if given.formats = [] then none else some given.formats

/-- All layers, from the first to the last. -/
def layers (settings : Settings) (env : Environment) (given : GivenSettings) : List Layer :=
  [.defaults, settings.layer, env.layer, given.layer]

/-- The value of a field in the last layer that sets it. -/
def lastSet {α : Type} (field : Layer → Option α) (layers : List Layer) : Option α :=
  layers.reverse.findSome? field

theorem lastSet_append_singleton {α : Type} (field : Layer → Option α) (layers : List Layer)
    (layer : Layer) :
    lastSet field (layers ++ [layer]) = (field layer).or (lastSet field layers) := by
  rw [lastSet, List.reverse_append, List.findSome?_append, List.reverse_singleton,
    List.findSome?_singleton, ← lastSet]

namespace Config

/-- Every field of a configuration that layers can set has the value of the last one that does. -/
structure Follows (config : Config) (layers : List Layer) : Prop where
  outputDir : lastSet (·.outputDir) layers = some config.outputDir
  intervalMinutes : lastSet (·.intervalMinutes) layers = some config.intervalMinutes
  historyLimit : lastSet (·.historyLimit) layers = some config.historyLimit
  formats : lastSet (·.formats) layers = some config.formats

/-- A configuration with the fields of a layer where it sets them. -/
def apply (config : Config) (layer : Layer) : Config :=
  { config with
    outputDir := layer.outputDir.getD config.outputDir
    intervalMinutes := layer.intervalMinutes.getD config.intervalMinutes
    historyLimit := layer.historyLimit.getD config.historyLimit
    formats := layer.formats.getD config.formats }

variable {config : Config}

/-- One more layer. -/
theorem Follows.apply {layers : List Layer} (h : config.Follows layers) (layer : Layer) :
    (config.apply layer).Follows (layers ++ [layer]) where
  outputDir := by rw [lastSet_append_singleton, h.outputDir, Option.or_some]; rfl
  intervalMinutes := by rw [lastSet_append_singleton, h.intervalMinutes, Option.or_some]; rfl
  historyLimit := by rw [lastSet_append_singleton, h.historyLimit, Option.or_some]; rfl
  formats := by rw [lastSet_append_singleton, h.formats, Option.or_some]; rfl

/-- The ignored names are in no layer. -/
theorem Follows.withIgnore {layers : List Layer} (h : config.Follows layers)
    (names : List String) : { config with ignore := names }.Follows layers :=
  ⟨h.outputDir, h.intervalMinutes, h.historyLimit, h.formats⟩

/-! ### Each layer in its own way -/

theorem ignoreOutput_eq (config : Config) :
    config.ignoreOutput =
      { config with
        ignore :=
          (config.outputDir.fileName?.bind RawText.text?).toList.foldl addName config.ignore } := by
  rw [ignoreOutput]
  cases config.outputDir.fileName?.bind RawText.text? with
  | none => rfl
  | some name => rfl

theorem follows_ofTarget (target : Path) : (ofTarget target).Follows [.defaults] := by
  rw [ofTarget, ignoreOutput_eq]
  exact Follows.withIgnore ⟨rfl, rfl, rfl, rfl⟩ _

theorem applySettings_eq (config : Config) (settings : Settings) :
    config.applySettings settings =
      { config.apply settings.layer with ignore := settings.ignore.foldl addName config.ignore } :=
  rfl

theorem applyGiven_eq (config : Config) (given : GivenSettings) :
    config.applyGiven given = config.apply given.layer := by
  have hformats : (if given.formats.isEmpty then config.formats else given.formats) =
      given.layer.formats.getD config.formats := by
    cases hgiven : given.formats with
    | nil => simp [GivenSettings.layer, hgiven]
    | cons format rest => simp [GivenSettings.layer, hgiven]
  rw [applyGiven, apply, hformats]
  rfl

end Config

/-- A variable that is set holds a count. -/
def Environment.IsReadable (env : Environment) (name : String) : Prop :=
  ∀ value, env name = some value → ∃ count, readCount? (trim value.toList) = some count

theorem Environment.count?_eq_ok_iff {env : Environment} {name : String} {count : Option Nat} :
    env.count? name = .ok count ↔ env.IsReadable name ∧ count = env.setCount? name := by
  cases hset : env name with
  | none => simp [count?, IsReadable, setCount?, hset, eq_comm]
  | some value =>
    cases hread : readCount? (trim value.toList) with
    | none => simp [count?, IsReadable, hset, hread]
    | some n => simp [count?, IsReadable, setCount?, hset, hread, eq_comm]

theorem Environment.outputDir?_eq (env : Environment) :
    env.outputDir? = env.setFolder? outputVariable := by
  rw [outputDir?, setFolder?]
  cases env outputVariable with
  | none => rfl
  | some value =>
    rw [Option.filter_some, Option.bind_some, allBlank, List.not_all_eq_any_not]
    split
    · rfl
    · rfl

namespace Config

variable {config : Config}

theorem applyEnvironment_eq_ok_iff {env : Environment} {applied : Config} :
    config.applyEnvironment env = .ok applied ↔
      (env.IsReadable intervalVariable ∧ env.IsReadable historyVariable) ∧
        applied = config.apply env.layer := by
  unfold applyEnvironment
  rw [Environment.outputDir?_eq]
  constructor
  · intro h
    split at h
    · cases h
    · next interval hinterval =>
      split at h
      · cases h
      · next limit hlimit =>
        obtain ⟨hreadable, rfl⟩ := Environment.count?_eq_ok_iff.1 hinterval
        obtain ⟨hreadable', rfl⟩ := Environment.count?_eq_ok_iff.1 hlimit
        exact ⟨⟨hreadable, hreadable'⟩, (Except.ok.inj h).symm⟩
  · rintro ⟨⟨hinterval, hlimit⟩, rfl⟩
    rw [Environment.count?_eq_ok_iff.2 ⟨hinterval, rfl⟩,
      Environment.count?_eq_ok_iff.2 ⟨hlimit, rfl⟩]
    rfl

/-- What passes the check at the end. -/
structure IsSound (config : Config) : Prop where
  intervalMinutes : 1 ≤ config.intervalMinutes
  historyLimit : 1 ≤ config.historyLimit
  formats : config.formats ≠ []

theorem check_eq_ok_iff {checked : Config} :
    config.check = .ok checked ↔ config.IsSound ∧ checked = config := by
  unfold check
  constructor
  · intro h
    split at h
    · cases h
    · next hinterval =>
      split at h
      · cases h
      · next hlimit =>
        split at h
        · cases h
        · next hformats =>
          exact ⟨⟨Nat.one_le_iff_ne_zero.2 hinterval, Nat.one_le_iff_ne_zero.2 hlimit,
            mt List.isEmpty_iff.2 hformats⟩, (Except.ok.inj h).symm⟩
  · rintro ⟨⟨hinterval, hlimit, hformats⟩, rfl⟩
    rw [if_neg (Nat.one_le_iff_ne_zero.1 hinterval),
      if_neg (Nat.one_le_iff_ne_zero.1 hlimit), if_neg (mt List.isEmpty_iff.1 hformats)]

end Config

/-! ### The file of a folder -/

section

variable {σ : Type} [FileStore σ]

/-- What the file with settings of a folder sets: nothing if it is not there or is blank, else what
its text says. There are no settings if the file cannot be read or its text has no meaning. -/
inductive Settings.GivenBy (store : σ) (target : Path) : Settings → Prop
  | absent (h : FileStore.contains store (target.join ⟨fileName⟩) = false) :
    GivenBy store target {}
  | blank {text : String} (hthere : FileStore.contains store (target.join ⟨fileName⟩) = true)
    (hread : FileStore.readText store (target.join ⟨fileName⟩) = .ok text)
    (h : allBlank text.toList = true) : GivenBy store target {}
  | decoded {text : String} {settings : Settings}
    (hthere : FileStore.contains store (target.join ⟨fileName⟩) = true)
    (hread : FileStore.readText store (target.join ⟨fileName⟩) = .ok text)
    (hblank : allBlank text.toList = false) (h : ofText? text = some settings) :
    GivenBy store target settings

theorem Settings.load_eq_ok_iff {store : σ} {target : Path} {settings : Settings} :
    load store target = .ok settings ↔ GivenBy store target settings := by
  have hblankText : ∀ {text : String}, allBlank text.toList = true → ofText? text = some {} :=
    fun h => if_pos h
  constructor
  · intro h
    simp only [load] at h
    split at h
    · next hthere =>
      split at h
      · cases h
      · next text hread =>
        split at h
        · next decoded hdecoded =>
          obtain rfl := Except.ok.inj h
          cases hblank : allBlank text.toList with
          | false => exact .decoded hthere hread hblank hdecoded
          | true =>
            obtain rfl := Option.some.inj ((hblankText hblank).symm.trans hdecoded)
            exact .blank hthere hread hblank
        · cases h
    · next habsent =>
      obtain rfl := Except.ok.inj h
      exact .absent (Bool.eq_false_iff.2 habsent)
  · intro h
    cases h with
    | absent h => simp only [load, h, Bool.false_eq_true, if_false]
    | blank hthere hread h => simp only [load, hthere, if_true, hread, hblankText h]
    | decoded hthere hread hblank h => simp only [load, hthere, if_true, hread, h]

end

/-! ### Ignored names -/

/-- The names that are ignored if nothing is said about them. -/
def defaultNames : List String :=
  [".git", "node_modules", "target", "monitoring_output"]

/-- The ignored names in their order: those of the defaults, the further ones that settings give,
each at its first place, and the last component of the output folder if it is a name and a text and
not yet there. -/
def ignoredNames (settings : Settings) (outputDir : Path) : List String :=
  let names := defaultNames ++ (settings.ignore.filter (· ∉ defaultNames)).eraseDups
  names ++ (outputDir.fileName?.bind RawText.text?).toList.filter (· ∉ names)

theorem foldl_addName (names added : List String) :
    added.foldl addName names = names ++ (added.filter (· ∉ names)).eraseDups := by
  induction added generalizing names with
  | nil => simp
  | cons name added ih =>
    rw [List.foldl_cons, ih, addName]
    by_cases h : name ∈ names
    · rw [if_pos (List.contains_iff_mem.2 h), List.filter_cons_of_neg (by simpa using h)]
    · rw [if_neg (mt List.contains_iff_mem.1 h), List.filter_cons_of_pos (by simpa using h),
        List.eraseDups_cons, List.filter_filter, List.append_assoc, List.singleton_append]
      -- What is dropped later is what is dropped now, and the name that was added.
      congr 4
      funext other
      simp [Bool.and_comm, Bool.beq_eq_decide_eq]

theorem nodup_addName {names : List String} (h : names.Nodup) (name : String) :
    (addName names name).Nodup := by
  rw [addName]
  split
  · exact h
  · next hnew =>
    rw [← List.concat_eq_append]
    exact h.concat (mt List.contains_iff_mem.2 hnew)

theorem nodup_foldl_addName {names : List String} (h : names.Nodup) (added : List String) :
    (added.foldl addName names).Nodup := by
  induction added generalizing names with
  | nil => exact h
  | cons name added ih => exact ih (nodup_addName h name)

namespace Config

theorem ignore_ofTarget (target : Path) : (ofTarget target).ignore = defaultNames := by
  have hname : defaultOutputDir.fileName?.bind RawText.text? = some "monitoring_output" := by
    decide +kernel
  rw [ofTarget, ignoreOutput_eq]
  dsimp only
  rw [hname]
  decide

/-! ### All layers -/

/-- The configuration that the layers lead to. -/
def layered (settings : Settings) (env : Environment) (given : GivenSettings) : Config :=
  let ofFolder := (ofTarget given.target).applySettings settings
  ((ofFolder.apply env.layer).apply given.layer).ignoreOutput

variable (settings : Settings) (env : Environment) (given : GivenSettings)

theorem target_layered : (layered settings env given).target = given.target := by
  rw [layered, ignoreOutput_eq, apply, apply, applySettings_eq, apply, ofTarget, ignoreOutput_eq]

/-- The four layers, one after the other. -/
theorem follows_layered : (layered settings env given).Follows (layers settings env given) := by
  rw [layered, ignoreOutput_eq, applySettings_eq]
  have hfile := ((follows_ofTarget given.target).apply settings.layer).withIgnore
    (settings.ignore.foldl addName (ofTarget given.target).ignore)
  exact ((hfile.apply env.layer).apply given.layer).withIgnore _

theorem ignore_layered_eq_foldl :
    (layered settings env given).ignore =
      ((layered settings env given).outputDir.fileName?.bind RawText.text?).toList.foldl addName
        (settings.ignore.foldl addName defaultNames) := by
  rw [layered, ignoreOutput_eq, ← ignore_ofTarget given.target]
  rfl

theorem ignore_layered :
    (layered settings env given).ignore =
      ignoredNames settings (layered settings env given).outputDir := by
  rw [ignore_layered_eq_foldl, foldl_addName, foldl_addName, ignoredNames]
  have hname : ∀ (name : Option String) (p : String → Bool),
      (name.toList.filter p).eraseDups = name.toList.filter p := by
    rintro (- | name) p
    · rfl
    · cases h : p name <;> simp [h, List.eraseDups_cons]
  rw [hname]

theorem nodup_ignore_layered : (layered settings env given).ignore.Nodup := by
  rw [ignore_layered_eq_foldl]
  exact nodup_foldl_addName (nodup_foldl_addName (by decide) _) _

variable {env given}

theorem resolve_eq_ok_iff {config resolved : Config} :
    config.resolve env given = .ok resolved ↔
      (env.IsReadable intervalVariable ∧ env.IsReadable historyVariable) ∧
        resolved = ((config.apply env.layer).apply given.layer).ignoreOutput ∧
        resolved.IsSound := by
  unfold resolve
  constructor
  · intro h
    split at h
    · cases h
    · next applied happlied =>
      obtain ⟨hreadable, rfl⟩ := applyEnvironment_eq_ok_iff.1 happlied
      obtain ⟨hsound, rfl⟩ := check_eq_ok_iff.1 h
      rw [applyGiven_eq] at hsound ⊢
      exact ⟨hreadable, rfl, hsound⟩
  · rintro ⟨hreadable, rfl, hsound⟩
    rw [applyEnvironment_eq_ok_iff.2 ⟨hreadable, rfl⟩]
    exact check_eq_ok_iff.2 ⟨by rwa [applyGiven_eq], by rw [applyGiven_eq]⟩

/-- **When a configuration is loaded, and which one.** -/
theorem load_eq_ok_iff {σ : Type} [FileStore σ] {store : σ} {config : Config} :
    load store env given = .ok config ↔
      FileStore.contains store given.target = true ∧
        ∃ settings, Settings.GivenBy store given.target settings ∧
          (env.IsReadable intervalVariable ∧ env.IsReadable historyVariable) ∧
          config = layered settings env given ∧ config.IsSound := by
  unfold load
  constructor
  · intro h
    split at h
    · next hthere =>
      split at h
      · cases h
      · next settings hsettings =>
        refine ⟨hthere, settings, Settings.load_eq_ok_iff.1 hsettings, resolve_eq_ok_iff.1 ?_⟩
        cases hresolve : ((ofTarget given.target).applySettings settings).resolve env given with
        | error fault =>
          rw [hresolve] at h
          cases h
        | ok resolved =>
          rw [hresolve] at h
          rw [Except.ok.inj h]
    · cases h
  · rintro ⟨hthere, settings, hgiven, h⟩
    rw [if_pos hthere, Settings.load_eq_ok_iff.2 hgiven]
    dsimp only
    rw [resolve_eq_ok_iff.2 h]
    rfl

end Config

/-- **Configurations are resolved field by field.** A configuration of a folder is loaded if and
only if something is at the path of the folder, its file with settings is absent, blank or decodes,
the two variables for counts are readable if they are set, even if a command replaces what they say,
and the layers resolve to a time between scans, a history and formats that are not empty. Then each
field has the value of the last layer that sets it, and the ignored names are those of the defaults,
those of the file that are new and the last component of the output folder if it is a name and a
text, without repetition. -/
theorem layers_resolve_field_by_field {σ : Type} [FileStore σ] (store : σ) (env : Environment)
    (given : GivenSettings) :
    ((∃ config, Config.load store env given = .ok config) ↔
      FileStore.contains store given.target = true ∧
      ∃ settings, Settings.GivenBy store given.target settings ∧
        (env.IsReadable intervalVariable ∧ env.IsReadable historyVariable) ∧
        (∃ minutes, lastSet (·.intervalMinutes) (layers settings env given) = some minutes ∧
          1 ≤ minutes) ∧
        (∃ limit, lastSet (·.historyLimit) (layers settings env given) = some limit ∧ 1 ≤ limit) ∧
        ∃ formats, lastSet (·.formats) (layers settings env given) = some formats ∧
          formats ≠ []) ∧
    ∀ config, Config.load store env given = .ok config →
      ∃ settings, Settings.GivenBy store given.target settings ∧
        config.target = given.target ∧ config.Follows (layers settings env given) ∧
        config.ignore.Nodup ∧ config.ignore = ignoredNames settings config.outputDir := by
  refine ⟨⟨?_, ?_⟩, ?_⟩
  · rintro ⟨config, hload⟩
    obtain ⟨hthere, settings, hgiven, hreadable, rfl, hsound⟩ := Config.load_eq_ok_iff.1 hload
    have hfollows := Config.follows_layered settings env given
    exact ⟨hthere, settings, hgiven, hreadable,
      ⟨_, hfollows.intervalMinutes, hsound.intervalMinutes⟩,
      ⟨_, hfollows.historyLimit, hsound.historyLimit⟩, _, hfollows.formats, hsound.formats⟩
  · rintro ⟨hthere, settings, hgiven, hreadable, ⟨minutes, hminutes, hinterval⟩,
      ⟨limit, hlimit, hhistory⟩, formats, hformats, hnonempty⟩
    have hfollows := Config.follows_layered settings env given
    obtain rfl := Option.some.inj (hminutes.symm.trans hfollows.intervalMinutes)
    obtain rfl := Option.some.inj (hlimit.symm.trans hfollows.historyLimit)
    obtain rfl := Option.some.inj (hformats.symm.trans hfollows.formats)
    exact ⟨_, Config.load_eq_ok_iff.2
      ⟨hthere, settings, hgiven, hreadable, rfl, hinterval, hhistory, hnonempty⟩⟩
  · intro config hload
    obtain ⟨-, settings, hgiven, -, rfl, -⟩ := Config.load_eq_ok_iff.1 hload
    exact ⟨settings, hgiven, Config.target_layered settings env given,
      Config.follows_layered settings env given, Config.nodup_ignore_layered settings env given,
      Config.ignore_layered settings env given⟩

/-- Settings that no configuration could have alone, with a name that is there already and one that
is given twice. -/
def settingsText : String :=
  "output_dir: build/kept\ninterval_minutes: 0\nhistory_limit: 7\n" ++
    "ignore: [dist, target, dist]\nformats: []\n"

/-- A folder with the settings. -/
def withSettings : Memory :=
  ({} : Memory).put ⟨"src/.code-monitor.yaml"⟩ (.bytes settingsText.toUTF8)

/-- Variables that set the time between scans and the output folder. -/
def hurried : Environment := fun name =>
  if name = intervalVariable then some " 3\n"
  else if name = outputVariable then some "made/here" else none

/-- A command that gives a format. -/
def asText : GivenSettings where
  target := ⟨"src"⟩
  formats := [.text]

/-- The settings, the variables and the command each decide about some field, and the variables
replace an output folder of the settings. -/
theorem layers_resolve_field_by_field_hurried :
    ∃ config, Config.load withSettings hurried asText = .ok config ∧
      config.outputDir = ⟨"made/here"⟩ ∧ config.intervalMinutes = 3 ∧
      config.historyLimit = 7 ∧ config.formats = [.text] ∧
      config.ignore =
        [".git", "node_modules", "target", "monitoring_output", "dist", "here"] := by
  have hread : FileStore.readText withSettings ((⟨"src"⟩ : Path).join ⟨Settings.fileName⟩) =
      .ok settingsText := Memory.readText_of_find? (by with_unfolding_all rfl)
  have hdecodes : Settings.ofText? settingsText =
      some
        { outputDir := some ⟨"build/kept"⟩, intervalMinutes := some 0, historyLimit := some 7,
          ignore := ["dist", "target", "dist"], formats := some [] } := by decide +kernel
  have hgiven : Settings.GivenBy withSettings ⟨"src"⟩ _ :=
    .decoded (by decide +kernel) hread (by decide +kernel) hdecodes
  have hreadable : hurried.IsReadable intervalVariable ∧ hurried.IsReadable historyVariable := by
    refine ⟨fun value hvalue => ⟨3, ?_⟩, fun value hvalue => ?_⟩
    · obtain rfl := Option.some.inj hvalue
      decide
    · cases hvalue
  obtain ⟨hloads, hresolves⟩ := layers_resolve_field_by_field withSettings hurried asText
  obtain ⟨config, hload⟩ := hloads.2 ⟨by decide +kernel, _, hgiven, hreadable,
    ⟨3, by decide +kernel, by decide⟩, ⟨7, by decide +kernel, by decide⟩,
    [.text], by decide +kernel, by decide⟩
  obtain ⟨settings, hsame, -, hfollows, -, hignore⟩ := hresolves config hload
  obtain rfl := Except.ok.inj ((Settings.load_eq_ok_iff.2 hgiven).symm.trans
    (Settings.load_eq_ok_iff.2 hsame))
  have houtput : config.outputDir = ⟨"made/here"⟩ :=
    Option.some.inj (hfollows.outputDir.symm.trans (by decide +kernel))
  refine ⟨config, hload, houtput, Option.some.inj (hfollows.intervalMinutes.symm.trans ?_),
    Option.some.inj (hfollows.historyLimit.symm.trans ?_),
    Option.some.inj (hfollows.formats.symm.trans ?_), ?_⟩
  · decide +kernel
  · decide +kernel
  · decide +kernel
  · rw [hignore, houtput]
    decide +kernel

/-! ### Output folders without a name that is a text -/

/-- A command that keeps the results of scans of `src` in a folder. -/
def keepIn (outputDir : Path) : GivenSettings where
  target := ⟨"src"⟩
  outputDir := some outputDir

/-- The configuration that the command leads to where nothing else is set. -/
def configIn (outputDir : Path) (names : List String) : Config where
  target := ⟨"src"⟩
  outputDir := outputDir
  intervalMinutes := 10
  historyLimit := 20
  ignore := [".git", "node_modules", "target", "monitoring_output"] ++ names
  formats := [.html]

/-- Folders with one file, which cannot be read. -/
def lockedSource : Memory :=
  ({} : Memory).put ⟨"src/a.js"⟩ .locked

/-- The output folder of a configuration has a last component, and it is no ignored name. -/
def Config.LeavesOutput (config : Config) : Prop :=
  ∃ last, config.outputDir.components.getLast? = some last ∧
    ∀ name ∈ config.ignore, last.text ≠ .ofString name

/-- **The last component of an output folder is not always ignored**: two dots are no name, and a
name need not be a text. -/
theorem output_component_is_not_ignored :
    (Config.load lockedSource (fun _ => none) (keepIn ⟨"src/.."⟩) = .ok (configIn ⟨"src/.."⟩ []) ∧
      (configIn ⟨"src/.."⟩ []).LeavesOutput) ∧
    Config.load lockedSource (fun _ => none) (keepIn (byteNamed 0xFF)) =
        .ok (configIn (byteNamed 0xFF) []) ∧
      (configIn (byteNamed 0xFF) []).LeavesOutput := by
  refine ⟨⟨?_, .up, ?_, ?_⟩, ?_, .name ⟨[0xFF]⟩, ?_, ?_⟩
  · with_unfolding_all rfl
  · decide +kernel
  · decide +kernel
  · with_unfolding_all rfl
  · decide +kernel
  · decide +kernel

end Driftwatch
