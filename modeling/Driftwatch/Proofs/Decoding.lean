import Driftwatch.Proofs.StoredForms

/-!
# What can be read can be stored

The reader of a history is forgiving: fields may be missing or in another order, and a moment may be
given for a clock of another time zone. Whatever it accepts is nevertheless within the bounds that
storing needs. A history that was written by somebody else can therefore be kept, and what is added
to it can be read back together with it.

## The shape of the argument

`ReadsOnly P` says that the reader of a type gives values with `P` only. There is one lemma for each
kind of value, as there is for `Stores`, and records take theirs from their fields. The only bound
that the reader does not check itself is that of a clock that was moved to universal time
(`Timestamp.isValid_shift`).

## Main definitions

* `ReadsOnly`: a property of all values that a reader gives.

## Main results

* `Timestamp.isStorable_of_parse?`: moments.
* `Snapshot.readsOnly`: snapshots.
* `History.isStorable_of_decode?`, `History.isStorable_of_load`: histories.
-/

namespace Driftwatch

/-! ### Moments -/

theorem daysInMonth_pos (year : Int) (month : Nat) : 1 ≤ daysInMonth year month := by
  unfold daysInMonth
  split
  · split <;> omega
  all_goals omega

namespace Date

variable {date : Date}

theorem isValid_iff : date.isValid = true ↔ 1 ≤ date.month ∧ date.month ≤ 12 ∧ 1 ≤ date.day ∧
    date.day ≤ daysInMonth date.year date.month := by
  simp only [isValid, Bool.and_eq_true, decide_eq_true_eq, and_assoc]

theorem isValid_next (h : date.isValid = true) : date.next.isValid = true := by
  rw [isValid_iff] at *
  obtain ⟨hfirst, hlast, hday, -⟩ := h
  unfold next
  split
  · next hmore => exact ⟨hfirst, hlast, Nat.le_succ_of_le hday, hmore⟩
  · split
    · next hmonth => exact ⟨Nat.le_succ_of_le hfirst, hmonth, Nat.le_refl 1, daysInMonth_pos _ _⟩
    · exact ⟨Nat.le_refl 1, Nat.le_add_left 1 11, Nat.le_refl 1, daysInMonth_pos _ _⟩

theorem isValid_previous (h : date.isValid = true) : date.previous.isValid = true := by
  rw [isValid_iff] at *
  obtain ⟨hfirst, hlast, -, hday⟩ := h
  unfold previous
  split
  · next hmore =>
    exact ⟨hfirst, hlast, Nat.le_sub_one_of_lt hmore, Nat.le_trans (Nat.pred_le _) hday⟩
  · split
    · next hmonth =>
      exact ⟨Nat.le_sub_one_of_lt hmonth, Nat.le_trans (Nat.pred_le _) hlast, daysInMonth_pos _ _,
        Nat.le_refl _⟩
    · exact ⟨Nat.le_add_left 1 11, Nat.le_refl _, Nat.le_add_left 1 30, Nat.le_refl _⟩

end Date

namespace Timestamp

variable {time : Timestamp}

theorem isValid_iff : time.isValid = true ↔ time.date.isValid = true ∧ time.hour < 24 ∧
    time.minute < 60 ∧ time.second ≤ 60 ∧ time.nano < 1000000000 := by
  simp only [isValid, Bool.and_eq_true, decide_eq_true_eq, and_assoc]

/-- A clock that is moved by less than a day shows a time of the day before, of the same day or of
the day after. -/
theorem isValid_shift (h : time.isValid = true) {offset : Int} (hoffset : offset.natAbs < 1440) :
    (time.shift offset).isValid = true := by
  rw [isValid_iff] at *
  obtain ⟨hdate, hhour, hminute, hsecond, hnano⟩ := h
  simp only [shift]
  split
  · exact ⟨Date.isValid_previous hdate, by simp only; omega, Nat.mod_lt _ (by decide), hsecond,
      hnano⟩
  · split
    · exact ⟨Date.isValid_next hdate, by simp only; omega, Nat.mod_lt _ (by decide), hsecond, hnano⟩
    · exact ⟨hdate, by simp only; omega, Nat.mod_lt _ (by decide), hsecond, hnano⟩

/-- A moment that was read can be stored. -/
theorem isStorable_of_parse? {text : String} (h : parse? text = some time) : time.IsStorable := by
  rw [parse?, parseChars?] at h
  obtain ⟨⟨year, _⟩, -, h⟩ := Option.bind_eq_some_iff.1 h
  obtain ⟨_, -, h⟩ := Option.bind_eq_some_iff.1 h
  obtain ⟨⟨month, _⟩, -, h⟩ := Option.bind_eq_some_iff.1 h
  obtain ⟨_, -, h⟩ := Option.bind_eq_some_iff.1 h
  obtain ⟨⟨day, _⟩, -, h⟩ := Option.bind_eq_some_iff.1 h
  simp only at h
  -- The same follows after each of the three marks that may come next.
  split at h
  case h_4 => cases h
  all_goals
    obtain ⟨_, -, h⟩ := Option.bind_eq_some_iff.1 h
    obtain ⟨⟨hour, _⟩, -, h⟩ := Option.bind_eq_some_iff.1 h
    obtain ⟨_, -, h⟩ := Option.bind_eq_some_iff.1 h
    obtain ⟨⟨minute, _⟩, -, h⟩ := Option.bind_eq_some_iff.1 h
    obtain ⟨_, -, h⟩ := Option.bind_eq_some_iff.1 h
    obtain ⟨⟨second, _⟩, -, h⟩ := Option.bind_eq_some_iff.1 h
    obtain ⟨⟨nano, _⟩, -, h⟩ := Option.bind_eq_some_iff.1 h
    obtain ⟨⟨offset, _⟩, -, h⟩ := Option.bind_eq_some_iff.1 h
    simp only [Option.ite_none_right_eq_some, Option.some.injEq] at h
    obtain ⟨⟨hshown, -, hoffset, -, hrange⟩, rfl⟩ := h
    exact ⟨isValid_shift hshown hoffset, hrange⟩

end Timestamp

/-! ### Values that are read -/

/-- All values that are read have a property. -/
def ReadsOnly {α : Type} [Stored α] (P : α → Prop) : Prop :=
  ∀ value a, ofJson? value = some a → P a

namespace ReadsOnly

theorem count : ReadsOnly fun n : Nat => n < wordLimit := by
  intro value n hn
  cases value with
  | int value =>
    change (if 0 ≤ value ∧ value < wordLimit then some value.toNat else none) = some n at hn
    split at hn
    · cases hn
      omega
    · cases hn
  | null | bool | decimal | str | arr | obj | unreadable => cases hn

theorem moment : ReadsOnly Timestamp.IsStorable := by
  intro value time htime
  cases value with
  | str text => exact Timestamp.isStorable_of_parse? htime
  | null | bool | int | decimal | arr | obj | unreadable => cases htime

variable {α : Type} [Stored α] {P : α → Prop}

theorem list (h : ReadsOnly P) : ReadsOnly fun items : List α => ∀ item ∈ items, P item := by
  intro value items hitems
  cases value with
  | arr values =>
    change values.mapM ofJson? = some items at hitems
    induction values generalizing items with
    | nil =>
      cases hitems
      exact List.forall_mem_nil P
    | cons value values ih =>
      rw [List.mapM_cons] at hitems
      obtain ⟨item, hitem, hitems⟩ := Option.bind_eq_some_iff.1 hitems
      obtain ⟨rest, hrest, hitems⟩ := Option.bind_eq_some_iff.1 hitems
      obtain rfl := Option.some.inj hitems
      exact List.forall_mem_cons.2 ⟨h value item hitem, ih rest hrest⟩
  | null | bool | int | decimal | str | obj | unreadable => cases hitems

/-- A value that may be absent. -/
theorem optional (h : ReadsOnly P) :
    ReadsOnly fun found : Option α => ∀ a, found = some a → P a := by
  rintro value found hfound a rfl
  cases value with
  | null => cases hfound
  | bool | int | decimal | str | arr | obj | unreadable =>
    obtain ⟨read, hread, hsome⟩ := Option.map_eq_some_iff.1 hfound
    obtain rfl := Option.some.inj hsome
    exact h _ _ hread

theorem required (h : ReadsOnly P) {field : Option Json} {a : α}
    (ha : Json.required? field = some a) : P a := by
  obtain ⟨value, -, hvalue⟩ := Option.bind_eq_some_iff.1 ha
  exact h value a hvalue

end ReadsOnly

/-! ### Declarations -/

theorem FunctionEntity.readsOnly : ReadsOnly FunctionEntity.IsStorable := by
  intro value entity h
  change FunctionEntity.ofJson? value = some entity at h
  obtain ⟨fields, -, h⟩ := Option.bind_eq_some_iff.1 h
  split at h
  · obtain ⟨name, -, h⟩ := Option.bind_eq_some_iff.1 h
    obtain ⟨kind, -, h⟩ := Option.bind_eq_some_iff.1 h
    obtain ⟨lineStart, hstart, h⟩ := Option.bind_eq_some_iff.1 h
    obtain ⟨lineEnd, hend, h⟩ := Option.bind_eq_some_iff.1 h
    obtain ⟨args, -, h⟩ := Option.bind_eq_some_iff.1 h
    obtain rfl := Option.some.inj h
    exact ⟨ReadsOnly.count.required hstart, ReadsOnly.count.required hend⟩
  · cases h

theorem ClassEntity.isStorable_of_ofJson? {value : Json} {entity : ClassEntity}
    (h : ClassEntity.ofJson? value = some entity) : entity.IsStorable := by
  obtain ⟨fields, -, h⟩ := Option.bind_eq_some_iff.1 h
  split at h
  · obtain ⟨name, -, h⟩ := Option.bind_eq_some_iff.1 h
    obtain ⟨kind, -, h⟩ := Option.bind_eq_some_iff.1 h
    obtain ⟨lineStart, hstart, h⟩ := Option.bind_eq_some_iff.1 h
    obtain ⟨lineEnd, hend, h⟩ := Option.bind_eq_some_iff.1 h
    obtain ⟨methods, hmethods, h⟩ := Option.bind_eq_some_iff.1 h
    obtain rfl := Option.some.inj h
    exact ⟨ReadsOnly.count.required hstart, ReadsOnly.count.required hend,
      FunctionEntity.readsOnly.list.required hmethods⟩
  · cases h

namespace Entity

theorem isStorable_of_ofTagged? {tag : String} {value : Json} {entity : Entity}
    (h : ofTagged? tag value = some entity) : entity.IsStorable := by
  unfold ofTagged? at h
  split at h
  · obtain ⟨found, hfound, rfl⟩ := Option.map_eq_some_iff.1 h
    exact FunctionEntity.readsOnly value found hfound
  · obtain ⟨found, hfound, rfl⟩ := Option.map_eq_some_iff.1 h
    exact ClassEntity.isStorable_of_ofJson? hfound
  · cases h

theorem readsOnly : ReadsOnly Entity.IsStorable := by
  intro value entity h
  change Entity.ofJson? value = some entity at h
  unfold Entity.ofJson? at h
  split at h
  · unfold ofReadable? at h
    split at h
    · split at h
      · exact isStorable_of_ofTagged? h
      · cases h
    · exact isStorable_of_ofTagged? h
    · cases h
  · cases h

end Entity

theorem Extraction.readsOnly : ReadsOnly Extraction.IsStorable := by
  intro value extraction h
  change Extraction.ofJson? value = some extraction at h
  obtain ⟨fields, -, h⟩ := Option.bind_eq_some_iff.1 h
  split at h
  · next filePath _ _ =>
    -- The path is optional, and no bound depends on it.
    cases filePath
    all_goals
      obtain ⟨_, -, h⟩ := Option.bind_eq_some_iff.1 h
      obtain ⟨entities, hentities, h⟩ := Option.bind_eq_some_iff.1 h
      obtain ⟨totalLines, hlines, h⟩ := Option.bind_eq_some_iff.1 h
      obtain rfl := Option.some.inj h
      exact ⟨Entity.readsOnly.list.required hentities, ReadsOnly.count.required hlines⟩
  · cases h

/-! ### Scans -/

theorem ScannedFile.readsOnly : ReadsOnly ScannedFile.IsStorable := by
  intro value file h
  change ScannedFile.ofJson? value = some file at h
  obtain ⟨fields, -, h⟩ := Option.bind_eq_some_iff.1 h
  split at h
  · next _ _ _ field _ _ _ =>
    cases field
    all_goals
      obtain ⟨modifiedTime, htime, h⟩ := Option.bind_eq_some_iff.1 h
      obtain ⟨filePath, -, h⟩ := Option.bind_eq_some_iff.1 h
      obtain ⟨fileName, -, h⟩ := Option.bind_eq_some_iff.1 h
      obtain ⟨fileSize, hsize, h⟩ := Option.bind_eq_some_iff.1 h
      obtain ⟨fileHash, -, h⟩ := Option.bind_eq_some_iff.1 h
      obtain ⟨language, -, h⟩ := Option.bind_eq_some_iff.1 h
      obtain ⟨analysis, hanalysis, h⟩ := Option.bind_eq_some_iff.1 h
      obtain rfl := Option.some.inj h
      refine ⟨ReadsOnly.count.required hsize, ?_, Extraction.readsOnly.required hanalysis⟩
    · cases htime
      exact nofun
    · exact ReadsOnly.moment.optional.required htime
  · cases h

theorem Summary.readsOnly : ReadsOnly Summary.IsStorable := by
  intro value summary h
  change Summary.ofJson? value = some summary at h
  obtain ⟨fields, -, h⟩ := Option.bind_eq_some_iff.1 h
  split at h
  · obtain ⟨totalFiles, hfiles, h⟩ := Option.bind_eq_some_iff.1 h
    obtain ⟨totalFolders, hfolders, h⟩ := Option.bind_eq_some_iff.1 h
    obtain ⟨totalLines, hlines, h⟩ := Option.bind_eq_some_iff.1 h
    obtain ⟨braceFamilyFiles, hbraces, h⟩ := Option.bind_eq_some_iff.1 h
    obtain ⟨pythonFiles, hpythons, h⟩ := Option.bind_eq_some_iff.1 h
    obtain ⟨otherFiles, hothers, h⟩ := Option.bind_eq_some_iff.1 h
    obtain rfl := Option.some.inj h
    exact ⟨ReadsOnly.count.required hfiles, ReadsOnly.count.required hfolders,
      ReadsOnly.count.required hlines, ReadsOnly.count.required hbraces,
      ReadsOnly.count.required hpythons, ReadsOnly.count.required hothers⟩
  · cases h

theorem Snapshot.readsOnly : ReadsOnly Snapshot.IsStorable := by
  intro value snapshot h
  change Snapshot.ofJson? value = some snapshot at h
  obtain ⟨fields, -, h⟩ := Option.bind_eq_some_iff.1 h
  split at h
  · obtain ⟨scanId, -, h⟩ := Option.bind_eq_some_iff.1 h
    obtain ⟨timestamp, htime, h⟩ := Option.bind_eq_some_iff.1 h
    obtain ⟨targetFolder, -, h⟩ := Option.bind_eq_some_iff.1 h
    obtain ⟨files, hfiles, h⟩ := Option.bind_eq_some_iff.1 h
    obtain ⟨folders, -, h⟩ := Option.bind_eq_some_iff.1 h
    obtain ⟨summary, hsummary, h⟩ := Option.bind_eq_some_iff.1 h
    obtain rfl := Option.some.inj h
    exact ⟨ReadsOnly.moment.required htime, ScannedFile.readsOnly.list.required hfiles,
      Summary.readsOnly.required hsummary⟩
  · cases h

/-! ### Histories -/

namespace History

/-- Every scan of a history that was read can be stored. -/
theorem isStorable_of_decode? {text : String} {scans : List Snapshot}
    (h : decode? text = some scans) : ∀ scan ∈ scans, scan.IsStorable := by
  obtain ⟨value, -, hscans⟩ := Option.bind_eq_some_iff.1 h
  exact Snapshot.readsOnly.list value scans hscans

/-- Every scan that is loaded can be stored, whoever wrote the file. -/
theorem isStorable_of_load {σ : Type} [FileStore σ] {history : History} {store : σ}
    {scans : List Snapshot} (h : history.load store = .ok scans) :
    ∀ scan ∈ scans, scan.IsStorable := by
  have hempty : ∀ scan ∈ ([] : List Snapshot), scan.IsStorable := List.forall_mem_nil _
  unfold load at h
  split at h
  · split at h
    · next text _ =>
      obtain rfl := Except.ok.inj h
      cases hdecode : decode? text with
      | none => exact hempty
      | some scans => exact isStorable_of_decode? hdecode
    · cases h
  · obtain rfl := Except.ok.inj h
    exact hempty

end History

end Driftwatch
