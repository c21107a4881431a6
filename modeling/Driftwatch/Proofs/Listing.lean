import Driftwatch.Proofs.SnapshotBounds

/-!
# Listings of a store in memory

A listing shows the files that lie strictly below a folder, except those with an ignored name among
their components. A file that it does not show may come, go and change without a trace in it, and
every file that it shows is listed under a path of its own.

## The shape of the argument

A listing is a fold over the stored files that puts each of them, with the folders above it, into an
ordered map. The fold passes over a hidden file, so an insertion of one is not seen
(`Memory.entries_put_of_isHidden`). Along the fold, an item is always listed under its own
components (`Memory.entries_keyed`), so the order of the map is the order of the items.

## Main definitions

* `Memory.IsHidden`: paths that a listing does not show.
* `Memory.entries`: what a listing consists of.

## Main results

* `Memory.listing_put_of_isHidden`: a hidden file leaves a listing as it was.
* `Memory.pairwise_listing`: the items of a listing are in strictly increasing order.
* `Memory.exists_stored_of_mem_listing`: every listed file is stored, and shown.
* `scanTarget_eq_ok_iff`, `exists_scanTarget_iff`: scans that succeed.
-/

namespace Driftwatch

namespace Memory

/-- A path that no listing of `root` shows: it is not strictly below, or an ignored name is among
its components from there. -/
def IsHidden (root : Path) (names : List String) (path : Path) : Prop :=
  ∀ relative, path.components = root.components ++ relative →
    relative = [] ∨ ∃ component ∈ relative, ∃ name ∈ names, component.text = .ofString name

variable {memory : Memory} {root path : Path} {names : List String} {items : List ListedItem}

theorem ignores_iff {relative : Path} : ignores names relative = true ↔
    ∃ component ∈ relative.components, ∃ name ∈ names, component.text = .ofString name := by
  simp only [ignores, List.any_eq_true, List.contains_iff_mem, List.mem_map,
    @eq_comm _ (RawText.ofString _)]

/-- The files that a listing leaves out are the hidden ones. -/
theorem isHidden_iff {relative : Path} (h : path.stripPrefix? root = some relative) :
    IsHidden root names path ↔ (ignores names relative || relative.bytes = []) = true := by
  obtain ⟨hcomponents, -⟩ := Path.stripPrefix?_spec h
  rw [Bool.or_eq_true, ignores_iff, decide_eq_true_eq]
  constructor
  · intro hhidden
    obtain hnil | hnamed := hhidden relative.components hcomponents
    · exact .inr (Path.bytes_eq_nil_of_components hnil)
    · exact .inl hnamed
  · rintro hleft other hother
    obtain rfl := List.append_cancel_left (hcomponents.symm.trans hother)
    rcases hleft with hnamed | hempty
    · exact .inr hnamed
    · exact .inl (relative.components_of_bytes_eq_nil hempty)

theorem isHidden_of_stripPrefix? (h : path.stripPrefix? root = none) :
    IsHidden root names path := by
  intro relative hrelative
  obtain ⟨stripped, hstripped, -⟩ := Path.exists_stripPrefix? hrelative
  rw [h] at hstripped
  cases hstripped

instance (root : Path) (names : List String) (path : Path) :
    Decidable (IsHidden root names path) :=
  match h : path.stripPrefix? root with
  | some _ => decidable_of_iff _ (isHidden_iff h).symm
  | none => isTrue (isHidden_of_stripPrefix? h)

/-! ### Entries -/

/-- What a listing consists of: the files that are shown and the folders above them, in the order of
paths. -/
def entries (memory : Memory) (root : Path) (names : List String) : PathMap ListedItem :=
  (memory.below root).foldl (fun entries file => addEntries names file.1 file.2 entries) .empty

theorem below_eq_nil_iff : memory.below root = [] ↔ memory.contains root = false := by
  simp [below, contains, List.filterMap_eq_nil_iff, Path.stripPrefix?_eq_none_iff]

theorem listing_eq (memory : Memory) (root : Path) (names : List String) :
    memory.listing root names = if memory.contains root then
      .ok ((memory.entries root names).entries.map (·.2)) else .error (.directoryMissing root) := by
  unfold listing
  split
  · next hnil =>
    rw [below_eq_nil_iff.1 hnil]
    rfl
  · next hne =>
    rw [if_pos (by simpa using mt below_eq_nil_iff.2 hne)]
    rfl

/-- A hidden file leaves no trace among the entries. -/
theorem entries_put_of_isHidden (h : IsHidden root names path) (content : Content) :
    (memory.put path content).entries root names = memory.entries root names := by
  simp only [entries, below, put, List.foldl_filterMap]
  refine PathMap.foldl_insertInto fun entries key content hkey => ?_
  have hhidden : IsHidden root names key := by
    intro relative hrelative
    exact h relative (hkey.trans hrelative)
  cases hstrip : key.stripPrefix? root with
  | none => rfl
  | some relative => exact if_pos ((isHidden_iff hstrip).1 hhidden)

/-- **A hidden file may be put into a store without a trace in a listing.** -/
theorem listing_put_of_isHidden (h : memory.listing root names = .ok items)
    (hpath : IsHidden root names path) (content : Content) :
    (memory.put path content).listing root names = .ok items := by
  rw [listing_eq] at *
  split at h
  · next hcontains => rwa [contains_put, hcontains, Bool.or_true, entries_put_of_isHidden hpath]
  · cases h

/-! ### Order -/

/-- Every entry is under the components of its own path. -/
def Keyed (entries : PathMap ListedItem) : Prop :=
  ∀ entry ∈ entries.entries, entry.1.components = entry.2.path.components

theorem Keyed.insert {entries : PathMap ListedItem} (h : Keyed entries) (item : ListedItem) :
    Keyed (entries.insert item.path item) :=
  PathMap.forall_mem_insertInto h fun _ hkey => hkey.symm

theorem Keyed.insertNew {entries : PathMap ListedItem} (h : Keyed entries) (item : ListedItem) :
    Keyed (entries.insertNew item.path item) := by
  unfold PathMap.insertNew
  split
  · exact h
  · exact h.insert item

theorem Keyed.addEntries {entries : PathMap ListedItem} (h : Keyed entries)
    (names : List String) (relative : Path) (content : Content) :
    Keyed (addEntries names relative content entries) := by
  unfold Memory.addEntries
  split
  · exact h
  · refine Keyed.insert ?_ (.file relative content)
    exact List.foldlRecOn (motive := Keyed) _ _ h
      fun entries hentries folder _ => hentries.insertNew (.folder folder)

theorem entries_keyed (memory : Memory) (root : Path) (names : List String) :
    Keyed (memory.entries root names) :=
  List.foldlRecOn (motive := Keyed) _ _ (List.forall_mem_nil _)
    fun _ hentries file _ => hentries.addEntries names file.1 file.2

/-- **The items of a listing are in strictly increasing order of their paths.** -/
theorem pairwise_listing (h : memory.listing root names = .ok items) :
    items.Pairwise fun a b => a.path.compare b.path = .lt := by
  have hkeyed := memory.entries_keyed root names
  rw [listing_eq] at h
  split at h
  · obtain rfl := Except.ok.inj h
    rw [List.pairwise_map]
    refine (memory.entries root names).ordered.imp_of_mem fun {a b} ha hb hlt => ?_
    rwa [Path.compare, ← hkeyed a ha, ← hkeyed b hb]
  · cases h

/-! ### Listed files -/

/-- A listed file is stored, and a listing shows it. -/
theorem exists_stored_of_mem_listing (h : memory.listing root names = .ok items) :
    ∀ item ∈ items, item.isDir = false → ∃ entry ∈ memory.files.entries, ∃ relative,
      entry.1.stripPrefix? root = some relative ∧ ¬IsHidden root names entry.1 ∧
        item = .file relative entry.2 := by
  refine forall_listing h ?_ ?_
  · intro folder hfolder
    cases hfolder
  · intro entry hentry relative hrelative hshown _
    exact ⟨entry, hentry, relative, hrelative, mt (isHidden_iff hrelative).1 hshown, rfl⟩

end Memory

/-! ### Scans -/

variable {workspace : Workspace Memory} {config : Config} {snapshot : Snapshot}

/-- A scan records a listing. -/
theorem scanTarget_eq_ok_iff : scanTarget workspace config = .ok snapshot ↔
    ∃ items, workspace.store.listing config.target config.ignore = .ok items ∧
      snapshot = takeSnapshot workspace config.target items := by
  have hlisting : FileStore.listing workspace.store config.target config.ignore =
    workspace.store.listing config.target config.ignore := rfl
  have hcontains : FileStore.contains workspace.store config.target =
    workspace.store.contains config.target := rfl
  rw [scanTarget, hlisting, hcontains, Memory.listing_eq]
  by_cases h : workspace.store.contains config.target = true
  · simp only [h, if_true, Except.ok.injEq]
    constructor
    · rintro rfl
      exact ⟨_, rfl, rfl⟩
    · rintro ⟨items, rfl, rfl⟩
      rfl
  · simp [h]

/-- A scan succeeds where something is at the target. -/
theorem exists_scanTarget_iff : (∃ snapshot, scanTarget workspace config = .ok snapshot) ↔
    workspace.store.contains config.target = true := by
  simp only [scanTarget_eq_ok_iff, Memory.listing_eq]
  by_cases h : workspace.store.contains config.target = true
  · simp [h]
  · simp [h]

end Driftwatch
