import Mathlib.Data.List.DropRight
import Driftwatch.Proofs.MemoryStore
import Driftwatch.Proofs.StoredForms

/-!
# The history file

A history is known through the file that holds it. While the file holds the text of some scans,
loading gives these scans, and adding one writes the scans that are kept to it. The scan that was
added last is always kept, whatever the limit is.

## Main definitions

* `HoldsScans`: a store in memory whose history file holds given scans.

## Main results

* `HoldsScans.eq_of_load`: loading gives the scans.
* `History.append_of_load`: adding a scan.
* `History.keep_eq_rtake`, `History.getLast?_keep`: the last scans are kept.
-/

namespace Driftwatch

/-- The file of a history that is kept in a folder. -/
def historyFile (outputDir : Path) : Path :=
  outputDir.join ⟨"history.json"⟩

/-- The history file of a store holds the given scans. There is no file for an empty history. -/
structure HoldsScans (outputDir : Path) (memory : Memory) (scans : List Snapshot) : Prop where
  storable : ∀ scan ∈ scans, scan.IsStorable
  content : memory.files.find? (historyFile outputDir) =
    if scans = [] then none else some (.bytes (History.encode scans).toUTF8)

namespace History

variable {history : History} {scans : List Snapshot}

/-- What adding a scan does once the history is loaded. -/
theorem append_of_load {σ : Type} [FileStore σ] {store after : σ} {snapshot : Snapshot}
    {written : Except StoreFault Unit} (hload : history.load store = .ok scans)
    (hwrite : FileStore.write store history.path
      (encode (history.keep (scans ++ [snapshot]))) = (written, after)) :
    history.append store snapshot = (written.mapError (.unwritable history.path), after) := by
  simp only [append, hload, hwrite]

/-- The last scans are kept: as many as the limit says, and at least one. -/
theorem keep_eq_rtake (history : History) (scans : List Snapshot) :
    history.keep scans = scans.rtake (max history.limit 1) :=
  rfl

/-- The scans that are kept after an addition: some of the latest ones, and the new one. -/
theorem keep_append (history : History) (scans : List Snapshot) (snapshot : Snapshot) :
    history.keep (scans ++ [snapshot]) =
      scans.drop (scans.length + 1 - max history.limit 1) ++ [snapshot] := by
  rw [keep, List.length_append, List.length_singleton, List.drop_append_of_le_length (by omega)]

theorem getLast?_keep (history : History) (scans : List Snapshot) (snapshot : Snapshot) :
    (history.keep (scans ++ [snapshot])).getLast? = some snapshot := by
  rw [keep_append, List.getLast?_concat]

theorem keep_append_ne_nil (history : History) (scans : List Snapshot) (snapshot : Snapshot) :
    history.keep (scans ++ [snapshot]) ≠ [] := by
  rw [keep_append]
  exact List.append_ne_nil_of_right_ne_nil _ (List.cons_ne_nil _ _)

theorem isStorable_of_mem_keep {snapshot : Snapshot} (hscans : ∀ scan ∈ scans, scan.IsStorable)
    (hsnapshot : snapshot.IsStorable) :
    ∀ scan ∈ history.keep (scans ++ [snapshot]), scan.IsStorable := by
  intro scan hscan
  rcases List.mem_append.1 (List.mem_of_mem_drop hscan) with hscan | hscan
  · exact hscans scan hscan
  · rwa [List.mem_singleton.1 hscan]

end History

namespace HoldsScans

variable {outputDir : Path} {memory : Memory} {scans : List Snapshot}

theorem find?_eq (h : HoldsScans outputDir memory scans) (hne : scans ≠ []) :
    memory.files.find? (historyFile outputDir) = some (.bytes (History.encode scans).toUTF8) := by
  rw [h.content, if_neg hne]

/-- A history with scans in it is loaded. -/
theorem load_of_ne_nil (h : HoldsScans outputDir memory scans) (hne : scans ≠ [])
    (history : History) (hdir : history.outputDir = outputDir) :
    history.load memory = .ok scans := by
  subst hdir
  have hfind := h.find?_eq hne
  have hcontains : FileStore.contains memory history.path = true := Memory.contains_of_find? hfind
  have hread : FileStore.readText memory history.path = .ok (History.encode scans) :=
    Memory.readText_of_find? hfind
  rw [History.load, if_pos hcontains, hread]
  simp only [History.decode?_encode h.storable, Option.getD_some]

/-- Loading gives the scans. It can fail only where files lie below the place of a missing file. -/
theorem eq_of_load (h : HoldsScans outputDir memory scans) {history : History}
    (hdir : history.outputDir = outputDir) {loaded : List Snapshot}
    (hload : history.load memory = .ok loaded) : loaded = scans := by
  by_cases hne : scans = []
  · subst hdir hne
    have hfind : memory.files.find? history.path = none := h.content
    have hread : FileStore.readText memory history.path = .error (.fileMissing history.path) := by
      show memory.readText history.path = _
      rw [Memory.readText, Memory.readBytes, hfind]
    rw [History.load, hread] at hload
    split at hload
    · cases hload
    · cases hload
      rfl
  · rw [h.load_of_ne_nil hne history hdir] at hload
    cases hload
    rfl

end HoldsScans

end Driftwatch
