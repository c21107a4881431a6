import Mathlib.Data.List.DropRight
import Driftwatch.Proofs.Decoding
import Driftwatch.Proofs.HistoryFile

/-!
# The history as a queue

A history is a queue that loses its oldest scans. Nothing of it is kept between two additions: each
one reads the file, puts a scan at the end, drops what is too much and writes the file, by a limit
of its own. However many are made, and whatever the limits are, the file holds what the same
additions make of the scans that it held at first.

## The shape of the argument

One addition turns a file that loads as some scans into one that holds the scans that are kept
(`History.append_eq_ok`). It asks nothing of the file before, not even that a history wrote it: what
can be loaded can be stored. A run of additions follows by induction. A file without a text stops
every addition before it writes (`History.load_of_holdsNoText`), so such a file is never lost.

## Main definitions

* `boundedQueue`: additions to a list, each of which keeps the last members only.
* `Appends`: additions to the history of a store, one after the other.
* `Memory.HoldsNoText`: what is at a path is no text.
* `HistoryLaws`: what is asked of the history in a folder.

## Main results

* `History.append_eq_ok`: one addition.
* `Appends.load_eq`, `Appends.erase_eq`: what a run of additions leaves.
* `history_is_bounded_queue`: histories in memory are as asked.
-/

namespace Driftwatch

/-! ### Files in memory -/

/-- Apart from its own place, an insertion leaves everything as it was. -/
theorem PathMap.erase_insert {α : Type} (path : Path) (value : α) (map : PathMap α) :
    (PathMap.insert path value map).erase path = map.erase path := by
  have hself : path.same path = true := Path.same_iff.2 rfl
  refine PathMap.ext ?_
  rw [entries_erase, entries_insert, entries_erase]
  induction map.entries with
  | nil => simp [insertInto, hself]
  | cons entry entries ih =>
    obtain ⟨key, old⟩ := entry
    obtain ⟨-, heq⟩ | ⟨hsame, heq⟩ | ⟨hlt, heq⟩ := insertInto_cons path value key old entries
    all_goals rw [heq]
    · simp [hself]
    · have hkey : key.same path = true := Path.same_iff.2 hsame.symm
      simp [hkey]
    · have hkey : ¬key.same path = true := mt Path.same_iff.1 (components_ne_of_lt hlt)
      rw [List.filter_cons_of_pos (by simpa using hkey), ih,
        List.filter_cons_of_pos (by simpa using hkey)]

theorem eq_toUTF8_of_decodeUtf8 {data : ByteArray} {text : String}
    (h : decodeUtf8 data = .ok text) : data = text.toUTF8 := by
  unfold decodeUtf8 at h
  split at h
  · next found hfound =>
    obtain rfl := Except.ok.inj h
    unfold String.fromUTF8? at hfound
    split at hfound
    · obtain rfl := Option.some.inj hfound
      rfl
    · cases hfound
  · cases h

namespace Memory

variable {memory : Memory} {path : Path}

/-- Something is at a path, and it is no file with a text: a file that is locked, a file whose bytes
are no UTF-8, or a folder. -/
def HoldsNoText (memory : Memory) (path : Path) : Prop :=
  memory.contains path = true ∧
    ∀ text : String, memory.files.find? path ≠ some (.bytes text.toUTF8)

theorem exists_readText_eq_error (h : memory.HoldsNoText path) :
    ∃ fault, memory.readText path = .error fault := by
  cases hread : memory.readText path with
  | error fault => exact ⟨fault, rfl⟩
  | ok text =>
    refine absurd ?_ (h.2 text)
    rw [readText] at hread
    cases hbytes : memory.readBytes path with
    | error fault =>
      rw [hbytes] at hread
      cases hread
    | ok data =>
      rw [hbytes] at hread
      cases hdecode : decodeUtf8 data with
      | error fault =>
        simp only [hdecode] at hread
        cases hread
      | ok found =>
        simp only [hdecode] at hread
        obtain rfl := Except.ok.inj hread
        rw [← eq_toUTF8_of_decodeUtf8 hdecode]
        exact find?_of_readBytes hbytes

end Memory

/-! ### One addition -/

namespace History

variable {history : History} {memory : Memory} {scans : List Snapshot} {snapshot : Snapshot}

theorem load_of_missing (h : memory.contains history.path = false) :
    history.load memory = .ok [] := by
  have hcontains : FileStore.contains memory history.path = false := h
  rw [load, hcontains]
  rfl

theorem load_of_text {text : String}
    (h : memory.files.find? history.path = some (.bytes text.toUTF8)) :
    history.load memory = .ok ((decode? text).getD []) := by
  have hcontains : FileStore.contains memory history.path = true := Memory.contains_of_find? h
  have hread : FileStore.readText memory history.path = .ok text := Memory.readText_of_find? h
  rw [load, if_pos hcontains, hread]

theorem load_of_holdsNoText (h : memory.HoldsNoText history.path) :
    ∃ fault, history.load memory = .error (.unreadable history.path fault) := by
  obtain ⟨fault, hfault⟩ := Memory.exists_readText_eq_error h
  have hcontains : FileStore.contains memory history.path = true := h.1
  have hread : FileStore.readText memory history.path = .error fault := hfault
  refine ⟨fault, ?_⟩
  rw [load, if_pos hcontains, hread]

theorem append_of_load_error {error : Error} (h : history.load memory = .error error) :
    history.append memory snapshot = (.error error, memory) := by
  simp only [append, h]

/-- **One addition** that succeeds puts the scans that are kept into the file. -/
theorem append_eq_ok {next : Memory} (hload : history.load memory = .ok scans)
    (h : history.append memory snapshot = (.ok (), next)) :
    next = memory.put history.path
      (.bytes (encode (history.keep (scans ++ [snapshot]))).toUTF8) := by
  generalize hwrite : FileStore.write memory history.path
    (encode (history.keep (scans ++ [snapshot]))) = result at h
  obtain ⟨written, after⟩ := result
  rw [append_of_load hload hwrite] at h
  obtain ⟨hwritten, rfl⟩ := Prod.mk.inj h
  cases written with
  | error fault => cases hwritten
  | ok done => exact Memory.eq_put_of_write hwrite

/-- An addition succeeds where the history can be loaded and its file can be written. -/
theorem append_of_accepts (hload : history.load memory = .ok scans)
    (haccepts : memory.Accepts history.path) :
    ∃ next, history.append memory snapshot = (.ok (), next) := by
  generalize hwrite : FileStore.write memory history.path
    (encode (history.keep (scans ++ [snapshot]))) = result
  obtain ⟨written, after⟩ := result
  cases written with
  | error fault => exact absurd haccepts (Memory.not_accepts_of_write_error hwrite)
  | ok done => exact ⟨after, append_of_load hload hwrite⟩

theorem exists_load_of_append {next : Memory}
    (h : history.append memory snapshot = (.ok (), next)) :
    ∃ scans, history.load memory = .ok scans := by
  cases hload : history.load memory with
  | ok scans => exact ⟨scans, rfl⟩
  | error error =>
    rw [append_of_load_error hload] at h
    cases h

theorem find?_of_append {next : Memory} (hload : history.load memory = .ok scans)
    (h : history.append memory snapshot = (.ok (), next)) :
    next.files.find? history.path =
      some (.bytes (encode (history.keep (scans ++ [snapshot]))).toUTF8) := by
  rw [append_eq_ok hload h]
  exact PathMap.find?_insert_self rfl

/-- What is loaded after an addition. -/
theorem load_of_append {next : Memory} (hload : history.load memory = .ok scans)
    (hsnapshot : snapshot.IsStorable) (h : history.append memory snapshot = (.ok (), next)) :
    history.load next = .ok (history.keep (scans ++ [snapshot])) := by
  have hstorable : ∀ scan ∈ history.keep (scans ++ [snapshot]), scan.IsStorable :=
    isStorable_of_mem_keep (isStorable_of_load hload) hsnapshot
  rw [load_of_text (find?_of_append hload h), decode?_encode hstorable, Option.getD_some]

end History

/-! ### Additions in a row -/

/-- The scans after some were added one by one, each with a limit. At every addition the last ones
within the limit are kept, and the new one always. -/
def boundedQueue (scans : List Snapshot) (added : List (Nat × Snapshot)) : List Snapshot :=
  added.foldl (fun scans entry => (scans ++ [entry.2]).rtake (max entry.1 1)) scans

/-- Additions to the history in a folder that all succeed, one after the other and each with a limit
of its own. -/
inductive Appends (outputDir : Path) : Memory → List (Nat × Snapshot) → Memory → Prop
  | nil {memory : Memory} : Appends outputDir memory [] memory
  | cons {memory next after : Memory} {limit : Nat} {snapshot : Snapshot}
    {added : List (Nat × Snapshot)}
    (happend : (History.mk outputDir limit).append memory snapshot = (.ok (), next))
    (hrest : Appends outputDir next added after) :
    Appends outputDir memory ((limit, snapshot) :: added) after

namespace Appends

variable {outputDir : Path} {memory after : Memory} {added : List (Nat × Snapshot)}

-- Loading does not look at the limit, so any limit will do before and after.
theorem load_eq (h : Appends outputDir memory added after)
    (hadded : ∀ entry ∈ added, entry.2.IsStorable) {limit : Nat} {scans : List Snapshot}
    (hload : (History.mk outputDir limit).load memory = .ok scans) (other : Nat) :
    (History.mk outputDir other).load after = .ok (boundedQueue scans added) := by
  induction h generalizing scans limit with
  | nil => exact hload
  | @cons memory next after bound snapshot added happend hrest ih =>
    obtain ⟨hsnapshot, hothers⟩ := List.forall_mem_cons.1 hadded
    have hbefore : (History.mk outputDir bound).load memory = .ok scans := hload
    have hloaded : (History.mk outputDir bound).load next = _ :=
      History.load_of_append hbefore hsnapshot happend
    rw [History.keep_eq_rtake] at hloaded
    exact ih hothers hloaded

/-- The last addition of a run. -/
theorem exists_append_of_concat {limit : Nat} {snapshot : Snapshot}
    (h : Appends outputDir memory (added ++ [(limit, snapshot)]) after) :
    ∃ middle, (History.mk outputDir limit).append middle snapshot = (.ok (), after) := by
  induction added generalizing memory with
  | nil =>
    obtain _ | ⟨happend, ⟨⟩⟩ := h
    exact ⟨memory, happend⟩
  | cons entry added ih =>
    obtain _ | ⟨-, hrest⟩ := h
    exact ih hrest

theorem latest_eq {limit : Nat} {snapshot : Snapshot}
    (h : Appends outputDir memory (added ++ [(limit, snapshot)]) after)
    (hsnapshot : snapshot.IsStorable) (other : Nat) :
    (History.mk outputDir other).latest after = .ok (some snapshot) := by
  obtain ⟨middle, happend⟩ := h.exists_append_of_concat
  obtain ⟨scans, hload⟩ := History.exists_load_of_append happend
  have hafter : (History.mk outputDir other).load after =
      .ok ((History.mk outputDir limit).keep (scans ++ [snapshot])) :=
    History.load_of_append hload hsnapshot happend
  rw [History.latest, hafter]
  exact congrArg Except.ok (History.getLast?_keep _ scans snapshot)

theorem erase_eq (h : Appends outputDir memory added after) :
    after.files.erase (historyFile outputDir) = memory.files.erase (historyFile outputDir) := by
  induction h with
  | nil => rfl
  | cons happend hrest ih =>
    obtain ⟨scans, hload⟩ := History.exists_load_of_append happend
    rw [ih, History.append_eq_ok hload happend]
    exact PathMap.erase_insert _ _ _

theorem exists_of_accepts {limit : Nat} {scans : List Snapshot}
    (hload : (History.mk outputDir limit).load memory = .ok scans)
    (haccepts : memory.Accepts (historyFile outputDir)) (added : List (Nat × Snapshot)) :
    ∃ after, Appends outputDir memory added after := by
  induction added generalizing memory limit scans with
  | nil => exact ⟨memory, .nil⟩
  | cons entry added ih =>
    obtain ⟨limit, snapshot⟩ := entry
    have hbefore : (History.mk outputDir limit).load memory = .ok scans := hload
    obtain ⟨next, happend⟩ := History.append_of_accepts hbefore haccepts
    have hloaded : (History.mk outputDir limit).load next = .ok _ :=
      History.load_of_text (History.find?_of_append hbefore happend)
    have hallowed : next.Accepts (historyFile outputDir) := by
      rw [History.append_eq_ok hbefore happend]
      exact haccepts
    obtain ⟨after, hrest⟩ := ih hloaded hallowed
    exact ⟨after, .cons happend hrest⟩

end Appends

/-! ### The laws of a history -/

/-- The laws of the history that a store keeps in a folder. What is loaded: nothing where there is
no file, and what the text of the file stands for, which is nothing for a text that is no history.
What additions make of it: the same queue as `boundedQueue`, with the last scan as the latest one
and every other file as it was. What cannot be read: it stops everything and is left alone. -/
structure HistoryLaws (outputDir : Path) (memory : Memory) : Prop where
  missing : memory.contains (historyFile outputDir) = false →
    ∀ limit, (History.mk outputDir limit).load memory = .ok []
  text : ∀ text : String,
    memory.files.find? (historyFile outputDir) = some (.bytes text.toUTF8) →
      ∀ limit, (History.mk outputDir limit).load memory = .ok ((History.decode? text).getD [])
  succeeds : ∀ limit scans, (History.mk outputDir limit).load memory = .ok scans →
    memory.Accepts (historyFile outputDir) → ∀ added, ∃ after, Appends outputDir memory added after
  load : ∀ limit scans, (History.mk outputDir limit).load memory = .ok scans →
    ∀ added after, (∀ entry ∈ added, entry.2.IsStorable) → Appends outputDir memory added after →
      ∀ other, (History.mk outputDir other).load after = .ok (boundedQueue scans added)
  latest : ∀ added last snapshot after, snapshot.IsStorable →
    Appends outputDir memory (added ++ [(last, snapshot)]) after →
      ∀ limit, (History.mk outputDir limit).latest after = .ok (some snapshot)
  others : ∀ added after, Appends outputDir memory added after →
    after.files.erase (historyFile outputDir) = memory.files.erase (historyFile outputDir)
  unreadable : memory.HoldsNoText (historyFile outputDir) →
    ∀ limit snapshot, ∃ error, (History.mk outputDir limit).load memory = .error error ∧
      (History.mk outputDir limit).latest memory = .error error ∧
      (History.mk outputDir limit).append memory snapshot = (.error error, memory)

/-- **A history is a bounded queue over every run of additions**, in every store in memory and with
any limits, zero among them. -/
theorem history_is_bounded_queue (outputDir : Path) (memory : Memory) :
    HistoryLaws outputDir memory where
  missing hmissing _ := History.load_of_missing hmissing
  text _ htext _ := History.load_of_text htext
  succeeds _ _ hload haccepts added := Appends.exists_of_accepts hload haccepts added
  load _ _ hload _ _ hadded happends other := happends.load_eq hadded hload other
  latest _ _ _ _ hsnapshot happends limit := happends.latest_eq hsnapshot limit
  others _ _ happends := happends.erase_eq
  unreadable hunreadable limit snapshot := by
    have hpath : memory.HoldsNoText (History.mk outputDir limit).path := hunreadable
    obtain ⟨fault, hload⟩ := History.load_of_holdsNoText hpath
    refine ⟨_, hload, ?_, History.append_of_load_error hload⟩
    rw [History.latest, hload]
    rfl

/-! ### A history that starts from a broken file -/

/-- A store whose history file is cut off. -/
def brokenHistory : Memory :=
  (({} : Memory).put ⟨"out/history.json"⟩ (.bytes "[".toUTF8)).put ⟨"src/a.js"⟩ .locked

/-- A store whose history file cannot be read. -/
def lockedHistory : Memory :=
  ({} : Memory).put ⟨"out/history.json"⟩ .locked

/-- A scan without files. -/
def emptyScan (label : String) : Snapshot :=
  ⟨label, .epoch, "src", [], [], {}⟩

theorem emptyScan_isStorable (label : String) : (emptyScan label).IsStorable := by
  refine ⟨?_, List.forall_mem_nil _, ?_⟩
  · show Timestamp.epoch.IsStorable
    decide
  · show Summary.IsStorable {}
    constructor <;> decide

/-- The broken file counts as empty, and the limit zero keeps one scan. A locked file is left as it
is. -/
theorem history_is_bounded_queue_broken :
    (∃ after, Appends ⟨"out"⟩ brokenHistory
        [(3, emptyScan "a"), (0, emptyScan "b"), (2, emptyScan "c")] after ∧
      (History.mk ⟨"out"⟩ 1).load after = .ok [emptyScan "b", emptyScan "c"] ∧
      (History.mk ⟨"out"⟩ 1).latest after = .ok (some (emptyScan "c"))) ∧
    ∃ error, (History.mk ⟨"out"⟩ 1).append lockedHistory (emptyScan "a") =
      (.error error, lockedHistory) := by
  have hlaws := history_is_bounded_queue ⟨"out"⟩ brokenHistory
  have hdecode : History.decode? "[" = none := by with_unfolding_all rfl
  have hload : (History.mk ⟨"out"⟩ 1).load brokenHistory = .ok [] := by
    rw [hlaws.text "[" (by with_unfolding_all rfl) 1, hdecode]
    rfl
  obtain ⟨after, happends⟩ := hlaws.succeeds 1 [] hload
    (Memory.accepts_of_refused_eq_nil rfl _)
    [(3, emptyScan "a"), (0, emptyScan "b"), (2, emptyScan "c")]
  have hstorable : ∀ entry ∈ [(3, emptyScan "a"), (0, emptyScan "b"), (2, emptyScan "c")],
      entry.2.IsStorable := by
    simp [emptyScan_isStorable]
  have hfind : lockedHistory.files.find? (historyFile ⟨"out"⟩) = some .locked := by
    with_unfolding_all rfl
  have hlocked : lockedHistory.HoldsNoText (historyFile ⟨"out"⟩) := by
    refine ⟨Memory.contains_of_find? hfind, fun text htext => ?_⟩
    rw [hfind] at htext
    cases htext
  obtain ⟨error, -, -, herror⟩ :=
    (history_is_bounded_queue ⟨"out"⟩ lockedHistory).unreadable hlocked 1 (emptyScan "a")
  refine ⟨⟨after, happends, hlaws.load 1 [] hload _ after hstorable happends 1, ?_⟩, error, herror⟩
  exact hlaws.latest [(3, emptyScan "a"), (0, emptyScan "b")] 2 (emptyScan "c") after
    (emptyScan_isStorable "c") happends 1

end Driftwatch
