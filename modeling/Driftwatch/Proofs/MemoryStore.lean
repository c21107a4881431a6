import Mathlib.Algebra.GroupWithZero.Nat
import Mathlib.Data.List.Nodup
import Driftwatch.Proofs.Paths
import Driftwatch.Store.Memory

/-!
# Files in memory

What is written to a file is read back from it, and from no file with other components. Neither fact
needs the order of the files, with which every file is found under its own path.

## Main definitions

* `PathMap.weight`: the sum of a measure over the values.
* `Content.bytes?`: what can be read of a file.
* `Memory.Accepts`: places that can be written.

## Main results

* `PathMap.find?_insert_self`, `PathMap.find?_insert_of_ne`, `PathMap.find?_insertNew`: what an
  insertion changes.
* `PathMap.find?_of_mem`, `PathMap.eq_of_components`, `PathMap.insertInto_append`: what the order
  gives.
* `PathMap.weight_insert_le`: an insertion adds at most the new value.
* `PathMap.foldl_insertInto`, `PathMap.any_insertInto`: what an insertion is for folds and tests.
* `Memory.readText_of_find?`: a written text is read back.
-/

namespace Driftwatch

theorem Path.same_iff {a b : Path} : a.same b = true ↔ a.components = b.components := by
  simp [Path.same]

namespace PathMap

variable {α : Type} {map : PathMap α} {entries : List (Path × α)} {path other : Path} {value : α}

@[simp]
theorem entries_empty : (empty : PathMap α).entries = [] :=
  rfl

@[simp]
theorem entries_insert (map : PathMap α) (path : Path) (value : α) :
    (map.insert path value).entries = insertInto path value map.entries :=
  rfl

@[simp]
theorem entries_erase (map : PathMap α) (path : Path) :
    (map.erase path).entries = map.entries.filter fun entry => !entry.1.same path :=
  rfl

/-! ### Finding -/

theorem valueIn?_cons_of_same {key : Path} {old : α} (h : key.components = path.components) :
    valueIn? path ((key, old) :: entries) = some old := by
  have hsame : key.same path = true := Path.same_iff.2 h
  rw [valueIn?, List.find?_cons_of_pos (by exact hsame), Option.map_some]

theorem valueIn?_cons_of_ne {key : Path} {old : α} (h : key.components ≠ path.components) :
    valueIn? path ((key, old) :: entries) = valueIn? path entries := by
  have hsame : ¬key.same path = true := mt Path.same_iff.1 h
  rw [valueIn?, List.find?_cons_of_neg (by exact hsame), valueIn?]

theorem find?_congr (h : path.components = other.components) :
    map.find? path = map.find? other := by
  simp only [find?, valueIn?, Path.same, h]

/-- The entry behind a value that is found. -/
theorem exists_mem_of_find? (h : map.find? path = some value) :
    ∃ key, (key, value) ∈ map.entries ∧ key.components = path.components := by
  obtain ⟨⟨key, found⟩, hfound, rfl⟩ := Option.map_eq_some_iff.1 h
  have hsame := List.find?_some hfound
  simp only [Path.same_iff] at hsame
  exact ⟨key, List.mem_of_find?_eq_some hfound, hsame⟩

/-- The three places where a value can go. -/
theorem insertInto_cons (path : Path) (value : α) (key : Path) (old : α)
    (entries : List (Path × α)) :
    (path.compare key = .lt ∧ insertInto path value ((key, old) :: entries) =
      (path, value) :: (key, old) :: entries) ∨
    (path.components = key.components ∧ insertInto path value ((key, old) :: entries) =
      (key, value) :: entries) ∨
    (key.compare path = .lt ∧ insertInto path value ((key, old) :: entries) =
      (key, old) :: insertInto path value entries) := by
  rw [insertInto]
  split
  · next h => exact .inl ⟨h, rfl⟩
  · next h => exact .inr (.inl ⟨Path.compare_eq_iff.1 h, rfl⟩)
  · next h => exact .inr (.inr ⟨Path.compare_gt_iff.1 h, rfl⟩)

theorem components_ne_of_lt {a b : Path} (h : a.compare b = .lt) : a.components ≠ b.components := by
  intro heq
  rw [Path.compare_eq_iff.2 heq] at h
  cases h

theorem find?_insert_self (h : path.components = other.components) :
    (map.insert path value).find? other = some value := by
  rw [find?, entries_insert]
  induction map.entries with
  | nil => exact valueIn?_cons_of_same h
  | cons entry entries ih =>
    obtain ⟨key, old⟩ := entry
    obtain ⟨-, heq⟩ | ⟨hsame, heq⟩ | ⟨hlt, heq⟩ := insertInto_cons path value key old entries
    all_goals rw [heq]
    · exact valueIn?_cons_of_same h
    · exact valueIn?_cons_of_same (hsame ▸ h)
    · rw [valueIn?_cons_of_ne (h ▸ components_ne_of_lt hlt), ih]

theorem find?_insert_of_ne (h : path.components ≠ other.components) :
    (map.insert path value).find? other = map.find? other := by
  rw [find?, entries_insert, find?]
  induction map.entries with
  | nil => exact valueIn?_cons_of_ne h
  | cons entry entries ih =>
    obtain ⟨key, old⟩ := entry
    obtain ⟨-, heq⟩ | ⟨hsame, heq⟩ | ⟨-, heq⟩ := insertInto_cons path value key old entries
    all_goals rw [heq]
    · exact valueIn?_cons_of_ne h
    · rw [valueIn?_cons_of_ne (hsame ▸ h), valueIn?_cons_of_ne (hsame ▸ h)]
    · by_cases hkey : key.components = other.components
      · rw [valueIn?_cons_of_same hkey, valueIn?_cons_of_same hkey]
      · rw [valueIn?_cons_of_ne hkey, valueIn?_cons_of_ne hkey, ih]

/-- A value for a path that has none is found there, and nowhere else. -/
theorem find?_insertNew (path other : Path) (value : α) (map : PathMap α) :
    (insertNew path value map).find? other = (map.find? other).or
      (if path.components = other.components then some value else none) := by
  unfold insertNew
  by_cases hsame : path.components = other.components
  · rw [has, find?_congr hsame, if_pos hsame]
    split
    · next hhas =>
      obtain ⟨old, hold⟩ := Option.isSome_iff_exists.1 hhas
      rw [hold, Option.some_or]
    · next hhas =>
      rw [find?_insert_self hsame, Option.not_isSome_iff_eq_none.1 hhas, Option.none_or]
  · rw [if_neg hsame, Option.or_none]
    split
    · rfl
    · exact find?_insert_of_ne hsame

theorem find?_erase_of_ne (h : path.components ≠ other.components) :
    (map.erase path).find? other = map.find? other := by
  rw [find?, entries_erase, find?]
  induction map.entries with
  | nil => rfl
  | cons entry entries ih =>
    obtain ⟨key, old⟩ := entry
    by_cases hkey : key.components = path.components
    · rw [valueIn?_cons_of_ne (hkey ▸ h), ← ih, List.filter_cons_of_neg]
      simp [Path.same_iff.2 hkey]
    · rw [List.filter_cons_of_pos (by simp [mt Path.same_iff.1 hkey])]
      by_cases hother : key.components = other.components
      · rw [valueIn?_cons_of_same hother, valueIn?_cons_of_same hother]
      · rw [valueIn?_cons_of_ne hother, valueIn?_cons_of_ne hother, ih]

/-! ### Order -/

/-- No two entries have the same components. -/
theorem eq_of_components (map : PathMap α) {a b : Path × α} (ha : a ∈ map.entries)
    (hb : b ∈ map.entries) (heq : a.1.components = b.1.components) : a = b := by
  have hnodup : (map.entries.map fun entry => entry.1.components).Nodup := by
    rw [List.nodup_iff_pairwise_ne, List.pairwise_map]
    exact map.ordered.imp components_ne_of_lt
  exact List.inj_on_of_nodup_map hnodup ha hb heq

theorem nodup_entries (map : PathMap α) : map.entries.Nodup := by
  refine List.nodup_iff_pairwise_ne.2 (map.ordered.imp fun hlt heq => ?_)
  exact components_ne_of_lt hlt (by rw [heq])

/-- Every entry is found under its own path. -/
theorem find?_of_mem (map : PathMap α) {key : Path} (hmem : (key, value) ∈ map.entries)
    (hpath : key.components = path.components) : map.find? path = some value := by
  cases hfind : map.find? path with
  | none =>
    have hnone := List.find?_eq_none.1 (Option.map_eq_none_iff.1 hfind) (key, value) hmem
    exact absurd (Path.same_iff.2 hpath) hnone
  | some found =>
    obtain ⟨other, hother, hcomponents⟩ := exists_mem_of_find? hfind
    cases map.eq_of_components hother hmem (hcomponents.trans hpath.symm)
    rfl

/-- An insertion under a path that is there replaces its value. -/
theorem insertInto_append {before after : List (Path × α)} {old : α}
    (h : (before ++ (path, old) :: after).Pairwise fun a b => a.1.compare b.1 = .lt) (value : α) :
    insertInto path value (before ++ (path, old) :: after) = before ++ (path, value) :: after := by
  induction before with
  | nil =>
    have hself : path.compare path = .eq := Path.compare_eq_iff.2 rfl
    rw [List.nil_append, insertInto, hself, List.nil_append]
  | cons entry before ih =>
    obtain ⟨key, first⟩ := entry
    obtain ⟨hfirst, hrest⟩ := List.pairwise_cons.1 h
    have hlt : key.compare path = .lt :=
      hfirst (path, old) (List.mem_append_right before List.mem_cons_self)
    have hgt : path.compare key = .gt := Path.compare_gt_iff.2 hlt
    rw [List.cons_append, insertInto, hgt, List.cons_append]
    exact congrArg _ (ih hrest)

/-! ### Values -/

/-- What holds of all entries and of the new value under every form of its path holds after an
insertion. -/
theorem forall_mem_insertInto {P : Path × α → Prop} (h : ∀ entry ∈ entries, P entry)
    (hvalue : ∀ key : Path, path.components = key.components → P (key, value)) :
    ∀ entry ∈ insertInto path value entries, P entry := by
  induction entries with
  | nil => exact List.forall_mem_singleton.2 (hvalue path rfl)
  | cons entry entries ih =>
    obtain ⟨key, old⟩ := entry
    obtain ⟨hold, hrest⟩ := List.forall_mem_cons.1 h
    obtain ⟨-, heq⟩ | ⟨hkey, heq⟩ | ⟨-, heq⟩ := insertInto_cons path value key old entries
    all_goals rw [heq]
    · exact List.forall_mem_cons.2 ⟨hvalue path rfl, h⟩
    · exact List.forall_mem_cons.2 ⟨hvalue key hkey, hrest⟩
    · exact List.forall_mem_cons.2 ⟨hold, ih hrest⟩

theorem forall_insert {P : α → Prop} (h : ∀ entry ∈ map.entries, P entry.2) (hvalue : P value) :
    ∀ entry ∈ (map.insert path value).entries, P entry.2 :=
  forall_mem_insertInto h fun _ _ => hvalue

/-- A fold that passes over the entries of a path does not see an insertion there. -/
theorem foldl_insertInto {β : Type} {step : β → Path × α → β} {init : β}
    (h : ∀ state key value, path.components = key.components → step state (key, value) = state) :
    (insertInto path value entries).foldl step init = entries.foldl step init := by
  induction entries generalizing init with
  | nil => exact h init path value rfl
  | cons entry entries ih =>
    obtain ⟨key, old⟩ := entry
    obtain ⟨-, heq⟩ | ⟨hkey, heq⟩ | ⟨-, heq⟩ := insertInto_cons path value key old entries
    all_goals rw [heq, List.foldl_cons]
    · rw [h init path value rfl]
    · rw [h init key value hkey, List.foldl_cons, h init key old hkey]
    · rw [ih, List.foldl_cons]

/-- An insertion adds one path to those that a test can find. -/
theorem any_insertInto {test : Path → Bool}
    (h : ∀ key : Path, path.components = key.components → test key = test path) :
    (insertInto path value entries).any (test ·.1) = (test path || entries.any (test ·.1)) := by
  induction entries with
  | nil => rfl
  | cons entry entries ih =>
    obtain ⟨key, old⟩ := entry
    obtain ⟨-, heq⟩ | ⟨hkey, heq⟩ | ⟨-, heq⟩ := insertInto_cons path value key old entries
    all_goals rw [heq]
    · rw [List.any_cons]
    · rw [List.any_cons, List.any_cons, h key hkey, ← Bool.or_assoc, Bool.or_self]
    · rw [List.any_cons, List.any_cons, ih, Bool.or_left_comm]

/-- The sum of a measure over the values. -/
def weight (measure : α → Nat) (map : PathMap α) : Nat :=
  (map.entries.map fun entry => measure entry.2).sum

/-- An insertion adds the new value, and sometimes takes an old one away. -/
theorem weight_insert_le (measure : α → Nat) (path : Path) (value : α) (map : PathMap α) :
    weight measure (map.insert path value) ≤ weight measure map + measure value := by
  rw [weight, entries_insert, weight]
  induction map.entries with
  | nil => simp [insertInto]
  | cons entry entries ih =>
    obtain ⟨key, old⟩ := entry
    obtain ⟨-, heq⟩ | ⟨-, heq⟩ | ⟨-, heq⟩ := insertInto_cons path value key old entries
    all_goals
      rw [heq]
      simp only [List.map_cons, List.sum_cons] at ih ⊢
      omega

theorem forall_insertNew {P : α → Prop} (h : ∀ entry ∈ map.entries, P entry.2) (hvalue : P value) :
    ∀ entry ∈ (insertNew path value map).entries, P entry.2 := by
  unfold insertNew
  split
  · exact h
  · exact forall_insert h hvalue

theorem weight_insertNew_le (measure : α → Nat) (path : Path) (value : α) (map : PathMap α) :
    weight measure (insertNew path value map) ≤ weight measure map + measure value := by
  unfold insertNew
  split
  · omega
  · exact weight_insert_le measure path value map

end PathMap

/-! ### Reading and writing -/

/-- The bytes of a file that can be read. -/
def Content.bytes? : Content → Option ByteArray
  | bytes data => some data
  | locked => none

theorem decodeUtf8_toUTF8 (text : String) : decodeUtf8 text.toUTF8 = .ok text := by
  have hvalid : text.toUTF8.IsValidUTF8 := text.isValidUTF8
  have hread : String.fromUTF8? text.toUTF8 = some text := dif_pos hvalid
  rw [decodeUtf8, hread]

namespace Memory

variable {memory : Memory} {path : Path} {text : String}

theorem readText_of_find? (h : memory.files.find? path = some (.bytes text.toUTF8)) :
    memory.readText path = .ok text := by
  rw [readText, readBytes, h]
  simp only [decodeUtf8_toUTF8]
  rfl

theorem find?_of_readBytes {data : ByteArray} (h : memory.readBytes path = .ok data) :
    memory.files.find? path = some (.bytes data) := by
  unfold readBytes at h
  split at h
  · next hfind =>
    obtain rfl := Except.ok.inj h
    exact hfind
  · cases h
  · cases h

theorem toOption_readBytes (memory : Memory) (path : Path) :
    (memory.readBytes path).toOption = (memory.files.find? path).bind Content.bytes? := by
  unfold readBytes
  split
  all_goals
    next hfind =>
      rw [hfind]
      rfl

theorem contains_of_find? {content : Content} (h : memory.files.find? path = some content) :
    memory.contains path = true := by
  obtain ⟨key, hmem, hkey⟩ := PathMap.exists_mem_of_find? h
  refine List.any_eq_true.2 ⟨(key, content), hmem, ?_⟩
  rw [Path.startsWith, hkey]
  exact List.isPrefixOf_iff_prefix.2 List.prefix_rfl

theorem fileStore_write (memory : Memory) (path : Path) (text : String) :
    FileStore.write memory path text = orUnchanged memory (memory.write path text) :=
  rfl

/-- A write sets the content of one file, or it fails and changes nothing. -/
theorem write_cases (memory : Memory) (path : Path) (text : String) :
    FileStore.write memory path text = (.ok (), memory.put path (.bytes text.toUTF8)) ∨
      ∃ fault, FileStore.write memory path text = (.error fault, memory) := by
  rw [fileStore_write, write, writeBytes]
  split
  · exact .inr ⟨_, rfl⟩
  · exact .inl rfl

theorem eq_put_of_write {after : Memory}
    (h : FileStore.write memory path text = (.ok (), after)) :
    after = memory.put path (.bytes text.toUTF8) := by
  obtain heq | ⟨fault, heq⟩ := memory.write_cases path text
  · rw [heq] at h
    exact (congrArg Prod.snd h).symm
  · rw [heq] at h
    cases h

/-- Writes to a path are not refused. -/
def Accepts (memory : Memory) (path : Path) : Prop :=
  ¬memory.refused.any (·.same path) = true

theorem accepts_of_refused_eq_nil (h : memory.refused = []) (path : Path) :
    memory.Accepts path := by
  rw [Accepts, h]
  exact Bool.false_ne_true

theorem accepts_of_write {after : Memory}
    (h : FileStore.write memory path text = (.ok (), after)) : memory.Accepts path := by
  intro hrefused
  rw [fileStore_write, write, writeBytes, if_pos hrefused] at h
  cases h

/-- Nothing but a refusal makes a write fail. -/
theorem not_accepts_of_write_error {after : Memory} {fault : StoreFault}
    (h : FileStore.write memory path text = (.error fault, after)) : ¬memory.Accepts path := by
  intro haccepts
  rw [fileStore_write, write, writeBytes, if_neg haccepts] at h
  cases h

/-- Whether a path is there after a file was put somewhere. -/
theorem contains_put (memory : Memory) (path : Path) (content : Content) (root : Path) :
    (memory.put path content).contains root = (path.startsWith root || memory.contains root) := by
  have htest : ∀ key : Path, path.components = key.components →
      key.startsWith root = path.startsWith root := by
    intro key hkey
    rw [Path.startsWith, Path.startsWith, hkey]
  rw [contains, put, PathMap.entries_insert, PathMap.any_insertInto htest, contains]

end Memory

end Driftwatch
