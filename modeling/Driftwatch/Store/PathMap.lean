import Driftwatch.Path

/-!
# Values for paths

A map from paths to values is a list in strictly increasing order of paths, so no two entries have
the same components. The order is part of the map, and every change keeps it.

## Main definitions

* `PathMap`: entries in order.
* `PathMap.insert`, `PathMap.insertNew`, `PathMap.erase`: changes.
* `PathMap.find?`, `PathMap.has`: lookup.
-/

namespace Driftwatch

/-- Values for paths, in strictly increasing order of paths. -/
@[ext]
structure PathMap (α : Type) where
  entries : List (Path × α)
  ordered : entries.Pairwise fun a b => a.1.compare b.1 = .lt

namespace PathMap

variable {α : Type}

/-- The map without entries. -/
def empty : PathMap α :=
  ⟨[], .nil⟩

/-- The entries with a value set for a path. A path with the same components that is already there
stays as it is. -/
def insertInto (path : Path) (value : α) : List (Path × α) → List (Path × α)
  | [] => [(path, value)]
  | (key, old) :: rest =>
    match path.compare key with
    | .lt => (path, value) :: (key, old) :: rest
    | .eq => (key, value) :: rest
    | .gt => (key, old) :: insertInto path value rest

/-- What is true of the path and of the keys is true of the keys after an insertion. -/
theorem forall_key_insertInto {P : Path → Prop} {path : Path} {value : α}
    {entries : List (Path × α)} (hpath : P path) (h : ∀ entry ∈ entries, P entry.1) :
    ∀ entry ∈ insertInto path value entries, P entry.1 := by
  fun_induction insertInto path value entries with
  | case1 => exact List.forall_mem_singleton.2 hpath
  | case2 => exact List.forall_mem_cons.2 ⟨hpath, h⟩
  | case3 key old rest =>
    rw [List.forall_mem_cons] at h ⊢
    exact h
  | case4 key old rest _ ih =>
    rw [List.forall_mem_cons] at h ⊢
    exact ⟨h.1, ih h.2⟩

theorem ordered_insertInto (path : Path) (value : α) {entries : List (Path × α)}
    (h : entries.Pairwise fun a b => a.1.compare b.1 = .lt) :
    (insertInto path value entries).Pairwise fun a b => a.1.compare b.1 = .lt := by
  fun_induction insertInto path value entries with
  | case1 => exact List.pairwise_singleton _ _
  | case2 key old rest hlt =>
    refine List.pairwise_cons.2 ⟨List.forall_mem_cons.2 ⟨hlt, fun entry hmem => ?_⟩, h⟩
    exact Path.compare_lt_trans hlt ((List.pairwise_cons.1 h).1 entry hmem)
  | case3 key old rest =>
    rw [List.pairwise_cons] at h ⊢
    exact h
  | case4 key old rest hgt ih =>
    rw [List.pairwise_cons] at h ⊢
    refine ⟨forall_key_insertInto (P := fun other => key.compare other = .lt) ?_ h.1, ih h.2⟩
    exact Path.compare_gt_iff.1 hgt

/-- Sets the value for a path. -/
def insert (path : Path) (value : α) (map : PathMap α) : PathMap α :=
  ⟨insertInto path value map.entries, ordered_insertInto path value map.ordered⟩

/-- The first value for a path among entries. -/
def valueIn? (path : Path) (entries : List (Path × α)) : Option α :=
  (entries.find? fun entry => entry.1.same path).map (·.2)

/-- The value for a path. -/
def find? (map : PathMap α) (path : Path) : Option α :=
  valueIn? path map.entries

/-- Whether there is a value for a path. -/
def has (map : PathMap α) (path : Path) : Bool :=
  (map.find? path).isSome

/-- Sets the value for a path that has none. -/
def insertNew (path : Path) (value : α) (map : PathMap α) : PathMap α :=
  if map.has path then map else map.insert path value

/-- Removes the value for a path. -/
def erase (map : PathMap α) (path : Path) : PathMap α :=
  ⟨map.entries.filter fun entry => !entry.1.same path, map.ordered.filter _⟩

end PathMap

end Driftwatch
