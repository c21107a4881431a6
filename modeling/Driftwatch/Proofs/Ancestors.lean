import Driftwatch.Proofs.Paths

/-!
# Folders above a path

A path has a parent until one component is left, and the parent has all components but the last one.
The parents of a path, one after another, are therefore the folders that have some of its first
components, however the path is written.

## Main definitions

* `Path.IsAbove`: folders above a path.
* `Path.IsFolderOf`: folders that a list of files needs.

## Main results

* `Path.components_parent?`, `Path.length_components_of_parent?`: one step up.
* `Path.exists_mem_properAncestors`: the proper ancestors of a path are the folders above it.
-/

namespace Driftwatch

namespace Path

/-! ### Parents -/

theorem exists_last_trimSegments {segments : List (List UInt8)} (h : trimSegments segments ≠ []) :
    ∃ initial last, trimSegments segments = initial ++ [last] ∧ isVoid last = false := by
  cases hdrop : segments.reverse.dropWhile isVoid with
  | nil =>
    rw [trimSegments, hdrop] at h
    exact absurd rfl h
  | cons last before =>
    refine ⟨before.reverse, last, by rw [trimSegments, hdrop, List.reverse_cons], ?_⟩
    have hnot := List.head?_dropWhile_not isVoid segments.reverse
    rw [hdrop] at hnot
    exact hnot

/-- A parent has all components but the last one. -/
theorem components_parent? {path parent : Path} (h : path.parent? = some parent) :
    path.components ≠ [] ∧ parent.components = path.components.dropLast := by
  rw [components_eq_trim path]
  unfold parent? at h
  simp only at h
  split at h
  · next htrim hlead =>
    obtain rfl := Option.some.inj h
    rw [htrim, hlead]
    exact ⟨List.cons_ne_nil _ _, rfl⟩
  · cases h
  · next htrim _ =>
    obtain rfl := Option.some.inj h
    obtain ⟨initial, last, hlast, hvoid⟩ := exists_last_trimSegments htrim
    obtain ⟨component, hcomponent⟩ := Option.ne_none_iff_exists'.1
      (mt segmentComponent?_eq_none_iff.1 (hvoid ▸ Bool.false_ne_true))
    have hinitial : IsParts path.parts.1 (trimSegments (trimSegments path.parts.2).dropLast) :=
      path.isParts_trim.of_initial ((isPrefix_trimSegments _).trans (List.dropLast_prefix _))
    rw [components_ofParts hinitial, filterMap_trimSegments (List.dropLast _), hlast,
      List.dropLast_concat, List.filterMap_append, List.filterMap_cons_some hcomponent,
      List.filterMap_nil, ← List.append_assoc, List.dropLast_concat]
    exact ⟨List.append_ne_nil_of_right_ne_nil _ (List.cons_ne_nil _ _), rfl⟩

/-- Only a path with one component or none has no parent. -/
theorem length_components_of_parent? {path : Path} (h : path.parent? = none) :
    path.components.length ≤ 1 := by
  rw [components_eq_trim path]
  unfold parent? at h
  simp only at h
  split at h
  · cases h
  · next htrim _ =>
    rw [htrim, List.filterMap_nil, List.append_nil]
    exact Option.length_toList_le
  · cases h

/-! ### Ancestors -/

/-- A folder above a path: it has a component, its components are the first ones of the path, and
the path has more of them. -/
def IsAbove (folder path : Path) : Prop :=
  folder.components ≠ [] ∧ ∃ rest, rest ≠ [] ∧ path.components = folder.components ++ rest

variable {folder path parent : Path}

theorem not_isAbove_of_length_le (h : path.components.length ≤ 1) : ¬folder.IsAbove path := by
  rintro ⟨hne, rest, hrest, hpath⟩
  have hfolder := List.length_pos_iff.2 hne
  have hmore := List.length_pos_iff.2 hrest
  rw [hpath, List.length_append] at h
  omega

/-- Above a path are its parent and what is above the parent. -/
theorem isAbove_iff_of_parent? (h : path.parent? = some parent) :
    folder.IsAbove path ↔ folder.components ≠ [] ∧
      (folder.components = parent.components ∨ folder.IsAbove parent) := by
  obtain ⟨hpath, hparent⟩ := components_parent? h
  have hlast := List.dropLast_concat_getLast hpath
  rw [← hparent] at hlast
  constructor
  · rintro ⟨hne, rest, hrest, hcomponents⟩
    have hup : parent.components = folder.components ++ rest.dropLast := by
      rw [hparent, hcomponents, List.dropLast_append_of_ne_nil hrest]
    by_cases hnil : rest.dropLast = []
    · exact ⟨hne, .inl (by rw [hup, hnil, List.append_nil])⟩
    · exact ⟨hne, .inr ⟨hne, rest.dropLast, hnil, hup⟩⟩
  · rintro ⟨hne, heq | ⟨-, rest, -, hrest⟩⟩
    · exact ⟨hne, _, List.cons_ne_nil _ _, by rw [heq, hlast]⟩
    · refine ⟨hne, rest ++ [path.components.getLast hpath],
        List.append_ne_nil_of_right_ne_nil _ (List.cons_ne_nil _ _), ?_⟩
      rw [← List.append_assoc, ← hrest, hlast]

theorem exists_mem_properAncestorsFrom {count : Nat} (h : path.components.length ≤ count) :
    (∃ above ∈ properAncestorsFrom count path, above.components = folder.components) ↔
      folder.IsAbove path := by
  induction count generalizing path with
  | zero => simp [properAncestorsFrom, not_isAbove_of_length_le (Nat.le_succ_of_le h)]
  | succ count ih =>
    rw [properAncestorsFrom]
    split
    · next hparent =>
      simp [not_isAbove_of_length_le (length_components_of_parent? hparent)]
    · next parent hparent =>
      obtain ⟨-, hcomponents⟩ := components_parent? hparent
      split
      · next hempty =>
        have hnil := parent.components_of_bytes_eq_nil hempty
        have hnone : ¬folder.IsAbove parent := not_isAbove_of_length_le (by simp [hnil])
        simp [isAbove_iff_of_parent? hparent, hnone, hnil]
      · next hne =>
        have hlength : parent.components.length ≤ count := by
          rw [hcomponents, List.length_dropLast]
          omega
        simp only [List.mem_cons, exists_eq_or_imp, ih hlength, isAbove_iff_of_parent? hparent]
        constructor
        · rintro (heq | habove)
          · exact ⟨heq ▸ mt bytes_eq_nil_of_components hne, .inl heq.symm⟩
          · exact ⟨habove.1, .inr habove⟩
        · rintro ⟨-, heq | habove⟩
          · exact .inl heq.symm
          · exact .inr habove

/-- **The proper ancestors of a path are the folders above it.** -/
theorem exists_mem_properAncestors :
    (∃ above ∈ path.properAncestors, above.components = folder.components) ↔
      folder.IsAbove path :=
  exists_mem_properAncestorsFrom (Nat.le_refl _)

/-! ### Folders of files -/

/-- A folder that files need: it is above one of them, and none of them is there. -/
def IsFolderOf (path : Path) (files : List Path) : Prop :=
  (∃ file ∈ files, path.IsAbove file) ∧ ∀ file ∈ files, file.components ≠ path.components

end Path

end Driftwatch
