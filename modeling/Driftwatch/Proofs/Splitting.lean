import Driftwatch.Text.Split

/-!
# Texts that are split and joined

Splitting and joining are the operations of the library under other names, and what later proofs
need of them is said here for any separator.

## Main results

* `splitOn_eq`, `joinWith_eq`: the operations of the library.
* `splitOn_append_cons`: a separator splits a text in two.
* `not_mem_of_mem_splitOn`: pieces hold no separator.
* `splitOn_joinWith`, `joinWith_splitOn`: splitting and joining are inverses.
-/

namespace Driftwatch

variable {α : Type} [DecidableEq α]

theorem splitOn_eq (separator : α) (text : List α) :
    splitOn separator text = text.splitOn separator := by
  induction text with
  | nil => rw [splitOn, List.splitOn_nil]
  | cons c rest ih =>
    rw [splitOn, ih, List.splitOn_cons_eq_if_modifyHead]
    cases hpieces : rest.splitOn separator with
    | nil => exact absurd hpieces (List.splitOn_ne_nil separator rest)
    | cons piece pieces => simp

omit [DecidableEq α] in
theorem joinWith_eq (separator : List α) (pieces : List (List α)) :
    joinWith separator pieces = separator.intercalate pieces := by
  induction pieces with
  | nil => rfl
  | cons piece pieces ih =>
    cases pieces with
    | nil => simp [joinWith]
    | cons next pieces => rw [joinWith, ih, List.intercalate_cons_cons]; simp

omit [DecidableEq α] in
theorem joinWith_cons_cons (separator piece next : List α) (pieces : List (List α)) :
    joinWith separator (piece :: next :: pieces) =
      piece ++ separator ++ joinWith separator (next :: pieces) :=
  rfl

omit [DecidableEq α] in
theorem joinWith_append_singleton (separator : List α) {pieces : List (List α)} (h : pieces ≠ [])
    (last : List α) :
    joinWith separator (pieces ++ [last]) = joinWith separator pieces ++ separator ++ last := by
  induction pieces with
  | nil => exact absurd rfl h
  | cons piece pieces ih =>
    cases pieces with
    | nil => rfl
    | cons next pieces =>
      have hrest := ih (List.cons_ne_nil _ _)
      rw [List.cons_append] at hrest ⊢
      rw [List.cons_append, joinWith_cons_cons, hrest, joinWith_cons_cons]
      simp only [List.append_assoc]

omit [DecidableEq α] in
/-- What is done to each member of a text is done to the pieces and to the separator. -/
theorem flatMap_joinWith {β : Type} (f : α → List β) (separator : List α)
    (pieces : List (List α)) : (joinWith separator pieces).flatMap f =
      joinWith (separator.flatMap f) (pieces.map (·.flatMap f)) := by
  induction pieces with
  | nil => rfl
  | cons piece pieces ih =>
    cases pieces with
    | nil => rfl
    | cons next pieces =>
      rw [joinWith_cons_cons, List.flatMap_append, List.flatMap_append, ih]
      rfl

theorem splitOn_joinWith {separator : α} {pieces : List (List α)}
    (h : ∀ piece ∈ pieces, separator ∉ piece) (hne : pieces ≠ []) :
    splitOn separator (joinWith [separator] pieces) = pieces := by
  rw [splitOn_eq, joinWith_eq, List.splitOn_intercalate _ h hne]

theorem joinWith_splitOn (separator : α) (text : List α) :
    joinWith [separator] (splitOn separator text) = text := by
  rw [splitOn_eq, joinWith_eq, List.intercalate_splitOn]

variable (separator : α)

theorem splitOn_append_cons (left right : List α) :
    splitOn separator (left ++ separator :: right) =
      splitOn separator left ++ splitOn separator right := by
  simp only [splitOn_eq, List.splitOn_append_cons_self]

theorem splitOn_self_cons (rest : List α) :
    splitOn separator (separator :: rest) = [] :: splitOn separator rest :=
  splitOn_append_cons separator [] rest

theorem splitOn_ne_nil (text : List α) : splitOn separator text ≠ [] := by
  rw [splitOn_eq]
  exact List.splitOn_ne_nil _ _

/-- The pieces of a text with one more character. -/
theorem splitOn_cons (c : α) (rest : List α) :
    ∃ piece pieces, splitOn separator rest = piece :: pieces ∧ splitOn separator (c :: rest) =
      if c = separator then [] :: piece :: pieces else (c :: piece) :: pieces := by
  obtain ⟨piece, pieces, hpieces⟩ := List.exists_cons_of_ne_nil (splitOn_ne_nil separator rest)
  refine ⟨piece, pieces, hpieces, ?_⟩
  rw [splitOn, hpieces]

theorem not_mem_of_mem_splitOn {separator : α} {text piece : List α}
    (h : piece ∈ splitOn separator text) : separator ∉ piece := by
  induction text generalizing piece with
  | nil => simp_all [splitOn]
  | cons c rest ih =>
    obtain ⟨first, others, hpieces, hcons⟩ := splitOn_cons separator c rest
    rw [hpieces] at ih
    rw [hcons] at h
    split at h
    · rcases List.mem_cons.1 h with rfl | h
      · exact List.not_mem_nil
      · exact ih h
    · next hc =>
      rcases List.mem_cons.1 h with rfl | h
      · have hfirst : separator ∉ first := ih List.mem_cons_self
        simp [Ne.symm hc, hfirst]
      · exact ih (List.mem_cons_of_mem _ h)

end Driftwatch
