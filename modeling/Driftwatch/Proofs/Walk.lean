import Driftwatch.Source.Cursor

/-!
# What a walk sees

A walk hands characters to a visitor until the visitor stops it. The characters, their roles and
the cursor at the end of the line do not depend on the visitor, so they are functions of the text
alone. Every walk is then a loop over a fixed list, and a statement about a visitor needs no
reasoning about lexical context.

## Main definitions

* `Phase.visits`, `Phase.finish`: the visits of a line that is walked to its end, and the cursor
  after it.
* `visitAll`: a visitor that goes over a list.

## Main results

* `Phase.walk_value`, `Phase.walk_cursor`: a walk is the visitor's loop over the visits.
* `Phase.exists_finish_eq`: no backslash reaches over the end of a line.
* `Cursor.walkCode_value`, `Cursor.walkCode_cursor`: the same for a visitor that sees code only.
* `Phase.visits_split`: right after a code character that opens nothing, the rest of a line is seen
  as a new cursor sees it.
-/

namespace Driftwatch

variable {α : Type}

/-! ### Loops over a list -/

/-- Hands the members of a list to a visitor until it stops. -/
def visitAll {ι : Type} (visit : ι → α → ForInStep α) : List ι → α → ForInStep α
  | [], value => .yield value
  | item :: items, value =>
    match visit item value with
    | .done value => .done value
    | .yield value => visitAll visit items value

/-- A visitor that passes over some members goes over the others only. -/
theorem visitAll_filterMap {ι κ : Type} (f : ι → Option κ) (visit : κ → α → ForInStep α)
    (items : List ι) (value : α) :
    visitAll (fun item value =>
      match f item with
      | some found => visit found value
      | none => .yield value) items value = visitAll visit (items.filterMap f) value := by
  induction items generalizing value with
  | nil => rfl
  | cons item items ih =>
    cases hf : f item with
    | none => simp only [visitAll, hf, List.filterMap_cons_none hf, ih]
    | some found =>
      simp only [visitAll, hf, List.filterMap_cons_some hf]
      cases visit found value with
      | done value => rfl
      | yield value => exact ih value

/-- A visitor that minds some members only goes over those. -/
theorem visitAll_filter {ι : Type} (p : ι → Bool) (visit : ι → α → ForInStep α) (items : List ι)
    (value : α) :
    visitAll (fun item value => if p item then visit item value else .yield value) items value =
      visitAll visit (items.filter p) value := by
  rw [← List.filterMap_eq_filter, ← visitAll_filterMap]
  congr 1
  funext item value
  cases hp : p item <;> simp [Option.guard, hp]

/-- A visitor that collects what it is given never stops. -/
theorem visitAll_collect {ι : Type} (items found : List ι) :
    visitAll (fun item found => .yield (found ++ [item])) items found =
      .yield (found ++ items) := by
  induction items generalizing found with
  | nil => simp [visitAll]
  | cons item items ih => simp [visitAll, ih]

/-! ### The visits of a line -/

namespace Phase

/-- What a walk over the rest of a line sees that nobody stops. -/
def visits : Phase → Nat → List Char → List Visit
  | _, _, [] => []
  | phase, offset, c :: rest =>
    let now := phase.step c rest.head?
    ⟨offset, c, now.charRole⟩ :: visits now.next (offset + c.utf8Size) rest

/-- The cursor after the rest of a line. -/
def finish : Phase → List Char → Cursor
  | phase, [] => phase.endLine
  | phase, c :: rest => finish (phase.step c rest.head?).next rest

theorem walk_value (visit : Visit → α → ForInStep α) (phase : Phase) (offset : Nat)
    (text : List Char) (value : α) :
    (phase.walk visit offset text value).value =
      visitAll visit (phase.visits offset text) value := by
  induction text generalizing phase offset value with
  | nil => rfl
  | cons c rest ih =>
    simp only [walk, visits, visitAll]
    cases visit ⟨offset, c, (phase.step c rest.head?).charRole⟩ value with
    | done value => rfl
    | yield value => exact ih _ _ _

/-- A walk that goes on to the end leaves a cursor that no visitor has a say in. -/
theorem walk_cursor {visit : Visit → α → ForInStep α} {phase : Phase} {offset : Nat}
    {text : List Char} {value result : α}
    (h : (phase.walk visit offset text value).value = .yield result) :
    (phase.walk visit offset text value).cursor = phase.finish text := by
  induction text generalizing phase offset value with
  | nil => rfl
  | cons c rest ih =>
    simp only [walk, finish] at h ⊢
    cases hv : visit ⟨offset, c, (phase.step c rest.head?).charRole⟩ value with
    | done value => simp [hv] at h
    | yield value =>
      simp only [hv] at h ⊢
      exact ih h

/-- No backslash reaches over the end of a line. -/
theorem exists_finish_eq (phase : Phase) (text : List Char) :
    ∃ mode, phase.finish text = ⟨mode, false⟩ := by
  induction text generalizing phase with
  | nil =>
    match phase with
    | lineComment => exact ⟨_, rfl⟩
    | opening => exact ⟨_, rfl⟩
    | closing => exact ⟨_, rfl⟩
    | between ⟨.code, escaping⟩ => exact ⟨_, rfl⟩
    | between ⟨.blockComment, escaping⟩ => exact ⟨_, rfl⟩
    | between ⟨.string quote, escaping⟩ =>
      simp only [finish, endLine, Cursor.endLine]
      split
      · exact ⟨_, rfl⟩
      · exact ⟨_, rfl⟩
  | cons c rest ih => exact ih _

/-- The visits of code in the rest of a line. -/
def codeVisits (phase : Phase) (offset : Nat) (text : List Char) : List Visit :=
  (phase.visits offset text).filter (·.charRole == .code)

/-! ### Where a visit stands -/

theorem le_offset_of_mem_visits {phase : Phase} {offset : Nat} {text : List Char} {seen : Visit}
    (h : seen ∈ phase.visits offset text) : offset ≤ seen.offset := by
  induction text generalizing phase offset with
  | nil => simp [visits] at h
  | cons c rest ih =>
    simp only [visits, List.mem_cons] at h
    rcases h with rfl | h
    · exact Nat.le_refl _
    · exact Nat.le_trans (Nat.le_add_right _ _) (ih h)

/-- A line is walked from left to right. -/
theorem pairwise_offset_visits (phase : Phase) (offset : Nat) (text : List Char) :
    (phase.visits offset text).Pairwise (·.offset < ·.offset) := by
  induction text generalizing phase offset with
  | nil => exact List.Pairwise.nil
  | cons c rest ih =>
    refine List.pairwise_cons.2 ⟨fun seen hseen => ?_, ih _ _⟩
    have hle := le_offset_of_mem_visits hseen
    have hpos : 0 < c.utf8Size := c.utf8Size_pos
    show offset < seen.offset
    omega

/-! ### Starting anew

A character has the role of code only when the cursor stands in plain code and no backslash comes
before it. If it is neither a slash nor a quote nor a backslash, the cursor stays there, which is
where a new cursor stands. -/

/-- A brace in code leaves the phase that a new cursor starts in. -/
theorem step_next_of_code {phase : Phase} {c : Char} {ahead : Option Char}
    (hc : c = '{' ∨ c = '}') (hrole : (phase.step c ahead).charRole = .code) :
    (phase.step c ahead).next = .between {} := by
  have hslash : c ≠ '/' := by rcases hc with rfl | rfl <;> decide
  have hback : c ≠ '\\' := by rcases hc with rfl | rfl <;> decide
  have hquote : Quote.ofChar? c = none := by rcases hc with rfl | rfl <;> decide
  match phase with
  | .lineComment => simp [step] at hrole
  | .opening => simp [step] at hrole
  | .closing => simp [step] at hrole
  | .between ⟨mode, true⟩ =>
    cases mode <;> simp [step, Mode.escapedRole] at hrole
  | .between ⟨.blockComment, false⟩ =>
    simp only [step, Bool.false_eq_true, if_false, if_neg hback, plainStep] at hrole
    split at hrole <;> simp [Mode.charRole] at hrole
  | .between ⟨.string quote, false⟩ =>
    simp only [step, Bool.false_eq_true, if_false, if_neg hback, plainStep] at hrole
    split at hrole <;> simp [Mode.charRole] at hrole
  | .between ⟨.code, false⟩ => simp [step, plainStep, hback, hslash, hquote]

end Phase

namespace Cursor

variable {cursor : Cursor} {line rest : List Char} {start : Nat}

theorem walkCode_value (h : dropBytes? start line = some rest)
    (visit : Nat → Char → α → ForInStep α) (value : α) :
    (cursor.walkCode line start visit value).value =
      visitAll (fun seen => visit seen.offset seen.char)
        ((Phase.between cursor).codeVisits start rest) value := by
  rw [walkCode, walk, h, Phase.codeVisits, ← visitAll_filter]
  simp only [Phase.walk_value]
  congr 1
  funext seen value
  cases hrole : seen.charRole <;> rfl

theorem walkCode_cursor (h : dropBytes? start line = some rest)
    {visit : Nat → Char → α → ForInStep α} {value result : α}
    (hyield : (cursor.walkCode line start visit value).value = .yield result) :
    (cursor.walkCode line start visit value).cursor = (Phase.between cursor).finish rest := by
  simp only [walkCode, walk, h] at hyield ⊢
  exact Phase.walk_cursor hyield

end Cursor

theorem dropBytes?_utf8Size_add (c : Char) (n : Nat) (rest : List Char) :
    dropBytes? (c.utf8Size + n) (c :: rest) = dropBytes? n rest := by
  have hpos : 0 < c.utf8Size := c.utf8Size_pos
  obtain ⟨k, hk⟩ : ∃ k, c.utf8Size + n = k + 1 := ⟨c.utf8Size + n - 1, by omega⟩
  rw [hk, dropBytes?, if_pos (by omega), show k + 1 - c.utf8Size = n by omega]

namespace Phase

/-- The text after a brace in code is seen by the walk that came to it as a new cursor sees it. -/
theorem visits_split {phase : Phase} {offset : Nat} {text : List Char} {before after : List Visit}
    {seen : Visit} (h : phase.visits offset text = before ++ seen :: after)
    (hchar : seen.char = '{' ∨ seen.char = '}') (hrole : seen.charRole = .code) :
    ∃ rest, dropBytes? (seen.offset - offset + 1) text = some rest ∧
      after = (between {}).visits (seen.offset + 1) rest ∧
      phase.finish text = (between {}).finish rest := by
  induction text generalizing phase offset before with
  | nil => simp [visits] at h
  | cons c rest ih =>
    cases before with
    | nil =>
      simp only [visits, List.nil_append, List.cons.injEq] at h
      obtain ⟨rfl, rfl⟩ := h
      have hnext := step_next_of_code hchar hrole
      have hsize : c.utf8Size = 1 := by rcases hchar with rfl | rfl <;> decide
      refine ⟨rest, ?_, ?_, ?_⟩
      · rw [Nat.sub_self, Nat.zero_add, ← hsize, ← Nat.add_zero c.utf8Size,
          dropBytes?_utf8Size_add]
        simp [dropBytes?]
      · rw [hnext, hsize]
      · rw [finish, hnext]
    | cons first before =>
      simp only [visits, List.cons_append, List.cons.injEq] at h
      have hmem : seen ∈ (phase.step c rest.head?).next.visits (offset + c.utf8Size) rest := by
        rw [h.2]
        simp
      have hle : offset + c.utf8Size ≤ seen.offset := le_offset_of_mem_visits hmem
      obtain ⟨tail, hdrop, hafter, hfinish⟩ := ih h.2
      refine ⟨tail, ?_, hafter, ?_⟩
      · rw [show seen.offset - offset + 1
            = c.utf8Size + (seen.offset - (offset + c.utf8Size) + 1) by omega,
          dropBytes?_utf8Size_add, hdrop]
      · rw [finish, hfinish]

end Phase

end Driftwatch
