import Driftwatch.Proofs.Walk
import Driftwatch.Source.Brace

/-!
# Closing braces by stack matching

The search for a closing brace starts anew behind each opening brace and counts. The textbook way
to match braces reads a file once from its beginning and keeps a stack of the open ones. This module
shows that both agree on every file, for every brace that the one reading takes as code.

## Two halves

The first half is lexical. A brace in code leaves the cursor where a new one starts, so the search
sees exactly the braces that the reading of the whole file sees after that place
(`closingLine_of_split`). The second half knows nothing of characters: on a list of braces, a
counter that starts at one and stops at zero finds what a stack pops (`mem_stackPairs_iff`).

## Main definitions

* `CodeBrace`, `codeBraces`: the braces in code of a whole file.
* `stackPairs`: stack matching.
* `closer?`: the brace at which the counter stops.

## Main results

* `closingLine_eq_partner`: the two ways agree, the counter never goes below zero, and inner blocks
  end no later than outer ones.
-/

namespace Driftwatch

/-- A brace in code: the index of its line, its byte offset there, and which of the two it is. -/
structure CodeBrace where
  line : Nat
  offset : Nat
  isOpening : Bool
  deriving Repr, DecidableEq

namespace CodeBrace

/-- The brace that a character is, if it is one. -/
def ofChar? (line offset : Nat) (c : Char) : Option CodeBrace :=
  if c = '{' then some ⟨line, offset, true⟩
  else if c = '}' then some ⟨line, offset, false⟩
  else none

/-- The character of a brace. -/
def char (brace : CodeBrace) : Char :=
  if brace.isOpening then '{' else '}'

/-- One brace stands before another one in the file. -/
def Before (a b : CodeBrace) : Prop :=
  a.line < b.line ∨ a.line = b.line ∧ a.offset < b.offset

theorem Before.irrefl (a : CodeBrace) : ¬ a.Before a := by
  simp [Before]

theorem Before.asymm {a b : CodeBrace} (h : a.Before b) : ¬ b.Before a := by
  unfold Before at *
  omega

theorem Before.line_le {a b : CodeBrace} (h : a.Before b) : a.line ≤ b.line := by
  unfold Before at h
  omega

end CodeBrace

/-- The braces in code from the line with index `index` on, read with one cursor. -/
def bracesFrom (cursor : Cursor) (index : Nat) : List (List Char) → List CodeBrace
  | [] => []
  | line :: following =>
    let walk := cursor.walkCode line 0
      (fun offset c found => .yield (found ++ (CodeBrace.ofChar? index offset c).toList)) []
    walk.result ++ bracesFrom walk.cursor (index + 1) following

/-- The braces in code of a file, read once from its beginning. -/
def codeBraces (lines : List (List Char)) : List CodeBrace :=
  bracesFrom {} 0 lines

/-- The pairs of braces that stack matching finds. The first argument is the stack of open braces,
the innermost first. A closing brace that finds the stack empty has no partner. -/
def stackPairs : List CodeBrace → List CodeBrace → List (CodeBrace × CodeBrace)
  | _, [] => []
  | opened, brace :: rest =>
    if brace.isOpening then stackPairs (brace :: opened) rest
    else
      match opened with
      | [] => stackPairs [] rest
      | innermost :: outer => (innermost, brace) :: stackPairs outer rest

/-- Stack matching over a whole file pairs two braces. -/
def ArePartners (lines : List (List Char)) (opening closing : CodeBrace) : Prop :=
  (opening, closing) ∈ stackPairs [] (codeBraces lines)

instance (lines : List (List Char)) (opening closing : CodeBrace) :
    Decidable (ArePartners lines opening closing) :=
  inferInstanceAs (Decidable ((opening, closing) ∈ stackPairs [] (codeBraces lines)))

instance (a b : CodeBrace) : Decidable (a.Before b) :=
  inferInstanceAs (Decidable (a.line < b.line ∨ a.line = b.line ∧ a.offset < b.offset))

/-! ### The counter on a list of braces -/

/-- The depth after a list of braces, marked `done` if the search ended among them. -/
def countBraces (depth : Nat) (braces : List CodeBrace) : ForInStep Nat :=
  visitAll (fun brace => countBrace brace.char) braces depth

/-- The brace at which the search ends. -/
def closer? (depth : Nat) : List CodeBrace → Option CodeBrace
  | [] => none
  | brace :: rest =>
    match countBrace brace.char depth with
    | .done _ => some brace
    | .yield depth => closer? depth rest

/-- The number of opening braces less the number of closing ones. -/
def balance : List CodeBrace → Int
  | [] => 0
  | brace :: rest => (if brace.isOpening then 1 else -1) + balance rest

theorem countBrace_opening {brace : CodeBrace} (h : brace.isOpening = true) (depth : Nat) :
    countBrace brace.char depth = .yield (depth + 1) := by
  simp [CodeBrace.char, countBrace, h]

theorem countBrace_last {brace : CodeBrace} (h : brace.isOpening = false) :
    countBrace brace.char 1 = .done 0 := by
  simp [CodeBrace.char, countBrace, h]

theorem countBrace_inner {brace : CodeBrace} (h : brace.isOpening = false) (depth : Nat) :
    countBrace brace.char (depth + 2) = .yield (depth + 1) := by
  simp [CodeBrace.char, countBrace, h]

/-- What the counter does at one brace, as long as some brace is open. -/
theorem countBrace_cases (brace : CodeBrace) {depth : Nat} (hdepth : 0 < depth) :
    brace.isOpening = true ∧ countBrace brace.char depth = .yield (depth + 1) ∨
    brace.isOpening = false ∧ depth = 1 ∧ countBrace brace.char depth = .done 0 ∨
    brace.isOpening = false ∧ ∃ inner, depth = inner + 2 ∧
      countBrace brace.char depth = .yield (inner + 1) := by
  cases h : brace.isOpening with
  | true => exact .inl ⟨rfl, countBrace_opening h depth⟩
  | false =>
    match depth with
    | 1 => exact .inr (.inl ⟨rfl, rfl, countBrace_last h⟩)
    | inner + 2 => exact .inr (.inr ⟨rfl, inner, rfl, countBrace_inner h inner⟩)

theorem closer?_mem {depth : Nat} {braces : List CodeBrace} {found : CodeBrace}
    (h : closer? depth braces = some found) : found ∈ braces := by
  induction braces generalizing depth with
  | nil => simp [closer?] at h
  | cons brace rest ih =>
    simp only [closer?] at h
    split at h
    · simp_all
    · exact List.mem_cons_of_mem _ (ih h)

/-- The search on a list goes through its first part as the counter does. -/
theorem closer?_append (depth : Nat) (first second : List CodeBrace) :
    closer? depth (first ++ second) =
      match countBraces depth first with
      | .done _ => closer? depth first
      | .yield depth => closer? depth second := by
  induction first generalizing depth with
  | nil => rfl
  | cons brace rest ih =>
    simp only [List.cons_append, closer?, countBraces, visitAll]
    cases countBrace brace.char depth with
    | done depth => rfl
    | yield depth => exact ih depth

theorem closer?_of_done {depth final : Nat} {braces : List CodeBrace}
    (h : countBraces depth braces = .done final) :
    ∃ found ∈ braces, closer? depth braces = some found := by
  induction braces generalizing depth with
  | nil => simp [countBraces, visitAll] at h
  | cons brace rest ih =>
    simp only [countBraces, visitAll] at h
    simp only [closer?]
    cases hstep : countBrace brace.char depth with
    | done depth => exact ⟨brace, List.mem_cons_self, rfl⟩
    | yield depth =>
      simp only [hstep] at h
      obtain ⟨found, hmem, hfound⟩ := ih h
      exact ⟨found, List.mem_cons_of_mem _ hmem, hfound⟩

/-- As long as the search goes on, some brace is open, and the depth is the exact count: nothing was
taken off a depth of zero. -/
theorem countBraces_yield {depth now : Nat} {braces : List CodeBrace} (hdepth : 0 < depth)
    (h : countBraces depth braces = .yield now) :
    0 < now ∧ (now : Int) = depth + balance braces := by
  induction braces generalizing depth with
  | nil =>
    simp only [countBraces, visitAll, ForInStep.yield.injEq] at h
    simp [← h, hdepth, balance]
  | cons brace rest ih =>
    simp only [countBraces, visitAll] at h
    obtain ⟨hopen, hstep⟩ | ⟨_, _, hstep⟩ | ⟨hopen, inner, rfl, hstep⟩ :=
      countBrace_cases brace hdepth
    · simp only [hstep] at h
      obtain ⟨hpos, hnow⟩ := ih (Nat.succ_pos _) h
      refine ⟨hpos, ?_⟩
      simp only [balance, hopen, if_true]
      omega
    · simp [hstep] at h
    · simp only [hstep] at h
      obtain ⟨hpos, hnow⟩ := ih (Nat.succ_pos _) h
      refine ⟨hpos, ?_⟩
      simp only [balance, hopen, Bool.false_eq_true, if_false]
      omega

/-- A search that ends has come down to exactly zero. -/
theorem countBraces_done {depth final : Nat} {braces : List CodeBrace} (hdepth : 0 < depth)
    (h : countBraces depth braces = .done final) : final = 0 := by
  induction braces generalizing depth with
  | nil => simp [countBraces, visitAll] at h
  | cons brace rest ih =>
    simp only [countBraces, visitAll] at h
    obtain ⟨_, hstep⟩ | ⟨_, _, hstep⟩ | ⟨_, inner, rfl, hstep⟩ := countBrace_cases brace hdepth
    · simp only [hstep] at h
      exact ih (Nat.succ_pos _) h
    · simp only [hstep, ForInStep.done.injEq] at h
      exact h.symm
    · simp only [hstep] at h
      exact ih (Nat.succ_pos _) h

/-- A search that has less to close ends no later. -/
theorem closer?_le {depth less : Nat} {braces : List CodeBrace} {found : CodeBrace}
    (hpos : 0 < less) (hle : less ≤ depth) (hsorted : braces.Pairwise CodeBrace.Before)
    (h : closer? depth braces = some found) :
    ∃ earlier, closer? less braces = some earlier ∧ earlier.line ≤ found.line := by
  induction braces generalizing depth less with
  | nil => simp [closer?] at h
  | cons brace rest ih =>
    have hrest := List.pairwise_cons.1 hsorted
    simp only [closer?] at h ⊢
    obtain ⟨_, hstep⟩ | ⟨_, rfl, hstep⟩ | ⟨hclose, inner, rfl, hstep⟩ := countBrace_cases brace hpos
    · obtain ⟨_, hdeep⟩ | ⟨hclose, _⟩ | ⟨hclose, _⟩ :=
        countBrace_cases brace (Nat.lt_of_lt_of_le hpos hle)
      · simp only [hdeep] at h
        simp only [hstep]
        exact ih (Nat.succ_pos _) (Nat.succ_le_succ hle) hrest.2 h
      · simp_all
      · simp_all
    · refine ⟨brace, by simp [hstep], ?_⟩
      split at h
      · simp_all
      · exact (hrest.1 found (closer?_mem h)).line_le
    · obtain ⟨deeper, rfl⟩ : ∃ deeper, depth = deeper + 2 := ⟨depth - 2, by omega⟩
      rw [countBrace_inner hclose] at h
      simp only [hstep]
      exact ih (Nat.succ_pos _) (by omega) hrest.2 h

/-! ### The counter and the stack

While the search runs, the stack holds the braces above the one it started at, that one, and what
was open before. The depth is the number of the first two kinds. -/

theorem fst_mem_of_mem_stackPairs {opened braces : List CodeBrace} {pair : CodeBrace × CodeBrace}
    (h : pair ∈ stackPairs opened braces) :
    pair.1 ∈ opened ∨ pair.1 ∈ braces ∧ pair.1.isOpening = true := by
  induction braces generalizing opened with
  | nil => simp [stackPairs] at h
  | cons brace rest ih =>
    simp only [stackPairs] at h
    split at h
    · next hbrace =>
      rcases ih h with hmem | ⟨hmem, hopening⟩
      · rcases List.mem_cons.1 hmem with heq | hmem
        · exact .inr ⟨heq ▸ List.mem_cons_self, heq ▸ hbrace⟩
        · exact .inl hmem
      · exact .inr ⟨List.mem_cons_of_mem _ hmem, hopening⟩
    · match opened with
      | [] =>
        obtain ⟨hmem, hopening⟩ := (ih h).resolve_left List.not_mem_nil
        exact .inr ⟨List.mem_cons_of_mem _ hmem, hopening⟩
      | innermost :: outer =>
        rcases List.mem_cons.1 h with rfl | h
        · exact .inl List.mem_cons_self
        · exact (ih h).imp (List.mem_cons_of_mem _) fun hmem =>
            ⟨List.mem_cons_of_mem _ hmem.1, hmem.2⟩

/-- What the stack pops a brace for is where the search for that brace ends. -/
theorem mem_stackPairs_of_open {inner outer rest : List CodeBrace} {opening closing : CodeBrace}
    (hinner : opening ∉ inner) (houter : opening ∉ outer) (hrest : opening ∉ rest) :
    (opening, closing) ∈ stackPairs (inner ++ opening :: outer) rest ↔
      closer? (inner.length + 1) rest = some closing := by
  induction rest generalizing inner with
  | nil => simp [stackPairs, closer?]
  | cons brace rest ih =>
    have hne : opening ≠ brace := fun heq => hrest (heq ▸ List.mem_cons_self)
    have htail : opening ∉ rest := fun hmem => hrest (List.mem_cons_of_mem _ hmem)
    cases hbrace : brace.isOpening with
    | true =>
      have hcons : opening ∉ brace :: inner := by simp [hne, hinner]
      simp only [stackPairs, hbrace, if_true, closer?, countBrace_opening hbrace]
      exact ih hcons htail
    | false =>
      simp only [stackPairs, hbrace, Bool.false_eq_true, if_false, closer?]
      cases inner with
      | nil =>
        -- The brace under consideration is popped, and it is nowhere else.
        have hgone : (opening, closing) ∉ stackPairs outer rest := fun hmem =>
          (fst_mem_of_mem_stackPairs hmem).elim houter fun hmem => htail hmem.1
        simp [countBrace_last hbrace, hgone, eq_comm]
      | cons top inner =>
        have htop : opening ≠ top := fun heq => hinner (heq ▸ List.mem_cons_self)
        have hinner' : opening ∉ inner := fun hmem => hinner (List.mem_cons_of_mem _ hmem)
        simp only [List.cons_append, List.length_cons, countBrace_inner hbrace, List.mem_cons,
          Prod.mk.injEq, htop, false_and, false_or]
        exact ih hinner' htail

/-- Stack matching pairs an opening brace with the brace at which the search behind it ends. -/
theorem mem_stackPairs_iff {opened before after : List CodeBrace} {opening closing : CodeBrace}
    (hopening : opening.isOpening = true) (hopened : opening ∉ opened) (hbefore : opening ∉ before)
    (hafter : opening ∉ after) :
    (opening, closing) ∈ stackPairs opened (before ++ opening :: after) ↔
      closer? 1 after = some closing := by
  induction before generalizing opened with
  | nil =>
    have hnil : opening ∉ ([] : List CodeBrace) := List.not_mem_nil
    simp only [List.nil_append, stackPairs, hopening, if_true]
    exact mem_stackPairs_of_open hnil hopened hafter
  | cons brace before ih =>
    have hne : opening ≠ brace := fun heq => hbefore (heq ▸ List.mem_cons_self)
    have htail : opening ∉ before := fun hmem => hbefore (List.mem_cons_of_mem _ hmem)
    simp only [List.cons_append, stackPairs]
    split
    · exact ih (by simp [hne, hopened]) htail
    · match opened with
      | [] => exact ih List.not_mem_nil htail
      | innermost :: outer =>
        have htop : opening ≠ innermost := fun heq => hopened (heq ▸ List.mem_cons_self)
        have houter : opening ∉ outer := fun hmem => hopened (List.mem_cons_of_mem _ hmem)
        simp only [List.mem_cons, Prod.mk.injEq, htop, false_and, false_or]
        exact ih houter htail

/-! ### The braces that a walk sees -/

/-- The brace in code that a visit is, if it is one. -/
def Visit.brace? (line : Nat) (seen : Visit) : Option CodeBrace :=
  if seen.charRole == .code then CodeBrace.ofChar? line seen.offset seen.char else none

theorem Visit.brace?_eq_some {line : Nat} {seen : Visit} {brace : CodeBrace}
    (h : seen.brace? line = some brace) :
    seen.charRole = .code ∧ (seen.char = '{' ∨ seen.char = '}') ∧ brace.line = line ∧
      brace.offset = seen.offset := by
  unfold brace? at h
  split at h
  · next hrole =>
    unfold CodeBrace.ofChar? at h
    split at h
    · next hchar =>
      cases h
      exact ⟨by simpa using hrole, .inl hchar, rfl, rfl⟩
    · split at h
      · next hchar =>
        cases h
        exact ⟨by simpa using hrole, .inr hchar, rfl, rfl⟩
      · cases h
  · cases h

/-- The braces in code of the rest of a line. -/
def Phase.braces (phase : Phase) (line offset : Nat) (text : List Char) : List CodeBrace :=
  (phase.visits offset text).filterMap (Visit.brace? line)

theorem Phase.line_of_mem_braces {phase : Phase} {line offset : Nat} {text : List Char}
    {brace : CodeBrace} (h : brace ∈ phase.braces line offset text) : brace.line = line := by
  obtain ⟨seen, -, hseen⟩ := List.mem_filterMap.1 h
  exact (Visit.brace?_eq_some hseen).2.2.1

theorem Phase.codeVisits_filterMap (phase : Phase) (line offset : Nat) (text : List Char) :
    (phase.codeVisits offset text).filterMap (fun seen =>
      CodeBrace.ofChar? line seen.offset seen.char) = phase.braces line offset text := by
  rw [codeVisits, List.filterMap_filter]
  rfl

variable {cursor : Cursor} {line rest : List Char} {start : Nat}

/-- Counting along a walk is counting along its braces. -/
theorem walkCode_countBrace (h : dropBytes? start line = some rest) (index depth : Nat) :
    (cursor.walkCode line start (fun _ => countBrace) depth).value =
      countBraces depth ((Phase.between cursor).braces index start rest) := by
  rw [Cursor.walkCode_value h, countBraces, ← Phase.codeVisits_filterMap, ← visitAll_filterMap]
  congr 1
  funext seen depth
  unfold CodeBrace.ofChar?
  by_cases hopen : seen.char = '{'
  · simp [hopen, CodeBrace.char]
  · by_cases hclose : seen.char = '}'
    · simp [hclose, CodeBrace.char]
    · simp [hopen, hclose, countBrace]

/-- Reading a line gives its braces, and the cursor at its end goes on to the next line. -/
theorem bracesFrom_cons (cursor : Cursor) (index : Nat) (line : List Char)
    (following : List (List Char)) :
    bracesFrom cursor index (line :: following) =
      (Phase.between cursor).braces index 0 line ++
        bracesFrom ((Phase.between cursor).finish line) (index + 1) following := by
  have hstart : dropBytes? 0 line = some line := by simp [dropBytes?]
  have hvalue : (cursor.walkCode line 0 (fun offset c found =>
      .yield (found ++ (CodeBrace.ofChar? index offset c).toList)) []).value =
        .yield ((Phase.between cursor).braces index 0 line) := by
    rw [Cursor.walkCode_value hstart, ← Phase.codeVisits_filterMap,
      ← List.nil_append (List.filterMap _ _), ← visitAll_collect, ← visitAll_filterMap]
    congr 1
    funext seen found
    cases CodeBrace.ofChar? index seen.offset seen.char <;> simp
  simp only [bracesFrom, Walk.result, hvalue, Cursor.walkCode_cursor hstart hvalue]

/-- The search from a place on: on the line of that place, or else on the lines after it. -/
theorem closingLineFrom_of_walk (h : dropBytes? start line = some rest) (depth index : Nat)
    (following : List (List Char))
    (hfollowing : ∀ cursor depth, closingLineFrom cursor depth (index + 2) following =
      (closer? depth (bracesFrom cursor (index + 1) following)).map (·.line + 1)) :
    (let walk := cursor.walkCode line start (fun _ => countBrace) depth
      if walk.stopped then some (index + 1)
      else closingLineFrom walk.cursor walk.result (index + 2) following) =
    (closer? depth ((Phase.between cursor).braces index start rest ++
      bracesFrom ((Phase.between cursor).finish rest) (index + 1) following)).map (·.line + 1) := by
  have hvalue : (cursor.walkCode line start (fun _ => countBrace) depth).value =
    countBraces depth ((Phase.between cursor).braces index start rest) :=
      walkCode_countBrace h index depth
  rw [closer?_append]
  cases hcount : countBraces depth ((Phase.between cursor).braces index start rest) with
  | done final =>
    obtain ⟨found, hmem, hfound⟩ := closer?_of_done hcount
    simp [Walk.stopped, hvalue.trans hcount, hfound, Phase.line_of_mem_braces hmem]
  | yield now =>
    have hgoes := hvalue.trans hcount
    simp only [Walk.stopped, Walk.result, hgoes, Cursor.walkCode_cursor h hgoes]
    exact hfollowing _ _

/-- The search on lines is the search on their braces. -/
theorem closingLineFrom_eq (cursor : Cursor) (depth index : Nat) (lines : List (List Char)) :
    closingLineFrom cursor depth (index + 1) lines =
      (closer? depth (bracesFrom cursor index lines)).map (·.line + 1) := by
  induction lines generalizing cursor depth index with
  | nil => rfl
  | cons line following ih =>
    rw [bracesFrom_cons]
    exact closingLineFrom_of_walk (by simp [dropBytes?]) depth index following
      fun cursor depth => ih cursor depth (index + 1)

/-! ### The braces of a file -/

theorem le_line_of_mem_bracesFrom {cursor : Cursor} {index : Nat} {lines : List (List Char)}
    {brace : CodeBrace} (h : brace ∈ bracesFrom cursor index lines) : index ≤ brace.line := by
  induction lines generalizing cursor index with
  | nil => simp [bracesFrom] at h
  | cons line following ih =>
    rw [bracesFrom_cons, List.mem_append] at h
    rcases h with h | h
    · exact Nat.le_of_eq (Phase.line_of_mem_braces h).symm
    · exact Nat.le_of_succ_le (ih h)

/-- The braces of a line are seen from left to right. -/
theorem Phase.pairwise_before_braces (phase : Phase) (index offset : Nat) (text : List Char) :
    (phase.braces index offset text).Pairwise CodeBrace.Before := by
  refine List.Pairwise.filterMap _ ?_ (Phase.pairwise_offset_visits phase offset text)
  intro seen seen' hlt a ha b hb
  obtain ⟨-, -, haline, haoffset⟩ := Visit.brace?_eq_some ha
  obtain ⟨-, -, hbline, hboffset⟩ := Visit.brace?_eq_some hb
  exact .inr ⟨by omega, by omega⟩

/-- The braces of a line stand before those of the lines after it. -/
theorem pairwise_before_append {onLine later : List CodeBrace} {index : Nat}
    (honLine : onLine.Pairwise CodeBrace.Before) (hlater : later.Pairwise CodeBrace.Before)
    (hline : ∀ brace ∈ onLine, brace.line = index)
    (hnext : ∀ brace ∈ later, index + 1 ≤ brace.line) :
    (onLine ++ later).Pairwise CodeBrace.Before := by
  refine List.pairwise_append.2 ⟨honLine, hlater, fun a ha b hb => .inl ?_⟩
  have hfirst := hline a ha
  have hsecond := hnext b hb
  omega

theorem pairwise_before_bracesFrom (cursor : Cursor) (index : Nat) (lines : List (List Char)) :
    (bracesFrom cursor index lines).Pairwise CodeBrace.Before := by
  induction lines generalizing cursor index with
  | nil => exact List.Pairwise.nil
  | cons line following ih =>
    rw [bracesFrom_cons]
    exact pairwise_before_append (Phase.pairwise_before_braces _ _ _ _) (ih _ _)
      (fun _ => Phase.line_of_mem_braces) fun _ => le_line_of_mem_bracesFrom

/-- Where a brace stands in the rest of a line. The braces after it are those that a new cursor sees
from there on, and the line ends with the same cursor. -/
theorem Phase.braces_split {phase : Phase} {index offset : Nat} {text : List Char}
    {before after : List CodeBrace} {brace : CodeBrace}
    (h : phase.braces index offset text = before ++ brace :: after) :
    brace.line = index ∧ offset ≤ brace.offset ∧ ∃ rest,
      dropBytes? (brace.offset - offset + 1) text = some rest ∧
      after = (Phase.between {}).braces index (brace.offset + 1) rest ∧
      phase.finish text = (Phase.between {}).finish rest := by
  obtain ⟨seenFirst, seenLast, hseen, -, hlast⟩ := List.filterMap_eq_append_iff.1 h
  obtain ⟨skipped, seen, seenAfter, rfl, -, hbrace, hafter⟩ := List.filterMap_eq_cons_iff.1 hlast
  obtain ⟨hrole, hchar, hindex, hoffset⟩ := Visit.brace?_eq_some hbrace
  have hmem : seen ∈ phase.visits offset text := by
    rw [hseen]
    simp
  have hle : offset ≤ seen.offset := Phase.le_offset_of_mem_visits hmem
  rw [← List.append_assoc] at hseen
  obtain ⟨rest, hdrop, hvisits, hfinish⟩ := Phase.visits_split hseen hchar hrole
  refine ⟨hindex, by omega, rest, ?_, ?_, hfinish⟩
  · rw [hoffset]
    exact hdrop
  · rw [← hafter, hvisits, hoffset]
    rfl

/-- Where a brace of a file stands: its line, and what follows it there. The braces after it are
those that a new cursor sees from there on. -/
theorem bracesFrom_split {cursor : Cursor} {index : Nat} {lines : List (List Char)}
    {before after : List CodeBrace} {brace : CodeBrace}
    (h : bracesFrom cursor index lines = before ++ brace :: after) :
    index ≤ brace.line ∧ ∃ line following rest,
      lines.drop (brace.line - index) = line :: following ∧
      dropBytes? (brace.offset + 1) line = some rest ∧
      after = (Phase.between {}).braces brace.line (brace.offset + 1) rest ++
        bracesFrom ((Phase.between {}).finish rest) (brace.line + 1) following := by
  induction lines generalizing cursor index before with
  | nil => simp [bracesFrom] at h
  | cons line following ih =>
    rw [bracesFrom_cons] at h
    have hlater : ∀ skipped, bracesFrom ((Phase.between cursor).finish line) (index + 1) following
        = skipped ++ brace :: after → index ≤ brace.line ∧ ∃ line' following' rest,
          (line :: following).drop (brace.line - index) = line' :: following' ∧
          dropBytes? (brace.offset + 1) line' = some rest ∧
          after = (Phase.between {}).braces brace.line (brace.offset + 1) rest ++
            bracesFrom ((Phase.between {}).finish rest) (brace.line + 1) following' := by
      intro skipped hskip
      obtain ⟨hle, line', following', rest, hdrop, hrest, hafter⟩ := ih hskip
      refine ⟨by omega, line', following', rest, ?_, hrest, hafter⟩
      rw [show brace.line - index = brace.line - (index + 1) + 1 by omega, List.drop_succ_cons,
        hdrop]
    rcases List.append_eq_append_iff.1 h with ⟨skipped, -, hskip⟩ | ⟨onLine, hline, hrest⟩
    · exact hlater skipped hskip
    · cases onLine with
      | nil => exact hlater [] (by simpa using hrest.symm)
      | cons first onLine =>
        obtain ⟨rfl, rfl⟩ := List.cons.inj hrest
        obtain ⟨hindex, -, rest, hdrop, honLine, hfinish⟩ := Phase.braces_split hline
        refine ⟨by omega, line, following, rest, by simp [hindex], by simpa using hdrop, ?_⟩
        rw [honLine, hfinish, hindex]
        rfl

/-- The search behind a brace of a file runs over the braces that come after it in the file. -/
theorem closingLine_of_split {lines : List (List Char)} {before after : List CodeBrace}
    {brace : CodeBrace} (h : codeBraces lines = before ++ brace :: after) :
    closingLine lines brace.line brace.offset =
      ((closer? 1 after).map (·.line + 1)).getD (brace.line + 1) := by
  obtain ⟨-, line, following, rest, hdrop, hrest, rfl⟩ := bracesFrom_split h
  rw [Nat.sub_zero] at hdrop
  rw [← closingLineFrom_of_walk hrest 1 brace.line following fun cursor depth =>
    closingLineFrom_eq cursor depth (brace.line + 1) following]
  simp only [closingLine, hdrop]
  split <;> rfl

/-! ### Agreement -/

/-- The counter of a search over these braces is the exact number of open ones, at least one, for as
long as the search goes on, and it ends at zero. -/
def CounterIsExact (braces : List CodeBrace) : Prop :=
  ∀ seen, seen <+: braces →
    match countBraces 1 seen with
    | .yield depth => 0 < depth ∧ (depth : Int) = 1 + balance seen
    | .done final => final = 0

theorem counterIsExact (braces : List CodeBrace) : CounterIsExact braces := by
  intro seen _
  cases hcount : countBraces 1 seen with
  | yield depth => exact countBraces_yield Nat.one_pos hcount
  | done final => exact countBraces_done Nat.one_pos hcount

/-- A brace of a file stands at one place only, so the places before and after it do not hold it. -/
theorem not_mem_of_split {lines : List (List Char)} {before after : List CodeBrace}
    {brace : CodeBrace} (h : codeBraces lines = before ++ brace :: after) :
    brace ∉ before ∧ brace ∉ after := by
  have hsorted : (before ++ brace :: after).Pairwise CodeBrace.Before :=
    h ▸ pairwise_before_bracesFrom {} 0 lines
  obtain ⟨-, hafter, hcross⟩ := List.pairwise_append.1 hsorted
  exact ⟨fun hmem => CodeBrace.Before.irrefl _ (hcross _ hmem _ List.mem_cons_self),
    fun hmem => CodeBrace.Before.irrefl _ ((List.pairwise_cons.1 hafter).1 _ hmem)⟩

theorem arePartners_iff {lines : List (List Char)} {before after : List CodeBrace}
    {opening closing : CodeBrace} (h : codeBraces lines = before ++ opening :: after)
    (hopening : opening.isOpening = true) :
    ArePartners lines opening closing ↔ closer? 1 after = some closing := by
  obtain ⟨hbefore, hafter⟩ := not_mem_of_split h
  rw [ArePartners, h]
  exact mem_stackPairs_iff hopening List.not_mem_nil hbefore hafter

/-- A brace with a partner is an opening one, and its place splits the file. -/
theorem ArePartners.split {lines : List (List Char)} {opening closing : CodeBrace}
    (h : ArePartners lines opening closing) :
    opening.isOpening = true ∧ ∃ before after, codeBraces lines = before ++ opening :: after := by
  obtain ⟨hmem, hopening⟩ := (fst_mem_of_mem_stackPairs h).resolve_left List.not_mem_nil
  exact ⟨hopening, List.append_of_mem hmem⟩

theorem ArePartners.closingLine_eq {lines : List (List Char)} {opening closing : CodeBrace}
    (h : ArePartners lines opening closing) :
    closingLine lines opening.line opening.offset = closing.line + 1 := by
  obtain ⟨hopening, before, after, hsplit⟩ := h.split
  rw [closingLine_of_split hsplit, (arePartners_iff hsplit hopening).1 h]
  rfl

/-- A block that opens inside another one ends no later. -/
theorem ArePartners.line_le {lines : List (List Char)} {outer outerEnd inner innerEnd : CodeBrace}
    (houter : ArePartners lines outer outerEnd) (hinner : ArePartners lines inner innerEnd)
    (hafter : outer.Before inner) (hbefore : inner.Before outerEnd) :
    innerEnd.line ≤ outerEnd.line := by
  obtain ⟨hopenOuter, first, rest, hsplit⟩ := houter.split
  obtain ⟨hopenInner, -⟩ := hinner.split
  have hsorted : (first ++ outer :: rest).Pairwise CodeBrace.Before :=
    hsplit ▸ pairwise_before_bracesFrom {} 0 lines
  obtain ⟨-, hsortedRest, hcross⟩ := List.pairwise_append.1 hsorted
  have hmem : inner ∈ first ++ outer :: rest :=
    hsplit ▸ ((fst_mem_of_mem_stackPairs hinner).resolve_left List.not_mem_nil).1
  -- The inner brace is one of those that come after the outer one.
  obtain ⟨between, later, rfl⟩ : ∃ between later, rest = between ++ inner :: later := by
    refine List.append_of_mem ?_
    rcases List.mem_append.1 hmem with hmem | hmem
    · exact absurd (hcross _ hmem _ List.mem_cons_self) hafter.asymm
    · rcases List.mem_cons.1 hmem with rfl | hmem
      · exact absurd hafter (CodeBrace.Before.irrefl _)
      · exact hmem
  have hsplitInner : codeBraces lines = (first ++ outer :: between) ++ inner :: later := by
    simp [hsplit]
  have hclose := (arePartners_iff hsplit hopenOuter).1 houter
  have hinnerClose := (arePartners_iff hsplitInner hopenInner).1 hinner
  obtain ⟨-, hsortedInner, hearlier⟩ :=
    List.pairwise_append.1 (List.pairwise_cons.1 hsortedRest).2
  -- The outer search is still going on when it comes to the inner brace.
  rw [closer?_append] at hclose
  split at hclose
  · exact absurd (hearlier _ (closer?_mem hclose) _ List.mem_cons_self) hbefore.asymm
  · next depth hcount =>
    simp only [closer?, countBrace_opening hopenInner] at hclose
    obtain ⟨earlier, hfound, hle⟩ := closer?_le Nat.one_pos (Nat.le_add_left 1 depth)
      (List.pairwise_cons.1 hsortedInner).2 hclose
    rw [hinnerClose] at hfound
    cases hfound
    exact hle

/-- **Local search and stack matching agree.** For every opening brace in code of a file, the search
behind it gives the line of its partner, and its own line if it has none; its counter never goes
below zero. A block that opens inside another one is given a line that is not after the other's. -/
theorem closingLine_eq_partner (lines : List (List Char)) :
    (∀ before opening after, codeBraces lines = before ++ opening :: after →
      opening.isOpening = true →
        (∀ closing, ArePartners lines opening closing →
          closingLine lines opening.line opening.offset = closing.line + 1) ∧
        ((∀ closing, ¬ ArePartners lines opening closing) →
          closingLine lines opening.line opening.offset = opening.line + 1) ∧
        CounterIsExact after) ∧
    ∀ outer outerEnd inner innerEnd, ArePartners lines outer outerEnd →
      ArePartners lines inner innerEnd → outer.Before inner → inner.Before outerEnd →
        closingLine lines inner.line inner.offset ≤ closingLine lines outer.line outer.offset := by
  refine ⟨fun before opening after hsplit hopening => ⟨fun closing h => h.closingLine_eq,
    fun hnone => ?_, counterIsExact after⟩, ?_⟩
  · have hopen : closer? 1 after = none := by
      cases hcloser : closer? 1 after with
      | none => rfl
      | some closing => exact absurd ((arePartners_iff hsplit hopening).2 hcloser) (hnone closing)
    rw [closingLine_of_split hsplit, hopen]
    rfl
  · intro outer outerEnd inner innerEnd houter hinner hafter hbefore
    rw [houter.closingLine_eq, hinner.closingLine_eq]
    exact Nat.succ_le_succ (houter.line_le hinner hafter hbefore)

/-- A block inside another one, with a brace in a string and one in a comment: the four lines read
`f {`, `g "}" { // }`, a closing brace, and a closing brace with an opening one that stays open. -/
def nestedLines : List (List Char) :=
  [['f', ' ', '{'],
    ['g', ' ', '"', '}', '"', ' ', '{', ' ', '/', '/', ' ', '}'],
    ['}'],
    ['}', '{']]

theorem closingLine_nestedLines :
    (ArePartners nestedLines ⟨0, 2, true⟩ ⟨3, 0, false⟩ ∧ closingLine nestedLines 0 2 = 4) ∧
    ((∀ closing, ¬ ArePartners nestedLines ⟨3, 1, true⟩ closing) ∧
      closingLine nestedLines 3 1 = 4) ∧
    closingLine nestedLines 1 6 ≤ closingLine nestedLines 0 2 := by
  have hagree := closingLine_eq_partner nestedLines
  have houter : ArePartners nestedLines ⟨0, 2, true⟩ ⟨3, 0, false⟩ := by decide
  have hinner : ArePartners nestedLines ⟨1, 6, true⟩ ⟨2, 0, false⟩ := by decide
  have hpairs : stackPairs [] (codeBraces nestedLines) =
      [(⟨1, 6, true⟩, ⟨2, 0, false⟩), (⟨0, 2, true⟩, ⟨3, 0, false⟩)] := by decide
  have hnone : ∀ closing, ¬ ArePartners nestedLines ⟨3, 1, true⟩ closing := by
    intro closing
    simp [ArePartners, hpairs]
  have hfirst := hagree.1 [] ⟨0, 2, true⟩ _ (by rfl) rfl
  have hlast := hagree.1 (codeBraces nestedLines).dropLast ⟨3, 1, true⟩ [] (by decide) rfl
  exact ⟨⟨houter, hfirst.1 _ houter⟩, ⟨hnone, hlast.2.1 hnone⟩,
    hagree.2 _ _ _ _ houter hinner (by decide) (by decide)⟩

end Driftwatch
