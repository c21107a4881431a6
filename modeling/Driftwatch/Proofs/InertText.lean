import Mathlib.Data.List.Forall2
import Driftwatch.Proofs.BraceMatching
import Driftwatch.Proofs.Offsets

/-!
# Text in strings and comments is inert

Six characters matter to the cursor: the three quotes, the backslash, and the slash and the star of
comment delimiters. Any other character leaves the cursor where it stands, wherever that is, and no
character before it looks ahead to it. So two texts that differ in such a character are read in
lockstep, and if the character is no code, the braces that count are the same as well.

## Positions

A character is replaced by one that may take another number of bytes, so the offsets after it move.
What is compared between two texts is therefore the place of a character in its line, counted in
characters, and `SeenAs` ties it to the byte offset at which the cursor reports it.

## Main definitions

* `IsInert`: characters that the cursor does not mind.
* `scanBehind`: what a scan behind a brace sees when nobody stops it.
* `SeenAs`: the role that this scan gives to the character at some place.

## Main results

* `Phase.step_eq_of_isInert`, `Phase.step_ahead_of_isInert`: one step.
* `Phase.visits_replace`, `scanFrom_replace`: a line and all lines, read in lockstep.
* `closingLine_eq_scan`: the search for a closing brace is a function of the scan.
* `seenAs_replaceChar`: replacing an inert character outside of code changes the role of no other
  character, no cursor and no closing brace.
-/

namespace Driftwatch

/-! ### Inert characters -/

/-- The characters that the cursor tells apart from others. -/
def lexicalChars : List Char :=
  ['"', '\'', '\u0060', '\\', '*', '/']

/-- A character that the cursor does not mind. -/
def IsInert (c : Char) : Prop :=
  c ∉ lexicalChars

instance (c : Char) : Decidable (IsInert c) :=
  inferInstanceAs (Decidable (c ∉ lexicalChars))

namespace IsInert

variable {c : Char}

theorem ne_backslash (h : IsInert c) : c ≠ '\\' := by
  rintro rfl
  exact absurd h (by decide)

theorem ne_star (h : IsInert c) : c ≠ '*' := by
  rintro rfl
  exact absurd h (by decide)

theorem ne_slash (h : IsInert c) : c ≠ '/' := by
  rintro rfl
  exact absurd h (by decide)

theorem ne_quote (h : IsInert c) (quote : Quote) : c ≠ quote.char := by
  rintro rfl
  cases quote <;> exact absurd h (by decide)

theorem ofChar?_eq_none (h : IsInert c) : Quote.ofChar? c = none := by
  simp [Quote.ofChar?, h.ne_quote]

end IsInert

namespace Phase

/-- Between two lexical units, an inert character changes nothing. -/
theorem step_of_isInert {c : Char} (h : IsInert c) (mode : Mode) (ahead : Option Char) :
    (between ⟨mode, false⟩).step c ahead =
      ⟨mode.charRole, ⟨mode, false⟩, between ⟨mode, false⟩⟩ := by
  simp only [step, Bool.false_eq_true, if_false, if_neg h.ne_backslash]
  cases mode with
  | code => simp [plainStep, h.ne_slash, h.ofChar?_eq_none]
  | string quote => simp [plainStep, h.ne_quote]
  | blockComment => simp [plainStep, h.ne_star]

/-- All inert characters are taken alike. -/
theorem step_eq_of_isInert {c d : Char} (hc : IsInert c) (hd : IsInert d) (phase : Phase)
    (ahead : Option Char) : phase.step d ahead = phase.step c ahead := by
  match phase with
  | lineComment => rfl
  | opening => rfl
  | closing => rfl
  | between ⟨mode, true⟩ => rfl
  | between ⟨mode, false⟩ => rw [step_of_isInert hc, step_of_isInert hd]

/-- No character looks ahead to an inert one. -/
theorem step_ahead_of_isInert {c d : Char} (hc : IsInert c) (hd : IsInert d) (phase : Phase)
    (first : Char) : phase.step first (some d) = phase.step first (some c) := by
  match phase with
  | lineComment => rfl
  | opening => rfl
  | closing => rfl
  | between ⟨mode, escaping⟩ =>
    cases mode <;> simp [step, plainStep, hc.ne_slash, hd.ne_slash, hc.ne_star, hd.ne_star]

end Phase

/-! ### Braces by line and kind

Where on its line a brace stands is of no interest to the search. -/

/-- The line of a brace and which of the two it is. -/
def CodeBrace.mark (brace : CodeBrace) : Nat × Bool :=
  (brace.line, brace.isOpening)

theorem closer?_congr {first second : List CodeBrace}
    (h : first.map CodeBrace.mark = second.map CodeBrace.mark) (depth : Nat) :
    (closer? depth first).map (·.line + 1) = (closer? depth second).map (·.line + 1) := by
  induction first generalizing second depth with
  | nil =>
    rw [List.map_nil, List.nil_eq, List.map_eq_nil_iff] at h
    rw [h]
  | cons a first ih =>
    obtain ⟨b, second, rfl, hmark, hrest⟩ := List.map_eq_cons_iff.1 h.symm
    obtain ⟨hline, hopening⟩ := Prod.mk.inj hmark
    have hchar : b.char = a.char := by rw [CodeBrace.char, CodeBrace.char, hopening]
    simp only [closer?, hchar]
    cases countBrace a.char depth with
    | done final => simp [hline]
    | yield depth => exact ih hrest.symm depth

/-! ### A scan that nobody stops -/

/-- What a scan sees of a line, and the cursor after that line. -/
structure ScannedLine where
  visits : List Visit
  cursor : Cursor
  deriving Repr, DecidableEq

/-- The roles on a line in their order. -/
def ScannedLine.roles (scanned : ScannedLine) : List CharRole :=
  scanned.visits.map (·.charRole)

/-- Scans a line from a byte offset to its end. -/
def Cursor.scanLine (cursor : Cursor) (line : List Char) (offset : Nat) : ScannedLine :=
  let walk := cursor.walk line offset (fun seen found => .yield (found ++ [seen])) []
  ⟨walk.result, walk.cursor⟩

/-- Scans lines to their end, the first one from a byte offset on. -/
def scanFrom (cursor : Cursor) (offset : Nat) : List (List Char) → List ScannedLine
  | [] => []
  | line :: following =>
    let scanned := cursor.scanLine line offset
    scanned :: scanFrom scanned.cursor 0 following

/-- What a scan sees that starts behind byte `brace` of the line with index `start` and goes on to
the end of the file. -/
def scanBehind (lines : List (List Char)) (start brace : Nat) : List ScannedLine :=
  scanFrom {} (brace + 1) (lines.drop start)

theorem Cursor.scanLine_of_some {cursor : Cursor} {line rest : List Char} {offset : Nat}
    (h : dropBytes? offset line = some rest) :
    cursor.scanLine line offset =
      ⟨(Phase.between cursor).visits offset rest, (Phase.between cursor).finish rest⟩ := by
  have hvalue : ((Phase.between cursor).walk
      (fun seen found => .yield (found ++ [seen])) offset rest []).value =
        .yield ((Phase.between cursor).visits offset rest) := by
    rw [Phase.walk_value, visitAll_collect, List.nil_append]
  simp only [scanLine, walk, h, Walk.result, hvalue, Phase.walk_cursor hvalue]

theorem Cursor.scanLine_of_none {cursor : Cursor} {line : List Char} {offset : Nat}
    (h : dropBytes? offset line = none) : cursor.scanLine line offset = ⟨[], cursor⟩ := by
  simp only [scanLine, walk, h, Walk.result]

/-- The braces in code of scanned lines, the first of which has the index `index`. -/
def scannedBraces (index : Nat) : List ScannedLine → List CodeBrace
  | [] => []
  | scanned :: following =>
    scanned.visits.filterMap (Visit.brace? index) ++ scannedBraces (index + 1) following

theorem scannedBraces_scanFrom (cursor : Cursor) (index : Nat) (lines : List (List Char)) :
    scannedBraces index (scanFrom cursor 0 lines) = bracesFrom cursor index lines := by
  induction lines generalizing cursor index with
  | nil => rfl
  | cons line following ih =>
    have hstart : dropBytes? 0 line = some line := by simp [dropBytes?]
    rw [bracesFrom_cons, scanFrom, scannedBraces, Cursor.scanLine_of_some hstart, ih]
    rfl

/-- The search for a closing brace looks at nothing but what the scan sees. -/
theorem closingLine_eq_scan (lines : List (List Char)) (start brace : Nat) :
    closingLine lines start brace =
      ((closer? 1 (scannedBraces start (scanBehind lines start brace))).map (·.line + 1)).getD
        (start + 1) := by
  rw [closingLine, scanBehind]
  cases lines.drop start with
  | nil => rfl
  | cons line following =>
    rw [scanFrom, scannedBraces]
    simp only [scannedBraces_scanFrom]
    cases hdrop : dropBytes? (brace + 1) line with
    | none =>
      simp only [Cursor.walkCode, Cursor.walk, hdrop, Walk.stopped, Walk.result,
        Cursor.scanLine_of_none hdrop, List.filterMap_nil, List.nil_append]
      rw [closingLineFrom_eq]
      rfl
    | some rest =>
      have hwalk := @closingLineFrom_of_walk {} _ _ _ hdrop 1 start following
        fun cursor depth => closingLineFrom_eq cursor depth (start + 1) following
      rw [Cursor.scanLine_of_some hdrop]
      simp only [Phase.braces] at hwalk
      simp only [← hwalk]
      split <;> rfl

/-! ### Two texts in lockstep -/

/-- Two visits with the same role, and with the same character if it is code. -/
def Visit.Alike (seen seen' : Visit) : Prop :=
  seen.charRole = seen'.charRole ∧ (seen.charRole = .code → seen.char = seen'.char)

/-- Two scanned lines that are alike, character by character, and leave the same cursor. -/
def ScannedLine.Alike (scanned scanned' : ScannedLine) : Prop :=
  List.Forall₂ Visit.Alike scanned.visits scanned'.visits ∧ scanned.cursor = scanned'.cursor

theorem Visit.Alike.refl (seen : Visit) : seen.Alike seen :=
  ⟨rfl, fun _ => rfl⟩

theorem Visit.Alike.mark_eq {seen seen' : Visit} (h : seen.Alike seen') (index : Nat) :
    (seen.brace? index).map CodeBrace.mark = (seen'.brace? index).map CodeBrace.mark := by
  obtain ⟨hrole, hchar⟩ := h
  by_cases hcode : seen.charRole = .code
  · simp only [Visit.brace?, ← hrole, hcode, hchar hcode, CodeBrace.ofChar?]
    split
    · split
      · rfl
      · split <;> rfl
    · rfl
  · simp [Visit.brace?, ← hrole, hcode]

theorem ScannedLine.Alike.refl (scanned : ScannedLine) : scanned.Alike scanned :=
  ⟨List.forall₂_same.2 fun seen _ => Visit.Alike.refl seen, rfl⟩

theorem ScannedLine.Alike.roles_eq {scanned scanned' : ScannedLine} (h : scanned.Alike scanned') :
    scanned.roles = scanned'.roles := by
  obtain ⟨hvisits, -⟩ := h
  rw [roles, roles, ← List.forall₂_eq_eq_eq, List.forall₂_map_left_iff, List.forall₂_map_right_iff]
  exact hvisits.imp fun seen seen' halike => halike.1

theorem map_mark_visits {visits visits' : List Visit}
    (h : List.Forall₂ Visit.Alike visits visits') (index : Nat) :
    (visits.filterMap (Visit.brace? index)).map CodeBrace.mark =
      (visits'.filterMap (Visit.brace? index)).map CodeBrace.mark := by
  rw [List.map_filterMap, List.map_filterMap]
  induction h with
  | nil => rfl
  | cons halike _ ih => rw [List.filterMap_cons, List.filterMap_cons, halike.mark_eq, ih]

/-- Scans that are alike on every line have the same braces on the same lines. -/
theorem map_mark_scannedBraces {scans scans' : List ScannedLine}
    (h : List.Forall₂ ScannedLine.Alike scans scans') (index : Nat) :
    (scannedBraces index scans).map CodeBrace.mark =
      (scannedBraces index scans').map CodeBrace.mark := by
  induction h generalizing index with
  | nil => rfl
  | cons halike _ ih =>
    rw [scannedBraces, scannedBraces, List.map_append, List.map_append,
      map_mark_visits halike.1, ih]

namespace Phase

/-- The roles of all characters of the rest of a line. -/
def roles : Phase → List Char → List CharRole
  | _, [] => []
  | phase, c :: rest =>
    let now := phase.step c rest.head?
    now.charRole :: roles now.next rest

theorem map_charRole_visits (phase : Phase) (offset : Nat) (text : List Char) :
    (phase.visits offset text).map (·.charRole) = phase.roles text := by
  induction text generalizing phase offset with
  | nil => rfl
  | cons c rest ih => rw [visits, roles, List.map_cons, ih]

theorem length_roles (phase : Phase) (text : List Char) :
    (phase.roles text).length = text.length := by
  induction text generalizing phase with
  | nil => rfl
  | cons c rest ih => rw [roles, List.length_cons, List.length_cons, ih]

/-- The offsets from which a text is read make no difference to what is seen. -/
theorem visits_alike (phase : Phase) (offset offset' : Nat) (text : List Char) :
    List.Forall₂ Visit.Alike (phase.visits offset text) (phase.visits offset' text) := by
  induction text generalizing phase offset offset' with
  | nil => exact .nil
  | cons c rest ih => exact .cons ⟨rfl, fun _ => rfl⟩ (ih _ _ _)

variable {before after : List Char} {c d : Char} {role : CharRole}

/-- The next character after some text, where an inert one was replaced further on. -/
theorem step_replace (hc : IsInert c) (hd : IsInert d) (phase : Phase) (first : Char)
    (before after : List Char) :
    phase.step first (before ++ d :: after).head? =
      phase.step first (before ++ c :: after).head? := by
  cases before with
  | nil => exact step_ahead_of_isInert hc hd phase first
  | cons next before => rfl

/-- A line in which an inert character outside of code is replaced is read in lockstep with the
line as it was. -/
theorem visits_replace (hc : IsInert c) (hd : IsInert d) (phase : Phase) (offset offset' : Nat)
    (hrole : (phase.roles (before ++ c :: after))[before.length]? = some role)
    (hcode : role ≠ .code) :
    List.Forall₂ Visit.Alike (phase.visits offset (before ++ c :: after))
      (phase.visits offset' (before ++ d :: after)) := by
  induction before generalizing phase offset offset' with
  | nil =>
    have hstep := step_eq_of_isInert hc hd phase after.head?
    simp only [List.nil_append, roles, List.length_nil, List.getElem?_cons_zero,
      Option.some.injEq] at hrole
    rw [List.nil_append, List.nil_append, visits, visits]
    simp only [hstep]
    refine .cons ⟨rfl, fun h => absurd (hrole.symm.trans h) hcode⟩ ?_
    exact visits_alike _ _ _ after
  | cons first before ih =>
    have hstep := step_replace hc hd phase first before after
    simp only [List.cons_append, roles, List.length_cons, List.getElem?_cons_succ] at hrole
    rw [List.cons_append, List.cons_append, visits, visits]
    simp only [hstep]
    exact .cons ⟨rfl, fun _ => rfl⟩ (ih _ _ _ hrole)

theorem finish_replace (hc : IsInert c) (hd : IsInert d) (phase : Phase)
    (before after : List Char) :
    phase.finish (before ++ d :: after) = phase.finish (before ++ c :: after) := by
  induction before generalizing phase with
  | nil => rw [List.nil_append, List.nil_append, finish, finish, step_eq_of_isInert hc hd]
  | cons first before ih =>
    rw [List.cons_append, List.cons_append, finish, finish, step_replace hc hd, ih]

end Phase

/-! ### Places in a line -/

/-- A visit is a place in the text, with the character and the role that stand there. -/
theorem Phase.mem_visits_iff {phase : Phase} {offset place : Nat} {text : List Char} {c : Char}
    {role : CharRole} :
    ⟨place, c, role⟩ ∈ phase.visits offset text ↔
      ∃ before after, text = before ++ c :: after ∧ place = offset + byteLength before ∧
        (phase.roles text)[before.length]? = some role := by
  induction text generalizing phase offset with
  | nil => simp [visits]
  | cons first rest ih =>
    rw [visits, List.mem_cons, ih, Visit.mk.injEq]
    constructor
    · rintro (⟨rfl, rfl, rfl⟩ | ⟨before, after, rfl, hplace, hrole⟩)
      · exact ⟨[], rest, rfl, rfl, rfl⟩
      · exact ⟨first :: before, after, rfl, by rw [hplace, byteLength_cons, Nat.add_assoc], hrole⟩
    · rintro ⟨before, after, htext, hplace, hrole⟩
      cases before with
      | nil =>
        obtain ⟨rfl, rfl⟩ := List.cons.inj htext
        exact .inl ⟨hplace, rfl, (Option.some.inj hrole).symm⟩
      | cons second before =>
        obtain ⟨rfl, rfl⟩ := List.cons.inj htext
        exact .inr ⟨before, after, rfl, by rw [hplace, byteLength_cons, Nat.add_assoc], hrole⟩

/-- Where in its line a character stands that a scan reports at the offset of character `j`. -/
theorem Cursor.place_of_mem_scanLine {cursor : Cursor} {line : List Char} {offset j : Nat}
    {c : Char} {role : CharRole} (hj : j < line.length)
    (h : ⟨byteLength (line.take j), c, role⟩ ∈ (cursor.scanLine line offset).visits) :
    ∃ front before after, line = front ++ (before ++ c :: after) ∧ offset = byteLength front ∧
      j = front.length + before.length ∧
      ((Phase.between cursor).roles (before ++ c :: after))[before.length]? = some role := by
  cases hdrop : dropBytes? offset line with
  | none =>
    rw [scanLine_of_none hdrop] at h
    cases h
  | some rest =>
    obtain ⟨front, rfl, rfl⟩ := exists_front_of_dropBytes? hdrop
    rw [scanLine_of_some hdrop, Phase.mem_visits_iff] at h
    obtain ⟨before, after, rfl, hplace, hrole⟩ := h
    rw [← byteLength_append] at hplace
    have hsame : (front ++ (before ++ c :: after)).take j = front ++ before :=
      isPrefix_byteLength_inj (List.take_prefix _ _) ⟨c :: after, by simp⟩ hplace
    have hlength := congrArg List.length hsame
    simp only [List.length_take, List.length_append] at hlength hj
    exact ⟨front, before, after, rfl, rfl, by omega, hrole⟩

/-- A character of a line is seen with a role exactly if it stands behind the part that is passed
over and the role is the one at its place. -/
theorem Cursor.mem_scanLine_iff {cursor : Cursor} {text : List Char} {offset j : Nat} {c : Char}
    {role : CharRole} (hchar : text[j]? = some c) :
    ⟨byteLength (text.take j), c, role⟩ ∈ (cursor.scanLine text offset).visits ↔
      text.length ≤ j + (cursor.scanLine text offset).roles.length ∧
        (cursor.scanLine text offset).roles[j + (cursor.scanLine text offset).roles.length -
          text.length]? = some role := by
  cases hdrop : dropBytes? offset text with
  | none => simp [scanLine_of_none hdrop, ScannedLine.roles]
  | some rest =>
    obtain ⟨front, rfl, rfl⟩ := exists_front_of_dropBytes? hdrop
    have hroles : (cursor.scanLine (front ++ rest) (byteLength front)).roles =
        (Phase.between cursor).roles rest := by
      rw [scanLine_of_some hdrop]
      exact Phase.map_charRole_visits _ _ _
    rw [hroles, Phase.length_roles, List.length_append]
    constructor
    · intro h
      obtain ⟨hj, -⟩ := List.getElem?_eq_some_iff.1 hchar
      obtain ⟨front', before, after, hline, hfront, rfl, hrole⟩ := place_of_mem_scanLine hj h
      obtain rfl : front = front' :=
        isPrefix_byteLength_inj ⟨rest, rfl⟩ ⟨_, hline.symm⟩ hfront
      obtain rfl := List.append_cancel_left hline
      refine ⟨by omega, ?_⟩
      rw [Nat.add_sub_add_right, Nat.add_sub_cancel_left]
      exact hrole
    · rintro ⟨hle, hrole⟩
      obtain ⟨k, rfl⟩ : ∃ k, j = front.length + k := ⟨j - front.length, by omega⟩
      rw [Nat.add_sub_add_right, Nat.add_sub_cancel_left] at hrole
      rw [List.getElem?_append_right (by omega), Nat.add_sub_cancel_left] at hchar
      obtain ⟨hk, hget⟩ := List.getElem?_eq_some_iff.1 hchar
      rw [scanLine_of_some hdrop, Phase.mem_visits_iff]
      refine ⟨rest.take k, rest.drop (k + 1), ?_, ?_, ?_⟩
      · rw [← hget, ← List.drop_eq_getElem_cons hk, List.take_append_drop]
      · rw [List.take_length_add_append, byteLength_append]
      · rw [List.length_take, Nat.min_eq_left (Nat.le_of_lt hk)]
        exact hrole

/-- In a line where an inert character outside of code is replaced, a scan sees the same. -/
theorem Cursor.scanLine_replace {cursor : Cursor} {line : List Char} {offset j : Nat}
    {c d : Char} {role : CharRole} (hc : IsInert c) (hd : IsInert d) (hj : j < line.length)
    (hseen : ⟨byteLength (line.take j), c, role⟩ ∈ (cursor.scanLine line offset).visits)
    (hcode : role ≠ .code) :
    (cursor.scanLine line offset).Alike (cursor.scanLine (line.set j d) offset) := by
  obtain ⟨front, before, after, rfl, rfl, rfl, hrole⟩ := place_of_mem_scanLine hj hseen
  have hset : (front ++ (before ++ c :: after)).set (front.length + before.length) d =
      front ++ (before ++ d :: after) := by
    rw [List.set_append_right _ _ (by omega), Nat.add_sub_cancel_left,
      List.set_append_right _ _ (Nat.le_refl _), Nat.sub_self, List.set_cons_zero]
  rw [hset, scanLine_of_some (dropBytes?_byteLength front _),
    scanLine_of_some (dropBytes?_byteLength front _)]
  exact ⟨Phase.visits_replace hc hd _ _ _ hrole hcode, (Phase.finish_replace hc hd _ _ _).symm⟩

/-! ### Replacing a character -/

/-- The lines with another character at place `j` of the line with index `i`. -/
def replaceChar (lines : List (List Char)) (i j : Nat) (c : Char) : List (List Char) :=
  lines.modify i (·.set j c)

/-- The scan behind byte `brace` of the line with index `start` comes to character `j` of the line
with index `i`, which is `c`, and takes it in some role. -/
def SeenAs (lines : List (List Char)) (start brace i j : Nat) (c : Char) (role : CharRole) : Prop :=
  ∃ text scanned, lines[i]? = some text ∧ text[j]? = some c ∧ start ≤ i ∧
    (scanBehind lines start brace)[i - start]? = some scanned ∧
    ⟨byteLength (text.take j), c, role⟩ ∈ scanned.visits

/-- Every scanned line is the scan of a line from some offset. -/
theorem getElem?_scanFrom {cursor : Cursor} {offset k : Nat} {lines : List (List Char)}
    {scanned : ScannedLine} (h : (scanFrom cursor offset lines)[k]? = some scanned) :
    ∃ line, lines[k]? = some line ∧ ∃ (cursor' : Cursor) (offset' : Nat),
      scanned = cursor'.scanLine line offset' := by
  induction lines generalizing cursor offset k with
  | nil => cases h
  | cons line following ih =>
    cases k with
    | zero => exact ⟨line, rfl, cursor, offset, (Option.some.inj h).symm⟩
    | succ k => exact ih h

/-- What is seen at some place can be told from the character there, the length of its line and the
roles on each line. -/
theorem seenAs_iff {lines : List (List Char)} {start brace i j : Nat} {c : Char}
    {role : CharRole} :
    SeenAs lines start brace i j c role ↔
      ∃ length roles, lines[i]?.bind (·[j]?) = some c ∧ lines[i]?.map List.length = some length ∧
        start ≤ i ∧
        ((scanBehind lines start brace).map ScannedLine.roles)[i - start]? = some roles ∧
        length ≤ j + roles.length ∧ roles[j + roles.length - length]? = some role := by
  have hscan : ∀ {text scanned}, lines[i]? = some text → text[j]? = some c → start ≤ i →
      (scanBehind lines start brace)[i - start]? = some scanned →
        (⟨byteLength (text.take j), c, role⟩ ∈ scanned.visits ↔
          text.length ≤ j + scanned.roles.length ∧
            scanned.roles[j + scanned.roles.length - text.length]? = some role) := by
    intro text scanned hline hchar hstart hscanned
    obtain ⟨line', hline', cursor, offset, rfl⟩ := getElem?_scanFrom hscanned
    rw [List.getElem?_drop, Nat.add_sub_cancel' hstart, hline] at hline'
    cases hline'
    exact Cursor.mem_scanLine_iff hchar
  constructor
  · rintro ⟨line, scanned, hline, hchar, hstart, hscanned, hseen⟩
    refine ⟨line.length, scanned.roles, ?_, ?_, hstart, ?_, ?_⟩
    · rw [hline, Option.bind_some, hchar]
    · rw [hline, Option.map_some]
    · rw [List.getElem?_map, hscanned, Option.map_some]
    · exact (hscan hline hchar hstart hscanned).1 hseen
  · rintro ⟨length, roles, hplace, hlength, hstart, hroles, hseen⟩
    obtain ⟨line, hline, hchar⟩ := Option.bind_eq_some_iff.1 hplace
    obtain ⟨scanned, hscanned, rfl⟩ := Option.map_eq_some_iff.1 (List.getElem?_map ▸ hroles)
    rw [hline, Option.map_some, Option.some.injEq] at hlength
    subst hlength
    exact ⟨line, scanned, hline, hchar, hstart, hscanned,
      (hscan hline hchar hstart hscanned).2 hseen⟩

theorem getElem?_replaceChar (lines : List (List Char)) (i j : Nat) (c : Char) (i' : Nat) :
    (replaceChar lines i j c)[i']? =
      lines[i']?.map fun line => if i = i' then line.set j c else line :=
  List.getElem?_modify _ _ _ _

theorem map_length_replaceChar (lines : List (List Char)) (i j : Nat) (c : Char) (i' : Nat) :
    (replaceChar lines i j c)[i']?.map List.length = lines[i']?.map List.length := by
  rw [getElem?_replaceChar, Option.map_map]
  congr 1
  funext line
  by_cases h : i = i' <;> simp [h]

/-- All other characters stay as they are. -/
theorem char_replaceChar_of_ne (lines : List (List Char)) {i j i' j' : Nat} (c : Char)
    (h : (i', j') ≠ (i, j)) :
    (replaceChar lines i j c)[i']?.bind (·[j']?) = lines[i']?.bind (·[j']?) := by
  rw [getElem?_replaceChar, Option.bind_map]
  congr 1
  funext line
  by_cases hi : i = i'
  · have hj : j ≠ j' := fun hj => h (by rw [hi, hj])
    simp [hi, List.getElem?_set_ne hj]
  · simp [hi]

/-- Scans of lines, with and without the replacement of an inert character outside of code, are
alike on every line. -/
theorem scanFrom_replace {c d : Char} {role : CharRole} (hc : IsInert c) (hd : IsInert d)
    (hcode : role ≠ .code) {cursor : Cursor} {offset k j : Nat} {lines : List (List Char)}
    {line : List Char} {scanned : ScannedLine} (hline : lines[k]? = some line)
    (hj : j < line.length) (hscanned : (scanFrom cursor offset lines)[k]? = some scanned)
    (hseen : ⟨byteLength (line.take j), c, role⟩ ∈ scanned.visits) :
    List.Forall₂ ScannedLine.Alike (scanFrom cursor offset lines)
      (scanFrom cursor offset (replaceChar lines k j d)) := by
  induction lines generalizing cursor offset k with
  | nil => cases hline
  | cons first following ih =>
    cases k with
    | zero =>
      obtain rfl := Option.some.inj hline
      obtain rfl := Option.some.inj hscanned
      have halike := Cursor.scanLine_replace hc hd hj hseen hcode
      rw [replaceChar, List.modify_zero_cons, scanFrom, scanFrom]
      simp only [← halike.2]
      exact .cons halike (List.forall₂_same.2 fun scanned _ => ScannedLine.Alike.refl scanned)
    | succ k =>
      rw [replaceChar, List.modify_succ_cons, scanFrom, scanFrom]
      exact .cons (ScannedLine.Alike.refl _) (ih hline hscanned)

theorem scanBehind_replace {lines : List (List Char)} {start brace i j : Nat} {c d : Char}
    {role : CharRole} (hseen : SeenAs lines start brace i j c role) (hcode : role ≠ .code)
    (hc : IsInert c) (hd : IsInert d) :
    List.Forall₂ ScannedLine.Alike (scanBehind lines start brace)
      (scanBehind (replaceChar lines i j d) start brace) := by
  obtain ⟨line, scanned, hline, hchar, hstart, hscanned, hvisit⟩ := hseen
  obtain ⟨hj, -⟩ := List.getElem?_eq_some_iff.1 hchar
  have hdrop : (lines.drop start)[i - start]? = some line := by
    rw [List.getElem?_drop, Nat.add_sub_cancel' hstart, hline]
  rw [scanBehind, scanBehind, replaceChar, List.drop_modify_of_ge _ _ _ _ hstart]
  exact scanFrom_replace hc hd hcode hdrop hj hscanned hvisit

/-- **Text in strings and comments does not matter.** Let a scan behind a brace come to an inert
character that is no code, and replace it by any inert character, a brace for instance. Then the new
character is taken in the same role, every other character keeps its role, the cursor after each
line is the same, and so is the line on which the brace is closed. -/
theorem seenAs_replaceChar {lines : List (List Char)} {start brace i j : Nat} {c d : Char}
    {role : CharRole} (hseen : SeenAs lines start brace i j c role) (hcode : role ≠ .code)
    (hc : IsInert c) (hd : IsInert d) :
    SeenAs (replaceChar lines i j d) start brace i j d role ∧
    (∀ i' j' c' role', (i', j') ≠ (i, j) →
      (SeenAs (replaceChar lines i j d) start brace i' j' c' role' ↔
        SeenAs lines start brace i' j' c' role')) ∧
    (scanBehind (replaceChar lines i j d) start brace).map (·.cursor) =
      (scanBehind lines start brace).map (·.cursor) ∧
    closingLine (replaceChar lines i j d) start brace = closingLine lines start brace := by
  have halike := scanBehind_replace hseen hcode hc hd
  have hroles : (scanBehind (replaceChar lines i j d) start brace).map ScannedLine.roles =
      (scanBehind lines start brace).map ScannedLine.roles := by
    rw [eq_comm, ← List.forall₂_eq_eq_eq, List.forall₂_map_left_iff, List.forall₂_map_right_iff]
    exact halike.imp fun _ _ h => h.roles_eq
  have hcursors : (scanBehind (replaceChar lines i j d) start brace).map (·.cursor) =
      (scanBehind lines start brace).map (·.cursor) := by
    rw [eq_comm, ← List.forall₂_eq_eq_eq, List.forall₂_map_left_iff, List.forall₂_map_right_iff]
    exact halike.imp fun _ _ h => h.2
  refine ⟨?_, fun i' j' c' role' hne => ?_, hcursors, ?_⟩
  · obtain ⟨length, roles, hplace, hlength, hrest⟩ := seenAs_iff.1 hseen
    rw [seenAs_iff, map_length_replaceChar, hroles]
    refine ⟨length, roles, ?_, hlength, hrest⟩
    obtain ⟨line, hline, hchar⟩ := Option.bind_eq_some_iff.1 hplace
    obtain ⟨hj, -⟩ := List.getElem?_eq_some_iff.1 hchar
    rw [getElem?_replaceChar, hline]
    simp [hj]
  · rw [seenAs_iff, seenAs_iff, char_replaceChar_of_ne lines d hne, map_length_replaceChar, hroles]
  · rw [closingLine_eq_scan, closingLine_eq_scan,
      closer?_congr (map_mark_scannedBraces halike start) 1]

/-- A function with a string on its second line. -/
def quotedLines : List (List Char) :=
  ["f \x7b".toList, "s = \"é\" /* \x7d".toList, "*/ \x7d".toList]

/-- The letter in the string can become a closing brace, and one in a comment is no brace. -/
theorem seenAs_replaceChar_quoted :
    SeenAs quotedLines 0 2 1 5 'é' .string ∧
    (SeenAs (replaceChar quotedLines 1 5 '}') 0 2 1 11 '}' .blockComment ↔
      SeenAs quotedLines 0 2 1 11 '}' .blockComment) ∧
    closingLine (replaceChar quotedLines 1 5 '}') 0 2 = 3 := by
  have hseen : SeenAs quotedLines 0 2 1 5 'é' .string :=
    ⟨_, _, rfl, rfl, Nat.zero_le _, rfl, by decide⟩
  obtain ⟨-, hothers, -, hline⟩ :=
    seenAs_replaceChar (d := '}') hseen (by decide) (by decide) (by decide)
  exact ⟨hseen, hothers 1 11 _ _ (by decide), hline.trans (by decide)⟩

end Driftwatch
