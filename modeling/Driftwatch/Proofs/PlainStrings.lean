import Mathlib.Data.List.Forall2
import Driftwatch.Proofs.VisitOrder

/-!
# Plain strings end with their line

A string in single or double quotes that nothing closes ends with its line, so that an apostrophe in
running text does not turn the lines behind it into a string. The only way to go on with such a
string is a backslash at the very end of the line that stands in the string and is not itself
escaped.

## The shape of the argument

Whether a character is escaped can be read off the characters before it and their roles, without a
cursor (`escapedBehind`). `Phase.Tracks` says that a phase agrees with what was seen before it:
either no backslash is pending, or the last character was one, with the role of what surrounds it.
One step keeps this (`Phase.Tracks.step`), so it holds at the end of a line
(`Phase.Tracks.reached`), where it tells what held a string open. The cursor after a line is one
that the next line can start with, so the result goes on from line to line
(`Cursor.Passes.standsBehind`).

## Main definitions

* `escapedBehind`: whether the character after some visits is escaped.
* `HeldOpen`: a text ends in a backslash of a string that is not escaped.
* `Cursor.Passes`: a cursor goes over complete lines.

## Main results

* `Cursor.endsLine`: what a walk to the end of a line leaves behind.
* `plain_string_ends_with_line`: this, and what it means for lines that follow each other.
-/

namespace Driftwatch

variable {α : Type}

/-! ### Escaped characters -/

/-- Whether a character escapes the next one, given whether it is `escaped` itself. In a comment
that lasts to the end of the line, a backslash is a character like any other. -/
def Visit.escapesNext (seen : Visit) (escaped : Bool) : Bool :=
  seen.char == '\\' && seen.charRole != .lineComment && !escaped

/-- Whether the character after some visits is escaped, where the first one is not. -/
def escapedBehind (seen : List Visit) : Bool :=
  seen.foldl (fun escaped visit => visit.escapesNext escaped) false

theorem escapedBehind_concat (seen : List Visit) (last : Visit) :
    escapedBehind (seen ++ [last]) = last.escapesNext (escapedBehind seen) := by
  rw [escapedBehind, List.foldl_append]
  rfl

theorem escapedBehind_concat_of_ne {seen : List Visit} {last : Visit} (h : last.char ≠ '\\') :
    escapedBehind (seen ++ [last]) = false := by
  rw [escapedBehind_concat, Visit.escapesNext, beq_eq_false_iff_ne.2 h, Bool.false_and,
    Bool.false_and]

theorem escapedBehind_concat_backslash {seen : List Visit} {offset : Nat} {role : CharRole}
    (hseen : escapedBehind seen = false) (hrole : role ≠ .lineComment) :
    escapedBehind (seen ++ [⟨offset, '\\', role⟩]) = true := by
  simp [escapedBehind_concat, Visit.escapesNext, hseen, hrole]

theorem Mode.escapedRole_ne (mode : Mode) : mode.escapedRole ≠ .lineComment := by
  cases mode <;> simp [escapedRole]

/-! ### What a phase tells about the characters before it -/

namespace Phase

/-- Where a walk stands at the end of a text. -/
def reached : Phase → List Char → Phase
  | phase, [] => phase
  | phase, c :: rest => reached (phase.step c rest.head?).next rest

theorem finish_eq (phase : Phase) (text : List Char) :
    phase.finish text = (phase.reached text).endLine := by
  induction text generalizing phase with
  | nil => rfl
  | cons c rest ih => exact ih _

/-- No backslash is pending, and if a comment delimiter was begun, its second character comes
next. -/
def IsClear (ahead : Option Char) : Phase → Prop
  | between cursor => cursor.escaping = false
  | opening => ahead = some '*'
  | closing => ahead = some '/'
  | lineComment => True

/-- A phase agrees with what was seen before it. -/
inductive Tracks (ahead : Option Char) : Phase → List Visit → Prop
  /-- The next character is not escaped. -/
  | clear {phase : Phase} {seen : List Visit} (hphase : phase.IsClear ahead)
    (hseen : escapedBehind seen = false) : Tracks ahead phase seen
  /-- The last character was a backslash that was not escaped itself. -/
  | escaped (mode : Mode) {seen : List Visit} (offset : Nat) (hseen : escapedBehind seen = false) :
    Tracks ahead (between ⟨mode, true⟩) (seen ++ [⟨offset, '\\', mode.escapedRole⟩])

theorem isClear_plainStep (mode : Mode) (c : Char) (ahead : Option Char) :
    (plainStep mode c ahead).next.IsClear ahead := by
  cases mode with
  | code =>
    simp only [plainStep]
    split
    · trivial
    · split
      next h => exact h.2
      · split <;> rfl
  | string quote =>
    simp only [plainStep]
    split <;> rfl
  | blockComment =>
    simp only [plainStep]
    split
    next h => exact h.2
    · rfl

/-- One character keeps the agreement. -/
theorem Tracks.step {phase : Phase} {seen : List Visit} {c : Char} (h : Tracks (some c) phase seen)
    (offset : Nat) (ahead : Option Char) :
    Tracks ahead (phase.step c ahead).next
      (seen ++ [⟨offset, c, (phase.step c ahead).charRole⟩]) := by
  cases h with
  | escaped mode start hseen =>
    -- Whatever comes after the backslash is escaped, a second backslash too.
    refine .clear rfl ?_
    rw [escapedBehind_concat, escapedBehind_concat_backslash hseen mode.escapedRole_ne,
      Visit.escapesNext, Bool.not_true, Bool.and_false]
  | clear hphase hseen =>
    match phase, hphase with
    | lineComment, _ =>
      refine .clear trivial ?_
      simp [escapedBehind_concat, Visit.escapesNext, Phase.step]
    | opening, hstar =>
      obtain rfl := Option.some.inj hstar
      exact .clear rfl (escapedBehind_concat_of_ne (show '*' ≠ '\\' by decide))
    | closing, hslash =>
      obtain rfl := Option.some.inj hslash
      exact .clear rfl (escapedBehind_concat_of_ne (show '/' ≠ '\\' by decide))
    | between ⟨mode, false⟩, _ =>
      -- Only here can a backslash become pending.
      by_cases hc : c = '\\'
      · subst hc
        exact .escaped mode offset hseen
      · have hstep : (between ⟨mode, false⟩).step c ahead = plainStep mode c ahead := by
          simp only [Phase.step, Bool.false_eq_true, if_false, if_neg hc]
        rw [hstep]
        exact .clear (isClear_plainStep mode c ahead) (escapedBehind_concat_of_ne hc)

/-- So does the rest of a line. -/
theorem Tracks.reached {phase : Phase} {seen : List Visit} {text : List Char}
    (h : Tracks text.head? phase seen) (offset : Nat) :
    Tracks none (phase.reached text) (seen ++ phase.visits offset text) := by
  induction text generalizing phase seen offset with
  | nil => rwa [visits, List.append_nil]
  | cons c rest ih =>
    have hrest := ih (h.step offset rest.head?) (offset + c.utf8Size)
    rwa [List.append_assoc] at hrest

/-! ### The end of a line -/

/-- A plain string that goes on behind its line was held open by the last character. -/
theorem Tracks.exists_last_of_endLine {phase : Phase} {seen : List Visit}
    (h : Tracks none phase seen) {quote : Quote} (hmode : phase.endLine.mode = .string quote)
    (hplain : quote ≠ .backtick) :
    ∃ before offset, seen = before ++ [⟨offset, '\\', .string⟩] ∧
      escapedBehind before = false := by
  cases h with
  | escaped mode offset hseen =>
    cases mode with
    | code => cases hmode
    | blockComment => cases hmode
    | string other => exact ⟨_, offset, rfl, hseen⟩
  | clear hphase hseen =>
    match phase, hphase with
    | lineComment, _ => cases hmode
    | opening, _ => cases hmode
    | closing, _ => cases hmode
    | between ⟨.code, false⟩, _ => cases hmode
    | between ⟨.blockComment, false⟩, _ => cases hmode
    | between ⟨.string .backtick, false⟩, _ =>
      cases hmode
      exact absurd rfl hplain
    | between ⟨.string .double, false⟩, _ => cases hmode
    | between ⟨.string .single, false⟩, _ => cases hmode

/-- The last character holds a string open if it is a backslash there that is not escaped. -/
theorem Tracks.exists_endLine_of_last {phase : Phase} {seen before : List Visit} {offset : Nat}
    (h : Tracks none phase seen) (hseen : seen = before ++ [⟨offset, '\\', .string⟩])
    (hbefore : escapedBehind before = false) : ∃ quote, phase.endLine.mode = .string quote := by
  cases h with
  | clear _ hclear =>
    rw [hseen, escapedBehind_concat_backslash hbefore (by decide)] at hclear
    cases hclear
  | escaped mode start _ =>
    have hlast := (List.append_inj' hseen rfl).2
    simp only [List.cons.injEq, Visit.mk.injEq, and_true, true_and] at hlast
    cases mode with
    | code => cases hlast.2
    | blockComment => cases hlast.2
    | string quote =>
      refine ⟨quote, ?_⟩
      simp only [endLine, Cursor.endLine, Bool.or_true, if_true]

/-- The last visit of a text is that of its last character. -/
theorem exists_body_of_visits {phase : Phase} {start : Nat} {text : List Char}
    {before : List Visit} {last : Visit} (h : phase.visits start text = before ++ [last]) :
    ∃ body, text = body ++ [last.char] ∧ last.offset = start + byteLength body := by
  have hlast := getElem?_visits phase start text before.length
  rw [h, List.getElem?_concat_length, Option.map_some] at hlast
  obtain ⟨c, hc, hplace⟩ := Option.map_eq_some_iff.1 hlast.symm
  obtain ⟨hoffset, hchar⟩ := Prod.mk.inj hplace
  have hend := getElem?_visits phase start text (before.length + 1)
  rw [h, List.getElem?_eq_none (by simp), Option.map_none] at hend
  have hlength : text.length ≤ before.length + 1 :=
    List.getElem?_eq_none_iff.1 (Option.map_eq_none_iff.1 hend.symm)
  refine ⟨text.take before.length, ?_, hoffset.symm⟩
  calc text = text.take (before.length + 1) := (List.take_of_length_le hlength).symm
    _ = text.take before.length ++ [last.char] := by
      rw [List.take_add_one, hc, ← hchar, Option.toList_some]

end Phase

/-- The rest of a line, which `front` comes before, ends in a backslash that was seen as part of a
string and is not escaped. -/
def HeldOpen (front rest : List Char) (seen : List Visit) : Prop :=
  ∃ body before, rest = body ++ ['\\'] ∧
    seen = before ++ [⟨byteLength (front ++ body), '\\', .string⟩] ∧ escapedBehind before = false

/-- What a walk to the end of a line leaves behind: no backslash is pending, a string in single or
double quotes goes on only if it is held open, and a string that is held open does go on. -/
structure EndsLine (front rest : List Char) (seen : List Visit) (after : Cursor) : Prop where
  escaping : after.escaping = false
  heldOpen {quote : Quote} (hmode : after.mode = .string quote) (hplain : quote ≠ .backtick) :
    HeldOpen front rest seen
  goesOn (h : HeldOpen front rest seen) : ∃ quote, after.mode = .string quote

theorem Walk.exists_yield {walk : Walk α} (h : walk.stopped = false) :
    ∃ result, walk.value = .yield result := by
  cases hvalue : walk.value with
  | done result => simp [Walk.stopped, hvalue] at h
  | yield result => exact ⟨result, rfl⟩

namespace Cursor

variable {cursor : Cursor} {line rest : List Char} {start : Nat} {visit : Visit → α → ForInStep α}
  {value : α}

theorem walk_cursor (hdrop : dropBytes? start line = some rest)
    (hgoes : (cursor.walk line start visit value).stopped = false) :
    (cursor.walk line start visit value).cursor = (Phase.between cursor).finish rest := by
  obtain ⟨result, hresult⟩ := Walk.exists_yield hgoes
  rw [walk, hdrop] at hresult ⊢
  exact Phase.walk_cursor hresult

theorem visited_eq (hdrop : dropBytes? start line = some rest)
    (hgoes : (cursor.walk line start visit value).stopped = false) :
    cursor.visited line start visit value = (Phase.between cursor).visits start rest := by
  obtain ⟨result, hresult⟩ := Walk.exists_yield hgoes
  have hstops : StopsIn visit ((Phase.between cursor).visits start rest) value
      (cursor.visited line start visit value) (cursor.walk line start visit value).value :=
    stopsIn_visited hdrop visit value
  rw [hresult] at hstops
  exact hstops.eq_of_yield

theorem escaping_walk (front rest : List Char)
    (hgoes : (cursor.walk (front ++ rest) (byteLength front) visit value).stopped = false) :
    (cursor.walk (front ++ rest) (byteLength front) visit value).cursor.escaping = false := by
  obtain ⟨mode, hmode⟩ := (Phase.between cursor).exists_finish_eq rest
  rw [walk_cursor (dropBytes?_byteLength front rest) hgoes, hmode]

/-- A walk that starts with no backslash pending ends its line. -/
theorem endsLine (hclear : cursor.escaping = false) (front rest : List Char)
    (hgoes : (cursor.walk (front ++ rest) (byteLength front) visit value).stopped = false) :
    EndsLine front rest (cursor.visited (front ++ rest) (byteLength front) visit value)
      (cursor.walk (front ++ rest) (byteLength front) visit value).cursor := by
  have hdrop := dropBytes?_byteLength front rest
  have hstart : Phase.Tracks rest.head? (.between cursor) [] := .clear hclear rfl
  have htracks : Phase.Tracks none ((Phase.between cursor).reached rest)
      ((Phase.between cursor).visits (byteLength front) rest) := hstart.reached _
  refine ⟨escaping_walk front rest hgoes, fun {quote} hmode hplain => ?_, ?_⟩
  · rw [walk_cursor hdrop hgoes, Phase.finish_eq] at hmode
    obtain ⟨before, offset, hseen, hbefore⟩ := htracks.exists_last_of_endLine hmode hplain
    obtain ⟨body, rfl, rfl⟩ := Phase.exists_body_of_visits hseen
    refine ⟨body, before, rfl, ?_, hbefore⟩
    rw [visited_eq hdrop hgoes, hseen, byteLength_append]
  · rintro ⟨body, before, -, hseen, hbefore⟩
    rw [visited_eq hdrop hgoes] at hseen
    rw [walk_cursor hdrop hgoes, Phase.finish_eq]
    exact htracks.exists_endLine_of_last hseen hbefore

/-! ### Line after line -/

/-- A cursor goes over lines, each from its first character to its end and with a visitor of its
own. The cursors are those after each line. -/
inductive Passes : Cursor → List (List Char) → List Cursor → Prop
  | nil (cursor : Cursor) : Passes cursor [] []
  | cons {cursor : Cursor} {line : List Char} {lines : List (List Char)} {cursors : List Cursor}
    {α : Type} (visit : Visit → α → ForInStep α) (value : α)
    (hgoes : (cursor.walk line 0 visit value).stopped = false)
    (hlines : Passes (cursor.walk line 0 visit value).cursor lines cursors) :
    Passes cursor (line :: lines) ((cursor.walk line 0 visit value).cursor :: cursors)

/-- Every cursor can go over any lines: a visitor that keeps what it is handed does not stop. -/
theorem exists_passes (cursor : Cursor) (lines : List (List Char)) :
    ∃ cursors, cursor.Passes lines cursors := by
  induction lines generalizing cursor with
  | nil => exact ⟨[], .nil cursor⟩
  | cons line lines ih =>
    let keep (seen : Visit) (kept : List Visit) : ForInStep (List Visit) := .yield (kept ++ [seen])
    have hstart : dropBytes? 0 line = some line := dropBytes?_byteLength [] line
    have hgoes : (cursor.walk line 0 keep []).stopped = false := by
      rw [Walk.stopped, walk_value hstart, visitAll_collect]
    obtain ⟨cursors, hcursors⟩ := ih (cursor.walk line 0 keep []).cursor
    exact ⟨_, .cons keep [] hgoes hcursors⟩

/-- After a line, no backslash is pending, and if the line does not end in one, what comes next is
code or part of a template string or of a comment. -/
structure StandsBehind (line : List Char) (after : Cursor) : Prop where
  escaping : after.escaping = false
  mode (h : line.getLast? ≠ some '\\') :
    after.mode = .code ∨ after.mode = .string .backtick ∨ after.mode = .blockComment

theorem standsBehind_of_endsLine {seen : List Visit} {after : Cursor}
    (h : EndsLine [] line seen after) : after.StandsBehind line := by
  refine ⟨h.escaping, fun hline => ?_⟩
  cases hmode : after.mode with
  | code => exact .inl rfl
  | blockComment => exact .inr (.inr rfl)
  | string quote =>
    by_cases hquote : quote = .backtick
    · exact .inr (.inl (congrArg Mode.string hquote))
    · obtain ⟨body, before, rfl, -, -⟩ := h.heldOpen hmode hquote
      exact absurd List.getLast?_concat hline

theorem Passes.standsBehind {cursor : Cursor} {lines : List (List Char)} {cursors : List Cursor}
    (h : cursor.Passes lines cursors) (hclear : cursor.escaping = false) :
    List.Forall₂ StandsBehind lines cursors := by
  induction h with
  | nil cursor => exact .nil
  | cons visit value hgoes _ ih =>
    have hline := standsBehind_of_endsLine (endsLine hclear [] _ hgoes)
    exact .cons hline (ih hline.escaping)

end Cursor

/-- **Plain strings end with their line.** No backslash is pending for a new cursor or for one that
was walked to the end of a line. If none was pending where the walk started, a string in single or
double quotes goes on behind the line only if the last character is a backslash that was seen as
part of a string and is not escaped, and such a backslash does hold a string open. Hence a cursor
that goes over lines, as it can over any, stands in code, in a template string or in a comment
behind every one that does not end in a backslash. -/
theorem plain_string_ends_with_line :
    ({} : Cursor).escaping = false ∧
    (∀ (cursor : Cursor) (front rest : List Char) {α : Type} (visit : Visit → α → ForInStep α)
      (value : α),
      (cursor.walk (front ++ rest) (byteLength front) visit value).stopped = false →
        (cursor.walk (front ++ rest) (byteLength front) visit value).cursor.escaping = false ∧
        (cursor.escaping = false →
          EndsLine front rest (cursor.visited (front ++ rest) (byteLength front) visit value)
            (cursor.walk (front ++ rest) (byteLength front) visit value).cursor)) ∧
    ∀ (cursor : Cursor) (lines : List (List Char)),
      (∃ cursors, cursor.Passes lines cursors) ∧
        (cursor.escaping = false → ∀ cursors, cursor.Passes lines cursors →
          List.Forall₂ Cursor.StandsBehind lines cursors) := by
  refine ⟨rfl, ?_, ?_⟩
  · intro cursor front rest α visit value hgoes
    refine ⟨Cursor.escaping_walk front rest hgoes, fun hclear => ?_⟩
    exact Cursor.endsLine hclear front rest hgoes
  · intro cursor lines
    refine ⟨cursor.exists_passes lines, fun hclear cursors hpasses => ?_⟩
    exact hpasses.standsBehind hclear

/-! ### Strings that a backslash holds open, and some that none does -/

/-- The end of a line with an apostrophe and a backslash. -/
def apostropheText : List Char :=
  "'s \\".toList

/-- A string that the last of three backslashes holds open, and an empty line that ends it; an
apostrophe on a line without and on one with a backslash at the end; the end of that string, with a
backslash in the comment behind it. -/
def backslashLines : List (List Char) :=
  ["s = \"a\\\\\\".toList, [], "it's".toList, "it's \\".toList, "' // \\".toList]

/-- The cursors after these lines. -/
def backslashCursors : List Cursor :=
  [⟨.string .double, false⟩, {}, {}, ⟨.string .single, false⟩, {}]

/-- The string behind the apostrophe is held open, and behind every line that does not end in a
backslash no plain string is open. -/
theorem plain_string_ends_with_line_backslashes :
    HeldOpen "it".toList apostropheText
      [⟨2, '\'', .string⟩, ⟨3, 's', .string⟩, ⟨4, ' ', .string⟩, ⟨5, '\\', .string⟩] ∧
    ({} : Cursor).Passes backslashLines backslashCursors ∧
    List.Forall₂ Cursor.StandsBehind backslashLines backslashCursors := by
  have hends := (plain_string_ends_with_line.2.1 {} "it".toList apostropheText
    (fun _ value => .yield value) () (by decide)).2 rfl
  have hpasses : ({} : Cursor).Passes backslashLines backslashCursors := by
    refine .cons (fun _ value => .yield value) () (by decide) ?_
    refine .cons (fun _ value => .yield value) () (by decide) ?_
    refine .cons (fun _ value => .yield value) () (by decide) ?_
    refine .cons (fun _ value => .yield value) () (by decide) ?_
    refine .cons (fun _ value => .yield value) () (by decide) ?_
    exact .nil _
  refine ⟨?_, hpasses, (plain_string_ends_with_line.2.2 {} _).2 rfl _ hpasses⟩
  exact hends.heldOpen (show _ = Mode.string .single by decide) (by decide)

end Driftwatch
