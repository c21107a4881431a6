import Driftwatch.Proofs.Offsets

/-!
# Every character once

A walk hands the characters of a line to its visitor from left to right, each one once and with its
place in the line. A visitor that stops the walk is not handed the characters behind, and that is
all that its stopping changes: what it was handed before is what every other visitor is handed.

## The shape of the argument

What a visitor is handed shows in a visitor that keeps a record next to its own value
(`recording`). A walk is the visitor's loop over a list that does not depend on the visitor
(`Phase.walk_value`), so the record is a fact about loops over lists, and it is the list up to the
place where the visitor stops (`visitAll_recording`, `stopsIn_handed`). What is left of lexical
context is that the list has the characters of the line in its places (`Phase.getElem?_visits`).

## Main definitions

* `StopsIn`: the part of a list that a visitor is handed, and what it makes of it.
* `Cursor.visited`, `Cursor.codeVisited`: what the visitor of a walk is handed.
* `SeesEachOnce`: a walk over the end of a line is as described above.

## Main results

* `Phase.getElem?_visits`: characters and places.
* `walk_sees_each_character_once`: every walk is as described.
-/

namespace Driftwatch

variable {α ι κ : Type}

/-! ### Records of a loop -/

/-- The part of a list that a visitor is handed, and how its loop ends: all of the list, or the list
up to and including the first member at which it stops. -/
inductive StopsIn (visit : ι → α → ForInStep α) (items : List ι) (value : α) :
    List ι → ForInStep α → Prop
  | never {result : α} (h : visitAll visit items value = .yield result) :
    StopsIn visit items value items (.yield result)
  | first (before : List ι) {last : ι} {after : List ι} {middle result : α}
    (hitems : items = before ++ last :: after)
    (hbefore : visitAll visit before value = .yield middle)
    (hlast : visit last middle = .done result) :
    StopsIn visit items value (before ++ [last]) (.done result)

/-- The members of a list that a visitor is handed. -/
def handed (visit : ι → α → ForInStep α) : List ι → α → List ι
  | [], _ => []
  | item :: items, value =>
    match visit item value with
    | .done _ => [item]
    | .yield value => item :: handed visit items value

/-- The end of a loop, with a record beside its value. -/
def withRecord (record : List ι) : ForInStep α → ForInStep (List ι × α)
  | .done value => .done (record, value)
  | .yield value => .yield (record, value)

/-- A visitor that keeps a record of what it is handed, and does the same as before otherwise. -/
def recording (visit : ι → α → ForInStep α) (item : ι) (state : List ι × α) :
    ForInStep (List ι × α) :=
  withRecord (state.1 ++ [item]) (visit item state.2)

theorem visitAll_recording (visit : ι → α → ForInStep α) (items record : List ι) (value : α) :
    visitAll (recording visit) items (record, value) =
      withRecord (record ++ handed visit items value) (visitAll visit items value) := by
  induction items generalizing record value with
  | nil => rw [handed, List.append_nil, visitAll, visitAll, withRecord]
  | cons item items ih =>
    simp only [visitAll, recording, handed]
    cases visit item value with
    | done value => rfl
    | yield value => simp only [withRecord, ih, List.append_assoc, List.singleton_append]

theorem stopsIn_handed (visit : ι → α → ForInStep α) (items : List ι) (value : α) :
    StopsIn visit items value (handed visit items value) (visitAll visit items value) := by
  induction items generalizing value with
  | nil => exact .never rfl
  | cons item items ih =>
    cases hvisit : visit item value with
    | done result =>
      simp only [handed, visitAll, hvisit]
      exact .first [] rfl rfl hvisit
    | yield next =>
      have hcons : ∀ others, visitAll visit (item :: others) value = visitAll visit others next :=
        fun others => by simp only [visitAll, hvisit]
      have hhanded : handed visit (item :: items) value = item :: handed visit items next := by
        simp only [handed, hvisit]
      have hrest := ih next
      rw [hcons items, hhanded]
      -- The rest of the loop decides where it stops, and the first member comes before that.
      generalize handed visit items next = given at hrest ⊢
      generalize visitAll visit items next = ending at hrest ⊢
      cases hrest with
      | never h => exact .never ((hcons items).trans h)
      | first before hitems hbefore hlast =>
        exact .first (item :: before) (congrArg (item :: ·) hitems)
          ((hcons before).trans hbefore) hlast

theorem visitAll_map (f : ι → κ) (visit : κ → α → ForInStep α) (items : List ι) (value : α) :
    visitAll (fun item => visit (f item)) items value = visitAll visit (items.map f) value := by
  rw [← List.filterMap_eq_map, ← visitAll_filterMap]
  rfl

/-- A visitor that did not stop was handed everything. -/
theorem StopsIn.eq_of_yield {visit : ι → α → ForInStep α} {items given : List ι} {value result : α}
    (h : StopsIn visit items value given (.yield result)) : given = items := by
  cases h with
  | never h => rfl

/-- A visitor that never stops is handed everything. -/
theorem StopsIn.eq_of_patient {visit : ι → α → ForInStep α} {items given : List ι} {value : α}
    {ending : ForInStep α} (h : StopsIn visit items value given ending)
    (hpatient : ∀ item value, ∃ next, visit item value = .yield next) : given = items := by
  cases h with
  | never h => rfl
  | first before hitems hbefore hlast =>
    obtain ⟨next, hnext⟩ := hpatient _ _
    cases hlast.symm.trans hnext

/-! ### What a walk sees -/

/-- The place and the character of a visit. -/
def Visit.place (seen : Visit) : Nat × Char :=
  (seen.offset, seen.char)

/-- The visits of a line have its characters, one after the other, each at the number of bytes
before it. -/
theorem Phase.getElem?_visits (phase : Phase) (offset : Nat) (text : List Char) (k : Nat) :
    (phase.visits offset text)[k]?.map Visit.place =
      text[k]?.map fun c => (offset + byteLength (text.take k), c) := by
  induction text generalizing phase offset k with
  | nil => rfl
  | cons c rest ih =>
    cases k with
    | zero => rfl
    | succ k =>
      simp only [visits, List.getElem?_cons_succ, List.take_succ_cons, byteLength_cons, ih,
        Nat.add_assoc]

namespace Cursor

/-- What the visitor of a walk is handed. -/
def visited (cursor : Cursor) (line : List Char) (start : Nat) (visit : Visit → α → ForInStep α)
    (value : α) : List Visit :=
  (cursor.walk line start (recording visit) ([], value)).result.1

/-- The places and characters that the visitor of a walk over code is handed. -/
def codeVisited (cursor : Cursor) (line : List Char) (start : Nat)
    (visit : Nat → Char → α → ForInStep α) (value : α) : List (Nat × Char) :=
  (cursor.walkCode line start
    (fun offset c => recording (fun place => visit place.1 place.2) (offset, c))
    ([], value)).result.1

variable {cursor : Cursor} {line rest : List Char} {start : Nat}

theorem walk_value (h : dropBytes? start line = some rest) (visit : Visit → α → ForInStep α)
    (value : α) :
    (cursor.walk line start visit value).value =
      visitAll visit ((Phase.between cursor).visits start rest) value := by
  rw [walk, h]
  exact Phase.walk_value visit _ _ _ _

theorem result_of_value {walk : Walk (List ι × α)} {record : List ι} {ending : ForInStep α}
    (h : walk.value = withRecord record ending) : walk.result.1 = record := by
  cases ending <;> rw [Walk.result, h] <;> rfl

theorem stopsIn_visited (h : dropBytes? start line = some rest)
    (visit : Visit → α → ForInStep α) (value : α) :
    StopsIn visit ((Phase.between cursor).visits start rest) value
      (cursor.visited line start visit value) (cursor.walk line start visit value).value := by
  have hrecord : cursor.visited line start visit value =
      handed visit ((Phase.between cursor).visits start rest) value :=
    result_of_value ((walk_value h _ _).trans (visitAll_recording visit _ [] value))
  rw [hrecord, walk_value h]
  exact stopsIn_handed visit _ value

/-- The places and characters of the code among some visits. -/
def codePlaces (seen : List Visit) : List (Nat × Char) :=
  (seen.filter (·.charRole == .code)).map Visit.place

theorem walkCode_value_places (h : dropBytes? start line = some rest)
    (visit : Nat × Char → α → ForInStep α) (value : α) :
    (cursor.walkCode line start (fun offset c => visit (offset, c)) value).value =
      visitAll visit (codePlaces ((Phase.between cursor).visits start rest)) value := by
  rw [walkCode_value h, codePlaces, ← visitAll_map]
  rfl

theorem stopsIn_codeVisited (h : dropBytes? start line = some rest)
    (visit : Nat → Char → α → ForInStep α) (value : α) :
    StopsIn (fun place => visit place.1 place.2)
      (codePlaces ((Phase.between cursor).visits start rest)) value
      (cursor.codeVisited line start visit value)
      (cursor.walkCode line start visit value).value := by
  have hrecord : cursor.codeVisited line start visit value =
      handed (fun place => visit place.1 place.2)
        (codePlaces ((Phase.between cursor).visits start rest)) value :=
    result_of_value ((walkCode_value_places h _ _).trans (visitAll_recording _ _ [] value))
  have hvalue : (cursor.walkCode line start visit value).value =
      visitAll (fun place => visit place.1 place.2)
        (codePlaces ((Phase.between cursor).visits start rest)) value :=
    walkCode_value_places h (fun place => visit place.1 place.2) value
  rw [hrecord, hvalue]
  exact stopsIn_handed _ _ value

end Cursor

/-- A walk over the end of a line, whose beginning is `front`, sees the given visits: they have the
characters there, each at the number of bytes before it in the line, they are what every visitor is
handed that does not stop, any other visitor is handed a first part of them, up to and including the
first one at which it stops, and a walk over code hands over those among them that are code. -/
structure SeesEachOnce (cursor : Cursor) (front rest : List Char) (seen : List Visit) : Prop where
  places (k : Nat) :
    seen[k]?.map Visit.place = rest[k]?.map fun c => (byteLength (front ++ rest.take k), c)
  patient {α : Type} (visit : Visit → α → ForInStep α) (value : α)
    (h : ∀ seen value, ∃ next, visit seen value = .yield next) :
    cursor.visited (front ++ rest) (byteLength front) visit value = seen
  stops {α : Type} (visit : Visit → α → ForInStep α) (value : α) :
    StopsIn visit seen value (cursor.visited (front ++ rest) (byteLength front) visit value)
      (cursor.walk (front ++ rest) (byteLength front) visit value).value
  code {α : Type} (visit : Nat → Char → α → ForInStep α) (value : α) :
    StopsIn (fun place => visit place.1 place.2) (Cursor.codePlaces seen) value
      (cursor.codeVisited (front ++ rest) (byteLength front) visit value)
      (cursor.walkCode (front ++ rest) (byteLength front) visit value).value

theorem seesEachOnce_visits (cursor : Cursor) (front rest : List Char) :
    SeesEachOnce cursor front rest ((Phase.between cursor).visits (byteLength front) rest) := by
  have hdrop := dropBytes?_byteLength front rest
  refine ⟨fun k => ?_, fun visit value hpatient => ?_, Cursor.stopsIn_visited hdrop,
    Cursor.stopsIn_codeVisited hdrop⟩
  · simp only [Phase.getElem?_visits, byteLength_append]
  · exact (Cursor.stopsIn_visited hdrop visit value).eq_of_patient hpatient

/-- **A walk sees every character once, and stopping it only cuts.** From a place between two
characters of a line on, or from its end, some visits are what all visitors are handed up to the
place where they stop, and these visits are the characters there. From any other place on nothing is
handed over, and the cursor stays as it is. -/
theorem walk_sees_each_character_once (cursor : Cursor) (line : List Char) (start : Nat) :
    (∀ front rest, line = front ++ rest → start = byteLength front →
      ∃ seen, SeesEachOnce cursor front rest seen) ∧
    ((∀ front rest, line = front ++ rest → start ≠ byteLength front) →
      ∀ {α : Type} (value : α),
        (∀ visit, cursor.visited line start visit value = [] ∧
          cursor.walk line start visit value = ⟨cursor, .yield value⟩) ∧
        ∀ visit, cursor.codeVisited line start visit value = [] ∧
          cursor.walkCode line start visit value = ⟨cursor, .yield value⟩) := by
  refine ⟨fun front rest _ _ => ⟨_, seesEachOnce_visits cursor front rest⟩, fun hbetween => ?_⟩
  have hdrop : dropBytes? start line = none := by
    refine Option.eq_none_iff_forall_ne_some.2 fun rest hrest => ?_
    obtain ⟨front, hline, hstart⟩ := exists_front_of_dropBytes? hrest
    exact hbetween front rest hline hstart
  have hwalk : ∀ {β : Type} (visit : Visit → β → ForInStep β) (value : β),
      cursor.walk line start visit value = ⟨cursor, .yield value⟩ := by
    intro β visit value
    rw [Cursor.walk, hdrop]
  intro α value
  refine ⟨fun visit => ⟨?_, hwalk visit value⟩, fun visit => ⟨?_, hwalk _ value⟩⟩
  · rw [Cursor.visited, hwalk]
    rfl
  · rw [Cursor.codeVisited, Cursor.walkCode, hwalk]
    rfl

/-! ### A comment that ends behind an escaped character -/

/-- A cursor in a comment, with a backslash right before it. -/
def escapedInComment : Cursor :=
  ⟨.blockComment, true⟩

/-- The end of a line that closes the comment. Its first character has two bytes. -/
def closingText : List Char :=
  "é*/\x7b'\x7d".toList

/-- The visits of that text after one more byte. -/
def closingVisits : List Visit :=
  [⟨1, 'é', .blockComment⟩, ⟨3, '*', .blockComment⟩, ⟨4, '/', .blockComment⟩, ⟨5, '{', .code⟩,
   ⟨6, '\'', .string⟩, ⟨7, '}', .string⟩]

/-- Each character is visited once, and nothing is from the middle of the first one on. -/
theorem walk_sees_each_character_once_closing :
    SeesEachOnce escapedInComment ['*'] closingText closingVisits ∧
      escapedInComment.visited ('*' :: closingText) 2 (fun _ value => .yield value) () = [] := by
  obtain ⟨seen, hseen⟩ := (walk_sees_each_character_once escapedInComment
    ('*' :: closingText) 1).1 ['*'] closingText rfl (by decide)
  have hvisits : escapedInComment.visited (['*'] ++ closingText) (byteLength ['*'])
      (fun _ value => .yield value) () = closingVisits := by decide
  have hpatient := hseen.patient (fun _ value => .yield value) () fun _ value => ⟨value, rfl⟩
  obtain rfl := hvisits.symm.trans hpatient
  have hinside : ∀ front rest, '*' :: closingText = front ++ rest → 2 ≠ byteLength front := by
    intro front rest hline hstart
    have hdrop := dropBytes?_byteLength front rest
    have hnone : dropBytes? 2 ('*' :: closingText) = none := by decide
    rw [← hline, ← hstart, hnone] at hdrop
    cases hdrop
  exact ⟨hseen, (((walk_sees_each_character_once escapedInComment ('*' :: closingText) 2).2
    hinside ()).1 _).1⟩

end Driftwatch
