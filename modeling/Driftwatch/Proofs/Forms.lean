import Mathlib.Data.List.DropRight
import Driftwatch.Source.Declaration

/-!
# What forms make of a line

Two facts about every form in the three tables. The white space that a line begins with never
matters, and a declared name holds word characters only. Both are facts about single pieces that
readings carry along, and the tables enter only through the piece that their forms begin with.

## Main results

* `Form.read_trimLeft`: leading white space does not matter to a form that begins with blanks.
* `functionOn?_trimLeft`, `methodOn?_trimLeft`, `classOn?_trimLeft`: nor to any of the tables.
* `firstReading_name`: declared names are words.
-/

namespace Driftwatch

/-! ### Leading white space -/

theorem trimLeft_trimLeft (text : List Char) : trimLeft (trimLeft text) = trimLeft text :=
  List.dropWhile_idempotent isBlank text

theorem trimLeft_of_allBlank {text : List Char} (h : allBlank text = true) : trimLeft text = [] :=
  List.dropWhile_eq_nil_iff.2 (List.all_eq_true.1 h)

theorem Form.read_trimLeft {κ : Type} {form : Form κ} (h : form.pieces.head? = some .blanks)
    (line : List Char) : form.read (trimLeft line) = form.read line := by
  obtain ⟨kind, pieces⟩ := form
  obtain ⟨rest, rfl⟩ := List.head?_eq_some_iff.1 h
  simp only [Form.read, readPieces, Piece.read, trimLeft_trimLeft]

/-- A table whose forms all begin with blanks does not mind leading white space. -/
theorem firstReading_trimLeft {κ : Type} {forms : List (Form κ)}
    (h : ∀ form ∈ forms, form.pieces.head? = some .blanks) (line : List Char) :
    firstReading forms (trimLeft line) = firstReading forms line := by
  induction forms with
  | nil => rfl
  | cons form forms ih =>
    have hform := Form.read_trimLeft (h form List.mem_cons_self) line
    have hforms := ih fun other hother => h other (List.mem_cons_of_mem _ hother)
    simp only [firstReading, List.findSome?_cons] at hforms ⊢
    rw [hform, hforms]

theorem functionOn?_trimLeft (line : List Char) :
    functionOn? (trimLeft line) = functionOn? line := by
  rw [functionOn?, functionOn?, firstReading_trimLeft (by decide)]

theorem methodOn?_trimLeft (line : List Char) : methodOn? (trimLeft line) = methodOn? line := by
  rw [methodOn?, methodOn?, firstReading_trimLeft (by decide)]

theorem classOn?_trimLeft (line : List Char) : classOn? (trimLeft line) = classOn? line := by
  rw [classOn?, classOn?, firstReading_trimLeft (by decide)]

/-- A line of white space declares no function. -/
theorem functionOn?_of_allBlank {line : List Char} (h : allBlank line = true) :
    functionOn? line = none := by
  rw [← functionOn?_trimLeft, trimLeft_of_allBlank h]
  decide

/-- A line of white space declares no class. -/
theorem classOn?_of_allBlank {line : List Char} (h : allBlank line = true) :
    classOn? line = none := by
  rw [← classOn?_trimLeft, trimLeft_of_allBlank h]
  decide

/-! ### Names -/

/-- All characters of a text are word characters. -/
def IsWordText (text : List Char) : Prop :=
  ∀ c ∈ text, isWord c = true

theorem isWordText_takeWord? {text word rest : List Char} (h : takeWord? text = some (word, rest)) :
    IsWordText word := by
  have hword : word = text.takeWhile isWord := by
    unfold takeWord? at h
    split at h
    · cases h
    · simp_all
  intro c hc
  exact List.all_eq_true.1 List.all_takeWhile c (hword ▸ hc)

/-- No piece puts anything but a word into the name. -/
theorem Piece.name_of_read {piece : Piece} {reading next : Reading}
    (h : piece.read reading = some next) (hname : IsWordText reading.1.name) :
    IsWordText next.1.name := by
  obtain ⟨captures, text⟩ := reading
  cases piece with
  | blanks =>
    cases h
    exact hname
  | heritage =>
    cases h
    exact hname
  | gap | literal | binder | parameters | bareParameters =>
    obtain ⟨found, -, rfl⟩ := Option.map_eq_some_iff.1 h
    exact hname
  | name =>
    obtain ⟨⟨word, rest⟩, hword, rfl⟩ := Option.map_eq_some_iff.1 h
    exact isWordText_takeWord? hword

theorem name_of_readPieces {pieces : List Piece} {reading final : Reading}
    (h : readPieces pieces reading = some final) (hname : IsWordText reading.1.name) :
    IsWordText final.1.name := by
  induction pieces generalizing reading with
  | nil =>
    cases h
    exact hname
  | cons piece pieces ih =>
    obtain ⟨next, hnext, hrest⟩ := Option.bind_eq_some_iff.1 h
    exact ih hrest (Piece.name_of_read hnext hname)

/-- Whatever form fits a line, the name that it captures is a word. -/
theorem firstReading_name {κ : Type} {forms : List (Form κ)} {line : List Char}
    {found : κ × Captures} (h : firstReading forms line = some found) :
    IsWordText found.2.name := by
  obtain ⟨form, -, hform⟩ := List.exists_of_findSome?_eq_some h
  obtain ⟨captures, hcaptures, rfl⟩ := Option.map_eq_some_iff.1 hform
  obtain ⟨⟨captures, rest⟩, hread, rfl⟩ := Option.map_eq_some_iff.1 hcaptures
  exact name_of_readPieces hread fun c hc => absurd hc List.not_mem_nil

theorem functionOn?_name {line : List Char} {found : FunctionDeclaration}
    (h : functionOn? line = some found) : IsWordText found.name.toList := by
  obtain ⟨reading, hreading, rfl⟩ := Option.map_eq_some_iff.1 h
  simpa [FunctionDeclaration.ofCaptures] using firstReading_name hreading

theorem methodOn?_name {line : List Char} {found : FunctionDeclaration}
    (h : methodOn? line = some found) : IsWordText found.name.toList := by
  obtain ⟨reading, hreading, rfl⟩ := Option.map_eq_some_iff.1 h
  simpa [FunctionDeclaration.ofCaptures] using firstReading_name hreading

theorem classOn?_name {line : List Char} {found : ClassDeclaration}
    (h : classOn? line = some found) : IsWordText found.name.toList := by
  obtain ⟨reading, hreading, rfl⟩ := Option.map_eq_some_iff.1 h
  simpa using firstReading_name hreading

end Driftwatch
