import Driftwatch.Json.Stored
import Driftwatch.Proofs.Decimal

/-!
# Written values read back

The reader gives back every value that the writer wrote, as long as its integers fit a word, it is
nested no deeper than the reader goes, and all of it has a meaning. Stored scans and reports are
such values.

## The shape of the argument

A value is read in the middle of a text. What comes before it is white space, and what comes after
it starts with a comma or a line feed, if anything does. `ReadsBack` says that reading works in
every such place and with any fuel that is at least as long as the written value, so that the
induction on `Json.Fits` has no arithmetic of levels or indentation left to do.

## Main definitions

* `Json.Fits`: values that the reader can give back.

## Main results

* `readJsonString_written`, `readNumber?_integer`: strings and integers.
* `Json.Fits.readsBack`: values in the middle of a text.
* `Json.parse?_pretty`: whole texts.
-/

namespace Driftwatch

/-! ### Lists -/

section

variable {α β : Type} {items : List α}

/-- A map that succeeds at every item succeeds on the list. -/
theorem mapM_eq_some_map {f : α → Option β} {g : α → β}
    (h : ∀ item ∈ items, f item = some (g item)) : items.mapM f = some (items.map g) := by
  induction items with
  | nil => rfl
  | cons item items ih =>
    rw [List.mapM_cons, h item List.mem_cons_self,
      ih fun other hother => h other (List.mem_cons_of_mem _ hother)]
    rfl

/-- A map that takes every item back takes the list back. -/
theorem mapM_map_eq_some {f : α → β} {g : β → Option α}
    (h : ∀ item ∈ items, g (f item) = some item) : (items.map f).mapM g = some items := by
  have hback : items.mapM (g ∘ f) = some (items.map id) := mapM_eq_some_map h
  rw [List.mapM_map, hback, List.map_id]

end

/-! ### Strings -/

/-- The escapes of control characters without a letter of their own. -/
theorem readJsonString_control {n : Nat} (hn : n < 0x20) (rest : List Char) :
    jsonEscape? ('u' :: '0' :: '0' :: hexDigit (n / 16) :: hexDigit (n % 16) :: rest) =
      some (some (Char.ofNat n), 5) := by
  have hquad : ∀ n < 0x20, hexQuad? ['0', '0', hexDigit (n / 16), hexDigit (n % 16)] = some n := by
    decide
  have hunit : hexQuad? ('0' :: '0' :: hexDigit (n / 16) :: hexDigit (n % 16) :: rest) = some n :=
    hquad n hn
  simp only [jsonEscape?, hunit, Option.map_some, jsonUnicode]
  rw [if_neg (by simp; omega), if_neg (by simp; omega)]

/-- An escape of one letter stands for the character that it is read as. -/
theorem readJsonString_letter {c letter : Char} {rest : List Char}
    (h : jsonEscape? (letter :: rest) = some (some c, 1)) :
    readJsonString 0 ('\\' :: letter :: rest) =
      (readJsonString 0 rest).map fun r => (consMeant (some c) r.1, r.2) := by
  simp [readJsonString, h]

/-- What the reader makes of one written character. -/
theorem readJsonString_jsonChar (c : Char) (rest : List Char) :
    readJsonString 0 (jsonChar c ++ rest) =
      (readJsonString 0 rest).map fun r => (consMeant (some c) r.1, r.2) := by
  by_cases hquote : c = '"'
  · subst hquote
    exact readJsonString_letter rfl
  by_cases hback : c = '\\'
  · subst hback
    exact readJsonString_letter rfl
  by_cases hcontrol : c.toNat < 0x20
  · have hchar : Char.ofNat c.toNat = c := Char.ofNat_toNat c
    simp only [jsonChar, if_neg hquote, if_neg hback, if_pos hcontrol]
    split
    · next hc => exact readJsonString_letter (by rw [← hchar, hc]; rfl)
    · next hc => exact readJsonString_letter (by rw [← hchar, hc]; rfl)
    · next hc => exact readJsonString_letter (by rw [← hchar, hc]; rfl)
    · next hc => exact readJsonString_letter (by rw [← hchar, hc]; rfl)
    · next hc => exact readJsonString_letter (by rw [← hchar, hc]; rfl)
    · simp [readJsonString, readJsonString_control hcontrol, hchar]
  · simp [jsonChar, readJsonString, hquote, hback, hcontrol]

theorem readJsonString_written (text rest : List Char) :
    readJsonString 0 (text.flatMap jsonChar ++ '"' :: rest) = some (some text, rest) := by
  induction text with
  | nil => simp [readJsonString]
  | cons c text ih =>
    rw [List.flatMap_cons, List.append_assoc, readJsonString_jsonChar, ih]
    rfl

/-! ### Integers -/

/-- What may stand after a value: nothing, a comma or a line feed. -/
def EndsValue (rest : List Char) : Prop :=
  ∀ c, rest.head? = some c → c = ',' ∨ c = '\n'

theorem EndsValue.nil : EndsValue [] := by
  intro c hc
  cases hc

theorem endsValue_comma (rest : List Char) : EndsValue (',' :: rest) := by
  intro c hc
  cases hc
  exact .inl rfl

theorem endsValue_newLine (level : Nat) (rest : List Char) : EndsValue (newLine level ++ rest) := by
  intro c hc
  cases hc
  exact .inr rfl

theorem EndsValue.endsDigits {rest : List Char} (h : EndsValue rest) : EndsDigits rest := by
  intro c hc
  rcases h c hc with rfl | rfl <;> rfl

theorem wholeDigits?_decimal (n : Nat) {rest : List Char} (hrest : EndsValue rest) :
    wholeDigits? (decimal n ++ rest) = some (decimal n, rest) := by
  have hspan : spanDigits (decimal n ++ rest) = (decimal n, rest) := by
    rw [spanDigits, takeWhile_isDigit_append (fun _ => isDigit_of_mem_decimal) hrest.endsDigits,
      dropWhile_isDigit_append (fun _ => isDigit_of_mem_decimal) hrest.endsDigits]
  rw [wholeDigits?, hspan]
  split
  · next h => exact absurd (Prod.mk.inj h).1 (decimal_ne_nil n)
  · next h =>
    -- Only zero itself starts with a zero, and it has one digit.
    have hdigits := (Prod.mk.inj h).1
    rcases Nat.eq_zero_or_pos n with rfl | hn
    · simp [decimal] at hdigits
    · exact absurd (by rw [hdigits]; rfl) (head?_decimal_ne_zero hn)
  · rfl

theorem fractionPart?_of_endsValue {rest : List Char} (h : EndsValue rest) :
    fractionPart? rest = some ([], rest) := by
  match rest with
  | [] => rfl
  | c :: rest =>
    rcases h c rfl with rfl | rfl <;> rfl

theorem exponentPart?_of_endsValue {rest : List Char} (h : EndsValue rest) :
    exponentPart? rest = some ([], rest) := by
  match rest with
  | [] => rfl
  | c :: rest =>
    rcases h c rfl with rfl | rfl <;> simp [exponentPart?]

/-- Digits after an optional sign are read as the integer that they are written for. -/
theorem readNumber?_integer {value : Int} (hlow : -(signLimit : Int) ≤ value)
    (hhigh : value < wordLimit) {rest : List Char} (hrest : EndsValue rest) :
    readNumber? (integer value ++ rest) = some (.int value, rest) := by
  have hparts : ∀ negative text, wholeDigits? text = some (decimal value.natAbs, rest) →
      ((wholeDigits? text).bind fun whole => (fractionPart? whole.2).bind fun fraction =>
        (exponentPart? fraction.2).bind fun exponent =>
          some (numberOfParts negative whole.1 fraction.1 exponent.1, exponent.2)) =
      some (numberOfParts negative (decimal value.natAbs) [] [], rest) := by
    intro negative text htext
    simp [htext, fractionPart?_of_endsValue hrest, exponentPart?_of_endsValue hrest]
  by_cases hneg : value < 0
  · rw [integer, if_pos hneg]
    refine (hparts true _ (wholeDigits?_decimal _ hrest)).trans ?_
    simp only [numberOfParts, List.isEmpty_nil, Bool.and_self, if_true, digitsValue?_decimal]
    rw [if_neg (by omega)]
    simp only [Option.some.injEq, Prod.mk.injEq, Json.int.injEq, and_true]
    omega
  · have hhead : ∀ rest', decimal value.natAbs ++ rest ≠ '-' :: rest' := by
      intro rest' heq
      obtain ⟨c, digits, hcons⟩ := List.exists_cons_of_ne_nil (decimal_ne_nil value.natAbs)
      have hc : c.isDigit = true := isDigit_of_mem_decimal (hcons ▸ List.mem_cons_self)
      rw [hcons] at heq
      cases heq
      exact absurd hc (by decide)
    rw [integer, if_neg hneg, readNumber?]
    · refine (hparts false _ (wholeDigits?_decimal _ hrest)).trans ?_
      simp only [numberOfParts, List.isEmpty_nil, Bool.and_self, if_true, digitsValue?_decimal,
        Bool.false_eq_true, if_false]
      rw [if_pos (by omega)]
      simp only [Option.some.injEq, Prod.mk.injEq, Json.int.injEq, and_true]
      omega
    · exact hhead

/-! ### Values -/

namespace Json

/-- Values that the reader gives back when `level` arrays and objects are around them. -/
inductive Fits : Nat → Json → Prop
  | null {level : Nat} : Fits level null
  | bool {level : Nat} (value : Bool) : Fits level (bool value)
  | int {level : Nat} {value : Int} (hlow : -(signLimit : Int) ≤ value)
    (hhigh : value < wordLimit) : Fits level (int value)
  | str {level : Nat} (text : String) : Fits level (str text)
  | arr {level : Nat} {items : List Json} (hlevel : level < levelLimit)
    (hitems : ∀ item ∈ items, Fits (level + 1) item) : Fits level (arr items)
  | obj {level : Nat} {members : List (String × Json)} (hlevel : level < levelLimit)
    (hmembers : ∀ member ∈ members, Fits (level + 1) member.2) : Fits level (obj members)

theorem isJsonSpace_newLine (level : Nat) : ∀ c ∈ newLine level, isJsonSpace c = true := by
  intro c hc
  rcases List.mem_cons.1 hc with rfl | hc
  · rfl
  · rw [List.eq_of_mem_replicate hc]
    rfl

theorem skipJsonSpace_append {space : List Char} (h : ∀ c ∈ space, isJsonSpace c = true)
    (text : List Char) : skipJsonSpace (space ++ text) = skipJsonSpace text :=
  List.dropWhile_append_of_pos h

theorem skipJsonSpace_cons {c : Char} (h : isJsonSpace c = false) (text : List Char) :
    skipJsonSpace (c :: text) = c :: text := by
  simp [skipJsonSpace, h]

/-- The first character of a written value is no white space and closes nothing. -/
theorem Fits.head {level : Nat} {value : Json} (h : value.Fits level) (indent : Nat) :
    ∃ c text, prettyAt indent value = c :: text ∧ isJsonSpace c = false ∧ c ≠ ']' := by
  cases h with
  | null => exact ⟨'n', _, rfl, rfl, by decide⟩
  | bool value =>
    cases value with
    | true => exact ⟨'t', _, rfl, rfl, by decide⟩
    | false => exact ⟨'f', _, rfl, rfl, by decide⟩
  | str text => exact ⟨'"', _, rfl, rfl, by decide⟩
  | int hlow hhigh =>
    simp only [prettyAt, integer]
    split
    · exact ⟨'-', _, rfl, rfl, by decide⟩
    · next value _ =>
      obtain ⟨c, digits, hcons⟩ := List.exists_cons_of_ne_nil (decimal_ne_nil value.natAbs)
      have hdigit : c.isDigit = true := isDigit_of_mem_decimal (hcons ▸ List.mem_cons_self)
      refine ⟨c, digits, hcons, ?_, by rintro rfl; exact absurd hdigit (by decide)⟩
      simp only [isJsonSpace, Bool.or_eq_false_iff, beq_eq_false_iff_ne]
      refine ⟨⟨⟨?_, ?_⟩, ?_⟩, ?_⟩ <;> rintro rfl <;> exact absurd hdigit (by decide)
  | @arr _ items hlevel hitems =>
    cases items with
    | nil => exact ⟨'[', _, rfl, rfl, by decide⟩
    | cons item items => exact ⟨'[', _, by rw [prettyAt]; rfl, rfl, by decide⟩
  | @obj _ members hlevel hmembers =>
    cases members with
    | nil => exact ⟨'{', _, rfl, rfl, by decide⟩
    | cons member members => exact ⟨'{', _, by rw [prettyAt]; rfl, rfl, by decide⟩

/-- A value is read back wherever it is written: after white space, before the end of a value, and
with fuel for its length. -/
def ReadsBack (level : Nat) (value : Json) : Prop :=
  ∀ (fuel indent : Nat) (space rest : List Char), (∀ c ∈ space, isJsonSpace c = true) →
    (prettyAt indent value).length ≤ fuel → EndsValue rest →
      readValue fuel level (space ++ (prettyAt indent value ++ rest)) = some (value, rest)

theorem readValue_skip {space : List Char} (h : ∀ c ∈ space, isJsonSpace c = true)
    (fuel level : Nat) (text : List Char) :
    readValue fuel level (space ++ text) = readValue fuel level text := by
  cases fuel with
  | zero => simp [readValue]
  | succ fuel => simp only [readValue, skipJsonSpace_append h]

/-- White space before a value is passed over, and there is fuel for its first character. -/
theorem readsBack_of {level : Nat} {value : Json} (hfits : value.Fits level)
    (h : ∀ fuel indent rest, (prettyAt indent value).length ≤ fuel + 1 → EndsValue rest →
      readValue (fuel + 1) level (prettyAt indent value ++ rest) = some (value, rest)) :
    ReadsBack level value := by
  intro fuel indent space rest hspace hfuel hrest
  obtain ⟨c, text, hhead, -, -⟩ := hfits.head indent
  obtain ⟨fuel, rfl⟩ : ∃ less, fuel = less + 1 := by
    refine ⟨fuel - 1, ?_⟩
    rw [hhead, List.length_cons] at hfuel
    omega
  rw [readValue_skip hspace]
  exact h fuel indent rest hfuel hrest

/-- What follows an item or a member: the next one, or the end of the line. -/
theorem endsValue_prettyItems (level outer : Nat) (items : List Json) (rest : List Char) :
    EndsValue (prettyItems level items ++ (newLine outer ++ rest)) := by
  cases items with
  | nil =>
    rw [prettyItems, List.nil_append]
    exact endsValue_newLine outer rest
  | cons item items =>
    simp only [prettyItems, List.cons_append]
    exact endsValue_comma _

theorem endsValue_prettyMembers (level outer : Nat) (members : List (String × Json))
    (rest : List Char) : EndsValue (prettyMembers level members ++ (newLine outer ++ rest)) := by
  cases members with
  | nil =>
    rw [prettyMembers, List.nil_append]
    exact endsValue_newLine outer rest
  | cons member members =>
    simp only [prettyMembers, List.cons_append]
    exact endsValue_comma _

theorem readItems_prettyItems {level : Nat} {items : List Json}
    (h : ∀ item ∈ items, ReadsBack level item) (fuel indent outer : Nat) (rest : List Char)
    (hfuel : (prettyItems indent items).length < fuel) :
    readItems fuel level (prettyItems indent items ++ (newLine outer ++ ']' :: rest)) =
      some (items, rest) := by
  induction items generalizing fuel with
  | nil =>
    obtain ⟨fuel, rfl⟩ : ∃ less, fuel = less + 1 := ⟨fuel - 1, by omega⟩
    simp only [prettyItems, List.nil_append, readItems,
      skipJsonSpace_append (isJsonSpace_newLine outer)]
    rfl
  | cons item items ih =>
    obtain ⟨fuel, rfl⟩ : ∃ less, fuel = less + 1 := ⟨fuel - 1, by omega⟩
    simp only [prettyItems, List.length_append, List.length_cons] at hfuel
    have hitem := h item List.mem_cons_self fuel indent (newLine indent)
      (prettyItems indent items ++ (newLine outer ++ ']' :: rest)) (isJsonSpace_newLine indent)
      (by omega) (endsValue_prettyItems indent outer items _)
    have hitems := ih (fun other hother => h other (List.mem_cons_of_mem _ hother)) fuel (by omega)
    simp only [prettyItems, List.cons_append, List.append_assoc, readItems,
      skipJsonSpace_cons (c := ',') rfl, hitem, hitems, Option.map_some]

/-- A name and a value, which are written with a colon and a blank between them. -/
theorem readMember_written {level : Nat} {value : Json} (h : ReadsBack level value) (name : String)
    (fuel indent : Nat) {rest : List Char} (hfuel : (prettyAt indent value).length ≤ fuel)
    (hrest : EndsValue rest) {space : List Char} (hspace : ∀ c ∈ space, isJsonSpace c = true) :
    readMember (fuel + 1) level
      (space ++ (jsonString name ++ ([':', ' '] ++ (prettyAt indent value ++ rest)))) =
        some ((some name.toList, value), rest) := by
  have hvalue := h fuel indent [' '] rest (by simp [isJsonSpace]) hfuel hrest
  rw [readMember, skipJsonSpace_append hspace, jsonString]
  simp only [List.cons_append, List.append_assoc, List.nil_append] at hvalue ⊢
  simp only [skipJsonSpace_cons (c := '"') rfl, readJsonString_written,
    skipJsonSpace_cons (c := ':') rfl, hvalue, Option.map_some]

theorem readMembers_prettyMembers {level : Nat} {members : List (String × Json)}
    (h : ∀ member ∈ members, ReadsBack level member.2) (fuel indent outer : Nat) (rest : List Char)
    (hfuel : (prettyMembers indent members).length < fuel) :
    readMembers fuel level (prettyMembers indent members ++ (newLine outer ++ '}' :: rest)) =
      some (members.map fun member => (some member.1.toList, member.2), rest) := by
  induction members generalizing fuel with
  | nil =>
    obtain ⟨fuel, rfl⟩ : ∃ less, fuel = less + 1 := ⟨fuel - 1, by omega⟩
    simp only [prettyMembers, List.nil_append, readMembers,
      skipJsonSpace_append (isJsonSpace_newLine outer)]
    rfl
  | cons member members ih =>
    obtain ⟨name, value⟩ := member
    simp only [prettyMembers, jsonString, List.length_append, List.length_cons] at hfuel
    obtain ⟨fuel, rfl⟩ : ∃ less, fuel = less + 2 := ⟨fuel - 2, by omega⟩
    have hvalue : ReadsBack level value := h (name, value) List.mem_cons_self
    have hmember := readMember_written hvalue name fuel indent (by omega)
      (endsValue_prettyMembers indent outer members ('}' :: rest)) (isJsonSpace_newLine indent)
    have hmembers := ih (fun other hother => h other (List.mem_cons_of_mem _ hother)) (fuel + 1)
      (by omega)
    simp only [prettyMembers, List.cons_append, List.append_assoc, List.nil_append] at hmember ⊢
    rw [readMembers, skipJsonSpace_cons (c := ',') rfl]
    simp only [hmember, hmembers, Option.map_some, List.map_cons]

theorem mapM_members (members : List (String × Json)) :
    (members.map fun member => (some member.1.toList, member.2)).mapM
      (fun member => member.1.map fun name => (String.ofList name, member.2)) = some members :=
  mapM_map_eq_some fun member _ => by simp

/-- Every value that fits is read back wherever it is written. -/
theorem Fits.readsBack {level : Nat} {value : Json} (h : value.Fits level) :
    ReadsBack level value := by
  induction h with
  | null =>
    refine readsBack_of .null fun fuel indent rest _ _ => ?_
    simp [prettyAt, readValue, skipJsonSpace, isJsonSpace, takeText?]
  | bool value =>
    refine readsBack_of (.bool value) fun fuel indent rest _ _ => ?_
    cases value <;> simp [prettyAt, readValue, skipJsonSpace, isJsonSpace, takeText?]
  | str text =>
    refine readsBack_of (.str text) fun fuel indent rest _ _ => ?_
    rw [prettyAt, jsonString, readValue]
    simp only [List.cons_append, List.append_assoc, List.nil_append,
      skipJsonSpace_cons (c := '"') rfl, readJsonString_written, Option.map_some, ofText,
      String.ofList_toList]
  | @int level value hlow hhigh =>
    have hfits : (Json.int value).Fits level := .int hlow hhigh
    refine readsBack_of hfits fun fuel indent rest _ hrest => ?_
    have hnumber := readNumber?_integer hlow hhigh hrest
    obtain ⟨c, text, hhead, hspace, -⟩ := hfits.head indent
    have hinteger : integer value = c :: text := by rw [← hhead, prettyAt]
    -- No case of the reader but the last one starts with a digit or a minus sign.
    have hfirst : c = '-' ∨ c.isDigit = true := by
      unfold integer at hinteger
      split at hinteger
      · exact .inl (List.cons.inj hinteger).1.symm
      · exact .inr (isDigit_of_mem_decimal (hinteger ▸ List.mem_cons_self))
    rw [hhead, List.cons_append, readValue, skipJsonSpace_cons hspace]
    rw [hinteger, List.cons_append] at hnumber
    split
    all_goals first
      | exact hnumber
      | next heq =>
        cases heq
        rcases hfirst with hfirst | hfirst <;> exact absurd hfirst (by decide)
  | @arr level items hlevel hitems ih =>
    refine readsBack_of (.arr hlevel hitems) fun fuel indent rest hfuel _ => ?_
    cases items with
    | nil =>
      simp [prettyAt, readValue, skipJsonSpace, isJsonSpace, ofItems, hlevel]
    | cons item items =>
      simp only [prettyAt, List.length_append, List.length_cons] at hfuel
      obtain ⟨c, text, hhead, hspace, hne⟩ := (hitems item List.mem_cons_self).head (indent + 1)
      have hitem := ih item List.mem_cons_self fuel (indent + 1) []
        (prettyItems (indent + 1) items ++ (newLine indent ++ ']' :: rest)) (by simp) (by omega)
        (endsValue_prettyItems _ _ _ _)
      have hrest := readItems_prettyItems
        (fun other hother => ih other (List.mem_cons_of_mem _ hother)) fuel (indent + 1) indent rest
        (by simp only [newLine, List.length_cons] at hfuel; omega)
      simp only [List.nil_append, hhead, List.cons_append] at hitem
      simp only [prettyAt, List.cons_append, List.append_assoc, List.nil_append, hhead]
      rw [readValue, skipJsonSpace_cons (c := '[') rfl]
      simp only [skipJsonSpace_append (isJsonSpace_newLine _), skipJsonSpace_cons hspace]
      split
      · next heq => exact absurd (List.cons.inj heq).1 hne
      · simp only [hitem, hrest, Option.map_some, ofItems, hlevel, if_true]
  | @obj level members hlevel hmembers ih =>
    refine readsBack_of (.obj hlevel hmembers) fun fuel indent rest hfuel _ => ?_
    cases members with
    | nil =>
      simp [prettyAt, readValue, skipJsonSpace, isJsonSpace, ofMembers, hlevel]
    | cons member members =>
      obtain ⟨name, value⟩ := member
      simp only [prettyAt, newLine, jsonString, List.length_append, List.length_cons] at hfuel
      obtain ⟨fuel, rfl⟩ : ∃ less, fuel = less + 1 := ⟨fuel - 1, by omega⟩
      have hvalue : ReadsBack (level + 1) value := ih (name, value) List.mem_cons_self
      have hmember := readMember_written hvalue name fuel (indent + 1) (by omega)
        (endsValue_prettyMembers (indent + 1) indent members ('}' :: rest))
        (fun c hc => absurd hc List.not_mem_nil)
      have hrest := readMembers_prettyMembers
        (fun other hother => ih other (List.mem_cons_of_mem _ hother)) (fuel + 1) (indent + 1)
        indent rest (by omega)
      have hnames := mapM_members ((name, value) :: members)
      rw [List.map_cons] at hnames
      simp only [jsonString, List.nil_append, List.cons_append, List.append_assoc] at hmember
      simp only [prettyAt, jsonString, List.cons_append, List.append_assoc, List.nil_append]
      rw [readValue, skipJsonSpace_cons (c := '{') rfl]
      simp only [skipJsonSpace_append (isJsonSpace_newLine _), skipJsonSpace_cons (c := '"') rfl]
      split
      · next heq => exact absurd (List.cons.inj heq).1 (by decide)
      · simp only [hmember, hrest, Option.map_some, ofMembers, hlevel, if_true, hnames]

/-- **Written values read back.** -/
theorem parse?_pretty {value : Json} (h : value.Fits 0) : parse? value.pretty = some value := by
  have hread := h.readsBack (2 * (prettyAt 0 value).length + 2) 0 [] [] (by simp) (by omega) .nil
  rw [List.nil_append, List.append_nil] at hread
  simp [parse?, pretty, parseChars?, hread, skipJsonSpace]

end Json

end Driftwatch
