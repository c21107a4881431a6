import Driftwatch.Proofs.Extraction
import Driftwatch.Source.Signature

/-!
# Signatures can be read back

A signature puts kind, name and number of lines side by side with separators between them and
escapes nothing. For arbitrary names that would be ambiguous. The names of extracted declarations
hold word characters only, and no separator is one, so two extracted declarations have the same
signature only if they have the same structure.

## Main definitions

* `EntityKey`: what a signature is meant to say.

## Main results

* `SignatureSet.mem_ofList`, `changesSince_isStructural_iff`: the sets behind a comparison.
* `Entity.signature_eq_iff`: signatures of declarations with proper names are faithful.
* `signature_eq_iff_key_eq`: so are the signatures of all extracted declarations, and two texts
  compare as unchanged exactly when they have the same keys.
-/

namespace Driftwatch

/-! ### Sets of signatures -/

theorem mem_insertText_iff {text x : String} {list : List String} :
    x ∈ insertText text list ↔ x = text ∨ x ∈ list := by
  refine ⟨mem_insertText, fun h => ?_⟩
  induction list with
  | nil => simpa [insertText] using h
  | cons head tail ih =>
    simp only [insertText]
    split
    · simpa using h
    · next hle =>
      split
      · rcases h with rfl | h
        · exact List.mem_cons_of_mem _ (ih (.inl rfl))
        · rcases List.mem_cons.1 h with rfl | h
          · exact List.mem_cons_self
          · exact List.mem_cons_of_mem _ (ih (.inr h))
      · next hge =>
        -- Neither text comes before the other one, so they are the same.
        have heq : text = head := String.le_antisymm (String.not_lt.1 hge) (String.not_lt.1 hle)
        rcases h with rfl | h
        · exact heq ▸ List.mem_cons_self
        · exact h

namespace SignatureSet

theorem mem_ofList {x : String} {list : List String} : x ∈ (ofList list).items ↔ x ∈ list := by
  induction list with
  | nil => simp [ofList, empty]
  | cons text list ih =>
    rw [List.mem_cons, ← ih]
    exact mem_insertText_iff

/-- A set less another one is empty when the other one holds all members. -/
theorem isEmpty_diff {set other : SignatureSet} :
    (set.diff other).isEmpty = true ↔ ∀ x ∈ set.items, x ∈ other.items := by
  simp [diff, filter, isEmpty, contains]

end SignatureSet

theorem changesSince_isStructural_iff {current previous : Extraction} :
    (current.changesSince previous).isStructural = false ↔
      ∀ x, x ∈ current.signatures.items ↔ x ∈ previous.signatures.items := by
  simp only [EntityChanges.isStructural, Extraction.changesSince, Bool.or_eq_false_iff,
    Bool.not_eq_false', SignatureSet.isEmpty_diff]
  exact ⟨fun h x => ⟨h.1 x, h.2 x⟩, fun h => ⟨fun x => (h x).1, fun x => (h x).2⟩⟩

/-! ### Keys -/

/-- Kind, name and number of lines of a function. -/
structure FunctionKey where
  kind : FunctionKind
  name : String
  span : Nat
  deriving Repr, DecidableEq

/-- What a signature is meant to say: which sort of declaration it is, its kind, its name, its
number of lines, and for a class the same of each method in order. -/
inductive EntityKey where
  | function (key : FunctionKey)
  | classLike (kind : ClassKind) (name : String) (span : Nat) (methods : List FunctionKey)
  deriving Repr, DecidableEq

/-- The key of a function. -/
def FunctionEntity.key (entity : FunctionEntity) : FunctionKey :=
  ⟨entity.kind, entity.name, entity.span⟩

/-- The key of a declaration. -/
def Entity.key : Entity → EntityKey
  | .function entity => .function entity.key
  | .classLike entity =>
    .classLike entity.kind entity.name entity.span (entity.methods.map FunctionEntity.key)

/-! ### Separators -/

/-- The characters that signatures put between their parts. -/
def isSeparator (c : Char) : Prop :=
  c = ':' ∨ c = ','

theorem FunctionKind.separator_not_mem_tag {c : Char} (h : isSeparator c) (kind : FunctionKind) :
    c ∉ kind.tag.toList := by
  rcases h with rfl | rfl <;> cases kind <;> decide

theorem ClassKind.separator_not_mem_tag {c : Char} (h : isSeparator c) (kind : ClassKind) :
    c ∉ kind.tag.toList := by
  rcases h with rfl | rfl <;> cases kind <;> decide

theorem IsWordText.separator_not_mem {c : Char} (h : isSeparator c) {text : List Char}
    (htext : IsWordText text) : c ∉ text := by
  intro hmem
  have hword := htext c hmem
  rcases h with rfl | rfl <;> revert hword <;> decide

theorem separator_not_mem_toDigits {c : Char} (h : isSeparator c) (n : Nat) :
    c ∉ Nat.toDigits 10 n := by
  intro hmem
  have hdigit := Nat.isDigit_of_mem_toDigits (by decide) (by decide) hmem
  rcases h with rfl | rfl <;> revert hdigit <;> decide

theorem toDigits_injective {m n : Nat} (h : Nat.toDigits 10 m = Nat.toDigits 10 n) : m = n := by
  rw [← Nat.ofDigitChars_ten_toDigits (n := m), h, Nat.ofDigitChars_ten_toDigits]

/-! ### Reading a signature back -/

theorem FunctionEntity.toList_signature (entity : FunctionEntity) :
    entity.signature.toList = entity.kind.tag.toList ++ ':' :: (entity.name.toList ++
      ':' :: Nat.toDigits 10 entity.span) := by
  simp [FunctionEntity.signature]

theorem ClassEntity.toList_signature (entity : ClassEntity) :
    entity.signature.toList = entity.kind.tag.toList ++ ':' :: (entity.name.toList ++
      ':' :: (Nat.toDigits 10 entity.span ++ ':' :: ('{' :: ([','].intercalate
        (entity.methods.map (·.signature.toList)) ++ ['}'])))) := by
  simp [ClassEntity.signature, Function.comp_def]

/-- The parts of a function's signature. -/
theorem FunctionEntity.splitOn_signature {entity : FunctionEntity}
    (hname : IsWordText entity.name.toList) :
    entity.signature.toList.splitOn ':' =
      [entity.kind.tag.toList, entity.name.toList, Nat.toDigits 10 entity.span] := by
  have hcolon : isSeparator ':' := .inl rfl
  rw [toList_signature,
    List.splitOn_append_cons_self_of_not_mem (entity.kind.separator_not_mem_tag hcolon),
    List.splitOn_append_cons_self_of_not_mem (hname.separator_not_mem hcolon),
    List.splitOn_eq_singleton (separator_not_mem_toDigits hcolon _)]

/-- The parts of a class's signature, the list of methods not taken apart. -/
theorem ClassEntity.splitOn_signature {entity : ClassEntity}
    (hname : IsWordText entity.name.toList) :
    entity.signature.toList.splitOn ':' =
      entity.kind.tag.toList :: entity.name.toList :: Nat.toDigits 10 entity.span ::
        ('{' :: ([','].intercalate (entity.methods.map (·.signature.toList)) ++
          ['}'])).splitOn ':' := by
  have hcolon : isSeparator ':' := .inl rfl
  rw [toList_signature,
    List.splitOn_append_cons_self_of_not_mem (entity.kind.separator_not_mem_tag hcolon),
    List.splitOn_append_cons_self_of_not_mem (hname.separator_not_mem hcolon),
    List.splitOn_append_cons_self_of_not_mem (separator_not_mem_toDigits hcolon _)]

theorem FunctionEntity.signature_eq_iff {a b : FunctionEntity} (ha : IsWordText a.name.toList)
    (hb : IsWordText b.name.toList) : a.signature = b.signature ↔ a.key = b.key := by
  constructor
  · intro h
    have hparts := splitOn_signature ha
    rw [h, splitOn_signature hb] at hparts
    simp only [List.cons.injEq, and_true, String.toList_inj] at hparts
    obtain ⟨hkind, hname, hspan⟩ := hparts
    simp only [key, FunctionKind.tag_injective hkind, hname, toDigits_injective hspan]
  · intro h
    simp only [key, FunctionKey.mk.injEq] at h
    simp only [signature, h.1, h.2.1, h.2.2]

theorem FunctionEntity.comma_not_mem_signature {entity : FunctionEntity}
    (hname : IsWordText entity.name.toList) : ',' ∉ entity.signature.toList := by
  have hcomma : isSeparator ',' := .inr rfl
  simp [toList_signature, entity.kind.separator_not_mem_tag hcomma, hname.separator_not_mem hcomma,
    separator_not_mem_toDigits hcomma]

/-- A joined list can be taken apart, when its members are not empty and do not hold the mark that
joins them. -/
theorem intercalate_inj {c : Char} {xs ys : List (List Char)} (hx : ∀ x ∈ xs, c ∉ x ∧ x ≠ [])
    (hy : ∀ y ∈ ys, c ∉ y ∧ y ≠ []) (h : [c].intercalate xs = [c].intercalate ys) : xs = ys := by
  have hempty : ∀ zs : List (List Char), (∀ z ∈ zs, c ∉ z ∧ z ≠ []) → [c].intercalate zs = [] →
      zs = [] := by
    intro zs hz hnil
    by_contra hne
    have hsplit := List.splitOn_intercalate c (fun z hmem => (hz z hmem).1) hne
    rw [hnil] at hsplit
    exact (hz [] (hsplit ▸ List.mem_singleton_self [])).2 rfl
  by_cases hxs : xs = []
  · subst hxs
    exact (hempty ys hy h.symm).symm
  · by_cases hys : ys = []
    · subst hys
      exact hempty xs hx h
    · rw [← List.splitOn_intercalate c (fun x hmem => (hx x hmem).1) hxs, h,
        List.splitOn_intercalate c (fun y hmem => (hy y hmem).1) hys]

theorem map_signature_eq_iff {a b : List FunctionEntity}
    (ha : ∀ entity ∈ a, IsWordText entity.name.toList)
    (hb : ∀ entity ∈ b, IsWordText entity.name.toList) :
    a.map FunctionEntity.signature = b.map FunctionEntity.signature ↔
      a.map FunctionEntity.key = b.map FunctionEntity.key := by
  induction a generalizing b with
  | nil => simp [eq_comm]
  | cons x a ih =>
    cases b with
    | nil => simp
    | cons y b =>
      have hhead := FunctionEntity.signature_eq_iff (ha x List.mem_cons_self)
        (hb y List.mem_cons_self)
      have htail := ih (fun e he => ha e (List.mem_cons_of_mem _ he))
        fun e he => hb e (List.mem_cons_of_mem _ he)
      simp only [List.map_cons, List.cons.injEq, hhead, htail]

/-- The list of methods in a signature can be taken apart. -/
theorem map_signature_of_intercalate_eq {a b : List FunctionEntity}
    (ha : ∀ entity ∈ a, IsWordText entity.name.toList)
    (hb : ∀ entity ∈ b, IsWordText entity.name.toList)
    (h : [','].intercalate (a.map (·.signature.toList)) =
      [','].intercalate (b.map (·.signature.toList))) :
    a.map FunctionEntity.signature = b.map FunctionEntity.signature := by
  have hproper : ∀ methods : List FunctionEntity, (∀ m ∈ methods, IsWordText m.name.toList) →
      ∀ text ∈ methods.map (·.signature.toList), ',' ∉ text ∧ text ≠ [] := by
    intro methods hnames text htext
    obtain ⟨m, hm, rfl⟩ := List.mem_map.1 htext
    exact ⟨FunctionEntity.comma_not_mem_signature (hnames m hm),
      by simp [FunctionEntity.toList_signature]⟩
  have hlists := intercalate_inj (hproper a ha) (hproper b hb) h
  simpa [Function.comp_def] using congrArg (List.map String.ofList) hlists

/-- A function's signature has three parts, that of a class at least four. -/
theorem FunctionEntity.signature_ne {a : FunctionEntity} {b : ClassEntity}
    (ha : IsWordText a.name.toList) (hb : IsWordText b.name.toList) :
    a.signature ≠ b.signature := by
  intro h
  have hparts := splitOn_signature ha
  rw [h, ClassEntity.splitOn_signature hb] at hparts
  simp at hparts

/-! ### Extracted declarations -/

/-- All names of a declaration are words. -/
def Entity.IsNamed : Entity → Prop
  | .function entity => IsWordText entity.name.toList
  | .classLike entity => IsWordText entity.name.toList ∧
      ∀ method ∈ entity.methods, IsWordText method.name.toList

theorem ClassEntity.signature_eq_iff {a b : ClassEntity} (ha : (Entity.classLike a).IsNamed)
    (hb : (Entity.classLike b).IsNamed) :
    a.signature = b.signature ↔ (Entity.classLike a).key = (Entity.classLike b).key := by
  simp only [Entity.key, EntityKey.classLike.injEq]
  constructor
  · intro h
    have hparts := splitOn_signature ha.1
    rw [h, splitOn_signature hb.1] at hparts
    simp only [List.cons.injEq, String.toList_inj] at hparts
    obtain ⟨hkind, hname, hspan, -⟩ := hparts
    have hchars := congrArg String.toList h
    rw [toList_signature, toList_signature, hkind, hname, hspan] at hchars
    -- What is left of the two texts are the lists of methods in their braces.
    simp only [List.append_cancel_left_eq, List.cons.injEq, true_and,
      List.append_cancel_right_eq] at hchars
    have hmethods := map_signature_of_intercalate_eq ha.2 hb.2 hchars
    exact ⟨(ClassKind.tag_injective hkind).symm, hname.symm, (toDigits_injective hspan).symm,
      (map_signature_eq_iff ha.2 hb.2).1 hmethods⟩
  · rintro ⟨hkind, hname, hspan, hmethods⟩
    simp only [signature, hkind, hname, hspan, (map_signature_eq_iff ha.2 hb.2).2 hmethods]

/-- Two declarations with proper names have the same signature when they have the same key. -/
theorem Entity.signature_eq_iff {a b : Entity} (ha : a.IsNamed) (hb : b.IsNamed) :
    a.signature = b.signature ↔ a.key = b.key := by
  match a, b with
  | .function a, .function b =>
    simpa [key, signature] using FunctionEntity.signature_eq_iff ha hb
  | .classLike a, .classLike b => exact ClassEntity.signature_eq_iff ha hb
  | .function a, .classLike b =>
    have hne := FunctionEntity.signature_ne ha hb.1
    simp [signature, key, hne]
  | .classLike a, .function b =>
    have hne := FunctionEntity.signature_ne hb ha.1
    simp [signature, key, hne.symm]

/-- All names in an extraction are words, whatever form they were found by. -/
theorem isNamed_of_mem_extract {text : String} {entity : Entity}
    (h : entity ∈ (extract text).entities) : entity.IsNamed := by
  obtain ⟨number, line, -, -, -, hentity⟩ := mem_extractLines h
  rcases mem_entitiesOn.1 hentity with ⟨found, hfound, rfl⟩ | ⟨found, hfound, rfl⟩
  · exact functionOn?_name hfound
  · refine ⟨classOn?_name hfound, fun method hmethod => ?_⟩
    simp only [classEntity] at hmethod
    split at hmethod
    · obtain ⟨_, _, declared, -, -, -, hdeclared, rfl⟩ := mem_methodsBetween hmethod
      exact methodOn?_name hdeclared
    · exact absurd hmethod List.not_mem_nil

/-- **Signatures are faithful.** Two extracted declarations have the same signature exactly when
they are of the same sort and have the same kind, name and number of lines, and the same of all
methods. So two texts compare as structurally unchanged exactly when they have the same keys. -/
theorem signature_eq_iff_key_eq (text₁ text₂ : String) :
    (∀ a ∈ (extract text₁).entities, ∀ b ∈ (extract text₂).entities,
      a.signature = b.signature ↔ a.key = b.key) ∧
    (((extract text₁).changesSince (extract text₂)).isStructural = false ↔
      ∀ key, key ∈ (extract text₁).entities.map Entity.key ↔
        key ∈ (extract text₂).entities.map Entity.key) := by
  have hfaithful : ∀ a ∈ (extract text₁).entities, ∀ b ∈ (extract text₂).entities,
      a.signature = b.signature ↔ a.key = b.key := fun a ha b hb =>
    Entity.signature_eq_iff (isNamed_of_mem_extract ha) (isNamed_of_mem_extract hb)
  refine ⟨hfaithful, ?_⟩
  simp only [changesSince_isStructural_iff, Extraction.signatures, SignatureSet.mem_ofList,
    List.mem_map]
  constructor
  · intro h key
    constructor
    · rintro ⟨a, ha, rfl⟩
      obtain ⟨b, hb, hsame⟩ := (h a.signature).1 ⟨a, ha, rfl⟩
      exact ⟨b, hb, ((hfaithful a ha b hb).1 hsame.symm).symm⟩
    · rintro ⟨b, hb, rfl⟩
      obtain ⟨a, ha, hsame⟩ := (h b.signature).2 ⟨b, hb, rfl⟩
      exact ⟨a, ha, (hfaithful a ha b hb).1 hsame⟩
  · intro h text
    constructor
    · rintro ⟨a, ha, rfl⟩
      obtain ⟨b, hb, hsame⟩ := (h a.key).1 ⟨a, ha, rfl⟩
      exact ⟨b, hb, ((hfaithful a ha b hb).2 hsame.symm).symm⟩
    · rintro ⟨b, hb, rfl⟩
      obtain ⟨a, ha, hsame⟩ := (h b.key).2 ⟨b, hb, rfl⟩
      exact ⟨a, ha, (hfaithful a ha b hb).2 hsame⟩

/-- A class with one method on its four lines. -/
def classText : String :=
  "class A \x7b\n f() \x7b\n \x7d\n\x7d"

/-- A class that only moved keeps its signature, and it does not have the signature of its
method. -/
theorem signature_eq_iff_key_eq_moved :
    let before := Entity.classLike ⟨"A", .plainClass, 1, 4, [⟨"f", .method, 2, 3, []⟩]⟩
    let after := Entity.classLike ⟨"A", .plainClass, 2, 5, [⟨"f", .method, 3, 4, []⟩]⟩
    let method := Entity.function ⟨"f", .method, 3, 4, []⟩
    before ∈ (extract classText).entities ∧ after ∈ (extract ("\n" ++ classText)).entities ∧
      method ∈ (extract ("\n" ++ classText)).entities ∧
      before.signature = after.signature ∧ before.signature ≠ method.signature := by
  intro before after method
  have hbefore : before ∈ (extract classText).entities := by decide
  have hafter : after ∈ (extract ("\n" ++ classText)).entities := by decide
  have hmethod : method ∈ (extract ("\n" ++ classText)).entities := by decide
  have hfaithful := (signature_eq_iff_key_eq classText ("\n" ++ classText)).1 before hbefore
  refine ⟨hbefore, hafter, hmethod, (hfaithful after hafter).2 rfl, fun h => ?_⟩
  exact absurd ((hfaithful method hmethod).1 h) (by decide)

end Driftwatch
