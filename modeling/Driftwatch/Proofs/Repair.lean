import Mathlib.Algebra.GroupWithZero.Nat
import Driftwatch.Proofs.Splitting
import Driftwatch.Text.Utf8

/-!
# Bytes that are shown as a text

Bytes that encode a text are shown as this text, and each fault in other bytes is shown as U+FFFD.
What is shown does not determine the bytes. But a byte below 0x80 is a character of its own: it is
shown wherever it stands, it is never part of a longer character, and it separates what is shown of
the bytes before it from what is shown of the bytes behind it.

## The shape of the argument

All that is said of whole byte sequences is an induction over single steps. A step takes at least
one byte and no more than there are (`width_stepUtf8_le`), and a byte below 0x80 behind the bytes
that it takes does not change it but for the kind of a fault (`stepUtf8_append`). A character below
U+0080 is only made of its own byte, since the ranges of the first two bytes exclude every longer
form of it (`isValidChar_of_lead`, `toNat_lt_of_shown`). The bytes of a character are read back as
the character (`stepUtf8_utf8EncodeChar`).

## Main results

* `repairFrom_utf8Encode`: the bytes of a text are shown as the text.
* `repairFrom_append_cons`, `splitOn_repairFrom`: a byte below 0x80 separates.
* `exists_mem_of_mem_repairFrom`, `map_ofNat_eq_repairFrom`: where such a byte is shown.
* `toList_repairUtf8`: what is shown of the bytes of a file.
-/

namespace Driftwatch

/-! ### Bytes as numbers -/

theorem leadWidth?_eq (b : UInt8) : leadWidth? b =
    if b.toNat ≤ 0x7F then some 1
    else if 0xC2 ≤ b.toNat ∧ b.toNat ≤ 0xDF then some 2
    else if 0xE0 ≤ b.toNat ∧ b.toNat ≤ 0xEF then some 3
    else if 0xF0 ≤ b.toNat ∧ b.toNat ≤ 0xF4 then some 4
    else none := by
  simp only [leadWidth?, UInt8.le_iff_toNat_le, Bool.and_eq_true, decide_eq_true_eq,
    UInt8.reduceToNat]

theorem isContinuation_iff {b : UInt8} :
    isContinuation b = true ↔ 0x80 ≤ b.toNat ∧ b.toNat ≤ 0xBF := by
  simp only [isContinuation, UInt8.le_iff_toNat_le, Bool.and_eq_true, decide_eq_true_eq,
    UInt8.reduceToNat]

/-- The bytes that may stand second. -/
theorem secondByteRange_iff {b second : UInt8} :
    (secondByteRange b).1 ≤ second ∧ second ≤ (secondByteRange b).2 ↔
      (0x80 ≤ second.toNat ∧ second.toNat ≤ 0xBF) ∧
      (b.toNat = 0xE0 → 0xA0 ≤ second.toNat) ∧ (b.toNat = 0xED → second.toNat ≤ 0x9F) ∧
      (b.toNat = 0xF0 → 0x90 ≤ second.toNat) ∧ (b.toNat = 0xF4 → second.toNat ≤ 0x8F) := by
  unfold secondByteRange
  simp only [beq_iff_eq, ← UInt8.toNat_inj, UInt8.reduceToNat]
  split
  · simp only [UInt8.le_iff_toNat_le, UInt8.reduceToNat]
    omega
  · split
    · simp only [UInt8.le_iff_toNat_le, UInt8.reduceToNat]
      omega
    · split
      · simp only [UInt8.le_iff_toNat_le, UInt8.reduceToNat]
        omega
      · split
        all_goals
          simp only [UInt8.le_iff_toNat_le, UInt8.reduceToNat]
          omega

theorem toNat_ofNat_of_isValidChar {n : Nat} (h : n.isValidChar) : (Char.ofNat n).toNat = n := by
  rw [Char.ofNat, dif_pos h]
  rfl

/-! ### Single steps -/

theorem stepUtf8_of_lt {b : UInt8} (h : b.toNat < 0x80) (rest : List UInt8) :
    stepUtf8 b rest = .char (Char.ofNat b.toNat) 1 := by
  have hwidth : leadWidth? b = some 1 := by
    rw [leadWidth?_eq, if_pos (by omega)]
  rw [stepUtf8, hwidth]
  rfl

theorem continueUtf8_append (missing taken bits : Nat) (rest : List UInt8) {x : UInt8}
    (hx : isContinuation x = false) (more : List UInt8) :
    (continueUtf8 missing taken bits (rest ++ x :: more)).shown =
        (continueUtf8 missing taken bits rest).shown ∧
      (continueUtf8 missing taken bits (rest ++ x :: more)).width =
        (continueUtf8 missing taken bits rest).width := by
  induction rest generalizing missing taken bits with
  | nil =>
    cases missing with
    | zero => exact ⟨rfl, rfl⟩
    | succ missing => simp [continueUtf8, hx, Utf8Step.shown, Utf8Step.width]
  | cons b rest ih =>
    cases missing with
    | zero => exact ⟨rfl, rfl⟩
    | succ missing =>
      by_cases hb : isContinuation b = true
      · simp only [List.cons_append, continueUtf8, hb, if_true]
        exact ih _ _ _
      · simp [continueUtf8, hb]

/-- A byte that is a character of its own cuts what is before it off. -/
theorem stepUtf8_append (b : UInt8) (rest : List UInt8) {x : UInt8} (hx : x.toNat < 0x80)
    (more : List UInt8) :
    (stepUtf8 b (rest ++ x :: more)).shown = (stepUtf8 b rest).shown ∧
      (stepUtf8 b (rest ++ x :: more)).width = (stepUtf8 b rest).width := by
  have hcontinues : isContinuation x = false := by
    rw [Bool.eq_false_iff, Ne, isContinuation_iff]
    omega
  have hsecond : ¬((secondByteRange b).1 ≤ x ∧ x ≤ (secondByteRange b).2) := by
    rw [secondByteRange_iff]
    omega
  unfold stepUtf8
  split
  · exact ⟨rfl, rfl⟩
  · exact ⟨rfl, rfl⟩
  · next width _ =>
    cases rest with
    | nil =>
      simp only [List.nil_append, Bool.and_eq_true, decide_eq_true_eq]
      rw [if_neg hsecond]
      exact ⟨rfl, rfl⟩
    | cons second rest =>
      simp only [List.cons_append, Bool.and_eq_true, decide_eq_true_eq]
      split
      · exact continueUtf8_append _ _ _ rest hcontinues more
      · exact ⟨rfl, rfl⟩

theorem width_continueUtf8_le (missing taken bits : Nat) (rest : List UInt8) :
    (continueUtf8 missing taken bits rest).width ≤ taken + rest.length := by
  induction rest generalizing missing taken bits with
  | nil =>
    unfold continueUtf8
    split <;> exact Nat.le_refl _
  | cons b rest ih =>
    cases missing with
    | zero => exact Nat.le_add_right _ _
    | succ missing =>
      rw [continueUtf8, List.length_cons]
      split
      · have hrest := ih missing (taken + 1) (bits * 0x40 + b.toNat % 0x40)
        omega
      · exact Nat.le_add_right _ _

/-- A step takes no more bytes than there are. -/
theorem width_stepUtf8_le (b : UInt8) (rest : List UInt8) :
    (stepUtf8 b rest).width ≤ rest.length + 1 := by
  unfold stepUtf8
  split
  · exact Nat.le_add_left _ _
  · exact Nat.le_add_left _ _
  · next width _ _ =>
    cases rest with
    | nil => exact Nat.le_refl _
    | cons second rest =>
      simp only []
      split
      · have hrest := width_continueUtf8_le (width - 2) 2
          (leadBits b width * 0x40 + second.toNat % 0x40) rest
        rw [List.length_cons]
        omega
      · exact Nat.le_add_left _ _

/-- The character of a step that is read to its end has the bits that were read before as its first
ones. -/
theorem continueUtf8_eq_char {missing taken bits width : Nat} {rest : List UInt8} {c : Char}
    (h : continueUtf8 missing taken bits rest = .char c width) :
    ∃ low < 64 ^ missing, c = Char.ofNat (bits * 64 ^ missing + low) := by
  induction rest generalizing missing taken bits with
  | nil =>
    unfold continueUtf8 at h
    split at h
    · next hzero =>
      subst hzero
      cases h
      exact ⟨0, by decide, by simp⟩
    · cases h
  | cons b rest ih =>
    cases missing with
    | zero =>
      cases h
      exact ⟨0, by decide, by simp⟩
    | succ missing =>
      rw [continueUtf8] at h
      split at h
      · obtain ⟨low, hlow, hc⟩ := ih h
        refine ⟨b.toNat % 64 * 64 ^ missing + low, ?_, ?_⟩
        · have hbits : b.toNat % 64 < 64 := Nat.mod_lt _ (by decide)
          calc b.toNat % 64 * 64 ^ missing + low
              < b.toNat % 64 * 64 ^ missing + 64 ^ missing := Nat.add_lt_add_left hlow _
            _ = (b.toNat % 64 + 1) * 64 ^ missing := by rw [Nat.add_mul, Nat.one_mul]
            _ ≤ 64 * 64 ^ missing := Nat.mul_le_mul_right _ hbits
            _ = 64 ^ (missing + 1) := by rw [Nat.pow_succ, Nat.mul_comm]
        · rw [hc]
          congr 1
          rw [Nat.pow_succ, Nat.add_mul, Nat.mul_assoc, Nat.mul_comm 64, Nat.add_assoc]
      · cases h

/-- The bits of the first two bytes of a character give no short form and no gap of the code. -/
theorem isValidChar_of_lead {b second : UInt8} {width low : Nat} (h : leadWidth? b = some width)
    (hone : width ≠ 1) (hlow : low < 64 ^ (width - 2))
    (hsecond : (secondByteRange b).1 ≤ second ∧ second ≤ (secondByteRange b).2) :
    0x80 ≤ (leadBits b width * 0x40 + second.toNat % 0x40) * 64 ^ (width - 2) + low ∧
      Nat.isValidChar
        ((leadBits b width * 0x40 + second.toNat % 0x40) * 64 ^ (width - 2) + low) := by
  rw [secondByteRange_iff] at hsecond
  rw [leadWidth?_eq] at h
  unfold Nat.isValidChar
  split at h
  · cases h
    exact absurd rfl hone
  · split at h
    · cases h
      simp only [leadBits] at hlow ⊢
      omega
    · split at h
      · cases h
        simp only [leadBits] at hlow ⊢
        omega
      · split at h
        · cases h
          simp only [leadBits] at hlow ⊢
          omega
        · cases h

/-- A character of one byte comes from that byte. -/
theorem toNat_lt_of_shown {b : UInt8} {rest : List UInt8}
    (h : (stepUtf8 b rest).shown.toNat < 0x80) : b.toNat < 0x80 := by
  refine Nat.lt_of_not_le fun hb => ?_
  have hreplaced : ¬ '\uFFFD'.toNat < 0x80 := by decide
  unfold stepUtf8 at h
  split at h
  · exact hreplaced h
  · next hwidth =>
    rw [leadWidth?_eq, if_neg (by omega)] at hwidth
    split at hwidth
    · cases hwidth
    · split at hwidth
      · cases hwidth
      · split at hwidth <;> cases hwidth
  · next width hone hwidth =>
    cases rest with
    | nil => exact hreplaced h
    | cons second rest =>
      simp only [Bool.and_eq_true, decide_eq_true_eq] at h
      split at h
      · next hsecond =>
        generalize hstep : continueUtf8 (width - 2) 2
          (leadBits b width * 0x40 + second.toNat % 0x40) rest = step at h
        cases step with
        | char c taken =>
          obtain ⟨low, hlow, rfl⟩ := continueUtf8_eq_char hstep
          obtain ⟨hle, hvalid⟩ :=
            isValidChar_of_lead hwidth (fun heq => hone (heq ▸ rfl)) hlow hsecond
          rw [Utf8Step.shown, toNat_ofNat_of_isValidChar hvalid] at h
          omega
        | invalid taken => exact hreplaced h
        | cut taken => exact hreplaced h
      · exact hreplaced h

theorem continueUtf8_append_of_forall {tail : List UInt8}
    (h : ∀ b ∈ tail, isContinuation b = true) (taken bits : Nat) (more : List UInt8) :
    continueUtf8 tail.length taken bits (tail ++ more) =
      .char (Char.ofNat (tail.foldl (fun bits b => bits * 64 + b.toNat % 64) bits))
        (taken + tail.length) := by
  induction tail generalizing taken bits with
  | nil =>
    cases more with
    | nil => rfl
    | cons b more => rfl
  | cons b tail ih =>
    obtain ⟨hb, htail⟩ := List.forall_mem_cons.1 h
    rw [List.length_cons, List.cons_append, continueUtf8, if_pos hb, ih htail, List.foldl_cons,
      Nat.add_assoc, Nat.add_comm 1]

/-- A character of more than one byte is read from bytes in their ranges. -/
theorem stepUtf8_of_lead {b second : UInt8} (tail : List UInt8)
    (hlead : leadWidth? b = some (tail.length + 2))
    (hsecond : (secondByteRange b).1 ≤ second ∧ second ≤ (secondByteRange b).2)
    (htail : ∀ b ∈ tail, isContinuation b = true) (more : List UInt8) :
    stepUtf8 b (second :: tail ++ more) =
      .char (Char.ofNat (tail.foldl (fun bits b => bits * 64 + b.toNat % 64)
        (leadBits b (tail.length + 2) * 64 + second.toNat % 64))) (tail.length + 2) := by
  rw [stepUtf8, hlead]
  simp only [List.cons_append, Bool.and_eq_true, decide_eq_true_eq]
  rw [if_pos hsecond, Nat.add_sub_cancel, continueUtf8_append_of_forall htail, Nat.add_comm 2]

/-- A character is read back from its bytes, whatever follows. -/
theorem stepUtf8_utf8EncodeChar (c : Char) (more : List UInt8) :
    ∃ b rest, String.utf8EncodeChar c = b :: rest ∧
      stepUtf8 b (rest ++ more) = .char c (rest.length + 1) := by
  have hvalid : c.toNat < 0xD800 ∨ 0xDFFF < c.toNat ∧ c.toNat < 0x110000 := c.valid
  have hval : c.val.toNat = c.toNat := rfl
  have hc : Char.ofNat c.toNat = c := c.ofNat_toNat
  have hbyte : ∀ n < 256, (UInt8.ofNat n).toNat = n := fun n hn => by
    rw [UInt8.toNat_ofNat', Nat.mod_eq_of_lt hn]
  simp only [String.utf8EncodeChar, hval]
  generalize c.toNat = n at hvalid hc
  have hlast := hbyte (n % 64 + 128) (by omega)
  have hmiddle := hbyte (n / 64 % 64 + 128) (by omega)
  have hthird := hbyte (n / 4096 % 64 + 128) (by omega)
  split
  · next hone =>
    refine ⟨_, _, rfl, ?_⟩
    rw [stepUtf8_of_lt (by rw [hbyte n (by omega)]; omega), hbyte n (by omega), hc]
    rfl
  · split
    · next htwo =>
      have hlead := hbyte (n / 64 % 32 + 192) (by omega)
      refine ⟨_, _, rfl, (stepUtf8_of_lead [] ?_ ?_ (List.forall_mem_nil _) more).trans ?_⟩
      · rw [leadWidth?_eq, hlead, if_neg (by omega), if_pos (by omega)]
        rfl
      · rw [secondByteRange_iff, hlead, hlast]
        omega
      · simp only [List.length_nil, List.length_cons, List.foldl_nil, leadBits, hlead, hlast]
        rw [show (n / 64 % 32 + 192) % 32 * 64 + (n % 64 + 128) % 64 = n by omega, hc]
    · split
      · next hthree =>
        have hlead := hbyte (n / 4096 % 16 + 224) (by omega)
        refine ⟨_, _, rfl, (stepUtf8_of_lead [_] ?_ ?_ ?_ more).trans ?_⟩
        · rw [leadWidth?_eq, hlead, if_neg (by omega), if_neg (by omega), if_pos (by omega)]
          rfl
        · rw [secondByteRange_iff, hlead, hmiddle]
          omega
        · rw [List.forall_mem_singleton, isContinuation_iff, hlast]
          omega
        · simp only [List.length_nil, List.length_cons, List.foldl_cons, List.foldl_nil, leadBits,
            hlead, hmiddle, hlast]
          rw [show ((n / 4096 % 16 + 224) % 16 * 64 + (n / 64 % 64 + 128) % 64) * 64 +
            (n % 64 + 128) % 64 = n by omega, hc]
      · next hfour =>
        have hlead := hbyte (n / 262144 % 8 + 240) (by omega)
        refine ⟨_, _, rfl, (stepUtf8_of_lead [_, _] ?_ ?_ ?_ more).trans ?_⟩
        · rw [leadWidth?_eq, hlead, if_neg (by omega), if_neg (by omega), if_neg (by omega),
            if_pos (by omega)]
          rfl
        · rw [secondByteRange_iff, hlead, hthird]
          omega
        · rw [List.forall_mem_cons, List.forall_mem_singleton, isContinuation_iff,
            isContinuation_iff, hmiddle, hlast]
          omega
        · simp only [List.length_nil, List.length_cons, List.foldl_cons, List.foldl_nil, leadBits,
            hlead, hthird, hmiddle, hlast]
          rw [show (((n / 262144 % 8 + 240) % 8 * 64 + (n / 4096 % 64 + 128) % 64) * 64 +
            (n / 64 % 64 + 128) % 64) * 64 + (n % 64 + 128) % 64 = n by omega, hc]

/-! ### Repairs -/

theorem repairFrom_eq_drop (count : Nat) (bytes : List UInt8) :
    repairFrom count bytes = repairFrom 0 (bytes.drop count) := by
  induction bytes generalizing count with
  | nil => rw [List.drop_nil, repairFrom, repairFrom]
  | cons b bytes ih =>
    cases count with
    | zero => rfl
    | succ count => rw [repairFrom, ih, List.drop_succ_cons]

/-- Bytes that encode a text are shown as this text. -/
theorem repairFrom_utf8Encode (text : List Char) :
    repairFrom 0 (text.flatMap String.utf8EncodeChar) = text := by
  induction text with
  | nil => rfl
  | cons c text ih =>
    obtain ⟨b, rest, hencode, hstep⟩ :=
      stepUtf8_utf8EncodeChar c (text.flatMap String.utf8EncodeChar)
    rw [List.flatMap_cons, hencode, List.cons_append, repairFrom, hstep]
    simp only [Utf8Step.shown, Utf8Step.width, Nat.add_sub_cancel]
    rw [repairFrom_eq_drop, List.drop_left, ih]

/-- **A byte that is a character of its own separates** what is shown of the bytes around it. -/
theorem repairFrom_append_cons {x : UInt8} (hx : x.toNat < 0x80) (right : List UInt8)
    {left : List UInt8} {count : Nat} (hcount : count ≤ left.length) :
    repairFrom count (left ++ x :: right) =
      repairFrom count left ++ Char.ofNat x.toNat :: repairFrom 0 right := by
  induction left generalizing count with
  | nil =>
    obtain rfl := Nat.le_zero.1 hcount
    show (stepUtf8 x right).shown :: repairFrom ((stepUtf8 x right).width - 1) right = _
    rw [stepUtf8_of_lt hx]
    rfl
  | cons b left ih =>
    cases count with
    | zero =>
      obtain ⟨hshown, hwidth⟩ := stepUtf8_append b left hx right
      have hle := width_stepUtf8_le b left
      rw [List.cons_append, repairFrom, hshown, hwidth, ih (by omega), repairFrom]
      rfl
    | succ count =>
      rw [List.cons_append, repairFrom, ih (Nat.le_of_succ_le_succ hcount), repairFrom]

/-- A character of one byte is shown only where its byte is. -/
theorem exists_mem_of_mem_repairFrom {c : Char} (hc : c.toNat < 0x80) {bytes : List UInt8}
    {count : Nat} (h : c ∈ repairFrom count bytes) : ∃ b ∈ bytes, Char.ofNat b.toNat = c := by
  induction bytes generalizing count with
  | nil => exact absurd h List.not_mem_nil
  | cons b bytes ih =>
    cases count with
    | zero =>
      rw [repairFrom, List.mem_cons] at h
      rcases h with rfl | h
      · refine ⟨b, List.mem_cons_self, ?_⟩
        rw [stepUtf8_of_lt (toNat_lt_of_shown hc)]
        rfl
      · obtain ⟨found, hmem, heq⟩ := ih h
        exact ⟨found, List.mem_cons_of_mem _ hmem, heq⟩
    | succ count =>
      obtain ⟨found, hmem, heq⟩ := ih h
      exact ⟨found, List.mem_cons_of_mem _ hmem, heq⟩

/-- What is shown as characters of one byte is these bytes. -/
theorem map_ofNat_eq_repairFrom {bytes : List UInt8}
    (h : ∀ c ∈ repairFrom 0 bytes, c.toNat < 0x80) :
    bytes.map (fun b => Char.ofNat b.toNat) = repairFrom 0 bytes ∧ ∀ b ∈ bytes, b.toNat < 0x80 := by
  induction bytes with
  | nil => exact ⟨rfl, List.forall_mem_nil _⟩
  | cons b bytes ih =>
    rw [repairFrom] at h ⊢
    obtain ⟨hfirst, hrest⟩ := List.forall_mem_cons.1 h
    have hb := toNat_lt_of_shown hfirst
    rw [stepUtf8_of_lt hb] at hrest ⊢
    obtain ⟨hbytes, hall⟩ := ih hrest
    refine ⟨?_, List.forall_mem_cons.2 ⟨hb, hall⟩⟩
    rw [List.map_cons, hbytes]
    rfl

theorem repairFrom_eq_nil_iff {bytes : List UInt8} : repairFrom 0 bytes = [] ↔ bytes = [] := by
  cases bytes with
  | nil => exact iff_of_true rfl rfl
  | cons b bytes => exact iff_of_false (List.cons_ne_nil _ _) (List.cons_ne_nil _ _)

theorem repairFrom_joinWith {x : UInt8} (hx : x.toNat < 0x80) (pieces : List (List UInt8)) :
    repairFrom 0 (joinWith [x] pieces) =
      joinWith [Char.ofNat x.toNat] (pieces.map (repairFrom 0)) := by
  induction pieces with
  | nil => rfl
  | cons piece pieces ih =>
    cases pieces with
    | nil => rfl
    | cons next pieces =>
      rw [joinWith_cons_cons, List.append_assoc, List.singleton_append,
        repairFrom_append_cons hx _ (Nat.zero_le _), ih]
      simp only [List.map_cons, joinWith_cons_cons, List.append_assoc, List.singleton_append]

/-- **What is shown is split** where the bytes are split, at a byte that is a character of its
own. -/
theorem splitOn_repairFrom {x : UInt8} (hx : x.toNat < 0x80) (bytes : List UInt8) :
    splitOn (Char.ofNat x.toNat) (repairFrom 0 bytes) =
      (splitOn x bytes).map (repairFrom 0) := by
  have hvalid : Nat.isValidChar x.toNat := .inl (by omega)
  have hpieces : ∀ piece ∈ (splitOn x bytes).map (repairFrom 0), Char.ofNat x.toNat ∉ piece := by
    intro piece hpiece hmem
    obtain ⟨segment, hsegment, rfl⟩ := List.mem_map.1 hpiece
    have hlow : (Char.ofNat x.toNat).toNat < 0x80 := by rwa [toNat_ofNat_of_isValidChar hvalid]
    obtain ⟨b, hb, heq⟩ := exists_mem_of_mem_repairFrom hlow hmem
    have hsame : b = x := by
      have htoNat := congrArg Char.toNat heq
      have hbvalid : Nat.isValidChar b.toNat := .inl (by have := b.toNat_lt; omega)
      rw [toNat_ofNat_of_isValidChar hvalid, toNat_ofNat_of_isValidChar hbvalid] at htoNat
      exact UInt8.toNat_inj.1 htoNat
    exact not_mem_of_mem_splitOn hsegment (hsame ▸ hb)
  have hne : (splitOn x bytes).map (repairFrom 0) ≠ [] := by
    rw [Ne, List.map_eq_nil_iff]
    exact splitOn_ne_nil x bytes
  rw [← splitOn_joinWith hpieces hne, ← repairFrom_joinWith hx, joinWith_splitOn]

/-! ### Bytes of files -/

theorem toUTF8_of_fromUTF8? {bytes : ByteArray} {text : String}
    (h : String.fromUTF8? bytes = some text) : text.toUTF8 = bytes := by
  unfold String.fromUTF8? at h
  split at h
  · cases h
    rfl
  · cases h

theorem toList_toUTF8 (text : String) :
    text.toUTF8.data.toList = text.toList.flatMap String.utf8EncodeChar := by
  rw [String.toUTF8, ← String.utf8Encode_toList, List.utf8Encode, List.data_toByteArray]

/-- The repair of bytes that encode a text is the text, as that of all others is. -/
theorem toList_repairUtf8 (bytes : ByteArray) :
    (repairUtf8 bytes).toList = repairFrom 0 bytes.data.toList := by
  unfold repairUtf8
  split
  · next text htext =>
    rw [← toUTF8_of_fromUTF8? htext, toList_toUTF8, repairFrom_utf8Encode]
  · rw [String.toList_ofList]

theorem repairUtf8_toUTF8 (text : String) : repairUtf8 text.toUTF8 = text := by
  rw [← String.toList_inj, toList_repairUtf8, toList_toUTF8, repairFrom_utf8Encode]

end Driftwatch
