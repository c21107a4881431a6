import Driftwatch.Proofs.Decimal
import Driftwatch.Time.Timestamp

/-!
# Written moments read back

A timestamp whose parts are within their bounds, in one of the years that a timestamp can have, is
read back from its stored form. Every part of the form is a field of digits, and each field is read
up to the mark after it.

## Main results

* `Timestamp.readDigits?_padDecimal`, `Timestamp.readYear?_written`: the fields.
* `Timestamp.readFraction?_written`: the fraction in each of its four lengths.
* `Timestamp.parse?_written`: the whole form.
-/

namespace Driftwatch

theorem isBlank_of_isDigit {c : Char} (h : c.isDigit = true) : isBlank c = false := by
  obtain ⟨hlow, hhigh⟩ := Char.isDigit_iff_toNat.1 h
  simp only [Char.reduceToNat] at hlow hhigh
  simp only [isBlank, Bool.or_eq_false_iff, Bool.and_eq_false_iff, decide_eq_false_iff_not,
    beq_eq_false_iff_ne]
  omega

theorem trimLeft_cons {c : Char} (h : isBlank c = false) (rest : List Char) :
    trimLeft (c :: rest) = c :: rest := by
  simp [trimLeft, h]

/-- Digits are not trimmed away. -/
theorem trimLeft_padDecimal (width n : Nat) (rest : List Char) :
    trimLeft (padDecimal width n ++ rest) = padDecimal width n ++ rest := by
  obtain ⟨c, digits, hcons⟩ := List.exists_cons_of_ne_nil (padDecimal_ne_nil width n)
  have hc : c.isDigit = true := isDigit_of_mem_padDecimal (hcons ▸ List.mem_cons_self)
  rw [hcons, List.cons_append, trimLeft_cons (isBlank_of_isDigit hc)]

namespace Timestamp

/-! ### Fields -/

/-- A field that is filled with digits is read whole. -/
theorem readDigits?_padDecimal {width n : Nat} (hwidth : 0 < width) (hn : n < 10 ^ width)
    (rest : List Char) : readDigits? width (padDecimal width n ++ rest) = some (n, rest) := by
  have htake : (padDecimal width n ++ rest).take width = padDecimal width n := by
    rw [List.take_append_of_le_length (Nat.le_of_eq (length_padDecimal hwidth hn).symm),
      List.take_of_length_le (Nat.le_of_eq (length_padDecimal hwidth hn))]
  have hdigits : (padDecimal width n).takeWhile Char.isDigit = padDecimal width n := by
    simpa using takeWhile_isDigit_append (fun _ => isDigit_of_mem_padDecimal) endsDigits_nil
  simp only [readDigits?, trimLeft_padDecimal, htake, hdigits, digitsValue?_padDecimal,
    Option.map_some, List.drop_left]

theorem readAllDigits?_padDecimal (width n : Nat) {rest : List Char} (hrest : EndsDigits rest) :
    readAllDigits? (padDecimal width n ++ rest) = some (n, rest) := by
  simp only [readAllDigits?, takeWhile_isDigit_append (fun _ => isDigit_of_mem_padDecimal) hrest,
    digitsValue?_padDecimal, Option.map_some, List.drop_left]

theorem readMark?_cons {mark : Char} (h : isBlank mark = false) (rest : List Char) :
    readMark? mark (mark :: rest) = some rest := by
  simp [readMark?, trimLeft_cons h]

/-- A year is read with and without a sign. -/
theorem readYear?_written (year : Int) {rest : List Char} (hrest : EndsDigits rest) :
    readYear? (writtenYear year ++ rest) = some (year, rest) := by
  unfold writtenYear
  split
  · next hyear =>
    have hn : year.natAbs < 10 ^ 4 := by omega
    obtain ⟨c, digits, hcons⟩ := List.exists_cons_of_ne_nil (padDecimal_ne_nil 4 year.natAbs)
    have hc : c.isDigit = true := isDigit_of_mem_padDecimal (hcons ▸ List.mem_cons_self)
    have hread := readDigits?_padDecimal (by decide) hn rest
    rw [readYear?, trimLeft_padDecimal]
    rw [hcons] at hread ⊢
    split
    · next heq =>
      cases heq
      exact absurd hc (by decide)
    · next heq =>
      cases heq
      exact absurd hc (by decide)
    · rw [hread, Option.map_some]
      simp only [Option.some.injEq, Prod.mk.injEq, and_true]
      omega
  · next hyear =>
    split
    · next hneg =>
      rw [List.cons_append, readYear?, trimLeft_cons (by decide)]
      simp only [readAllDigits?_padDecimal 4 year.natAbs hrest, Option.map_some, Option.some.injEq,
        Prod.mk.injEq, and_true]
      omega
    · next hpos =>
      rw [List.cons_append, readYear?, trimLeft_cons (by decide)]
      simp only [readAllDigits?_padDecimal 4 year.natAbs hrest, Option.map_some, Option.some.injEq,
        Prod.mk.injEq, and_true]
      omega

/-- A fraction of `width` digits. -/
theorem readFraction?_padDecimal {width n : Nat} (hwidth : 0 < width) (hmost : width ≤ 9)
    (hn : n < 10 ^ width) {rest : List Char} (hrest : EndsDigits rest) :
    readFraction? ('.' :: padDecimal width n ++ rest) = some (n * 10 ^ (9 - width), rest) := by
  have hlength := length_padDecimal hwidth hn
  have htake : (padDecimal width n).take 9 = padDecimal width n :=
    List.take_of_length_le (by omega)
  simp only [List.cons_append, readFraction?,
    takeWhile_isDigit_append (fun _ => isDigit_of_mem_padDecimal) hrest, htake,
    digitsValue?_padDecimal, Option.map_some, hlength, List.drop_left' hlength]
  rfl

theorem readFraction?_written {nano : Nat} (hnano : nano < 1000000000) (rest : List Char) :
    readFraction? (writtenFraction nano ++ 'Z' :: rest) = some (nano, 'Z' :: rest) := by
  have hrest : EndsDigits ('Z' :: rest) := endsDigits_cons (by decide) rest
  unfold writtenFraction
  split
  · next hzero =>
    rw [List.nil_append, hzero]
    simp [readFraction?]
  · split
    · next hmilli =>
      rw [readFraction?_padDecimal (by decide) (by decide) (by omega) hrest]
      simp only [Option.some.injEq, Prod.mk.injEq, and_true]
      omega
    · split
      · next hmicro =>
        rw [readFraction?_padDecimal (by decide) (by decide) (by omega) hrest]
        simp only [Option.some.injEq, Prod.mk.injEq, and_true]
        omega
      · rw [readFraction?_padDecimal (by decide) (by decide) (by omega) hrest]
        simp

/-! ### The whole form -/

/-- A clock that shows universal time is not shifted. -/
theorem shift_zero {time : Timestamp} (hhour : time.hour < 24) (hminute : time.minute < 60) :
    time.shift 0 = time := by
  obtain ⟨date, hour, minute, second, nano⟩ := time
  simp only at hhour hminute
  have hclock : ((hour : Int) * 60 + minute - 0).toNat = hour * 60 + minute := by omega
  simp only [shift]
  rw [if_neg (by omega), if_neg (by omega), hclock]
  simp only [Timestamp.mk.injEq, true_and, and_true]
  omega

/-- A timestamp that can be stored: its parts are within their bounds, and so is its year. -/
def IsStorable (time : Timestamp) : Prop :=
  time.isValid = true ∧ time.isInRange = true

instance (time : Timestamp) : Decidable time.IsStorable :=
  inferInstanceAs (Decidable (time.isValid = true ∧ time.isInRange = true))

theorem daysInMonth_le (year : Int) (month : Nat) : daysInMonth year month ≤ 31 := by
  unfold daysInMonth
  split
  · split <;> omega
  all_goals omega

/-- **Written moments read back.** -/
theorem parse?_written {time : Timestamp} (h : time.IsStorable) :
    parse? time.written = some time := by
  obtain ⟨hvalid, hrange⟩ := h
  have hbounds := hvalid
  simp only [isValid, Date.isValid, Bool.and_eq_true, decide_eq_true_eq] at hbounds
  obtain ⟨⟨⟨⟨⟨⟨⟨-, hmonth⟩, -⟩, hday⟩, hhour⟩, hminute⟩, hsecond⟩, hnano⟩ := hbounds
  have hday' : time.date.day ≤ 31 := Nat.le_trans hday (daysInMonth_le _ _)
  have hshift : time.shift 0 = time := shift_zero hhour hminute
  have hfield : ∀ n rest, n < 100 → readDigits? 2 (padDecimal 2 n ++ rest) = some (n, rest) :=
    fun n rest hn => readDigits?_padDecimal (by decide) hn rest
  have hyear : ∀ rest, readYear? (writtenYear time.date.year ++ '-' :: rest) =
      some (time.date.year, '-' :: rest) :=
    fun rest => readYear?_written time.date.year (endsDigits_cons (by decide) rest)
  have hdash : ∀ rest, readMark? '-' ('-' :: rest) = some rest := readMark?_cons (by decide)
  have hcolon : ∀ rest, readMark? ':' (':' :: rest) = some rest := readMark?_cons (by decide)
  have hoffset : readOffset? (trimLeft ['Z']) = some (0, []) := by decide
  have hend : allBlank [] = true := by decide
  rw [parse?, written, String.toList_ofList]
  simp only [writtenChars, writtenDate, writtenClock, List.append_assoc, List.cons_append]
  unfold parseChars?
  refine Option.bind_eq_some_iff.2 ⟨_, hyear _, ?_⟩
  refine Option.bind_eq_some_iff.2 ⟨_, hdash _, ?_⟩
  refine Option.bind_eq_some_iff.2 ⟨_, hfield time.date.month _ (by omega), ?_⟩
  refine Option.bind_eq_some_iff.2 ⟨_, hdash _, ?_⟩
  refine Option.bind_eq_some_iff.2 ⟨_, hfield time.date.day _ (by omega), ?_⟩
  refine Option.bind_eq_some_iff.2 ⟨_, rfl, ?_⟩
  refine Option.bind_eq_some_iff.2 ⟨_, hfield time.hour _ (by omega), ?_⟩
  refine Option.bind_eq_some_iff.2 ⟨_, hcolon _, ?_⟩
  refine Option.bind_eq_some_iff.2 ⟨_, hfield time.minute _ (by omega), ?_⟩
  refine Option.bind_eq_some_iff.2 ⟨_, hcolon _, ?_⟩
  refine Option.bind_eq_some_iff.2 ⟨_, hfield time.second _ (by omega), ?_⟩
  refine Option.bind_eq_some_iff.2 ⟨_, readFraction?_written hnano _, ?_⟩
  refine Option.bind_eq_some_iff.2 ⟨_, hoffset, ?_⟩
  simp only [hshift]
  rw [if_pos ⟨hvalid, hrange, by decide, hend, hrange⟩]

end Timestamp

end Driftwatch
