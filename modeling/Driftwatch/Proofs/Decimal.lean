import Mathlib.Algebra.GroupWithZero.Nat
import Driftwatch.Text.Number

/-!
# Decimal digits read back

Numbers are written with `decimal` and `padDecimal` and read with `digitsValue?`. The digits of a
number have its value, with any number of zeros before them, and no number but zero starts with one.

## Main results

* `digitsValue?_decimal`, `digitsValue?_padDecimal`: reading what was written.
* `length_padDecimal`: a number that has room in a field fills it.
* `head?_decimal_ne_zero`: no leading zeros.
* `takeWhile_isDigit_append`, `dropWhile_isDigit_append`: where a run of digits ends.
-/

namespace Driftwatch

theorem digitValue?_of_isDigit {c : Char} (h : c.isDigit = true) :
    digitValue? 10 c = some (c.toNat - '0'.toNat) := by
  obtain ⟨hlow, hhigh⟩ := Char.isDigit_iff_toNat.1 h
  have hle : ('0' ≤ c && c ≤ '9') = true := by
    simp only [Bool.and_eq_true, decide_eq_true_eq]
    exact ⟨hlow, hhigh⟩
  have hlt : c.toNat - 48 < 10 := by
    simp only [Char.reduceToNat] at hlow hhigh
    omega
  simp only [digitValue?, hle, if_true, Char.reduceToNat]
  simp [Option.filter, hlt]

theorem digitsValueFrom_of_isDigit {digits : List Char} (h : ∀ c ∈ digits, c.isDigit = true)
    (value : Nat) : digitsValueFrom 10 value digits = some (Nat.ofDigitChars 10 digits value) := by
  induction digits generalizing value with
  | nil => rfl
  | cons c digits ih =>
    have hc := digitValue?_of_isDigit (h c List.mem_cons_self)
    rw [digitsValueFrom, hc, Option.bind_some, Nat.ofDigitChars_cons, Nat.mul_comm value 10]
    exact ih (fun d hd => h d (List.mem_cons_of_mem _ hd)) _

theorem digitsValue?_of_isDigit {digits : List Char} (hne : digits ≠ [])
    (h : ∀ c ∈ digits, c.isDigit = true) :
    digitsValue? 10 digits = some (Nat.ofDigitChars 10 digits 0) := by
  rw [digitsValue?, if_neg (by simpa using hne), digitsValueFrom_of_isDigit h]

/-! ### Plain digits -/

theorem isDigit_of_mem_decimal {n : Nat} {c : Char} (h : c ∈ decimal n) : c.isDigit = true :=
  Nat.isDigit_of_mem_toDigits (by decide) (by decide) h

theorem decimal_ne_nil (n : Nat) : decimal n ≠ [] :=
  Nat.toDigits_ne_nil

theorem digitsValue?_decimal (n : Nat) : digitsValue? 10 (decimal n) = some n := by
  rw [digitsValue?_of_isDigit (decimal_ne_nil n) fun _ => isDigit_of_mem_decimal, decimal,
    Nat.ofDigitChars_ten_toDigits]

/-- A positive number is written without a zero before it. -/
theorem head?_decimal_ne_zero {n : Nat} (hn : 0 < n) : (decimal n).head? ≠ some '0' := by
  induction n using Nat.strongRecOn with
  | ind n ih =>
    rw [decimal, Nat.toDigits_eq_if (by decide)]
    split
    · next hlt =>
      have hdigits : ∀ d < 10, 0 < d → some d.digitChar ≠ some '0' := by decide
      exact hdigits n hlt hn
    · next hge =>
      have hdiv : (decimal (n / 10)).head? ≠ some '0' := ih (n / 10) (by omega) (by omega)
      obtain ⟨c, rest, hcons⟩ := List.exists_cons_of_ne_nil (decimal_ne_nil (n / 10))
      rw [hcons] at hdiv
      rw [decimal] at hcons
      simpa [hcons] using hdiv

/-! ### Digits in a field -/

theorem isDigit_of_mem_padDecimal {width n : Nat} {c : Char} (h : c ∈ padDecimal width n) :
    c.isDigit = true := by
  rcases List.mem_append.1 h with h | h
  · rw [List.eq_of_mem_replicate h]
    rfl
  · exact isDigit_of_mem_decimal h

theorem padDecimal_ne_nil (width n : Nat) : padDecimal width n ≠ [] :=
  List.append_ne_nil_of_right_ne_nil _ (decimal_ne_nil n)

theorem digitsValue?_padDecimal (width n : Nat) :
    digitsValue? 10 (padDecimal width n) = some n := by
  rw [digitsValue?_of_isDigit (padDecimal_ne_nil width n) fun _ => isDigit_of_mem_padDecimal,
    padDecimal, Nat.ofDigitChars_append, Nat.ofDigitChars_replicate_zero, Nat.mul_zero, decimal,
    Nat.ofDigitChars_ten_toDigits]

theorem length_padDecimal {width n : Nat} (hwidth : 0 < width) (hn : n < 10 ^ width) :
    (padDecimal width n).length = width := by
  have hle : (decimal n).length ≤ width := (Nat.length_toDigits_le_iff (by decide) hwidth).2 hn
  simp only [padDecimal, List.length_append, List.length_replicate]
  omega

/-! ### The end of a run of digits -/

/-- A text does not go on with a digit. -/
def EndsDigits (rest : List Char) : Prop :=
  ∀ c, rest.head? = some c → c.isDigit = false

theorem endsDigits_nil : EndsDigits [] := by
  intro c hc
  cases hc

theorem endsDigits_cons {c : Char} (hc : c.isDigit = false) (rest : List Char) :
    EndsDigits (c :: rest) := by
  intro d hd
  cases hd
  exact hc

variable {digits rest : List Char}

theorem takeWhile_isDigit_append (h : ∀ c ∈ digits, c.isDigit = true) (hrest : EndsDigits rest) :
    (digits ++ rest).takeWhile Char.isDigit = digits := by
  rw [List.takeWhile_append_of_pos h]
  cases rest with
  | nil => simp
  | cons c rest => simp [hrest c rfl]

theorem dropWhile_isDigit_append (h : ∀ c ∈ digits, c.isDigit = true) (hrest : EndsDigits rest) :
    (digits ++ rest).dropWhile Char.isDigit = rest := by
  rw [List.dropWhile_append_of_pos h]
  cases rest with
  | nil => rfl
  | cons c rest => simp [hrest c rfl]

end Driftwatch
