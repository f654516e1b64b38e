import ApiDocs.Text.Digits

/-!
# Decimal digits of numbers

The decimal text of a number is read as the number (`decimalValue_decimal`).  It has no zeros in
front (`head_decimal`), and at most `maxDigits` digits unless the number is too long
(`length_decimal_le`).
-/

namespace ApiDocs.Text

theorem isDigit_of_mem_decimal {n : Nat} {c : Char} (h : c ∈ decimal n) : isDigit c = true :=
  Nat.isDigit_of_mem_toDigits (by decide) (by decide) h

theorem exists_digit_decimal (n : Nat) : ∃ d ds, decimal n = d :: ds ∧ isDigit d = true := by
  have hne : decimal n ≠ [] := Nat.toDigits_ne_nil
  obtain ⟨d, ds, hds⟩ := List.exists_cons_of_ne_nil hne
  exact ⟨d, ds, hds, isDigit_of_mem_decimal (n := n) (hds ▸ List.mem_cons_self)⟩

theorem ne_of_isDigit {c d : Char} (hd : isDigit d = true) (hc : isDigit c = false) : d ≠ c := by
  rintro rfl
  rw [hc] at hd
  cases hd

/-- A number has no zeros in front. -/
theorem head_decimal {n : Nat} (h : n ≠ 0) : ∃ d ds, decimal n = d :: ds ∧ d ≠ '0' := by
  unfold decimal
  rw [Nat.toDigits_eq_if (by decide)]
  split
  · next hlt =>
    have hdigit : ∀ n < 10, n ≠ 0 → Nat.digitChar n ≠ '0' := by decide
    exact ⟨_, [], rfl, hdigit n hlt h⟩
  · next hge =>
    obtain ⟨d, ds, hds, hd⟩ := head_decimal (n := n / 10) (by omega)
    unfold decimal at hds
    exact ⟨d, _, by rw [hds, List.cons_append], hd⟩

theorem readDigitsFrom_of_digits : ∀ {cs : List Char} (n : Nat), (∀ c ∈ cs, isDigit c = true) →
    readDigitsFrom 10 n cs = some (Nat.ofDigitChars 10 cs n)
  | [], n, _ => by rw [readDigitsFrom, Nat.ofDigitChars_nil]
  | c :: cs, n, h => by
    obtain ⟨hc, hcs⟩ := List.forall_mem_cons.mp h
    have hbounds := Bool.and_eq_true_iff.mp hc
    simp only [decide_eq_true_eq] at hbounds
    have hdigit : digitValue? c = some (c.toNat - '0'.toNat) := if_pos hbounds
    have hnine : c.toNat ≤ '9'.toNat := hbounds.2
    have hlt : c.toNat - '0'.toNat < 10 := by
      rw [show '9'.toNat = 57 from rfl] at hnine
      rw [show '0'.toNat = 48 from rfl]
      omega
    rw [readDigitsFrom, hdigit]
    dsimp only
    rw [if_pos hlt, readDigitsFrom_of_digits _ hcs, Nat.ofDigitChars_cons, Nat.mul_comm n 10]

/-- **The text of a number is read as the number.** -/
theorem decimalValue_decimal (n : Nat) : decimalValue (decimal n) = n := by
  unfold decimalValue
  rw [readDigitsFrom_of_digits 0 fun c => isDigit_of_mem_decimal, Option.getD_some]
  exact Nat.ofDigitChars_toDigits (by decide) (by decide)

theorem length_decimal_le_iff {n k : Nat} (h : 0 < k) :
    (decimal n).length ≤ k ↔ n < Nat.pow 10 k :=
  Nat.length_toDigits_le_iff (by decide) h

theorem length_decimal_le {n : Nat} (h : isTooLong n = false) :
    (decimal n).length ≤ maxDigits :=
  (length_decimal_le_iff (by decide)).mpr (Nat.lt_of_not_le (of_decide_eq_false h))

end ApiDocs.Text
