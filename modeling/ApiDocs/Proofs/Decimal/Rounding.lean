import ApiDocs.Proofs.Decimal.Normal
import Mathlib.Algebra.Order.Field.Power
import Mathlib.Algebra.Order.Field.Rat

/-!
# Rounding returns the normal form

`Binary64.ofRatio` rounds the mantissa to 53 bits, so what it returns is in the normal form
(`Binary64.isNormal_ofRatio`), and so is every sum, product and decimal number that is rounded
through it.
-/

namespace ApiDocs.Decimal

variable {num den : Nat} {e : Int}

/-! ## 1. Scales -/

/-- A scaled fraction below a power of two, without the scale. -/
theorem scaleDown_lt_iff (c : Nat) :
    (scaleDown num den e).1 < (scaleDown num den e).2 * 2 ^ c ↔
      (num : ℚ) < den * 2 ^ (e + c : Int) := by
  unfold scaleDown
  split
  · next hneg =>
    obtain ⟨k, rfl⟩ : ∃ k : Nat, e = -(k : Int) := ⟨(-e).toNat, by omega⟩
    have hpow : (2 : ℚ) ^ (-(k : Int) + c) * 2 ^ k = 2 ^ c := by
      rw [← zpow_natCast, ← zpow_natCast, ← zpow_add₀ two_ne_zero]
      congr 1
      ring
    have hk : (0 : ℚ) < 2 ^ k := by positivity
    rw [neg_neg, Int.toNat_natCast, ← mul_lt_mul_iff_left₀ hk, mul_assoc, hpow]
    exact_mod_cast Iff.rfl
  · next hpos =>
    obtain ⟨k, rfl⟩ : ∃ k : Nat, e = k := ⟨e.toNat, by omega⟩
    rw [Int.toNat_natCast, ← Nat.cast_add, zpow_natCast, pow_add, ← mul_assoc]
    exact_mod_cast Iff.rfl

theorem scaleDown_snd_pos (hden : 0 < den) : 0 < (scaleDown num den e).2 := by
  unfold scaleDown
  split
  · exact hden
  · exact Nat.mul_pos hden (Nat.pow_pos (by decide))

/-! ## 2. The mantissa -/

theorem roundHalfEven_le {n d c : Nat} (h : n < d * c) : roundHalfEven n d ≤ c := by
  have hq : n / d < c := Nat.div_lt_of_lt_mul h
  unfold roundHalfEven
  dsimp only
  split <;> omega

theorem le_roundHalfEven {n d c : Nat} (hd : 0 < d) (h : d * c ≤ n) : c ≤ roundHalfEven n d := by
  have hq : c ≤ n / d := (Nat.le_div_iff_mul_le hd).mpr (by rwa [mul_comm])
  unfold roundHalfEven
  dsimp only
  split <;> omega

/-- A fraction lies between two powers of two that its terms tell. -/
theorem ratio_bounds (hnum : num ≠ 0) (hden : den ≠ 0) :
    (den : ℚ) * 2 ^ ((num.log2 : Int) - den.log2 - 1) ≤ num ∧
      (num : ℚ) < den * 2 ^ ((num.log2 : Int) - den.log2 + 1) := by
  have hnumLow : (2 : ℚ) ^ num.log2 ≤ num := by exact_mod_cast Nat.log2_self_le hnum
  have hnumHigh : (num : ℚ) < 2 ^ (num.log2 + 1) := by exact_mod_cast Nat.lt_log2_self
  have hdenLow : (2 : ℚ) ^ den.log2 ≤ den := by exact_mod_cast Nat.log2_self_le hden
  have hdenHigh : (den : ℚ) < 2 ^ (den.log2 + 1) := by exact_mod_cast Nat.lt_log2_self
  constructor
  · calc (den : ℚ) * 2 ^ ((num.log2 : Int) - den.log2 - 1)
        ≤ 2 ^ (den.log2 + 1) * 2 ^ ((num.log2 : Int) - den.log2 - 1) := by gcongr
      _ = 2 ^ num.log2 := by
        rw [← zpow_natCast, ← zpow_natCast, ← zpow_add₀ two_ne_zero]
        congr 1
        push_cast
        ring
      _ ≤ num := hnumLow
  · calc (num : ℚ) < 2 ^ (num.log2 + 1) := hnumHigh
      _ = 2 ^ den.log2 * 2 ^ ((num.log2 : Int) - den.log2 + 1) := by
        rw [← zpow_natCast, ← zpow_natCast, ← zpow_add₀ two_ne_zero]
        congr 1
        push_cast
        ring
      _ ≤ den * 2 ^ ((num.log2 : Int) - den.log2 + 1) := by gcongr

namespace Binary64

/-- With the exponent that is chosen, the whole part has 53 bits. -/
theorem exponentFor_bounds (hnum : num ≠ 0) (hden : den ≠ 0) :
    (den : ℚ) * 2 ^ (exponentFor num den + 52) ≤ num ∧
      (num : ℚ) < den * 2 ^ (exponentFor num den + 53) := by
  obtain ⟨hlow, hhigh⟩ := ratio_bounds hnum hden
  have htest : (scaleDown num den ((num.log2 : Int) - den.log2 - 52)).1
      < (scaleDown num den ((num.log2 : Int) - den.log2 - 52)).2 * 2 ^ 52 ↔ _ :=
    scaleDown_lt_iff 52
  unfold exponentFor
  simp only [Nat.pow_eq]
  by_cases hless : (num : ℚ) < den * 2 ^ ((num.log2 : Int) - den.log2 - 52 + (52 : Nat))
  · rw [if_pos (htest.mpr hless)]
    refine ⟨?_, ?_⟩
    · convert hlow using 3
      ring
    · convert hless using 3
      push_cast
      ring
  · rw [if_neg (mt htest.mp hless)]
    refine ⟨not_lt.mp hless, ?_⟩
    convert hhigh using 3
    ring

/-- **Rounding returns the normal form.** -/
theorem isNormal_ofRatio (negative : Bool) (hden : 0 < den) :
    (ofRatio negative num den).isNormal = true := by
  unfold ofRatio
  split
  · exact isNormal_finite.mpr ⟨by norm_num, by norm_num, Or.inl (by norm_num)⟩
  next hnum =>
  obtain ⟨hlow, hhigh⟩ := exponentFor_bounds hnum hden.ne'
  extract_lets e
  have hwhole : e = exponentFor num den ∨ e = -1074 := max_choice _ _
  have hge : exponentFor num den ≤ e := le_max_left _ _
  have hleast : -1074 ≤ e := le_max_right _ _
  clear_value e
  have hbelow : (scaleDown num den e).1 < (scaleDown num den e).2 * 2 ^ 53 := by
    have hexp : (2 : ℚ) ^ (exponentFor num den + 53) ≤ 2 ^ (e + (53 : Nat)) :=
      zpow_le_zpow_right₀ one_le_two (by push_cast; omega)
    refine (scaleDown_lt_iff 53).mpr (hhigh.trans_le ?_)
    exact mul_le_mul_of_nonneg_left hexp (Nat.cast_nonneg den)
  have habove : e = -1074 ∨ (scaleDown num den e).2 * 2 ^ 52 ≤ (scaleDown num den e).1 := by
    refine hwhole.symm.imp_right fun heq => not_lt.mp (mt (scaleDown_lt_iff 52).mp ?_)
    rw [heq]
    exact not_lt.mpr hlow
  have hpos : 0 < (scaleDown num den e).2 := scaleDown_snd_pos hden
  split
  next n d hscaled =>
  rw [hscaled] at hbelow habove hpos
  extract_lets m
  have hle : m ≤ 2 ^ 53 := roundHalfEven_le hbelow
  have hfull : e = -1074 ∨ 2 ^ 52 ≤ m := habove.imp_right (le_roundHalfEven hpos)
  clear_value m
  split
  next m' e' hcarry =>
  -- a mantissa that is rounded up to a further bit is halved
  obtain ⟨hm', he', hfull'⟩ : m' < 2 ^ 53 ∧ -1074 ≤ e' ∧ (e' = -1074 ∨ 2 ^ 52 ≤ m') := by
    split at hcarry
    · cases hcarry
      exact ⟨by norm_num, by omega, Or.inr (by norm_num)⟩
    · next hne =>
      cases hcarry
      exact ⟨lt_of_le_of_ne hle hne, hleast, hfull⟩
  split
  · rfl
  · exact isNormal_finite.mpr ⟨hm', he', hfull'.imp_left (by omega)⟩

/-! ## 3. Arithmetic and reading -/

variable {x y : Binary64}

theorem isNormal_neg (h : x.isNormal = true) : x.neg.isNormal = true := by
  cases x <;> exact h

theorem isNormal_add (hx : x.isNormal = true) (hy : y.isNormal = true) :
    (x.add y).isNormal = true := by
  unfold add
  split
  · rfl
  · rfl
  · split <;> rfl
  · rfl
  · rfl
  · split
    next n d hratio =>
    split
    next n' d' hratio' =>
    exact isNormal_ofRatio _ (Nat.mul_pos (pos_of_ratio_eq hratio) (pos_of_ratio_eq hratio'))

theorem isNormal_scaleBy (factor : Nat) (hx : x.isNormal = true) :
    (x.scaleBy factor).isNormal = true := by
  unfold scaleBy
  split
  · rfl
  · rfl
  · split
    · split
      next n d hratio =>
      split
      next n' d' hratio' =>
      exact isNormal_ofRatio _ (Nat.mul_pos (pos_of_ratio_eq hratio) (pos_of_ratio_eq hratio'))
    · exact isNormal_ofRatio _ Nat.one_pos

theorem isNormal_ofDecimal (negative : Bool) (digits : Nat) (exponent : Int) :
    (ofDecimal negative digits exponent).isNormal = true := by
  unfold ofDecimal
  extract_lets magnitude
  split
  · exact isNormal_ofRatio _ Nat.one_pos
  split
  · rfl
  split
  · exact isNormal_ofRatio _ (Nat.pow_pos (by decide))
  · exact isNormal_ofRatio _ Nat.one_pos

theorem isNormal_of_readMagnitude {negative : Bool} {cs : List Char}
    (h : readMagnitude negative cs = some x) : x.isNormal = true := by
  unfold readMagnitude at h
  extract_lets whole at h
  split at h
  next fraction rest hsplit =>
  split at h
  · cases h
  · obtain ⟨e, -, rfl⟩ := Option.map_eq_some_iff.mp h
    exact isNormal_ofDecimal _ _ _

/-- A number that is read is in the normal form. -/
theorem isNormal_of_read? {cs : List Char} (h : read? cs = some x) : x.isNormal = true := by
  unfold read? at h
  split at h
  next negative body hsign =>
  extract_lets word at h
  split at h
  · cases h
    rfl
  split at h
  · cases h
    rfl
  · exact isNormal_of_readMagnitude h

end Binary64

end ApiDocs.Decimal
