import ApiDocs.Decimal.Binary64
import Mathlib.Tactic.Linarith
import Mathlib.Tactic.Ring

/-!
# The normal form of binary64 numbers

In the normal form (`Binary64.isNormal`) a finite number has one mantissa and one exponent only, so
two numbers in the normal form that equal one integer are the same (`Binary64.same_of_isInt`).
-/

namespace ApiDocs.Decimal.Binary64

/-- The mantissa of a finite number has 53 bits, or fewer with the least exponent. -/
def isNormal : Binary64 → Bool
  | .finite _ m e => m < 2 ^ 53 && (e == -1074 || (2 ^ 52 ≤ m && -1074 ≤ e))
  | _ => true

/-- The integer that a number equals, if there is one. -/
def toInt? : Binary64 → Option Int
  | .finite s m e =>
    let (n, d) := ratio m e
    if n % d = 0 then some (if s then -(n / d : Nat) else (n / d : Nat)) else none
  | _ => none

variable {x y : Binary64} {i : Int} {m m' : Nat} {e : Int}

/-! ## 1. Integers -/

theorem ratio_snd_pos (m : Nat) (e : Int) : 0 < (ratio m e).2 := by
  unfold ratio
  split
  · exact Nat.pow_pos (by decide)
  · exact Nat.one_pos

theorem pos_of_ratio_eq {n d : Nat} (h : ratio m e = (n, d)) : 0 < d := by
  have hpos := ratio_snd_pos m e
  rwa [h] at hpos

/-- The signed numerator of a fraction is a multiple of the denominator if the fraction is whole. -/
theorem signed_eq_mul_iff {s : Bool} {n d : Nat} (hd : 0 < d) :
    (if s then -(n : Int) else (n : Int)) = i * d ↔
      n % d = 0 ∧ (if s then -((n / d : Nat) : Int) else ((n / d : Nat) : Int)) = i := by
  have hwhole : ∀ j : Int, (n : Int) = j * d ↔ n % d = 0 ∧ ((n / d : Nat) : Int) = j := by
    intro j
    constructor
    · intro h
      obtain ⟨q, rfl⟩ : d ∣ n := Int.natCast_dvd_natCast.mp ⟨j, by rw [h, mul_comm]⟩
      have hq : (d : Int) * q = d * j := by rw [← Nat.cast_mul, h, mul_comm]
      rw [Nat.mul_div_cancel_left q hd]
      exact ⟨Nat.mul_mod_right d q, Int.eq_of_mul_eq_mul_left (by omega) hq⟩
    · rintro ⟨hmod, rfl⟩
      obtain ⟨q, rfl⟩ := Nat.dvd_of_mod_eq_zero hmod
      rw [Nat.mul_div_cancel_left q hd, Nat.cast_mul, mul_comm]
  cases s with
  | false => exact hwhole i
  | true =>
    show -(n : Int) = i * d ↔ n % d = 0 ∧ -((n / d : Nat) : Int) = i
    rw [neg_eq_iff_eq_neg, ← neg_mul, hwhole (-i), neg_eq_iff_eq_neg]

theorem isInt_iff : x.isInt i = true ↔ x.toInt? = some i := by
  cases x with
  | nan => exact ⟨fun h => (by cases h), fun h => (by cases h)⟩
  | infinity s => exact ⟨fun h => (by cases h), fun h => (by cases h)⟩
  | finite s m e =>
    have hwhole := signed_eq_mul_iff (s := s) (n := (ratio m e).1) (i := i) (ratio_snd_pos m e)
    unfold isInt toInt?
    dsimp only
    rw [beq_iff_eq, hwhole]
    by_cases hmod : (ratio m e).1 % (ratio m e).2 = 0
    · rw [if_pos hmod, Option.some_inj, and_iff_right hmod]
    · rw [if_neg hmod]
      exact ⟨fun h => absurd h.1 hmod, fun h => by cases h⟩

theorem toInt?_zero {s : Bool} : (finite s 0 e).toInt? = some 0 := by
  have hratio : (ratio 0 e).1 = 0 := by
    unfold ratio
    split
    · rfl
    · exact Nat.zero_mul _
  unfold toInt?
  dsimp only
  rw [hratio, Nat.zero_mod, Nat.zero_div]
  cases s <;> rfl

theorem same_self (x : Binary64) : x.same x = true := by
  cases x <;> simp [same]

/-- The same number is equal, but for the two zeros. -/
theorem same_cases (h : x.same y = true) : x = y ∨ x.toInt? = some 0 ∧ y.toInt? = some 0 := by
  match x, y with
  | .nan, _ => exact Or.inl (by simpa [same] using h)
  | .infinity _, _ => exact Or.inl (by simpa [same] using h)
  | .finite _ _ _, .nan => cases h
  | .finite _ _ _, .infinity _ => cases h
  | .finite s m e, .finite s' m' e' =>
    unfold same at h
    rcases (Bool.or_eq_true _ _).mp h with hzero | hequal
    · obtain ⟨rfl, rfl⟩ : m = 0 ∧ m' = 0 := by simpa using hzero
      exact Or.inr ⟨toInt?_zero, toInt?_zero⟩
    · obtain ⟨⟨rfl, rfl⟩, rfl⟩ : (s = s' ∧ m = m') ∧ e = e' := by simpa using hequal
      exact Or.inl rfl

/-! ## 2. One mantissa and one exponent -/

/-- A fraction in whole units of the least exponent. -/
theorem ratio_scaled {least : Nat} (he : -(least : Int) ≤ e) :
    (ratio m e).1 * 2 ^ least = m * 2 ^ (e + least).toNat * (ratio m e).2 := by
  unfold ratio
  split
  · next hneg =>
    have hsum : least = (e + least).toNat + (-e).toNat := by omega
    show m * 2 ^ least = m * 2 ^ (e + least).toNat * 2 ^ (-e).toNat
    conv_lhs => rw [hsum, pow_add]
    ring
  · next hpos =>
    have hsum : (e + least).toNat = e.toNat + least := by omega
    show m * 2 ^ e.toNat * 2 ^ least = m * 2 ^ (e + least).toNat * 1
    rw [hsum, pow_add]
    ring

/-- A mantissa of 53 bits cannot be shifted. -/
theorem shift_unique {k k' : Nat} (hm : m < 2 ^ 53) (hm' : m' < 2 ^ 53)
    (hk : k = 0 ∨ 2 ^ 52 ≤ m) (hk' : k' = 0 ∨ 2 ^ 52 ≤ m') (h : m * 2 ^ k = m' * 2 ^ k') :
    m = m' ∧ k = k' := by
  have hle : ∀ {a b j j' : Nat}, a < 2 ^ 53 → (j' = 0 ∨ 2 ^ 52 ≤ b) → a * 2 ^ j = b * 2 ^ j' →
      j' ≤ j := by
    intro a b j j' ha hb hab
    by_contra hlt
    obtain ⟨r, rfl⟩ : ∃ r, j' = j + 1 + r := ⟨j' - (j + 1), by omega⟩
    have hcancel : a = b * 2 ^ r * 2 := by
      refine Nat.eq_of_mul_eq_mul_right (Nat.two_pow_pos j) (hab.trans ?_)
      ring
    have hgrow : b ≤ b * 2 ^ r := Nat.le_mul_of_pos_right b (Nat.two_pow_pos r)
    omega
  obtain rfl : k = k' := Nat.le_antisymm (hle hm' hk h.symm) (hle hm hk' h)
  exact ⟨Nat.eq_of_mul_eq_mul_right (Nat.two_pow_pos k) h, rfl⟩

/-- An integer in whole units of the least exponent. -/
theorem scaled_of_isInt {s : Bool} (least : Nat) (he : -(least : Int) ≤ e)
    (h : (finite s m e).isInt i = true) : i.natAbs * 2 ^ least = m * 2 ^ (e + least).toNat := by
  have hsigned : (if s then -((ratio m e).1 : Int) else ((ratio m e).1 : Int))
      = i * (ratio m e).2 := beq_iff_eq.mp h
  have habs : (ratio m e).1 = i.natAbs * (ratio m e).2 := by
    have := congrArg Int.natAbs hsigned
    rw [Int.natAbs_mul, Int.natAbs_natCast] at this
    rw [← this]
    cases s <;> simp
  refine Nat.eq_of_mul_eq_mul_right (ratio_snd_pos m e) ?_
  rw [← ratio_scaled he, habs]
  ring

/-- A number that is not zero has the sign of the integer that it equals. -/
theorem sign_of_isInt {s : Bool} (hm : m ≠ 0) (h : (finite s m e).isInt i = true) :
    s = decide (i < 0) := by
  have hsigned : (if s then -((ratio m e).1 : Int) else ((ratio m e).1 : Int))
      = i * (ratio m e).2 := beq_iff_eq.mp h
  have hd : (0 : Int) < (ratio m e).2 := by exact_mod_cast ratio_snd_pos m e
  have hn : (0 : Int) < (ratio m e).1 := by
    have : 0 < (ratio m e).1 := by
      unfold ratio
      split
      · exact Nat.pos_of_ne_zero hm
      · exact Nat.mul_pos (Nat.pos_of_ne_zero hm) (Nat.pow_pos (by decide))
    exact_mod_cast this
  cases s with
  | true =>
    have : i * (ratio m e).2 < 0 := by rw [← hsigned]; simpa using hn
    exact (decide_eq_true (by nlinarith)).symm
  | false =>
    have : 0 < i * (ratio m e).2 := by rw [← hsigned]; simpa using hn
    exact (decide_eq_false (by nlinarith)).symm

theorem isNormal_finite {s : Bool} : (finite s m e).isNormal = true ↔
    m < 2 ^ 53 ∧ -1074 ≤ e ∧ ((e + 1074).toNat = 0 ∨ 2 ^ 52 ≤ m) := by
  unfold isNormal
  simp only [Bool.and_eq_true, Bool.or_eq_true, decide_eq_true_eq, beq_iff_eq]
  omega

/-- **Two numbers in the normal form that equal one integer are the same.** -/
theorem same_of_isInt (hx : x.isNormal = true) (hy : y.isNormal = true) (hxi : x.isInt i = true)
    (hyi : y.isInt i = true) : x.same y = true := by
  match x, y with
  | .nan, _ => cases hxi
  | .infinity _, _ => cases hxi
  | .finite _ _ _, .nan => cases hyi
  | .finite _ _ _, .infinity _ => cases hyi
  | .finite s m e, .finite s' m' e' =>
    obtain ⟨hm, he, hk⟩ := isNormal_finite.mp hx
    obtain ⟨hm', he', hk'⟩ := isNormal_finite.mp hy
    have hscaled := (scaled_of_isInt 1074 he hxi).symm.trans
      (scaled_of_isInt 1074 he' hyi)
    obtain ⟨rfl, hshift⟩ := shift_unique hm hm' hk hk' hscaled
    obtain rfl : e = e' := by omega
    unfold same
    by_cases hzero : m = 0
    · simp [hzero]
    · rw [sign_of_isInt hzero hxi, sign_of_isInt hzero hyi]
      simp

end ApiDocs.Decimal.Binary64
