import ApiDocs.Proofs.Decimal.Rounding
import ApiDocs.Proofs.Outcome
import ApiDocs.Proofs.Value.Keys
import ApiDocs.Yaml.Conversion

/-!
# Scalars are exact

A number in a document is rounded to the normal form, and has an origin only if it is not a number.
So the value of a scalar may stand in a key, wherever it is compared with other keys by quantity
(`isExact_of_scalarValue`).
-/

namespace ApiDocs.Yaml

open Decimal (Binary64)

variable {x total : Binary64} {v : Value}

theorem isNormal_of_decimalOf {cs : List Char} (h : decimalOf cs = .ok x) :
    x.isNormal = true := by
  unfold decimalOf at h
  split at h
  · next y hread =>
    cases h
    exact Binary64.isNormal_of_read? hread
  · cases h

theorem isNormal_of_sexagesimalFloat : ∀ {xs : List Binary64} {scale : Nat} {total : Binary64},
    total.isNormal = true → (∀ y ∈ xs, y.isNormal = true) →
      sexagesimalFloat scale total xs = .ok x → x.isNormal = true
  | [], scale, total, htotal, _, h => by
    cases h
    exact htotal
  | y :: xs, scale, total, htotal, hxs, h => by
    unfold sexagesimalFloat at h
    split at h
    · refine isNormal_of_sexagesimalFloat ?_ (fun z hz => hxs z (List.mem_cons_of_mem y hz)) h
      exact Binary64.isNormal_add htotal (Binary64.isNormal_scaleBy _ (hxs y List.mem_cons_self))
    · cases h

theorem isExact_floatWithOrigin {origin : Nat} (h : x.isNormal = true) :
    (floatWithOrigin origin x).isExact = true := by
  unfold floatWithOrigin Value.isExact
  rw [h]
  by_cases hnan : x = .nan
  · rw [hnan]
    rfl
  · rw [if_neg hnan]
    exact Bool.or_true _

theorem isExact_of_floatOf {own : Nat} {cs : List Char} (h : floatOf own cs = .ok v) :
    v.isExact = true := by
  obtain ⟨⟨negative, body⟩, -, h⟩ := bind_eq_ok.mp h
  dsimp only at h
  have hsigned : ∀ y : Binary64, y.isNormal = true →
      (if negative then y.neg else y).isNormal = true := by
    intro y hy
    split
    · exact Binary64.isNormal_neg hy
    · exact hy
  split at h
  · cases h
    exact isExact_floatWithOrigin (hsigned _ rfl)
  split at h
  · cases h
    exact isExact_floatWithOrigin rfl
  split at h
  · obtain ⟨parts, hparts, h⟩ := bind_eq_ok.mp h
    obtain ⟨y, hy, h⟩ := bind_eq_ok.mp h
    cases h
    refine isExact_floatWithOrigin (hsigned y (isNormal_of_sexagesimalFloat rfl ?_ hy))
    intro z hz
    obtain ⟨digits, -, hread⟩ := (mem_of_mapM_eq_ok hparts).mp (List.mem_reverse.mp hz)
    exact isNormal_of_decimalOf hread
  · obtain ⟨y, hy, h⟩ := bind_eq_ok.mp h
    cases h
    exact isExact_floatWithOrigin (hsigned y (isNormal_of_decimalOf hy))

theorem isExact_of_timestampOf {cs : List Char} (h : timestampOf cs = .ok v) :
    v.isExact = true := by
  unfold timestampOf at h
  split at h
  · cases h
  extract_lets date at h
  split at h
  · split at h <;> cases h
    rfl
  · extract_lets micro offset at h
    split at h <;> cases h
    rfl

/-- **The value of a scalar is exact.** -/
theorem isExact_of_scalarValue {own : Nat} {tag : CoreTag} {text : Text}
    (h : scalarValue own tag text = .ok v) : v.isExact = true := by
  unfold scalarValue at h
  split at h
  · cases h
    rfl
  · obtain ⟨b, -, rfl⟩ := map_eq_ok.mp h
    rfl
  · obtain ⟨i, -, rfl⟩ := map_eq_ok.mp h
    rfl
  · exact isExact_of_floatOf h
  · exact isExact_of_timestampOf h
  · obtain ⟨bs, -, rfl⟩ := map_eq_ok.mp h
    rfl
  · cases h
    rfl
  · cases h

end ApiDocs.Yaml
