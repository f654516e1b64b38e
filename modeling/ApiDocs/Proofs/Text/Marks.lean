import ApiDocs.Text.Decomposition
import Mathlib

/-!
# Sorting marks

Normalisation sorts the marks after each letter by combining class.  A code point moves only past
marks, so whatever is computed from a text code point by code point, and is empty for marks, is the
same before and after (`flatMap_reorder`).  No mark is an ASCII character.
-/

namespace ApiDocs.Text.Decomposition

/-! ## 1. Order -/

variable {α : Type} {f : Nat → List α}

theorem perm_insertMark (n : Nat) : ∀ ns, (insertMark n ns).Perm (n :: ns)
  | [] => .refl _
  | m :: ns => by
    unfold insertMark
    split
    · exact ((perm_insertMark n ns).cons m).trans (.swap n m ns)
    · exact .refl _

theorem perm_reorder : ∀ ns, (reorder ns).Perm ns
  | [] => .refl _
  | n :: ns => (perm_insertMark n (reorder ns)).trans ((perm_reorder ns).cons n)

theorem flatMap_insertMark (n : Nat) : ∀ {ns : List Nat},
    (∀ m ∈ ns, combiningClass m ≠ 0 → f m = []) →
      (insertMark n ns).flatMap f = f n ++ ns.flatMap f
  | [], _ => rfl
  | m :: ns, h => by
    obtain ⟨hm, hns⟩ := List.forall_mem_cons.mp h
    unfold insertMark
    split
    · next hmark => simp [flatMap_insertMark n hns, hm hmark.1]
    · rfl

/-- **Sorting is not seen** by what is computed character by character and empty for marks. -/
theorem flatMap_reorder : ∀ {ns : List Nat}, (∀ n ∈ ns, combiningClass n ≠ 0 → f n = []) →
    (reorder ns).flatMap f = ns.flatMap f
  | [], _ => rfl
  | n :: ns, h => by
    obtain ⟨-, hns⟩ := List.forall_mem_cons.mp h
    have hsorted : ∀ m ∈ reorder ns, combiningClass m ≠ 0 → f m = [] :=
      fun m hm => hns m ((perm_reorder ns).mem_iff.mp hm)
    rw [reorder, flatMap_insertMark n hsorted, flatMap_reorder hns, List.flatMap_cons]

/-! ## 2. Which code points are marks -/

/-- The marks are no ASCII characters, and numbers of characters. -/
theorem of_mem_combiningClasses : ∀ r ∈ combiningClasses,
    0x300 ≤ r.1 ∧ (r.2.1 < 0xD800 ∨ (0xE000 ≤ r.1 ∧ r.2.1 < 0x110000)) := by
  decide +kernel

theorem of_combiningClass_ne_zero {n : Nat} (h : combiningClass n ≠ 0) :
    0x300 ≤ n ∧ n.isValidChar := by
  unfold combiningClass at h
  split at h
  · exact absurd rfl h
  split at h
  · next first last k hfind =>
    obtain ⟨hfirst, hlast⟩ := of_mem_combiningClasses _ (List.mem_of_find?_eq_some hfind)
    have hle : n ≤ last := by simpa using List.find?_some hfind
    dsimp only at hfirst hlast
    split at h
    · exact ⟨by omega, by unfold Nat.isValidChar; omega⟩
    · exact absurd rfl h
  · exact absurd rfl h

end ApiDocs.Text.Decomposition
