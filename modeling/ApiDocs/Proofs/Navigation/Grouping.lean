import ApiDocs.Proofs.Keyed
import Mathlib.Data.List.Basic
import Mathlib.Data.List.Perm.Basic

/-!
# Grouping under labels loses nothing

The members of a list are grouped by a label: one group for each label that occurs, the groups in
the order in which the labels first occur, and in each group the members in the order of the list
(`groups`).

* `alter_groups`: the groups can be filled in one pass over the list, each member put at the end of
  the group of its label.
* `nodup_distinct`, `mem_distinct`, `pairwise_distinct`: the labels of the groups are those that
  occur, once each, in the order of their first occurrence.
* `flatMap_filter_perm`: the groups one after another are a rearrangement of the list, so every
  member stands in exactly one group, as often as in the list.
* `draw_filter`: the list comes back if the groups are drawn from again in the order of the labels.
  This says that both orders, of the groups and in each group, are right.
-/

namespace ApiDocs.Navigation

variable {α β κ : Type} [BEq κ] [LawfulBEq κ]

/-! ## 1. The labels -/

/-- The members of a list without repetitions, each where it first occurs. -/
def distinct {α : Type} [BEq α] : List α → List α
  | [] => []
  | x :: xs => x :: (distinct xs).filter (fun y => !(y == x))

theorem mem_distinct {x : κ} : ∀ {xs : List κ}, x ∈ distinct xs ↔ x ∈ xs
  | [] => by simp [distinct]
  | y :: ys => by
    by_cases h : x = y
    · simp [distinct, h]
    · have ih : x ∈ distinct ys ↔ x ∈ ys := mem_distinct
      simp [distinct, h, ih]

theorem nodup_distinct : ∀ xs : List κ, (distinct xs).Nodup
  | [] => List.nodup_nil
  | x :: xs => by
    refine List.nodup_cons.mpr ⟨?_, (nodup_distinct xs).filter _⟩
    simp

/-- The standard library's name for the members of a list where they first occur. -/
theorem distinct_eq_eraseDups (xs : List κ) : distinct xs = xs.eraseDups := by
  suffices h : ∀ (n : Nat) (p : κ → Bool) (xs : List κ), xs.length ≤ n →
      (distinct xs).filter p = (xs.filter p).eraseDups by
    simpa using h xs.length (fun _ => true) xs (Nat.le_refl _)
  intro n
  induction n with
  | zero =>
    intro p xs h
    rw [List.length_eq_zero_iff.mp (Nat.le_zero.mp h)]
    rfl
  | succ n ih =>
    intro p xs h
    match xs with
    | [] => rfl
    | x :: xs =>
      have hlen : xs.length ≤ n := Nat.le_of_succ_le_succ h
      simp only [distinct, List.filter_cons, List.filter_filter]
      by_cases hx : p x = true
      · rw [if_pos hx, if_pos hx, List.eraseDups_cons, List.filter_filter, ih _ xs hlen]
        simp only [Bool.and_comm]
      · rw [if_neg hx, if_neg hx, ← ih p xs hlen]
        -- a member that `p` rejects makes no difference to the members that it accepts
        refine List.filter_congr fun y _ => ?_
        by_cases hy : y = x
        · simp [hy, hx]
        · simp [hy]

/-- **The order of the labels** is that of their first occurrences. -/
theorem pairwise_distinct : ∀ xs : List κ,
    (distinct xs).Pairwise (fun a b => xs.idxOf a < xs.idxOf b)
  | [] => List.Pairwise.nil
  | x :: xs => by
    refine List.pairwise_cons.mpr ⟨fun b hb => ?_, ?_⟩
    · have hne : b ≠ x := by simpa using (List.mem_filter.mp hb).2
      rw [List.idxOf_cons_self, List.idxOf_cons_ne xs (Ne.symm hne)]
      exact Nat.succ_pos _
    · refine ((pairwise_distinct xs).filter _).imp_of_mem fun {a b} ha hb h => ?_
      have hax : a ≠ x := by simpa using (List.mem_filter.mp ha).2
      have hbx : b ≠ x := by simpa using (List.mem_filter.mp hb).2
      rw [List.idxOf_cons_ne xs (Ne.symm hax), List.idxOf_cons_ne xs (Ne.symm hbx)]
      exact Nat.succ_lt_succ h

/-- A new member comes last. -/
theorem distinct_concat_of_notMem {x : κ} : ∀ {xs : List κ}, x ∉ xs →
    distinct (xs ++ [x]) = distinct xs ++ [x]
  | [], _ => rfl
  | y :: ys, h => by
    rw [List.mem_cons, not_or] at h
    rw [List.cons_append, distinct, distinct_concat_of_notMem h.2, List.filter_append,
      List.filter_singleton, beq_false_of_ne h.1, distinct]
    rfl

/-- A member that occurred before makes no difference. -/
theorem distinct_concat_of_mem {x : κ} : ∀ {xs : List κ}, x ∈ xs →
    distinct (xs ++ [x]) = distinct xs
  | y :: ys, h => by
    rw [List.cons_append, distinct, distinct]
    by_cases hmem : x ∈ ys
    · rw [distinct_concat_of_mem hmem]
    · obtain rfl : x = y := (List.mem_cons.mp h).resolve_right hmem
      rw [distinct_concat_of_notMem hmem, List.filter_append, List.filter_singleton,
        beq_self_eq_true]
      exact congrArg _ (List.append_nil _)

/-! ## 2. The groups -/

/-- The groups of a list, with their labels; of each member there is listed what `f` makes of it. -/
def groups (label : α → κ) (f : α → β) (xs : List α) : List (κ × List β) :=
  (distinct (xs.map label)).map (fun k => (k, (xs.filter (fun x => label x == k)).map f))

/-- **One member more.**  The groups of a list become those of the list with one more member at its
end if the member is put at the end of the group of its label.  If there is no such group yet, it
comes last. -/
theorem alter_groups (label : α → κ) (f : α → β) (x : α) (xs : List α) :
    Keyed.alter (· == ·) (label x) (fun ys => ys.getD [] ++ [f x]) (groups label f xs)
      = groups label f (xs ++ [x]) := by
  have hsame : ((xs ++ [x]).filter (fun y => label y == label x)).map f
      = (xs.filter (fun y => label y == label x)).map f ++ [f x] := by
    rw [List.filter_append, List.filter_singleton, beq_self_eq_true, List.map_append]
    rfl
  have hother : ∀ k, k ≠ label x → ((xs ++ [x]).filter (fun y => label y == k)).map f
      = (xs.filter (fun y => label y == k)).map f := by
    intro k hk
    rw [List.filter_append, List.filter_singleton, beq_false_of_ne (Ne.symm hk), cond_false,
      List.append_nil]
  unfold groups
  by_cases hmem : label x ∈ xs.map label
  · rw [Keyed.alter_map_of_mem _ _ (nodup_distinct _) (mem_distinct.mpr hmem), List.map_append,
      List.map_singleton, distinct_concat_of_mem hmem]
    refine List.map_congr_left fun k _ => ?_
    by_cases hk : k = label x
    · rw [hk, beq_self_eq_true, if_pos rfl, hsame, Option.getD_some]
    · rw [beq_false_of_ne hk, if_neg Bool.false_ne_true, hother k hk]
  · have hnone : (xs.filter (fun y => label y == label x)).map f = [] := by
      rw [List.map_eq_nil_iff, List.filter_eq_nil_iff]
      exact fun y hy hlabel => hmem (beq_iff_eq.mp hlabel ▸ List.mem_map_of_mem hy)
    rw [Keyed.alter_map_of_notMem _ _ fun h => hmem (mem_distinct.mp h), List.map_append,
      List.map_singleton, distinct_concat_of_notMem hmem, List.map_append, List.map_singleton, hsame,
      hnone, Option.getD_none]
    congr 1
    refine List.map_congr_left fun k hk => ?_
    rw [hother k fun heq => hmem (heq ▸ mem_distinct.mp hk)]

/-- **Every member stands in one group.**  For labels without repetitions that cover the list, the
groups one after another are a rearrangement of it. -/
theorem flatMap_filter_perm (label : α → κ) (labels : List κ) (hnodup : labels.Nodup) :
    ∀ xs : List α, (∀ x ∈ xs, label x ∈ labels) →
      (labels.flatMap (fun k => xs.filter (fun x => label x == k))).Perm xs
  | [], _ => by simp
  | x :: xs, hcover => by
    have hrest := flatMap_filter_perm label labels hnodup xs
      (fun y hy => hcover y (List.mem_cons_of_mem _ hy))
    -- the group of `x` is split off: before and after it, the groups are those of `xs`
    obtain ⟨before, after, rfl⟩ := List.append_of_mem (hcover x List.mem_cons_self)
    have hne : ∀ k ∈ before ++ after, (x :: xs).filter (fun y => label y == k)
        = xs.filter (fun y => label y == k) := by
      intro k hk
      have hx : label x ≠ k := by
        rintro rfl
        exact (List.nodup_cons.mp (List.perm_middle.nodup_iff.mp hnodup)).1 hk
      simp [hx]
    have hb : before.flatMap (fun k => (x :: xs).filter (fun y => label y == k))
        = before.flatMap (fun k => xs.filter (fun y => label y == k)) :=
      List.flatMap_congr fun k hk => hne k (List.mem_append_left _ hk)
    have ha : after.flatMap (fun k => (x :: xs).filter (fun y => label y == k))
        = after.flatMap (fun k => xs.filter (fun y => label y == k)) :=
      List.flatMap_congr fun k hk => hne k (List.mem_append_right _ hk)
    rw [List.flatMap_append, List.flatMap_cons] at hrest ⊢
    rw [hb, ha, List.filter_cons, beq_self_eq_true, if_pos rfl, List.cons_append]
    exact List.perm_middle.trans (hrest.cons x)

/-- Members drawn from groups, one for each label of a list; a label whose group is used up is
passed over. -/
def draw : List κ → (κ → List α) → List α
  | [], _ => []
  | k :: ks, groups =>
    match groups k with
    | [] => draw ks groups
    | x :: rest => x :: draw ks (fun k' => if k' == k then rest else groups k')

/-- **The list comes back**: drawn from in the order of the labels of the list, its groups give the
list again. -/
theorem draw_filter (label : α → κ) (f : α → β) : ∀ (xs : List α) (groups : κ → List β),
    (∀ k, groups k = (xs.filter (fun x => label x == k)).map f) →
      draw (xs.map label) groups = xs.map f
  | [], _, _ => rfl
  | x :: xs, groups, h => by
    have hx : groups (label x)
        = f x :: (xs.filter (fun y => label y == label x)).map f := by
      rw [h, List.filter_cons, beq_self_eq_true, if_pos rfl, List.map_cons]
    simp only [List.map_cons, draw, hx]
    rw [draw_filter label f xs]
    intro k
    by_cases hk : k = label x
    · subst hk
      rw [beq_self_eq_true, if_pos rfl]
    · rw [if_neg (by simpa using hk), h, List.filter_cons, if_neg (by simpa using Ne.symm hk)]

end ApiDocs.Navigation
