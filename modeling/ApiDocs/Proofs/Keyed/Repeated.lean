import ApiDocs.Keyed
import ApiDocs.Proofs.Outcome
import Mathlib.Data.List.Forall2

/-!
# Entries under repeated keys

Things that carry their keys are put under them one after another.  A key that comes again keeps its
place and changes its value, so what is left is, in the place of the first thing of each key
(`Keyed.firsts`), the last one of that key (`Keyed.last?`): this is `Keyed.forall₂_merge`.

The keys may be compared in any way that is an equivalence on those that occur
(`Keyed.IsComparison`).
-/

namespace ApiDocs.Keyed

variable {κ β γ : Type} (same : κ → κ → Bool) (key : β → κ)

/-- The things whose keys have not come before. -/
def firsts (xs : List β) : List β := xs.eraseDupsBy fun y x => same (key x) (key y)

/-- The last thing under a key. -/
def last? (k : κ) (xs : List β) : Option β := (xs.filter fun x => same k (key x)).getLast?

/-- Two of the keys are the same if they stand for the same. -/
def IsComparison (f : κ → γ) (xs : List β) : Prop :=
  ∀ x ∈ xs, ∀ y ∈ xs, same (key x) (key y) = true ↔ f (key x) = f (key y)

variable {same key} {f : κ → γ} {xs ys : List β}

theorem IsComparison.subset (h : IsComparison same key f ys) (hsub : xs ⊆ ys) :
    IsComparison same key f xs :=
  fun x hx y hy => h x (hsub hx) y (hsub hy)

/-! ## 1. First things -/

theorem firsts_cons (x : β) (xs : List β) : firsts same key (x :: xs)
    = x :: firsts same key (xs.filter fun y => !same (key x) (key y)) := by
  unfold firsts
  rw [List.eraseDupsBy_cons]
  simp

variable (same key) in
/-- Induction on the first things: from those under other keys to a thing and all that follows. -/
theorem firsts_induction {P : List β → Prop} (nil : P [])
    (cons : ∀ x xs, P (xs.filter fun y => !same (key x) (key y)) → P (x :: xs)) : ∀ xs, P xs
  | [] => nil
  | x :: xs => cons x xs (firsts_induction nil cons _)
termination_by xs => xs.length
decreasing_by exact Nat.lt_succ_of_le (List.length_filter_le _ _)

theorem firsts_subset (xs : List β) : firsts same key xs ⊆ xs := by
  induction xs using firsts_induction same key with
  | nil => exact fun _ h => h
  | cons x xs ih =>
    rw [firsts_cons]
    exact List.cons_subset_cons x fun y hy => List.mem_of_mem_filter (ih hy)

/-- No key comes twice. -/
theorem pairwise_firsts (xs : List β) :
    (firsts same key xs).Pairwise fun x y => same (key x) (key y) = false := by
  induction xs using firsts_induction same key with
  | nil => exact .nil
  | cons x xs ih =>
    rw [firsts_cons]
    refine .cons (fun y hy => ?_) ih
    have hother := (List.mem_filter.mp (firsts_subset _ hy)).2
    simpa using hother

/-- Every key comes. -/
theorem exists_mem_firsts (refl : ∀ x ∈ xs, same (key x) (key x) = true) :
    ∀ y ∈ xs, ∃ x ∈ firsts same key xs, same (key x) (key y) = true := by
  induction xs using firsts_induction same key with
  | nil => exact fun y hy => absurd hy List.not_mem_nil
  | cons x xs ih =>
    intro y hy
    rw [firsts_cons]
    by_cases hsame : same (key x) (key y) = true
    · exact ⟨x, List.mem_cons_self, hsame⟩
    · have hxs : y ∈ xs := by
        rcases List.mem_cons.mp hy with rfl | hy
        · exact absurd (refl y List.mem_cons_self) hsame
        · exact hy
      have hrest : y ∈ xs.filter fun y => !same (key x) (key y) :=
        List.mem_filter.mpr ⟨hxs, by simpa using hsame⟩
      obtain ⟨z, hz, hzy⟩ := ih (fun z hz =>
        refl z (List.mem_cons_of_mem x (List.mem_of_mem_filter hz))) y hrest
      exact ⟨z, List.mem_cons_of_mem x hz, hzy⟩

/-- Of two lists, the first things are those of the first list, and those of the second list whose
keys are not in the first. -/
theorem firsts_append (h : IsComparison same key f (xs ++ ys)) :
    firsts same key (xs ++ ys) = firsts same key xs
      ++ firsts same key (ys.filter fun y => !xs.any fun x => same (key x) (key y)) := by
  induction xs using firsts_induction same key generalizing ys with
  | nil =>
    have hall : (ys.filter fun y => !([] : List β).any fun x => same (key x) (key y)) = ys :=
      List.filter_eq_self.mpr fun _ _ => rfl
    rw [hall]
    rfl
  | cons x xs ih =>
    have hfilter : ((xs ++ ys).filter fun y => !same (key x) (key y))
        = (xs.filter fun y => !same (key x) (key y))
          ++ ys.filter fun y => !same (key x) (key y) := List.filter_append _ _
    have hsub : (xs ++ ys).filter (fun y => !same (key x) (key y)) ⊆ (x :: xs) ++ ys :=
      fun y hy => List.mem_cons_of_mem x (List.mem_of_mem_filter hy)
    rw [List.cons_append, firsts_cons, firsts_cons, hfilter, ih (hfilter ▸ h.subset hsub),
      List.cons_append, List.filter_filter]
    congr 3
    refine List.filter_congr fun y hy => ?_
    -- what is the same as `y` and not as `x` is not lost with what is the same as `x`
    rw [List.any_cons, Bool.not_or, Bool.and_comm]
    cases hxy : same (key x) (key y) with
    | true => rfl
    | false =>
      have hother : ∀ z ∈ xs, same (key z) (key y) = true → same (key x) (key z) = false := by
        intro z hz hzy
        have hzmem : z ∈ (x :: xs) ++ ys :=
          List.mem_append_left ys (List.mem_cons_of_mem x hz)
        have hymem : y ∈ (x :: xs) ++ ys := List.mem_append_right _ hy
        refine Bool.eq_false_iff.mpr fun hxz => Bool.eq_false_iff.mp hxy ?_
        rw [h x List.mem_cons_self y hymem, (h x List.mem_cons_self z hzmem).mp hxz,
          (h z hzmem y hymem).mp hzy]
      have hany : ((xs.filter fun y => !same (key x) (key y)).any fun z => same (key z) (key y))
          = xs.any fun z => same (key z) (key y) := by
        rw [List.any_filter, Bool.eq_iff_iff, List.any_eq_true, List.any_eq_true]
        refine exists_congr fun z => and_congr_right fun hz => ?_
        rw [Bool.and_eq_true]
        exact ⟨fun hzy => hzy.2, fun hzy => ⟨by rw [hother z hz hzy]; rfl, hzy⟩⟩
      rw [hany]

/-! ## 2. Last things -/

theorem last?_append (k : κ) (xs ys : List β) :
    last? same key k (xs ++ ys) = (last? same key k ys).or (last? same key k xs) := by
  unfold last?
  rw [List.filter_append, List.getLast?_append]

theorem last?_cons (k : κ) (x : β) (xs : List β) : last? same key k (x :: xs)
    = if same k (key x) then some ((last? same key k xs).getD x) else last? same key k xs := by
  unfold last?
  rw [List.filter_cons]
  split
  · exact List.getLast?_cons
  · rfl

/-- A thing that is put before others stays in its place, and the last one of its key replaces it. -/
theorem foldl_put_cons (k : κ) (v : β) (seen : List (κ × β)) (xs : List β) :
    (xs.map fun x => (key x, x)).foldl (fun acc e => put same e.1 e.2 acc) ((k, v) :: seen)
      = (k, (last? same key k xs).getD v) ::
        ((xs.filter fun x => !same k (key x)).map fun x => (key x, x)).foldl
          (fun acc e => put same e.1 e.2 acc) seen := by
  induction xs generalizing v seen with
  | nil => rfl
  | cons x xs ih =>
    have hput : put same (key x) x ((k, v) :: seen)
        = if same k (key x) then (k, x) :: seen else (k, v) :: put same (key x) x seen := rfl
    rw [List.map_cons, List.foldl_cons, hput, last?_cons, List.filter_cons]
    by_cases hsame : same k (key x) = true
    · rw [if_pos hsame, if_pos hsame, ih, hsame, Option.getD_some]
      rfl
    · rw [if_neg hsame, if_neg hsame, ih, Bool.eq_false_iff.mpr hsame]
      rfl

theorem ofList_cons (x : β) (xs : List β) : ofList same ((x :: xs).map fun x => (key x, x))
    = (key x, (last? same key (key x) xs).getD x) ::
      ofList same ((xs.filter fun y => !same (key x) (key y)).map fun x => (key x, x)) :=
  foldl_put_cons (key x) x [] xs

/-- Things under another key than the first thing are not lost with those under its key. -/
theorem last?_filter {x y : β} (h : IsComparison same key f (x :: xs)) (hy : y ∈ xs)
    (hxy : same (key x) (key y) = false) :
    last? same key (key y) (xs.filter fun z => !same (key x) (key z))
      = last? same key (key y) (x :: xs) := by
  have hx : x ∈ x :: xs := List.mem_cons_self
  have hymem : y ∈ x :: xs := List.mem_cons_of_mem x hy
  have hyx : ¬ same (key y) (key x) = true := by
    rw [h y hymem x hx, eq_comm, ← h x hx y hymem, hxy]
    exact Bool.false_ne_true
  rw [last?_cons, if_neg hyx]
  unfold last?
  rw [List.filter_filter]
  refine congrArg List.getLast? (List.filter_congr fun z hz => ?_)
  have hzmem : z ∈ x :: xs := List.mem_cons_of_mem x hz
  cases hyz : same (key y) (key z) with
  | false => rfl
  | true =>
    have hxz : ¬ same (key x) (key z) = true := by
      rw [h x hx z hzmem, ← (h y hymem z hzmem).mp hyz, ← h x hx y hymem, hxy]
      exact Bool.false_ne_true
    rw [Bool.eq_false_iff.mpr hxz]
    rfl

theorem mem_of_last? {k : κ} {x : β} (h : last? same key k xs = some x) :
    x ∈ xs ∧ same k (key x) = true :=
  List.mem_filter.mp (List.mem_of_getLast? h)

theorem last?_eq_none {k : κ} (h : ∀ x ∈ xs, same k (key x) = false) :
    last? same key k xs = none := by
  unfold last?
  rw [List.getLast?_eq_none_iff, List.filter_eq_nil_iff]
  exact fun x hx => Bool.eq_false_iff.mp (h x hx)

/-! ## 3. What is left -/

/-- What is left of things that are put under their keys one after another. -/
def merge (same : κ → κ → Bool) (key : β → κ) (xs : List β) : List β :=
  (ofList same (xs.map fun x => (key x, x))).map Prod.snd

/-- **What is left of things under repeated keys**: in the place of the first thing of each key,
the last one of that key. -/
theorem forall₂_merge (h : IsComparison same key f xs) :
    List.Forall₂ (fun x y => x ∈ xs ∧ last? same key (key x) xs = some y) (firsts same key xs)
      (merge same key xs) := by
  unfold merge
  induction xs using firsts_induction same key with
  | nil => exact .nil
  | cons x xs ih =>
    rw [firsts_cons, ofList_cons, List.map_cons]
    have hself : same (key x) (key x) = true :=
      (h x List.mem_cons_self x List.mem_cons_self).mpr rfl
    refine .cons ⟨List.mem_cons_self, ?_⟩ ?_
    · rw [last?_cons, if_pos hself]
    · have hsub : (xs.filter fun y => !same (key x) (key y)) ⊆ x :: xs :=
        fun y hy => List.mem_cons_of_mem x (List.mem_of_mem_filter hy)
      refine (ih (h.subset hsub)).imp fun {y z} hyz => ⟨hsub hyz.1, ?_⟩
      have hxy : same (key x) (key y) = false := by simpa using (List.mem_filter.mp hyz.1).2
      rw [← hyz.2, last?_filter h (List.mem_of_mem_filter hyz.1) hxy]

theorem merge_subset (h : IsComparison same key f xs) : merge same key xs ⊆ xs := by
  intro y hy
  obtain ⟨x, -, -, hlast⟩ := exists_of_mem_right (forall₂_merge h) hy
  exact (mem_of_last? hlast).1

/-- One thing is left of each key. -/
theorem pairwise_merge (h : IsComparison same key f xs) :
    (merge same key xs).Pairwise fun x y => same (key x) (key y) = false := by
  have hkeys : (firsts same key xs).map (fun x => f (key x))
      = (merge same key xs).map fun x => f (key x) := by
    rw [← List.forall₂_eq_eq_eq, List.forall₂_map_left_iff, List.forall₂_map_right_iff]
    refine (forall₂_merge h).imp fun {x y} hxy => ?_
    obtain ⟨hy, hsame⟩ := mem_of_last? hxy.2
    exact (h x hxy.1 y hy).mp hsame
  have hfirsts : (firsts same key xs).Pairwise fun x y => f (key x) ≠ f (key y) :=
    (pairwise_firsts xs).imp_of_mem fun {x y} hx hy hxy heq => by
      rw [(h x (firsts_subset xs hx) y (firsts_subset xs hy)).mpr heq] at hxy
      cases hxy
  rw [← List.pairwise_map (R := (· ≠ ·)), hkeys, List.pairwise_map] at hfirsts
  refine hfirsts.imp_of_mem fun {x y} hx hy hxy => Bool.eq_false_iff.mpr fun hsame => hxy ?_
  exact (h x (merge_subset h hx) y (merge_subset h hy)).mp hsame

theorem exists_mem_merge (h : IsComparison same key f xs) :
    ∀ x ∈ xs, ∃ y ∈ merge same key xs, same (key x) (key y) = true := by
  intro x hx
  obtain ⟨z, hz, hzx⟩ := exists_mem_firsts (fun x hx => (h x hx x hx).mpr rfl) x hx
  obtain ⟨y, hy, hzmem, hlast⟩ := exists_of_mem_right (forall₂_merge h).flip hz
  obtain ⟨hymem, hzy⟩ := mem_of_last? hlast
  refine ⟨y, hy, (h x hx y hymem).mpr ?_⟩
  rw [← (h z hzmem x hx).mp hzx, (h z hzmem y hymem).mp hzy]

end ApiDocs.Keyed
