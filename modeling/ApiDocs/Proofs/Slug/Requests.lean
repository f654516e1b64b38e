import ApiDocs.Proofs.Slug.Assignment

/-!
# What a registry answers

A registry is asked two things, in any order and for any texts: to hand out a form of a slug
(`claim`), and whether a slug has been handed out (`has`).  `serve` is what it answers to a list of
requests, and `Served` is what the answers have to be: a claim is given the first of the forms
`food`, `food-2`, `food-3`, … that no earlier claim was given, and a slug is known exactly if some
earlier claim was given it.  `serve_spec` says that a fresh registry answers like this.

**The search for a free form ends.**  `Search` is the search as a loop without a bound: it tries the
slug, then one suffix after the other from the remembered one on.  Whatever a registry remembers and
whatever has been taken, the search comes to an end, with at most as many failures as there are
slugs taken (`search_claim`): what it tries is always new, so it cannot be taken each time.
-/

namespace ApiDocs.Slug

/-! ## 1. Requests and answers -/

/-- What a registry can be asked. -/
inductive Request where
  | claim (slug : Text)
  | has (slug : Text)
  deriving Repr, DecidableEq

/-- What it answers. -/
inductive Answer where
  | given (slug : Text)
  | known (isTaken : Bool)
  deriving Repr, DecidableEq

/-- The slug that is given. -/
def Answer.slug? : Answer → Option Text
  | .given slug => some slug
  | .known _ => none

/-- The slugs that are given in a list of answers. -/
def givenIn (answers : List Answer) : List Text := answers.filterMap Answer.slug?

namespace Registry

/-- The answer to one request, and the registry after it. -/
def answer (r : Registry) : Request → Answer × Registry
  | .claim slug => (.given (r.claim slug).1, (r.claim slug).2)
  | .has slug => (.known (r.has slug), r)

/-- The answers to several requests in a row. -/
def serve (r : Registry) : List Request → List Answer
  | [] => []
  | request :: requests => (r.answer request).1 :: (r.answer request).2.serve requests

end Registry

/-- **What the answers have to be** when the slugs `earlier` have been given before. -/
inductive Served : (earlier : List Text) → List Request → List Answer → Prop
  | done {earlier} : Served earlier [] []
  /-- A claim is given the first form that has not been given. -/
  | claim {earlier slug requests answers} (n : Nat) (hfree : form slug n ∉ earlier)
      (hbefore : ∀ k < n, form slug k ∈ earlier)
      (rest : Served (form slug n :: earlier) requests answers) :
      Served earlier (.claim slug :: requests) (.given (form slug n) :: answers)
  /-- A slug is known if and only if it has been given. -/
  | has {earlier slug requests answers} (isTaken : Bool) (hknown : isTaken = true ↔ slug ∈ earlier)
      (rest : Served earlier requests answers) :
      Served earlier (.has slug :: requests) (.known isTaken :: answers)

/-! ## 2. The search ends -/

/-- The search for a free form, from a candidate with its suffix on: after so many failures it ends
with a result and the suffix of that. -/
inductive Search (taken : List Text) (slug : Text) :
    (candidate : Text) → (count : Nat) → (failures : Nat) → (result : Text) → (last : Nat) →
      Prop
  | free {candidate count} (hfree : candidate ∉ taken) :
      Search taken slug candidate count 0 candidate count
  | next {candidate count failures result last} (htaken : candidate ∈ taken)
      (rest : Search taken slug (suffixed slug (count + 1)) (count + 1) failures result last) :
      Search taken slug candidate count (failures + 1) result last

namespace Registry

/-- The suffix from which the search for a form of a slug goes on. -/
def remembered (r : Registry) (slug : Text) : Nat := (r.counts.lookup slug).getD 1

/-- Where a suffix is free within reach, the bounded search is the search. -/
theorem search_freeFrom {taken : List Text} {slug : Text} {m : Nat}
    (hfree : suffixed slug m ∉ taken) : ∀ (steps n : Nat), n ≤ m → m < n + steps →
      ∃ failures, freeFrom taken slug steps n = n + failures ∧ n + failures ≤ m ∧
        Search taken slug (suffixed slug n) n failures (suffixed slug (n + failures)) (n + failures)
  | 0, n, hle, hlt => by omega
  | steps + 1, n, hle, hlt => by
    simp only [freeFrom, List.contains_iff_mem]
    by_cases htaken : suffixed slug n ∈ taken
    · rw [if_pos htaken]
      have hne : n ≠ m := by
        rintro rfl
        exact hfree htaken
      obtain ⟨failures, hres, hbound, hsearch⟩ :=
        search_freeFrom hfree steps (n + 1) (by omega) (by omega)
      rw [Nat.add_right_comm n 1 failures] at hres hbound hsearch
      exact ⟨failures + 1, hres, hbound, .next htaken hsearch⟩
    · rw [if_neg htaken]
      exact ⟨0, rfl, hle, .free htaken⟩

/-- Where a slug is taken, one of as many suffixes as there are slugs taken is free. -/
theorem exists_suffixed_notMem {taken : List Text} {slug : Text} (hmem : slug ∈ taken)
    (count : Nat) :
    ∃ m, count + 1 ≤ m ∧ m < count + 1 + taken.length ∧ suffixed slug m ∉ taken := by
  -- the slug itself and its suffixes are one more than there are slugs taken
  have hnodup : (slug :: (List.range' (count + 1) taken.length).map (suffixed slug)).Nodup := by
    refine List.nodup_cons.mpr ⟨fun h => ?_, ?_⟩
    · obtain ⟨n, -, hn⟩ := List.mem_map.mp h
      exact suffixed_ne slug n hn
    · exact List.Nodup.map (fun _ _ => suffixed_injective slug) List.nodup_range'
  obtain ⟨s, hs, hfree⟩ := exists_notMem_of_nodup taken hnodup (by simp)
  rcases List.mem_cons.mp hs with rfl | hs
  · exact absurd hmem hfree
  · obtain ⟨m, hm, rfl⟩ := List.mem_map.mp hs
    rw [List.mem_range'_1] at hm
    exact ⟨m, hm.1, hm.2, hfree⟩

/-- **The search ends**, with what the claim is answered with and what is remembered after it. -/
theorem search_claim (r : Registry) (slug : Text) :
    ∃ failures ≤ r.taken.length,
      Search r.taken slug slug (r.remembered slug) failures (r.claim slug).1
        ((r.claim slug).2.remembered slug) := by
  by_cases hmem : slug ∈ r.taken
  · obtain ⟨m, hle, hlt, hfree⟩ := exists_suffixed_notMem hmem (r.remembered slug)
    obtain ⟨failures, hres, hbound, hsearch⟩ := search_freeFrom hfree (r.taken.length + 1)
      (r.remembered slug + 1) hle (by omega)
    have hclaim : (r.claim slug).1 = suffixed slug (r.remembered slug + 1 + failures) := by
      rw [← hres]
      simp [claim, remembered, hmem]
    have hcount : (r.claim slug).2.remembered slug = r.remembered slug + 1 + failures := by
      rw [← hres]
      simp [claim, remembered, hmem]
    rw [hclaim, hcount]
    exact ⟨failures + 1, by omega, .next hmem hsearch⟩
  · have hclaim : (r.claim slug).1 = slug := by simp [claim, hmem]
    have hcount : (r.claim slug).2.remembered slug = r.remembered slug := by
      simp [claim, remembered, hmem]
    rw [hclaim, hcount]
    exact ⟨0, Nat.zero_le _, .free hmem⟩

/-! ## 3. The answers -/

/-- A sound registry answers from the slugs that it has given. -/
theorem served_serve : ∀ (requests : List Request) {r : Registry}, r.Sound →
    Served r.taken requests (r.serve requests)
  | [], _, _ => .done
  | .claim slug :: requests, r, h => by
    have hrest := served_serve requests (h.claim slug)
    rw [taken_claim] at hrest
    obtain ⟨n, hn, hfree, hbefore⟩ := exists_firstFree r.taken slug
    simp only [serve, answer]
    rw [claim_fst h, hn] at hrest ⊢
    exact .claim n hfree hbefore hrest
  | .has slug :: requests, r, h =>
    .has (r.has slug) List.contains_iff_mem (served_serve requests h)

end Registry

/-- What is given is new. -/
theorem Served.nodup {earlier : List Text} {requests : List Request} {answers : List Answer}
    (h : Served earlier requests answers) :
    (givenIn answers).Nodup ∧ ∀ slug ∈ givenIn answers, slug ∉ earlier := by
  induction h with
  | done => exact ⟨List.nodup_nil, fun _ hmem => absurd hmem List.not_mem_nil⟩
  | @claim earlier slug requests answers n hfree _ _ ih =>
    obtain ⟨hnodup, hnew⟩ := ih
    have hgiven : givenIn (.given (form slug n) :: answers) = form slug n :: givenIn answers := rfl
    rw [hgiven]
    refine ⟨List.nodup_cons.mpr ⟨fun hmem => hnew _ hmem List.mem_cons_self, hnodup⟩, ?_⟩
    refine List.forall_mem_cons.mpr ⟨hfree, fun s hs => ?_⟩
    exact fun hmem => hnew s hs (List.mem_cons_of_mem _ hmem)
  | has _ _ _ ih => exact ih

/-- **A fresh registry in use.**  Every claim comes to an end, whatever has been asked before: the
search, which goes on until it finds a form that is free, finds one after at most as many failures
as there are slugs taken.  To any list of requests a fresh registry answers as it should: each claim
is given the first form that no earlier claim was given, so no two claims are given the same, and a
slug is known exactly if an earlier claim was given it. -/
theorem serve_spec :
    (∀ (r : Registry) (slug : Text), ∃ failures ≤ r.taken.length,
      Search r.taken slug slug (r.remembered slug) failures (r.claim slug).1
        ((r.claim slug).2.remembered slug)) ∧
    ∀ requests : List Request,
      Served [] requests (Registry.serve {} requests) ∧
      (givenIn (Registry.serve {} requests)).Nodup := by
  refine ⟨Registry.search_claim, fun requests => ?_⟩
  have hserved := Registry.served_serve requests Registry.sound_empty
  exact ⟨hserved, hserved.nodup.1⟩

end ApiDocs.Slug
