import ApiDocs.Proofs.Text.Strings
import ApiDocs.Slug.Registry
import Mathlib.Data.List.Nodup
import Mathlib.Data.List.Perm.Subperm
import Mathlib.Data.Nat.Find

/-!
# Slugs are handed out first come, first served

A `Registry` remembers, for every slug that was claimed, the last suffix it tried, and looks for a
free one from there on.  This module proves that the memory changes nothing: what a registry hands
out is what somebody without a memory would hand out who, for each slug in turn, goes through the
forms `food`, `food-2`, `food-3`, … from the start and takes the first that nobody has (`assign`).

* `Sound`: every form below the remembered suffix is taken.  This is the invariant, and the reason
  why no free form is passed over although other slugs may claim names of the same shape
  (`food-2` may be a slug of its own).
* `claim_fst`: a sound registry hands out the first free form; `Sound.claim`: and stays sound.
* `nodup_assign`: no two slugs of an assignment get the same form.

Some form is always free (`exists_form_notMem`): the forms are pairwise different
(`form_injective`), and only finitely many of them are taken.
-/

namespace ApiDocs.Slug

/-! ## 1. The forms of a slug -/

/-- The forms of a slug in the order in which they are tried: the slug itself, then the slug with
the suffixes `-2`, `-3`, …. -/
def form (slug : Text) : Nat → Text
  | 0 => slug
  | n + 1 => suffixed slug (n + 2)

theorem decimal_injective {m n : Nat} (h : Text.decimal m = Text.decimal n) : m = n := by
  have hv := congrArg (fun ds => Nat.ofDigitChars 10 ds 0) h
  simpa [Text.decimal, Nat.ofDigitChars_toDigits] using hv

theorem suffixed_eq (slug : Text) (n : Nat) :
    suffixed slug n = slug ++ .char '-' :: Text.ofNat n := by
  rw [suffixed, List.append_assoc]
  rfl

theorem suffixed_injective (slug : Text) {m n : Nat} (h : suffixed slug m = suffixed slug n) :
    m = n := by
  rw [suffixed_eq, suffixed_eq] at h
  exact decimal_injective (Text.ofChars_injective (List.cons.inj (List.append_cancel_left h)).2)

theorem suffixed_ne (slug : Text) (n : Nat) : suffixed slug n ≠ slug := by
  intro h
  have hl := congrArg List.length h
  rw [suffixed_eq, List.length_append, List.length_cons] at hl
  omega

/-- No form of a slug that is not empty is empty. -/
theorem form_ne_nil {slug : Text} (h : slug ≠ []) : ∀ n, form slug n ≠ []
  | 0 => h
  | n + 1 => by
    rw [form, suffixed_eq]
    exact List.append_ne_nil_of_right_ne_nil _ (List.cons_ne_nil _ _)

theorem form_injective (slug : Text) : Function.Injective (form slug) := by
  intro m n h
  match m, n with
  | 0, 0 => rfl
  | 0, n + 1 => exact absurd h.symm (suffixed_ne slug (n + 2))
  | m + 1, 0 => exact absurd h (suffixed_ne slug (m + 2))
  | m + 1, n + 1 =>
    have := suffixed_injective slug h
    omega

/-- Of one string more than there are slugs taken, not all can be taken. -/
theorem exists_notMem_of_nodup (taken : List Text) {strings : List Text}
    (hnodup : strings.Nodup) (hlength : taken.length < strings.length) :
    ∃ s ∈ strings, s ∉ taken := by
  by_contra hall
  have hsub : strings ⊆ taken := fun s hs => by_contra fun hfree => hall ⟨s, hs, hfree⟩
  exact absurd (List.subperm_of_subset hnodup hsub).length_le (Nat.not_le_of_lt hlength)

/-- **Some form is free**, since all forms are different. -/
theorem exists_form_notMem_lt (taken : List Text) (slug : Text) (k : Nat) :
    ∃ n, k ≤ n ∧ n < k + taken.length + 1 ∧ form slug n ∉ taken := by
  have hnodup : ((List.range' k (taken.length + 1)).map (form slug)).Nodup :=
    List.Nodup.map (form_injective slug) List.nodup_range'
  obtain ⟨s, hs, hfree⟩ := exists_notMem_of_nodup taken hnodup (by simp)
  obtain ⟨n, hn, rfl⟩ := List.mem_map.mp hs
  rw [List.mem_range'_1] at hn
  exact ⟨n, hn.1, by omega, hfree⟩

theorem exists_form_notMem (taken : List Text) (slug : Text) :
    ∃ n, form slug n ∉ taken := by
  obtain ⟨n, -, -, hn⟩ := exists_form_notMem_lt taken slug 0
  exact ⟨n, hn⟩

/-! ## 2. The assignment -/

/-- The first form of a slug that nobody has. -/
def firstFree (taken : List Text) (slug : Text) : Text :=
  form slug (Nat.find (exists_form_notMem taken slug))

theorem firstFree_notMem (taken : List Text) (slug : Text) : firstFree taken slug ∉ taken :=
  Nat.find_spec (exists_form_notMem taken slug)

/-- It is free, and all forms before it are taken. -/
theorem exists_firstFree (taken : List Text) (slug : Text) :
    ∃ n, firstFree taken slug = form slug n ∧ form slug n ∉ taken ∧
      ∀ k < n, form slug k ∈ taken :=
  ⟨_, rfl, Nat.find_spec (exists_form_notMem taken slug),
    fun _ hk => not_not.mp (Nat.find_min (exists_form_notMem taken slug) hk)⟩

/-- A form is the first free one if it is free and all forms before it are taken. -/
theorem firstFree_eq_form {taken : List Text} {slug : Text} {n : Nat}
    (hfree : form slug n ∉ taken) (hbefore : ∀ k < n, form slug k ∈ taken) :
    firstFree taken slug = form slug n := by
  unfold firstFree
  rw [(Nat.find_eq_iff (exists_form_notMem taken slug)).mpr
    ⟨hfree, fun k hk => not_not_intro (hbefore k hk)⟩]

/-- A slug that nobody has keeps its own form. -/
theorem firstFree_of_notMem {taken : List Text} {slug : Text} (h : slug ∉ taken) :
    firstFree taken slug = slug :=
  firstFree_eq_form (n := 0) h (fun _ hk => absurd hk (Nat.not_lt_zero _))

/-- **The assignment.**  Each slug in turn gets its first form that is neither taken nor given to a
slug before it. -/
def assign (taken : List Text) : List Text → List Text
  | [] => []
  | slug :: slugs => firstFree taken slug :: assign (firstFree taken slug :: taken) slugs

@[simp] theorem length_assign (slugs : List Text) :
    ∀ taken : List Text, (assign taken slugs).length = slugs.length := by
  induction slugs with
  | nil => intro taken; rfl
  | cons slug slugs ih => intro taken; simp [assign, ih]

/-- Slugs at the end of the list change nothing for those before them. -/
theorem assign_append (slugs others : List Text) : ∀ taken : List Text,
    assign taken (slugs ++ others) =
      assign taken slugs ++ assign ((assign taken slugs).reverse ++ taken) others := by
  induction slugs with
  | nil => intro taken; rfl
  | cons slug slugs ih => intro taken; simp [assign, ih]

/-- One more slug gets its first form that is still free. -/
theorem assign_concat (slugs : List Text) (slug : Text) (taken : List Text) :
    assign taken (slugs ++ [slug])
      = assign taken slugs ++ [firstFree ((assign taken slugs).reverse ++ taken) slug] :=
  assign_append slugs [slug] taken

theorem notMem_of_mem_assign {s : Text} (slugs : List Text) :
    ∀ taken : List Text, s ∈ assign taken slugs → s ∉ taken := by
  induction slugs with
  | nil => intro taken hs; exact absurd hs List.not_mem_nil
  | cons slug slugs ih =>
    intro taken hs
    rcases List.mem_cons.mp hs with rfl | hs
    · exact firstFree_notMem taken slug
    · exact fun hmem => ih _ hs (List.mem_cons_of_mem _ hmem)

/-- What is given is a form of a slug that was asked for. -/
theorem exists_form_of_mem_assign {s : Text} : ∀ {slugs taken : List Text},
    s ∈ assign taken slugs → ∃ slug ∈ slugs, ∃ n, s = form slug n
  | [], _, h => absurd h List.not_mem_nil
  | slug :: slugs, _, h => by
    rcases List.mem_cons.mp h with rfl | h
    · exact ⟨slug, List.mem_cons_self, _, rfl⟩
    · obtain ⟨other, hother, n, hn⟩ := exists_form_of_mem_assign h
      exact ⟨other, List.mem_cons_of_mem slug hother, n, hn⟩

/-- **No form is given twice.** -/
theorem nodup_assign (slugs : List Text) : ∀ taken : List Text,
    (assign taken slugs).Nodup := by
  induction slugs with
  | nil => intro taken; exact List.nodup_nil
  | cons slug slugs ih =>
    intro taken
    refine List.nodup_cons.mpr ⟨fun hmem => ?_, ih _⟩
    exact notMem_of_mem_assign slugs _ hmem List.mem_cons_self

namespace Registry

/-! ## 3. The search for a free suffix -/

/-- The search stops at the first free suffix, if there is one within its reach. -/
theorem freeFrom_spec {taken : List Text} {slug : Text} :
    ∀ (steps n : Nat), (∃ m, n ≤ m ∧ m < n + steps ∧ suffixed slug m ∉ taken) →
      n ≤ freeFrom taken slug steps n ∧ suffixed slug (freeFrom taken slug steps n) ∉ taken ∧
        ∀ k, n ≤ k → k < freeFrom taken slug steps n → suffixed slug k ∈ taken
  | 0, n, ⟨m, hnm, hm, _⟩ => by omega
  | steps + 1, n, ⟨m, hnm, hm, hfree⟩ => by
    simp only [freeFrom, List.contains_iff_mem]
    by_cases htaken : suffixed slug n ∈ taken
    · rw [if_pos htaken]
      have hne : m ≠ n := by
        rintro rfl
        exact hfree htaken
      obtain ⟨hle, hres, hbefore⟩ :=
        freeFrom_spec steps (n + 1) ⟨m, by omega, by omega, hfree⟩
      refine ⟨by omega, hres, fun k hnk hk => ?_⟩
      rcases Nat.eq_or_lt_of_le hnk with rfl | hlt
      · exact htaken
      · exact hbefore k hlt hk
    · rw [if_neg htaken]
      exact ⟨Nat.le_refl n, htaken, fun k hnk hk => absurd hk (by omega)⟩

/-! ## 4. The invariant, and what one claim does -/

/-- **The memory is right**: all forms of a slug up to the remembered suffix are taken. -/
def Sound (r : Registry) : Prop :=
  ∀ slug count, r.counts.lookup slug = some count → 1 ≤ count ∧ ∀ k < count, form slug k ∈ r.taken

theorem sound_empty : Sound {} := by
  intro slug count h
  simp at h

/-- What is remembered of a slug that is taken; nothing to remember counts as one form. -/
theorem Sound.form_mem {r : Registry} (h : r.Sound) {slug : Text} (hmem : slug ∈ r.taken) :
    1 ≤ (r.counts.lookup slug).getD 1 ∧
      ∀ k < (r.counts.lookup slug).getD 1, form slug k ∈ r.taken := by
  cases hc : r.counts.lookup slug with
  | none =>
    refine ⟨Nat.le_refl 1, fun k hk => ?_⟩
    obtain rfl : k = 0 := Nat.lt_one_iff.mp hk
    exact hmem
  | some count => exact h slug count hc

/-- The suffix that a claim of a taken slug finds, as the number of its form. -/
theorem Sound.freeFrom_spec {r : Registry} (h : r.Sound) {slug : Text} (hmem : slug ∈ r.taken) :
    ∃ n, freeFrom r.taken slug (r.taken.length + 1) ((r.counts.lookup slug).getD 1 + 1) = n + 1 ∧
      form slug n ∉ r.taken ∧ (∀ k < n, form slug k ∈ r.taken) ∧
      suffixed slug (n + 1) = form slug n := by
  obtain ⟨hpos, hbelow⟩ := h.form_mem hmem
  generalize (r.counts.lookup slug).getD 1 = count at hpos hbelow
  obtain ⟨m, hm, hlt, hfree⟩ := exists_form_notMem_lt r.taken slug count
  have hform : ∀ k, 1 ≤ k → suffixed slug (k + 1) = form slug k := by
    intro k hk
    obtain ⟨k, rfl⟩ : ∃ j, k = j + 1 := ⟨k - 1, by omega⟩
    rfl
  obtain ⟨hle, hres, hbetween⟩ := @Registry.freeFrom_spec r.taken slug
    (r.taken.length + 1) (count + 1)
    ⟨m + 1, by omega, by omega, by rw [hform m (by omega)]; exact hfree⟩
  obtain ⟨n, hn⟩ : ∃ n, freeFrom r.taken slug (r.taken.length + 1) (count + 1) = n + 1 :=
    ⟨_ - 1, (Nat.sub_add_cancel (by omega)).symm⟩
  rw [hn] at hle hres hbetween
  refine ⟨n, hn, ?_, fun k hk => ?_, hform n (by omega)⟩
  · rwa [← hform n (by omega)]
  · rcases Nat.lt_or_ge k count with hc | hc
    · exact hbelow k hc
    · rw [← hform k (by omega)]
      exact hbetween (k + 1) (by omega) (by omega)

/-- **A claim is answered with the first free form.** -/
theorem claim_fst {r : Registry} (h : r.Sound) (slug : Text) :
    (r.claim slug).1 = firstFree r.taken slug := by
  unfold claim
  by_cases hmem : slug ∈ r.taken
  · obtain ⟨n, hn, hfree, hbefore, hform⟩ := h.freeFrom_spec hmem
    simp only [List.contains_iff_mem, hmem, if_true, hn, hform]
    exact (firstFree_eq_form hfree hbefore).symm
  · simp only [List.contains_iff_mem, hmem, if_false]
    exact (firstFree_of_notMem hmem).symm

/-- What a claim is answered with is taken from then on, and nothing else. -/
theorem taken_claim (r : Registry) (slug : Text) :
    (r.claim slug).2.taken = (r.claim slug).1 :: r.taken := rfl

theorem lookup_filter_ne {slug other : Text} (hne : other ≠ slug)
    (counts : List (Text × Nat)) :
    (counts.filter (fun e => e.1 != slug)).lookup other = counts.lookup other := by
  induction counts with
  | nil => rfl
  | cons e counts ih =>
    obtain ⟨k, n⟩ := e
    by_cases hk : k = slug
    · simp [hk, List.lookup_cons, beq_false_of_ne hne, ih]
    · simp [hk, List.lookup_cons, ih]

/-- **A claim keeps the memory right.** -/
theorem Sound.claim {r : Registry} (h : r.Sound) (slug : Text) : (r.claim slug).2.Sound := by
  intro other count hc
  rw [taken_claim]
  by_cases hne : other = slug
  · subst hne
    by_cases hmem : other ∈ r.taken
    · obtain ⟨n, hn, hfree, hbefore, hform⟩ := h.freeFrom_spec hmem
      simp only [Registry.claim, List.contains_iff_mem, hmem, if_true, hn, List.lookup_cons_self,
        Option.some.injEq] at hc
      subst hc
      refine ⟨by omega, fun k hk => ?_⟩
      rcases Nat.lt_succ_iff_lt_or_eq.mp hk with hk | rfl
      · exact List.mem_cons_of_mem _ (hbefore k hk)
      · rw [claim_fst h, firstFree_eq_form hfree hbefore]
        exact List.mem_cons_self
    · simp only [Registry.claim, List.contains_iff_mem, hmem, if_false, List.lookup_cons_self,
        Option.some.injEq] at hc
      subst hc
      cases hl : r.counts.lookup other with
      | none =>
        refine ⟨Nat.le_refl 1, fun k hk => ?_⟩
        obtain rfl : k = 0 := Nat.lt_one_iff.mp hk
        rw [claim_fst h, firstFree_of_notMem hmem]
        exact List.mem_cons_self
      | some count =>
        -- nothing is remembered of a slug that nobody has
        obtain ⟨hpos, hbelow⟩ := h other count hl
        exact absurd (hbelow 0 hpos) hmem
  · have hc' : r.counts.lookup other = some count := by
      rw [← hc]
      simp [Registry.claim, List.lookup_cons, beq_false_of_ne hne, lookup_filter_ne hne]
    obtain ⟨hpos, hbelow⟩ := h other count hc'
    exact ⟨hpos, fun k hk => List.mem_cons_of_mem _ (hbelow k hk)⟩

end Registry

end ApiDocs.Slug
