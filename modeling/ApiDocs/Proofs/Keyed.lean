import ApiDocs.Keyed
import Mathlib.Data.List.Forall2
import Mathlib.Data.List.Nodup

/-!
# Entries under different keys

Putting entries under their keys one after another loses nothing as long as the keys are different.
Whatever the keys are, it makes nothing up (`map_snd_ofList_subset`).  Altering what is bound to a
key leaves the other entries alone (`alter_map_of_mem`), and a new key comes after them
(`alter_map_of_notMem`).
-/

namespace ApiDocs

theorem Keyed.put_of_notMem {κ β : Type} [BEq κ] [LawfulBEq κ] {k : κ} {v : β} :
    ∀ {es : List (κ × β)}, k ∉ es.map Prod.fst → Keyed.put (· == ·) k v es = es ++ [(k, v)]
  | [], _ => rfl
  | (k', v') :: es, h => by
    rw [List.map_cons, List.mem_cons, not_or] at h
    have hne : (k' == k) = false := beq_false_of_ne fun heq => h.1 heq.symm
    unfold Keyed.put
    rw [hne, Keyed.put_of_notMem h.2]
    rfl

/-- Entries under different keys stay as they are. -/
theorem Keyed.ofList_of_nodup {κ β : Type} [BEq κ] [LawfulBEq κ] {es : List (κ × β)}
    (h : (es.map Prod.fst).Nodup) : Keyed.ofList (· == ·) es = es := by
  suffices hall : ∀ (es seen : List (κ × β)), ((seen ++ es).map Prod.fst).Nodup →
      es.foldl (fun acc e => Keyed.put (· == ·) e.1 e.2 acc) seen = seen ++ es from
    hall es [] h
  intro es
  induction es with
  | nil =>
    intro seen _
    rw [List.append_nil, List.foldl_nil]
  | cons e es ih =>
    intro seen hnodup
    have hnew : e.1 ∉ seen.map Prod.fst := by
      rw [List.map_append, List.nodup_append] at hnodup
      exact fun hmem => hnodup.2.2 _ hmem _ (List.mem_map_of_mem List.mem_cons_self) rfl
    rw [List.foldl_cons, Keyed.put_of_notMem hnew, ih, List.append_assoc]
    · rfl
    · rwa [List.append_assoc]

theorem Keyed.map_snd_put_subset {κ β : Type} (same : κ → κ → Bool) (k : κ) (v : β) :
    ∀ es : List (κ × β), (Keyed.put same k v es).map Prod.snd ⊆ v :: es.map Prod.snd
  | [] => fun _ h => h
  | (k', v') :: es => by
    have ih := Keyed.map_snd_put_subset same k v es
    unfold Keyed.put
    split
    · exact List.cons_subset_cons v (List.subset_cons_self v' _)
    · intro b hb
      rcases List.mem_cons.mp hb with rfl | hb
      · exact List.mem_cons_of_mem v List.mem_cons_self
      · exact List.cons_subset_cons v (List.subset_cons_self v' _) (ih hb)

/-- Only what was put under some key is found under the keys. -/
theorem Keyed.map_snd_ofList_subset {κ β : Type} (same : κ → κ → Bool) (es : List (κ × β)) :
    (Keyed.ofList same es).map Prod.snd ⊆ es.map Prod.snd := by
  suffices hall : ∀ (es seen : List (κ × β)),
      (es.foldl (fun acc e => Keyed.put same e.1 e.2 acc) seen).map Prod.snd
        ⊆ es.map Prod.snd ++ seen.map Prod.snd by
    have := hall es []
    rwa [List.map_nil, List.append_nil] at this
  intro es
  induction es with
  | nil => exact fun seen _ hb => hb
  | cons e es ih =>
    intro seen b hb
    rcases List.mem_append.mp (ih _ hb) with hb | hb
    · exact List.mem_cons_of_mem _ (List.mem_append_left _ hb)
    · rcases List.mem_cons.mp (Keyed.map_snd_put_subset same e.1 e.2 seen hb) with rfl | hb
      · exact List.mem_cons_self
      · exact List.mem_cons_of_mem _ (List.mem_append_right _ hb)

/-- Entries under other keys are put in the same way, if different keys stay different. -/
theorem Keyed.forall₂_ofList {κ β γ : Type} [BEq κ] [LawfulBEq κ] {f : κ → κ} {R : β → γ → Prop}
    (hf : Function.Injective f) {es : List (κ × β)} {es' : List (κ × γ)}
    (h : List.Forall₂ (fun e e' => e'.1 = f e.1 ∧ R e.2 e'.2) es es') :
    List.Forall₂ (fun e e' => e'.1 = f e.1 ∧ R e.2 e'.2) (Keyed.ofList (· == ·) es)
      (Keyed.ofList (· == ·) es') := by
  have hput : ∀ {e : κ × β} {e' : κ × γ}, e'.1 = f e.1 ∧ R e.2 e'.2 →
      ∀ {seen : List (κ × β)} {seen' : List (κ × γ)},
        List.Forall₂ (fun e e' => e'.1 = f e.1 ∧ R e.2 e'.2) seen seen' →
          List.Forall₂ (fun e e' => e'.1 = f e.1 ∧ R e.2 e'.2)
            (Keyed.put (· == ·) e.1 e.2 seen) (Keyed.put (· == ·) e'.1 e'.2 seen') := by
    intro e e' he seen seen' hseen
    induction hseen with
    | nil => exact .cons he .nil
    | @cons first first' seen seen' hfirst hrest ih =>
      have hsame : (first'.1 == e'.1) = (first.1 == e.1) := by
        rw [hfirst.1, he.1, Bool.eq_iff_iff, beq_iff_eq, beq_iff_eq, hf.eq_iff]
      unfold Keyed.put
      rw [hsame]
      split
      · exact .cons ⟨hfirst.1, he.2⟩ hrest
      · exact .cons hfirst ih
  suffices hall : ∀ {es : List (κ × β)} {es' : List (κ × γ)},
      List.Forall₂ (fun e e' => e'.1 = f e.1 ∧ R e.2 e'.2) es es' →
      ∀ {seen : List (κ × β)} {seen' : List (κ × γ)},
        List.Forall₂ (fun e e' => e'.1 = f e.1 ∧ R e.2 e'.2) seen seen' →
          List.Forall₂ (fun e e' => e'.1 = f e.1 ∧ R e.2 e'.2)
            (es.foldl (fun acc e => Keyed.put (· == ·) e.1 e.2 acc) seen)
            (es'.foldl (fun acc e => Keyed.put (· == ·) e.1 e.2 acc) seen') from
    hall h .nil
  intro es es' h
  induction h with
  | nil => exact fun hseen => hseen
  | cons he _ ih => exact fun hseen => ih (hput he hseen)

/-! ## Entries that are altered -/

section Alter

variable {κ β : Type} [BEq κ] [LawfulBEq κ] {k : κ} (f : Option β → β) (g : κ → β)

/-- A key that is new comes last. -/
theorem Keyed.alter_map_of_notMem : ∀ {ks : List κ}, k ∉ ks →
    Keyed.alter (· == ·) k f (ks.map (fun k' => (k', g k')))
      = ks.map (fun k' => (k', g k')) ++ [(k, f none)]
  | [], _ => rfl
  | k' :: ks, h => by
    rw [List.mem_cons, not_or] at h
    have hne : (k' == k) = false := beq_false_of_ne (Ne.symm h.1)
    rw [List.map_cons, Keyed.alter, hne, Keyed.alter_map_of_notMem h.2]
    rfl

/-- A key that is not new keeps its place, and the other entries stay as they are. -/
theorem Keyed.alter_map_of_mem : ∀ {ks : List κ}, ks.Nodup → k ∈ ks →
    Keyed.alter (· == ·) k f (ks.map (fun k' => (k', g k')))
      = ks.map (fun k' => (k', if k' == k then f (some (g k')) else g k'))
  | k' :: ks, hnodup, h => by
    obtain ⟨hnew, hnodup⟩ := List.nodup_cons.mp hnodup
    rw [List.map_cons, List.map_cons, Keyed.alter]
    by_cases hk : k' = k
    · subst hk
      have hrest : ks.map (fun k => (k, g k))
          = ks.map (fun k => (k, if k == k' then f (some (g k)) else g k)) := by
        refine List.map_congr_left fun k hk => ?_
        have hne : k ≠ k' := fun heq => hnew (heq ▸ hk)
        rw [if_neg (by simpa using hne)]
      rw [beq_self_eq_true, if_pos rfl, if_pos rfl, hrest]
    · have hmem : k ∈ ks := (List.mem_cons.mp h).resolve_left (Ne.symm hk)
      rw [beq_false_of_ne hk, if_neg Bool.false_ne_true, if_neg Bool.false_ne_true,
        Keyed.alter_map_of_mem hnodup hmem]

end Alter

end ApiDocs
