import ApiDocs.Navigation.Compile
import ApiDocs.Navigation.Sidebar
import ApiDocs.Proofs.Navigation.Clashes
import ApiDocs.Proofs.Navigation.Grouping
import ApiDocs.Proofs.Slug.Assignment
import ApiDocs.Proofs.Text.Strings

/-!
# What a compiled tree holds

`compile` claims a slug for the overview page, then passes over the operations of the document, each
of which claims its slug and is put into the group of its first tag, and at last gives each group its
slug.  `Reached` says what holds when part of the operations are done: it is kept by one operation
(`Reached.place`) and so by all of them (`Reached.foldl`).  Here is what comes out, for every
document:

* `compile_eq`: compiling never fails, since no two ids of the tree are equal (`nodup_docIds`);
* `compile_assigns_slugs`: the slugs are those of the first come, first served assignment over the
  overview page, the operations in the order of the document and the categories, in this order;
* `compile_partitions`: the categories are the groups of the operations under their first tags.

The entries of the tree are grouped, but their slugs were claimed in the order of the document.
What relates the two orders is `drawn`: the entries in the order in which the document asks for
them, got by drawing from the categories along the tags of the document.
-/

namespace ApiDocs

/-! ## 1. Texts and ids -/

namespace Navigation

theorem docId_injective (idPrefix : Text) : Function.Injective (docId idPrefix) := by
  intro s t h
  unfold docId at h
  simp only at h
  split at h
  · exact h
  · exact List.append_cancel_left h

/-! ## 2. The pass over the operations -/

/-- The entries of the operations with a tag. -/
def entriesUnder (tag : Text) (placed : List (Operation × Entry)) : List Entry :=
  (placed.filter (fun p => firstTag p.1 == tag)).map Prod.snd

/-- **What holds when some operations are done**, if the slug `first` was handed out before them:
their slugs are the first come, first served assignment, and their entries are grouped under their
first tags. -/
structure Reached (idPrefix first : Text) (done : List Operation) (p : Progress) : Prop where
  sound : p.registry.Sound
  taken : p.registry.taken = (Slug.assign [first] (done.map operationSlug)).reverse ++ [first]
  placed : p.placed = done.zipWith (fun o slug => (o, operationEntry idPrefix o slug))
    (Slug.assign [first] (done.map operationSlug))
  groups : p.groups = Navigation.groups (fun q => firstTag q.1) Prod.snd p.placed

variable {idPrefix first : Text} {done : List Operation} {p : Progress}

/-- One operation more. -/
theorem Reached.place (h : Reached idPrefix first done p) (o : Operation) :
    Reached idPrefix first (done ++ [o]) (p.place idPrefix o) := by
  have hassign : Slug.assign [first] ((done ++ [o]).map operationSlug)
      = Slug.assign [first] (done.map operationSlug) ++ [(p.registry.claim (operationSlug o)).1] := by
    rw [List.map_append, List.map_singleton, Slug.assign_concat, Slug.Registry.claim_fst h.sound,
      h.taken]
  refine ⟨h.sound.claim _, ?_, ?_, ?_⟩
  · show (p.registry.claim (operationSlug o)).2.taken = _
    rw [Slug.Registry.taken_claim, h.taken, hassign, List.reverse_append]
    rfl
  · show p.placed ++ [(o, operationEntry idPrefix o (p.registry.claim (operationSlug o)).1)] = _
    rw [h.placed, hassign, List.zipWith_append (by simp)]
    rfl
  · show Keyed.alter _ _ _ p.groups = _
    rw [h.groups]
    exact alter_groups (fun q => firstTag q.1) Prod.snd
      (o, operationEntry idPrefix o (p.registry.claim (operationSlug o)).1) p.placed

/-- All operations in a row. -/
theorem Reached.foldl : ∀ (os : List Operation) {done : List Operation} {p : Progress},
    Reached idPrefix first done p →
      Reached idPrefix first (done ++ os) (os.foldl (Progress.place idPrefix) p)
  | [], done, p, h => by simpa using h
  | o :: os, done, p, h => by
    have hrest := Reached.foldl os (h.place o)
    rwa [List.append_assoc] at hrest

/-- Categories in a row claim the first come, first served assignment, too. -/
theorem categoriesOf_eq (idPrefix : Text) : ∀ (groups : List (Text × List Entry))
    {r : Slug.Registry}, r.Sound → categoriesOf idPrefix r groups =
      groups.zipWith (fun g slug => ⟨g.1, docId idPrefix slug, slug, g.2⟩)
        (Slug.assign r.taken (groups.map (fun g => categorySlug g.1)))
  | [], _, _ => rfl
  | (tag, entries) :: groups, r, h => by
    have hrest := categoriesOf_eq idPrefix groups (h.claim (categorySlug tag))
    rw [Slug.Registry.taken_claim, Slug.Registry.claim_fst h] at hrest
    simp only [categoriesOf, List.map_cons, Slug.assign, List.zipWith_cons_cons, hrest,
      Slug.Registry.claim_fst h]

/-! ## 3. The parts of the tree -/

section Parts

variable (options : Options) (d : Document)

/-- The tag under which each operation is listed, in the order of the document. -/
def tagSequence : List Text := d.operations.map firstTag

/-- The slug that the overview page asks for. -/
def frontSlug : Text := overviewSlug options.overviewId d.info.title

/-- The slugs of the operations, in the order of the document. -/
def ownSlugs : List Text :=
  Slug.assign [frontSlug options d] (d.operations.map operationSlug)

/-- The slugs of the categories. -/
def headSlugs : List Text :=
  Slug.assign ((ownSlugs options d).reverse ++ [frontSlug options d])
    ((distinct (tagSequence d)).map categorySlug)

/-- The operations with their entries, in the order of the document. -/
def placed : List (Operation × Entry) :=
  d.operations.zipWith (fun o slug => (o, operationEntry options.idPrefix o slug))
    (ownSlugs options d)

/-- The entry of the overview page. -/
def front : Entry where
  id := docId options.idPrefix (frontSlug options d)
  slug := frontSlug options d
  label := if d.info.title.isEmpty then "Overview" else d.info.title

/-- The categories. -/
def heads : List Category :=
  (distinct (tagSequence d)).zipWith
    (fun tag slug =>
      (⟨tag, docId options.idPrefix slug, slug, entriesUnder tag (placed options d)⟩ : Category))
    (headSlugs options d)

theorem length_ownSlugs : (ownSlugs options d).length = d.operations.length := by
  simp [ownSlugs]

theorem length_headSlugs : (headSlugs options d).length = (distinct (tagSequence d)).length := by
  simp [headSlugs]

end Parts

variable {options : Options} {d : Document}

/-! ## 4. Operations and their entries -/

theorem map_zipWith_left {α β γ : Type} {f : α → β → γ} {g : γ → α} (h : ∀ a b, g (f a b) = a) :
    ∀ {xs : List α} {ys : List β}, ys.length = xs.length → (xs.zipWith f ys).map g = xs
  | [], _, _ => rfl
  | x :: xs, [], hlen => absurd hlen (Nat.succ_ne_zero _).symm
  | x :: xs, y :: ys, hlen => by
    simp [h, map_zipWith_left h (Nat.succ.inj hlen)]

theorem map_zipWith_right {α β γ : Type} {f : α → β → γ} {g : γ → β} (h : ∀ a b, g (f a b) = b)
    {xs : List α} {ys : List β} (hlen : ys.length = xs.length) : (xs.zipWith f ys).map g = ys := by
  rw [List.zipWith_comm]
  exact map_zipWith_left (fun b a => h a b) hlen.symm

theorem exists_of_mem_zipWith {α β γ : Type} {f : α → β → γ} {z : γ} {xs : List α} {ys : List β}
    (h : z ∈ xs.zipWith f ys) : ∃ a b, z = f a b := by
  rw [← List.map_uncurry_zip_eq_zipWith] at h
  obtain ⟨q, -, rfl⟩ := List.mem_map.mp h
  exact ⟨q.1, q.2, rfl⟩

theorem map_fst_placed : (placed options d).map Prod.fst = d.operations :=
  map_zipWith_left (fun _ _ => rfl) (length_ownSlugs options d)

theorem tagSequence_eq : tagSequence d = (placed options d).map (fun p => firstTag p.1) := by
  rw [tagSequence, ← @map_fst_placed options d, List.map_map]
  rfl

/-- **The tree in its parts**: what the pass over the operations and the claims of the categories
come to. -/
theorem arrange_eq (options : Options) (d : Document) :
    arrange options d = (placed options d, ⟨front options d, heads options d⟩) := by
  have hempty : ({} : Slug.Registry).Sound := Slug.Registry.sound_empty
  have hslug : (({} : Slug.Registry).claim (frontSlug options d)).1 = frontSlug options d := by
    rw [Slug.Registry.claim_fst hempty, Slug.firstFree_of_notMem List.not_mem_nil]
  have hstart : Reached options.idPrefix (frontSlug options d) []
      { registry := (({} : Slug.Registry).claim (frontSlug options d)).2 } :=
    ⟨hempty.claim _, by rw [Slug.Registry.taken_claim, hslug]; rfl, rfl, rfl⟩
  have hreached := hstart.foldl d.operations
  unfold arrange
  rw [← frontSlug]
  simp only
  rw [hslug]
  generalize d.operations.foldl _ _ = reached at hreached ⊢
  obtain ⟨hsound, htaken, hplaced, hgroups⟩ := hreached
  have hplaced : reached.placed = placed options d := hplaced
  have hheads : categoriesOf options.idPrefix reached.registry reached.groups = heads options d := by
    rw [categoriesOf_eq options.idPrefix _ hsound, hgroups, hplaced, htaken, Navigation.groups,
      ← tagSequence_eq, List.map_map, List.zipWith_map_left]
    simp only [heads, headSlugs, ownSlugs, entriesUnder, Function.comp_def, List.nil_append]
  rw [hplaced, hheads, front]

theorem map_slug_placed : (placed options d).map (fun p => p.2.slug) = ownSlugs options d :=
  map_zipWith_right (fun _ _ => rfl) (length_ownSlugs options d)

/-- An entry is that of its operation. -/
theorem eq_operationEntry {p : Operation × Entry} (h : p ∈ placed options d) :
    p.2 = operationEntry options.idPrefix p.1 p.2.slug := by
  obtain ⟨o, slug, rfl⟩ := exists_of_mem_zipWith h
  rfl

/-- What of an entry does not depend on its slug is a function of its operation. -/
theorem map_placed {β : Type} {f : Entry → β} {g : Operation → β}
    (h : ∀ o slug, f (operationEntry options.idPrefix o slug) = g o) :
    (placed options d).map (fun p => f p.2) = d.operations.map g := by
  rw [← @map_fst_placed options d, List.map_map]
  refine List.map_congr_left fun p hp => ?_
  rw [eq_operationEntry hp, h]
  rfl

/-- The entries under a tag, by what does not depend on their slugs. -/
theorem map_entriesUnder {β : Type} {f : Entry → β} {g : Operation → β}
    (h : ∀ o slug, f (operationEntry options.idPrefix o slug) = g o) (tag : Text) :
    (entriesUnder tag (placed options d)).map f
      = (d.operations.filter (fun o => firstTag o == tag)).map g := by
  rw [entriesUnder, List.map_map, ← @map_fst_placed options d,
    List.filter_map, List.map_map]
  refine List.map_congr_left fun p hp => ?_
  simp only [Function.comp_apply]
  rw [eq_operationEntry (List.mem_of_mem_filter hp), h]

/-! ## 5. Categories -/

theorem map_label_heads : (heads options d).map (·.label) = distinct (tagSequence d) :=
  map_zipWith_left (fun _ _ => rfl) (length_headSlugs options d)

theorem map_slug_heads : (heads options d).map (·.slug) = headSlugs options d :=
  map_zipWith_right (fun _ _ => rfl) (length_headSlugs options d)

/-- A category has the id of its slug, and the entries under its label. -/
theorem of_mem_heads {c : Category} (h : c ∈ heads options d) :
    c.id = docId options.idPrefix c.slug ∧ c.entries = entriesUnder c.label (placed options d) := by
  obtain ⟨tag, slug, rfl⟩ := exists_of_mem_zipWith h
  exact ⟨rfl, rfl⟩

/-- The first tag of an operation that has an entry is one of the labels. -/
theorem firstTag_mem_distinct {p : Operation × Entry} (h : p ∈ placed options d) :
    firstTag p.1 ∈ distinct (tagSequence d) := by
  rw [mem_distinct, @tagSequence_eq options d]
  exact List.mem_map_of_mem h

/-- The entries of the categories with a label. -/
def entriesOf (n : Navigation) (label : Text) : List Entry :=
  (n.categories.filter (fun c => c.label == label)).flatMap (·.entries)

/-- The entries of a tree in the order in which a list of labels asks for them. -/
def drawn (n : Navigation) (labels : List Text) : List Entry := draw labels n.entriesOf

/-- The tree that a document is arranged into. -/
def treeOf (options : Options) (d : Document) : Navigation := ⟨front options d, heads options d⟩

/-- There is one category with a label that occurs, and none with another. -/
theorem entriesOf_treeOf (label : Text) :
    (treeOf options d).entriesOf label = entriesUnder label (placed options d) := by
  have hlabels : ((heads options d).filter (fun c => c.label == label)).map (·.label)
      = List.replicate ((distinct (tagSequence d)).count label) label := by
    rw [← List.filter_beq, ← @map_label_heads options d, List.filter_map]
    rfl
  unfold entriesOf treeOf
  by_cases hmem : label ∈ distinct (tagSequence d)
  · rw [List.count_eq_one_of_mem (nodup_distinct _) hmem] at hlabels
    match hc : (heads options d).filter (fun c => c.label == label) with
    | [] => simp [hc] at hlabels
    | [c] =>
      have hcl : c.label = label := by simpa [hc] using hlabels
      have hcm : c ∈ heads options d := by
        have : c ∈ (heads options d).filter (fun c => c.label == label) := by
          rw [hc]; exact List.mem_singleton_self c
        exact List.mem_of_mem_filter this
      rw [hc, List.flatMap_cons, List.flatMap_nil, List.append_nil, (of_mem_heads hcm).2, hcl]
    | c :: c' :: cs => simp [hc] at hlabels
  · rw [List.count_eq_zero_of_not_mem hmem, List.replicate_zero, List.map_eq_nil_iff] at hlabels
    rw [hlabels, entriesUnder, List.flatMap_nil]
    symm
    rw [List.map_eq_nil_iff, List.filter_eq_nil_iff]
    intro p hp htag
    refine hmem ?_
    rw [← (beq_iff_eq.mp htag : firstTag p.1 = label)]
    exact firstTag_mem_distinct hp

/-- **The entries in the order of the document** are drawn from the categories along its tags. -/
theorem drawn_treeOf :
    (treeOf options d).drawn (tagSequence d) = (placed options d).map Prod.snd := by
  unfold drawn
  rw [@tagSequence_eq options d]
  exact draw_filter (fun p : Operation × Entry => firstTag p.1) Prod.snd (placed options d) _
    entriesOf_treeOf

/-- The entries of the tree are those of the operations, regrouped. -/
theorem entries_treeOf_perm :
    (treeOf options d).entries.Perm ((placed options d).map Prod.snd) := by
  have hentries : (treeOf options d).entries
      = ((distinct (tagSequence d)).flatMap
          (fun tag => (placed options d).filter (fun p => firstTag p.1 == tag))).map Prod.snd := by
    rw [← @map_label_heads options d, List.flatMap_map, List.map_flatMap]
    exact List.flatMap_congr fun c hc => (of_mem_heads hc).2
  rw [hentries]
  exact (flatMap_filter_perm (fun p : Operation × Entry => firstTag p.1) _ (nodup_distinct _) _
    fun _ hp => firstTag_mem_distinct hp).map _

/-! ## 6. Ids -/

/-- The slugs in the order in which they are claimed. -/
def slugs (options : Options) (d : Document) : List Text :=
  frontSlug options d :: ownSlugs options d ++ headSlugs options d

/-- **The slugs are the assignment** over everything that asks for one. -/
theorem slugs_eq_assign :
    slugs options d = Slug.assign [] (frontSlug options d :: d.operations.map operationSlug
      ++ (distinct (tagSequence d)).map categorySlug) := by
  rw [List.cons_append, Slug.assign, Slug.firstFree_of_notMem List.not_mem_nil, Slug.assign_append]
  rfl

theorem nodup_slugs : (slugs options d).Nodup := by
  rw [slugs_eq_assign]
  exact Slug.nodup_assign _ _

theorem firstNonEmpty_eq_or_mem (texts : List Text) (default : Text) :
    firstNonEmpty texts default = default ∨
      (firstNonEmpty texts default ∈ texts ∧ firstNonEmpty texts default ≠ []) := by
  unfold firstNonEmpty
  cases hfind : texts.find? (fun t => !t.isEmpty) with
  | none => exact Or.inl rfl
  | some t =>
    have hne := @List.find?_some _ (fun t => !t.isEmpty) t texts hfind
    refine Or.inr ⟨List.mem_of_find?_eq_some hfind, ?_⟩
    rintro rfl
    exact Bool.false_ne_true hne

theorem firstNonEmpty_ne_nil {texts : List Text} {default : Text} (h : default ≠ []) :
    firstNonEmpty texts default ≠ [] := by
  rcases firstNonEmpty_eq_or_mem texts default with heq | ⟨-, hne⟩
  · rwa [heq]
  · exact hne

/-- **No slug is empty**, as long as every operation has a method. -/
theorem ne_nil_of_mem_slugs (hmethods : ∀ o ∈ d.operations, o.method ≠ []) {s : Text}
    (h : s ∈ slugs options d) : s ≠ [] := by
  rw [slugs_eq_assign] at h
  obtain ⟨slug, hslug, n, rfl⟩ := Slug.exists_form_of_mem_assign h
  refine Slug.form_ne_nil ?_ n
  rcases List.mem_append.mp hslug with hslug | hslug
  · rcases List.mem_cons.mp hslug with heq | hslug
    · rw [heq, frontSlug, overviewSlug]
      exact firstNonEmpty_ne_nil (Text.ofString_ne_nil (by decide))
    · obtain ⟨o, ho, rfl⟩ := List.mem_map.mp hslug
      exact firstNonEmpty_ne_nil (hmethods o ho)
  · obtain ⟨tag, -, rfl⟩ := List.mem_map.mp hslug
    exact firstNonEmpty_ne_nil (Text.ofString_ne_nil (by decide))

/-- The ids of the categories and their entries are those of all categories and then those of all
entries, regrouped. -/
theorem flatMap_docIds_perm (n : Navigation) : (n.categories.flatMap (Category.docIds .tag)).Perm
    (n.categories.map (·.id) ++ n.entries.map (·.id)) := by
  have := List.flatMap_append_perm n.categories (fun c => [c.id])
    (fun c => c.entries.map (·.id))
  rw [← List.map_eq_flatMap] at this
  rw [entries, List.map_flatMap]
  exact this.symm

/-- The ids that the sidebar refers to are those of the slugs, regrouped. -/
theorem docIds_treeOf_perm :
    ((treeOf options d).docIds .tag).Perm
      ((slugs options d).map (docId options.idPrefix)) := by
  have hids := flatMap_docIds_perm (treeOf options d)
  have hheads : (treeOf options d).categories.map (·.id)
      = (headSlugs options d).map (docId options.idPrefix) := by
    rw [← map_slug_heads, List.map_map]
    exact List.map_congr_left fun c hc => (of_mem_heads hc).1
  have hown : (placed options d).map (fun p => p.2.id)
      = (ownSlugs options d).map (docId options.idPrefix) := by
    rw [← map_slug_placed, List.map_map]
    refine List.map_congr_left fun p hp => ?_
    rw [eq_operationEntry hp]
    rfl
  have hentries : ((treeOf options d).entries.map (·.id)).Perm
      ((ownSlugs options d).map (docId options.idPrefix)) := by
    rw [← hown]
    have := @entries_treeOf_perm options d |>.map (·.id)
    rwa [List.map_map] at this
  rw [hheads] at hids
  rw [slugs, List.cons_append, List.map_cons, List.map_append]
  exact ((hids.trans (hentries.append_left _)).trans List.perm_append_comm).cons _

/-- **No two ids of the tree are equal**: the slugs are different, and the prefix is the same. -/
theorem nodup_docIds : ((treeOf options d).docIds .tag).Nodup :=
  docIds_treeOf_perm.nodup_iff.mpr (nodup_slugs.map (docId_injective options.idPrefix))

/-! ## 7. Compiling -/

/-- The ids of the entries stand among those that the sidebar refers to, after that of the overview
page. -/
theorem overview_entries_sublist (n : Navigation) :
    (n.overview.id :: n.entries.map (·.id)).Sublist (n.docIds .tag) := by
  refine List.Sublist.cons_cons _ ?_
  rw [entries, List.map_flatMap]
  generalize n.categories = cs
  induction cs with
  | nil => exact List.Sublist.refl _
  | cons c cs ih =>
    rw [List.flatMap_cons, List.flatMap_cons]
    exact (List.sublist_append_right _ _).append ih

/-- **Compiling never fails.** -/
theorem compile_eq (options : Options) (d : Document) :
    compile options d = .ok (treeOf options d) := by
  have hcheck : checkUnique (treeOf options d) = .ok () :=
    checkUnique_of_nodup ((overview_entries_sublist _).nodup (@nodup_docIds options d))
  unfold compile
  rw [arrange_eq]
  show (checkUnique (treeOf options d) >>= fun _ => pure (treeOf options d)) = _
  rw [hcheck]
  rfl

/-- **The slugs of a compiled tree.**  Compiling a document gives a tree whose ids are pairwise
different.  Its slugs are the first come, first served assignment over what asks for one: the
overview page, the operations in the order of the document (in which `drawn` lists their entries,
each of which is an entry of the tree), and the tags where they first occur.  So the overview page
has the slug that it asks for, and the slugs of the entries do not depend on the categories. -/
theorem compile_assigns_slugs (options : Options) (d : Document) :
    ∃ n, compile options d = .ok n ∧ (n.docIds .tag).Nodup ∧
      (n.drawn (d.operations.map firstTag)).map (·.operation) = d.operations.map some ∧
      (n.drawn (d.operations.map firstTag)).Perm n.entries ∧
      n.overview.slug :: (n.drawn (d.operations.map firstTag)).map (·.slug)
          ++ n.categories.map (·.slug) =
        Slug.assign [] (overviewSlug options.overviewId d.info.title
          :: d.operations.map operationSlug
          ++ (d.operations.map firstTag).eraseDups.map categorySlug) ∧
      n.overview.slug = overviewSlug options.overviewId d.info.title ∧
      (n.drawn (d.operations.map firstTag)).map (·.slug) =
        Slug.assign [overviewSlug options.overviewId d.info.title]
          (d.operations.map operationSlug) := by
  have hslugs : ((treeOf options d).drawn (tagSequence d)).map (·.slug) = ownSlugs options d := by
    rw [drawn_treeOf, List.map_map]
    exact map_slug_placed
  have hfront : (treeOf options d).overview.slug = frontSlug options d := by
    simp only [treeOf, front]
  refine ⟨treeOf options d, compile_eq options d, nodup_docIds, ?_, ?_, ?_, ?_, ?_⟩
  · show ((treeOf options d).drawn (tagSequence d)).map (·.operation) = _
    rw [drawn_treeOf, List.map_map]
    exact map_placed fun _ _ => rfl
  · show ((treeOf options d).drawn (tagSequence d)).Perm _
    rw [drawn_treeOf]
    exact entries_treeOf_perm.symm
  · have hassign := @slugs_eq_assign options d
    rw [slugs, ← hslugs, ← map_slug_heads, ← hfront] at hassign
    rw [← distinct_eq_eraseDups, ← frontSlug, ← hfront]
    exact hassign
  · unfold frontSlug at hfront
    exact hfront
  · unfold ownSlugs tagSequence frontSlug at hslugs
    exact hslugs

/-- **The categories of a compiled tree partition the operations.**  Their labels are the tags under
which operations are listed, without repetition and in the order of their first occurrence.  Each
category holds the entries of the operations with its label and no others, in the order of the
document and as often as in the document, and it holds at least one.  So drawing from the categories
along the tags of the document gives the operations back.  The overview page comes first. -/
theorem compile_partitions (options : Options) (d : Document) (link : LinkSource) :
    ∃ n, compile options d = .ok n ∧
      (n.categories.map (·.label)).Nodup ∧
      (∀ label, label ∈ n.categories.map (·.label) ↔
        ∃ o ∈ d.operations, o.tags.headD "UNTAGGED" = label) ∧
      (n.categories.map (·.label)).Pairwise (fun a b =>
        (d.operations.map (fun o => o.tags.headD "UNTAGGED")).idxOf a
          < (d.operations.map (fun o => o.tags.headD "UNTAGGED")).idxOf b) ∧
      (∀ c ∈ n.categories, c.entries ≠ [] ∧
        c.entries.map (fun e => (e.operation, e.method, e.label)) =
          (d.operations.filter (fun o => o.tags.headD "UNTAGGED" == c.label)).map
            (fun o => (some o, some o.method, operationLabel o))) ∧
      (n.entries.map (·.operation)).Perm (d.operations.map some) ∧
      (n.drawn (d.operations.map (fun o => o.tags.headD "UNTAGGED"))).map (·.operation)
        = d.operations.map some ∧
      n.overview.method = none ∧
      n.items link = .arr (.obj (docItem n.overview.id) :: n.categories.map (Category.item link)) := by
  have hlabels : (treeOf options d).categories.map (·.label) = distinct (tagSequence d) :=
    map_label_heads
  refine ⟨treeOf options d, compile_eq options d, ?_, ?_, ?_, ?_, ?_, ?_, rfl, rfl⟩
  · rw [hlabels]
    exact nodup_distinct _
  · intro label
    rw [hlabels, mem_distinct, tagSequence, List.mem_map]
    rfl
  · rw [hlabels]
    exact pairwise_distinct (tagSequence d)
  · intro c hc
    have hentries := (of_mem_heads hc).2
    have hmap := @map_entriesUnder options d _ (fun e => (e.operation, e.method, e.label))
      (fun o => (some o, some o.method, operationLabel o)) (fun _ _ => rfl) c.label
    rw [← hentries] at hmap
    refine ⟨fun hnil => ?_, hmap⟩
    -- the label is the tag of some operation, whose entry would be missing
    have hlabel : c.label ∈ distinct (tagSequence d) := by
      rw [← hlabels]
      exact List.mem_map_of_mem hc
    obtain ⟨o, ho, htag⟩ := List.mem_map.mp (mem_distinct.mp hlabel)
    rw [hnil, List.map_nil, eq_comm, List.map_eq_nil_iff, List.filter_eq_nil_iff] at hmap
    exact hmap o ho (by simp [htag])
  · have := (@entries_treeOf_perm options d).map (·.operation)
    rw [List.map_map] at this
    exact this.trans (List.Perm.of_eq (map_placed fun _ _ => rfl))
  · show ((treeOf options d).drawn (tagSequence d)).map (·.operation) = _
    rw [drawn_treeOf, List.map_map]
    exact map_placed fun _ _ => rfl

end Navigation

end ApiDocs
