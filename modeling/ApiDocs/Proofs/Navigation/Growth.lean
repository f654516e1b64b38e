import ApiDocs.Proofs.Navigation.Arrangement

/-!
# A description that grows

Operations that are added at the end of a description change nothing for those before them: each
keeps its entry, and so its id, and the category that it stands in (`compile_extends`).

The reason is the order in which slugs are claimed.  The overview page and the operations claim
theirs first and in the order of the description, so what the earlier ones are given stands at the
front of what all are given (`ownSlugs_extends`).  The categories come last: a category may well
lose its slug to an operation that is added, but never the other way round.
-/

namespace ApiDocs.Navigation

/-! ## 1. Longer lists -/

/-- Labels that occur later come after those that occurred before. -/
theorem distinct_extends {κ : Type} [BEq κ] (ys : List κ) : ∀ xs : List κ,
    distinct xs <+: distinct (xs ++ ys)
  | [] => List.nil_prefix
  | x :: xs => by
    rw [List.cons_append, distinct, distinct, List.prefix_cons_inj]
    exact (distinct_extends ys xs).filter _

theorem entriesUnder_extends {ps qs : List (Operation × Entry)} (tag : Text) (h : ps <+: qs) :
    entriesUnder tag ps <+: entriesUnder tag qs :=
  (h.filter _).map _

/-! ## 2. The parts of the tree -/

section Grown

variable {options : Options} {d d' : Document} {more : List Operation}

theorem front_eq (htitle : d'.info.title = d.info.title) : front options d' = front options d := by
  unfold front frontSlug
  rw [htitle]

/-- **The slugs of the earlier operations are given first**, and nothing that comes later takes one
away. -/
theorem ownSlugs_extends (htitle : d'.info.title = d.info.title)
    (hoperations : d'.operations = d.operations ++ more) :
    ownSlugs options d <+: ownSlugs options d' := by
  unfold ownSlugs frontSlug
  rw [htitle, hoperations, List.map_append, Slug.assign_append]
  exact List.prefix_append _ _

theorem placed_extends (htitle : d'.info.title = d.info.title)
    (hoperations : d'.operations = d.operations ++ more) :
    placed options d <+: placed options d' := by
  obtain ⟨others, hothers⟩ := @ownSlugs_extends options d d' more htitle hoperations
  unfold placed
  rw [← hothers, hoperations, List.zipWith_append (length_ownSlugs options d).symm]
  exact List.prefix_append _ _

/-! ## 3. Categories -/

/-- The entry stands in a category with the label. -/
def Lists (n : Navigation) (label : Text) (e : Entry) : Prop :=
  ∃ c ∈ n.categories, c.label = label ∧ e ∈ c.entries

/-- The entry of an operation stands in the category of the first tag of the operation, and in no
other. -/
theorem lists_treeOf {p : Operation × Entry} (hp : p ∈ placed options d) (label : Text) :
    (treeOf options d).Lists label p.2 ↔ label = firstTag p.1 := by
  constructor
  · rintro ⟨c, hc, rfl, he⟩
    rw [(of_mem_heads hc).2, entriesUnder] at he
    obtain ⟨q, hq, heq⟩ := List.mem_map.mp he
    obtain ⟨hq, htag⟩ := List.mem_filter.mp hq
    -- an entry knows its operation
    have hsame := congrArg (·.operation) heq
    rw [eq_operationEntry hp, eq_operationEntry hq] at hsame
    rw [← Option.some_inj.mp hsame]
    exact (beq_iff_eq.mp htag).symm
  · rintro rfl
    have hlabel := firstTag_mem_distinct hp
    rw [← @map_label_heads options d] at hlabel
    obtain ⟨c, hc, hcl⟩ := List.mem_map.mp hlabel
    refine ⟨c, hc, hcl, ?_⟩
    rw [(of_mem_heads hc).2, hcl]
    exact List.mem_map.mpr ⟨p, List.mem_filter.mpr ⟨hp, beq_self_eq_true _⟩, rfl⟩

/-! ## 4. Compiling -/

/-- **Ids are stable.**  If operations are added at the end of a description and the title stays,
the overview page stays as it is, and each of the earlier operations keeps its entry, which stands
in the category with the same label.  New categories come after the earlier ones, and in each
category new entries come after the earlier ones. -/
theorem compile_extends (options : Options) (d d' : Document) (more : List Operation)
    (htitle : d'.info.title = d.info.title) (hoperations : d'.operations = d.operations ++ more) :
    ∃ n n', compile options d = .ok n ∧ compile options d' = .ok n' ∧
      n'.overview = n.overview ∧
      (∀ (i : Nat) (o : Operation), d.operations[i]? = some o →
        ∃ e, (n.drawn (d.operations.map firstTag))[i]? = some e ∧
          (n'.drawn (d'.operations.map firstTag))[i]? = some e ∧ e.operation = some o ∧
          ∀ label, (n.Lists label e ↔ label = firstTag o) ∧
            (n'.Lists label e ↔ label = firstTag o)) ∧
      n.categories.map (·.label) <+: n'.categories.map (·.label) ∧
      ∀ c ∈ n.categories, ∀ c' ∈ n'.categories, c'.label = c.label → c.entries <+: c'.entries := by
  have hplaced := @placed_extends options d d' more htitle hoperations
  refine ⟨treeOf options d, treeOf options d', compile_eq options d, compile_eq options d',
    front_eq htitle, fun i o ho => ?_, ?_, fun c hc c' hc' hlabel => ?_⟩
  · obtain ⟨p, hp, hpo⟩ : ∃ p, (placed options d)[i]? = some p ∧ p.1 = o := by
      rw [← @map_fst_placed options d, List.getElem?_map] at ho
      exact Option.map_eq_some_iff.mp ho
    have hp' : (placed options d')[i]? = some p := by
      obtain ⟨hi, rfl⟩ := List.getElem?_eq_some_iff.mp hp
      exact List.prefix_iff_getElem?.mp hplaced i hi
    have hentry : p.2.operation = some o := by
      rw [eq_operationEntry (List.mem_of_getElem? hp), ← hpo]
      rfl
    refine ⟨p.2, ?_, ?_, hentry, fun label => ?_⟩
    · show ((treeOf options d).drawn (tagSequence d))[i]? = some p.2
      rw [drawn_treeOf, List.getElem?_map, hp]
      rfl
    · show ((treeOf options d').drawn (tagSequence d'))[i]? = some p.2
      rw [drawn_treeOf, List.getElem?_map, hp']
      rfl
    · rw [← hpo]
      exact ⟨lists_treeOf (List.mem_of_getElem? hp) label,
        lists_treeOf (List.mem_of_getElem? hp') label⟩
  · show (heads options d).map (·.label) <+: (heads options d').map (·.label)
    rw [map_label_heads, map_label_heads, tagSequence, tagSequence, hoperations, List.map_append]
    exact distinct_extends _ _
  · rw [(of_mem_heads hc).2, (of_mem_heads hc').2, hlabel]
    exact entriesUnder_extends c.label hplaced

end Grown

/-- A description of one operation. -/
def menu : Document where
  dialect := .openapi3
  operations := [{ method := "get", path := "/food", summary := "List", tags := ["food"] }]

/-- The description with two more operations, one of which asks for the slug that the category had,
and one for that of the first operation. -/
def longerMenu : Document where
  dialect := .openapi3
  operations := menu.operations ++ [
    { method := "post", path := "/food", summary := "Food", tags := ["food"] },
    { method := "get", path := "/drinks", summary := "List", tags := ["drinks"] }]

/-- The operation keeps its id and its category, though the category does not keep its slug. -/
theorem compile_extends_menu :
    ∃ n n' e, compile {} menu = .ok n ∧ compile {} longerMenu = .ok n' ∧
      n'.overview = n.overview ∧ e.id = Text.ofString "list" ∧ n.Lists "food" e ∧
      n'.Lists "food" e ∧ n.categories.map (·.slug) = ["food"] ∧
      n'.categories.map (·.slug) = ["food-2", "drinks"] := by
  obtain ⟨n, n', hn, hn', hfront, hentries, -, -⟩ :=
    compile_extends {} menu longerMenu _ rfl rfl
  obtain ⟨e, he, -, -, hlists⟩ := hentries 0 _ rfl
  have hid : (compile {} menu).toOption.bind (fun n =>
      (n.drawn (menu.operations.map firstTag))[0]?.map (·.id)) = some (Text.ofString "list") := by
    decide +kernel
  have hslugs : (compile {} menu).toOption.map (fun n => n.categories.map (·.slug))
      = some [Text.ofString "food"] := by
    decide +kernel
  have hslugs' : (compile {} longerMenu).toOption.map (fun n => n.categories.map (·.slug))
      = some [Text.ofString "food-2", Text.ofString "drinks"] := by
    decide +kernel
  rw [hn] at hid hslugs
  rw [hn'] at hslugs'
  have hid : (n.drawn (menu.operations.map firstTag))[0]?.map (·.id)
      = some (Text.ofString "list") := hid
  rw [he] at hid
  have hfood := hlists "food"
  exact ⟨n, n', e, hn, hn', hfront, Option.some_inj.mp hid, hfood.1.mpr rfl, hfood.2.mpr rfl,
    Option.some_inj.mp hslugs, Option.some_inj.mp hslugs'⟩

end ApiDocs.Navigation
