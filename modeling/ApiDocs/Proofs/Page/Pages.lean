import ApiDocs.Output.Emit
import ApiDocs.Proofs.Keyed
import ApiDocs.Proofs.Navigation.Arrangement
import ApiDocs.Proofs.Outcome

/-!
# The pages of a compiled tree

What a page is made of can be read off the tree: a slug, the ending of the name of its file, and the
fields of its front matter (`Sheet`).  Rendering a compiled tree gives one page for each sheet of the
tree, in the order of the sidebar, under the id that the sidebar uses (`renderAll_ok`).  Since the
ids are different, no page is lost where they are put under their ids.

So the files of a build have different names (`nodup_fileNames`), and each of them is a slug with the
ending of a kind of page.
-/

namespace ApiDocs.Page

open Navigation

/-! ## 1. Sheets -/

/-- What a page is made of besides its lines. -/
structure Sheet where
  slug : Text
  /-- What the name of the file ends in, by the kind of the page. -/
  ending : Text
  fields : List (String × Value)

/-- The endings of the names of pages, by their kinds. -/
def endings : List Text := [".info.mdx", ".tag.mdx", ".api.mdx"]

/-- The sheet of the overview page. -/
def overviewSheet (d : Document) (e : Entry) : Sheet := ⟨e.slug, ".info.mdx", overviewFields d e⟩

/-- The sheet of the page of a category. -/
def categorySheet (d : Document) (c : Category) : Sheet := ⟨c.slug, ".tag.mdx", categoryFields d c⟩

/-- The sheet of the page of an entry. -/
def entrySheet (e : Entry) : Sheet := ⟨e.slug, ".api.mdx", e.operation.elim [] (operationFields e)⟩

/-- The sheets of a category and its entries. -/
def sheetsOf (d : Document) (c : Category) : List Sheet :=
  categorySheet d c :: c.entries.map entrySheet

/-- The sheets of a tree in the order of the sidebar. -/
def sheetsOfTree (d : Document) (n : Navigation) : List Sheet :=
  overviewSheet d n.overview :: n.categories.flatMap (sheetsOf d)

/-- A page is one of a sheet: the id is that of the slug, the file is named after it, and the front
matter has the fields. -/
def Bears (idPrefix : Text) (p : Page) (sheet : Sheet) : Prop :=
  ∃ lines, p = assemble (docId idPrefix sheet.slug) (sheet.slug ++ sheet.ending) sheet.fields lines

/-- All ids of a tree are those of its slugs. -/
structure Consistent (idPrefix : Text) (n : Navigation) : Prop where
  overview : n.overview.id = docId idPrefix n.overview.slug
  category : ∀ c ∈ n.categories, c.id = docId idPrefix c.slug
  entry : ∀ c ∈ n.categories, ∀ e ∈ c.entries, e.id = docId idPrefix e.slug

variable {idPrefix : Text} {site : Site} {d : Document}

theorem consistent_treeOf (options : Options) (d : Document) :
    Consistent options.idPrefix (treeOf options d) := by
  refine ⟨?_, fun c hc => (of_mem_heads hc).1, fun c hc e he => ?_⟩
  · simp only [treeOf, front]
  · rw [(of_mem_heads hc).2, entriesUnder] at he
    obtain ⟨p, hp, rfl⟩ := List.mem_map.mp he
    rw [eq_operationEntry (List.mem_of_mem_filter hp)]
    rfl

theorem docIds_eq_map {n : Navigation} (h : Consistent idPrefix n) :
    n.docIds .tag = (sheetsOfTree d n).map (fun sheet => docId idPrefix sheet.slug) := by
  unfold docIds sheetsOfTree
  rw [List.map_cons, List.map_flatMap, h.overview]
  refine congrArg _ (List.flatMap_congr fun c hc => ?_)
  unfold Category.docIds sheetsOf
  rw [if_pos rfl, List.map_cons, List.map_map, h.category c hc]
  exact congrArg _ (List.map_congr_left fun e he => h.entry c hc e he)

/-! ## 2. Pages -/

theorem bears_overview {n : Navigation} (h : Consistent idPrefix n) :
    Bears idPrefix (overview site d n) (overviewSheet d n.overview) := by
  unfold overview
  dsimp only
  rw [h.overview]
  exact ⟨_, rfl⟩

theorem bears_category {c : Category} {p : Page} (hid : c.id = docId idPrefix c.slug)
    (h : category site d c = .ok p) : Bears idPrefix p (categorySheet d c) := by
  unfold category at h
  obtain ⟨items, -, h⟩ := bind_eq_ok.mp h
  cases h
  rw [hid]
  exact ⟨_, rfl⟩

theorem bears_operation {e : Entry} {p : Page} (hid : e.id = docId idPrefix e.slug)
    (h : operation e = .ok p) : Bears idPrefix p (entrySheet e) := by
  unfold operation at h
  unfold entrySheet
  cases ho : e.operation with
  | none =>
    rw [ho] at h
    cases h
  | some o =>
    rw [ho] at h
    obtain ⟨body, -, h⟩ := bind_eq_ok.mp h
    cases h
    rw [hid]
    exact ⟨_, rfl⟩

theorem bears_operations : ∀ {es : List Entry} {ps : List Page},
    (∀ e ∈ es, e.id = docId idPrefix e.slug) → List.Forall₂ (fun e p => operation e = .ok p) es ps →
      List.Forall₂ (Bears idPrefix) ps (es.map entrySheet)
  | [], _, _, .nil => .nil
  | e :: _, _, hid, .cons h hrest =>
    .cons (bears_operation (hid e List.mem_cons_self) h)
      (bears_operations (fun e' he' => hid e' (List.mem_cons_of_mem e he')) hrest)

theorem categoryAndEntries_eq_ok {c : Category} {ps : List Page} :
    categoryAndEntries site d c = .ok ps ↔ ∃ p rest, category site d c = .ok p ∧
      c.entries.mapM operation = .ok rest ∧ ps = p :: rest := by
  unfold categoryAndEntries
  constructor
  · intro h
    obtain ⟨p, hp, h⟩ := bind_eq_ok.mp h
    obtain ⟨rest, hrest, h⟩ := bind_eq_ok.mp h
    exact ⟨p, rest, hp, hrest, (Except.ok.inj h).symm⟩
  · rintro ⟨p, rest, hp, hrest, rfl⟩
    exact bind_eq_ok.mpr ⟨p, hp, bind_eq_ok.mpr ⟨rest, hrest, rfl⟩⟩

theorem bears_categoryAndEntries {c : Category} {ps : List Page}
    (hid : c.id = docId idPrefix c.slug) (hids : ∀ e ∈ c.entries, e.id = docId idPrefix e.slug)
    (h : categoryAndEntries site d c = .ok ps) :
    List.Forall₂ (Bears idPrefix) ps (sheetsOf d c) := by
  obtain ⟨p, rest, hp, hrest, rfl⟩ := categoryAndEntries_eq_ok.mp h
  exact .cons (bears_category hid hp) (bears_operations hids (mapM_eq_ok.mp hrest))

theorem bears_categories : ∀ {cs : List Category} {pss : List (List Page)},
    (∀ c ∈ cs, c.id = docId idPrefix c.slug ∧ ∀ e ∈ c.entries, e.id = docId idPrefix e.slug) →
      List.Forall₂ (fun c ps => categoryAndEntries site d c = .ok ps) cs pss →
        List.Forall₂ (Bears idPrefix) pss.flatten (cs.flatMap (sheetsOf d))
  | [], _, _, .nil => .nil
  | c :: _, _, hid, .cons h hrest => by
    rw [List.flatten_cons, List.flatMap_cons]
    obtain ⟨hc, hes⟩ := hid c List.mem_cons_self
    exact List.rel_append (bears_categoryAndEntries hc hes h)
      (bears_categories (fun c' hc' => hid c' (List.mem_cons_of_mem c hc')) hrest)

/-- What the pages have in common with the sheets. -/
theorem map_of_bears {β : Type} {f : Page → β} {g : Sheet → β}
    (hfg : ∀ p sheet, Bears idPrefix p sheet → f p = g sheet) : ∀ {ps : List Page}
    {sheets : List Sheet}, List.Forall₂ (Bears idPrefix) ps sheets → ps.map f = sheets.map g
  | _, _, .nil => rfl
  | _, _, .cons h hrest => by
    rw [List.map_cons, List.map_cons, hfg _ _ h, map_of_bears hfg hrest]

theorem Bears.id {p : Page} {sheet : Sheet} (h : Bears idPrefix p sheet) :
    p.id = docId idPrefix sheet.slug := by
  obtain ⟨_, rfl⟩ := h
  rfl

theorem Bears.fileName {p : Page} {sheet : Sheet} (h : Bears idPrefix p sheet) :
    p.fileName = sheet.slug ++ sheet.ending := by
  obtain ⟨_, rfl⟩ := h
  rfl

/-- The pages of a compiled tree are put under their ids as they are rendered, and none is lost. -/
theorem exists_of_renderAll {options : Options} {pages : List (Text × Page)}
    (h : renderAll site d (treeOf options d) = .ok pages) :
    ∃ pss : List (List Page),
      List.Forall₂ (fun c ps => categoryAndEntries site d c = .ok ps)
        (treeOf options d).categories pss ∧
      List.Forall₂ (Bears options.idPrefix) (overview site d (treeOf options d) :: pss.flatten)
        (sheetsOfTree d (treeOf options d)) ∧
      pages = (overview site d (treeOf options d) :: pss.flatten).map (fun p => (p.id, p)) := by
  have hids := consistent_treeOf options d
  unfold renderAll at h
  obtain ⟨pss, hpss, h⟩ := bind_eq_ok.mp h
  have hbears : List.Forall₂ (Bears options.idPrefix)
      (overview site d (treeOf options d) :: pss.flatten) (sheetsOfTree d (treeOf options d)) :=
    .cons (bears_overview hids) (bears_categories
      (fun c hc => ⟨hids.category c hc, hids.entry c hc⟩) (mapM_eq_ok.mp hpss))
  refine ⟨pss, mapM_eq_ok.mp hpss, hbears, ?_⟩
  have hnodup : ((overview site d (treeOf options d) :: pss.flatten).map (·.id)).Nodup := by
    rw [map_of_bears (fun p sheet => Bears.id) hbears, ← docIds_eq_map hids]
    exact nodup_docIds
  have hkeyed := Except.ok.inj h
  rw [← hkeyed]
  refine Keyed.ofList_of_nodup ?_
  rw [List.map_map]
  exact hnodup

/-- **The pages of a compiled tree**: one for each sheet, under its id, in the order of the
sidebar. -/
theorem renderAll_ok {options : Options} {pages : List (Text × Page)}
    (h : renderAll site d (treeOf options d) = .ok pages) :
    ∃ ps : List Page, pages = ps.map (fun p => (p.id, p)) ∧
      List.Forall₂ (Bears options.idPrefix) ps (sheetsOfTree d (treeOf options d)) := by
  obtain ⟨pss, -, hbears, hpages⟩ := exists_of_renderAll h
  exact ⟨_, hpages, hbears⟩

/-- The ids of all pages are those that the sidebar refers to. -/
theorem ids_of_render {options : Options} {pages : List (Text × Page)}
    (h : renderAll site d (treeOf options d) = .ok pages) :
    pages.map Prod.fst = (treeOf options d).docIds .tag := by
  obtain ⟨ps, rfl, hbears⟩ := renderAll_ok h
  have hids := map_of_bears (fun p sheet => Bears.id) hbears
  rw [← docIds_eq_map (consistent_treeOf options d)] at hids
  rw [List.map_map, ← hids]
  rfl

/-! ## 3. Names of files -/

theorem ending_mem {n : Navigation} {sheet : Sheet} (h : sheet ∈ sheetsOfTree d n) :
    sheet.ending ∈ endings := by
  have hinfo : Text.ofString ".info.mdx" ∈ endings := by decide
  have htag : Text.ofString ".tag.mdx" ∈ endings := by decide
  have hapi : Text.ofString ".api.mdx" ∈ endings := by decide
  unfold sheetsOfTree at h
  rcases List.mem_cons.mp h with rfl | h
  · exact hinfo
  · obtain ⟨c, -, h⟩ := List.mem_flatMap.mp h
    unfold sheetsOf at h
    rcases List.mem_cons.mp h with rfl | h
    · exact htag
    · obtain ⟨e, -, rfl⟩ := List.mem_map.mp h
      exact hapi

/-- The name of a file determines the slug and the kind of the page. -/
theorem append_ending_inj {s t a b : Text} (ha : a ∈ endings) (hb : b ∈ endings)
    (h : s ++ a = t ++ b) : s = t ∧ a = b := by
  have hrev : a.reverse ++ s.reverse = b.reverse ++ t.reverse := by
    rw [← List.reverse_append, ← List.reverse_append, h]
  -- the kinds differ in the letter before the suffix
  have hletter : ∀ e ∈ endings,
      ∃ (c : Char) (rest : Text), e.reverse = Text.ofChars ['x', 'd', 'm', '.', c] ++ rest ∧
        e = if c = 'o' then Text.ofString ".info.mdx"
          else if c = 'g' then Text.ofString ".tag.mdx" else Text.ofString ".api.mdx" := by
    intro e he
    simp only [endings, List.mem_cons, List.not_mem_nil, or_false] at he
    rcases he with rfl | rfl | rfl
    · exact ⟨'o', Text.ofString "fni.", rfl, rfl⟩
    · exact ⟨'g', Text.ofString "at.", rfl, rfl⟩
    · exact ⟨'i', Text.ofString "pa.", rfl, rfl⟩
  obtain ⟨c, _, hc, ha⟩ := hletter a ha
  obtain ⟨c', _, hc', hb⟩ := hletter b hb
  rw [hc, hc'] at hrev
  simp only [Text.ofChars_cons, List.cons_append, List.cons.injEq, CodePoint.char.injEq,
    true_and] at hrev
  have hab : a = b := by rw [ha, hb, hrev.1]
  subst hab
  exact ⟨List.append_cancel_right h, rfl⟩

/-- The slugs of a compiled tree are different. -/
theorem nodup_slugsOfTree (options : Options) (d : Document) :
    ((sheetsOfTree d (treeOf options d)).map (·.slug)).Nodup := by
  have hids := @docIds_eq_map _ d _ (consistent_treeOf options d)
  have hmap : (sheetsOfTree d (treeOf options d)).map (fun sheet => docId options.idPrefix sheet.slug)
      = ((sheetsOfTree d (treeOf options d)).map (·.slug)).map
        (docId options.idPrefix) := by
    rw [List.map_map]
    rfl
  have hnodup := @nodup_docIds options d
  rw [hids, hmap] at hnodup
  exact hnodup.of_map _

/-- **No two pages of a compiled tree have the same file.** -/
theorem nodup_fileNames {options : Options} {ps : List Page}
    (h : List.Forall₂ (Bears options.idPrefix) ps (sheetsOfTree d (treeOf options d))) :
    (ps.map (·.fileName)).Nodup := by
  rw [map_of_bears (fun p sheet => Bears.fileName) h]
  have hnodup := nodup_slugsOfTree options d
  refine List.Nodup.map_on (fun a ha b hb hab => ?_) hnodup.of_map
  exact List.inj_on_of_nodup_map hnodup ha hb (append_ending_inj (ending_mem ha) (ending_mem hb) hab).1

/-- Every page is one of a sheet of the tree. -/
theorem sheet_of_mem {ps : List Page} {sheets : List Sheet}
    (h : List.Forall₂ (Bears idPrefix) ps sheets) {p : Page} (hp : p ∈ ps) :
    ∃ sheet ∈ sheets, Bears idPrefix p sheet := by
  induction h with
  | nil => exact absurd hp List.not_mem_nil
  | @cons q sheet _ _ hq _ ih =>
    rcases List.mem_cons.mp hp with rfl | hp
    · exact ⟨sheet, List.mem_cons_self, hq⟩
    · obtain ⟨other, hother, hbears⟩ := ih hp
      exact ⟨other, List.mem_cons_of_mem sheet hother, hbears⟩

theorem fileName_of_mem {options : Options} {ps : List Page} {p : Page}
    (h : List.Forall₂ (Bears options.idPrefix) ps (sheetsOfTree d (treeOf options d))) (hp : p ∈ ps) :
    ∃ slug ending, ending ∈ endings ∧ p.fileName = slug ++ ending := by
  obtain ⟨sheet, hsheet, hbears⟩ := sheet_of_mem h hp
  exact ⟨sheet.slug, sheet.ending, ending_mem hsheet, hbears.fileName⟩

end ApiDocs.Page
