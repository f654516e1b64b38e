import ApiDocs.Proofs.Navigation.Prefixes
import ApiDocs.Proofs.Output.Documents

/-!
# What the prefix of ids does to pages and documents

The prefix of the ids is joined to them in two places: where a tree is compiled, and where the
documents of a directory are looked at.  Both do the same (`documentId_eq_underPrefix`).

A page of a tree with a prefix is found under an id with the prefix, but it is written to the same
file and has the same front matter.  Its lines are the same but for the targets of the links that
lead to other pages; the pages of operations have no such links (`PageAlike`).  This is said of any
renaming of ids that keeps different ids different, since nothing about prefixes matters for it.

So a prefix shows in ids and in links to ids and nowhere else (`prefix_only_in_ids`).
-/

namespace ApiDocs

open Navigation

/-! ## 1. Pages of a tree with other ids -/

namespace Page

/-- A line, and the line with the target of a link in it led through a renaming of ids. -/
inductive LineAlike (site : Site) (f : Text → Text) : Text → Text → Prop
  | same (line : Text) : LineAlike site f line line
  | link (before label id after : Text) : LineAlike site f
    (before ++ linkTo label (site.link id) ++ after)
    (before ++ linkTo label (site.link (f id)) ++ after)

/-- A page, and the page of the same sheet under another id. -/
structure PageAlike (site : Site) (f : Text → Text) (p p' : Page) : Prop where
  id : p'.id = f p.id
  fileName : p'.fileName = p.fileName
  content : ∃ fields lines lines',
    p.content = frontMatter (entriesOf fields) ++ "\n" ++ Text.joinWith "\n" lines ∧
    p'.content = frontMatter (entriesOf fields) ++ "\n" ++ Text.joinWith "\n" lines' ∧
    List.Forall₂ (LineAlike site f) lines lines'
  operation : Text.ofString ".api.mdx" <:+ p.fileName → p'.content = p.content

variable {site : Site} {f : Text → Text} {d : Document}

theorem lineAlike_same (lines : List Text) : List.Forall₂ (LineAlike site f) lines lines :=
  List.forall₂_same.mpr fun line _ => .same line

/-- Pages that are put together alike, of a kind whose files are not those of operations. -/
theorem pageAlike_assemble {id slug ending : Text} {fields : List (String × Value)}
    {lines lines' : List Text} (hending : ¬ Text.ofString ".api.mdx" <:+ ending)
    (hlength : (Text.ofString ".api.mdx").length ≤ ending.length)
    (hlines : List.Forall₂ (LineAlike site f) lines lines') :
    PageAlike site f (assemble id (slug ++ ending) fields lines)
      (assemble (f id) (slug ++ ending) fields lines') := by
  refine ⟨rfl, rfl, ⟨fields, lines, lines', rfl, rfl, hlines⟩, fun hsuffix => ?_⟩
  exact absurd (List.suffix_of_suffix_length_le hsuffix (List.suffix_append slug ending) hlength)
    hending

theorem categoryItem_alike (c : Category) :
    LineAlike site f (categoryItem site c) (categoryItem site (c.withIds f)) := by
  have h := @LineAlike.link site f "- " c.label c.id (" (" ++ Text.ofNat c.entries.length ++ ")")
  unfold categoryItem
  simpa [Category.withIds] using h

/-- **The overview page** links to the categories under their new ids. -/
theorem overview_alike (site : Site) (f : Text → Text) (d : Document) (n : Navigation) :
    PageAlike site f (overview site d n) (overview site d (n.withIds f)) := by
  have hsections : List.Forall₂ (LineAlike site f)
      (if n.categories.isEmpty then []
        else heading 2 "Sections" ++ n.categories.map (categoryItem site) ++ [[]])
      (if (n.withIds f).categories.isEmpty then []
        else heading 2 "Sections" ++ (n.withIds f).categories.map (categoryItem site) ++ [[]]) := by
    have hempty : (n.withIds f).categories.isEmpty = n.categories.isEmpty := by
      unfold withIds
      rw [List.isEmpty_map]
    rw [hempty]
    split
    · exact .nil
    · refine List.rel_append (List.rel_append (lineAlike_same _) ?_) (lineAlike_same _)
      unfold withIds
      rw [List.map_map, List.forall₂_map_left_iff, List.forall₂_map_right_iff, List.forall₂_same]
      exact fun c _ => categoryItem_alike c
  exact pageAlike_assemble (by decide) (by decide)
    (List.rel_append (lineAlike_same _) hsections)

theorem entryItem_alike {e : Entry} (h : e.method ≠ none) :
    Alike (LineAlike site f) (entryItem site e) (entryItem site (e.withId f)) := by
  unfold entryItem Entry.withId
  dsimp only
  cases hmethod : e.method with
  | none => exact absurd hmethod h
  | some method =>
    have hline := @LineAlike.link site f ("- **" ++ Text.upper method ++ "** ") e.label e.id []
    rw [List.append_nil, List.append_nil] at hline
    exact .ok hline

/-- **The page of a category** links to its entries under their new ids. -/
theorem category_alike {c : Category} (h : ∀ e ∈ c.entries, e.method ≠ none) :
    Alike (PageAlike site f) (category site d c) (category site d (c.withIds f)) := by
  have hitems : Alike (List.Forall₂ (LineAlike site f)) (c.entries.mapM (entryItem site))
      ((c.withIds f).entries.mapM (entryItem site)) := by
    refine alike_mapM ?_
    unfold Category.withIds
    rw [List.forall₂_map_right_iff, List.forall₂_same]
    exact fun e he => entryItem_alike (h e he)
  unfold category
  refine hitems.bind fun items items' hlines => .ok ?_
  exact pageAlike_assemble (by decide) (by decide)
    (List.rel_append (List.rel_append (lineAlike_same _) hlines) (lineAlike_same _))

/-- **The page of an operation** does not show its id. -/
theorem operation_alike {e : Entry} (h : e.operation ≠ none) :
    Alike (PageAlike site f) (operation e) (operation (e.withId f)) := by
  unfold operation Entry.withId
  dsimp only
  cases ho : e.operation with
  | none => exact absurd ho h
  | some o =>
    dsimp only
    cases (requestBodySection o).mapError Fault.schema with
    | error fault => exact .error fault
    | ok body => exact .ok ⟨rfl, rfl, ⟨_, _, _, rfl, rfl, lineAlike_same _⟩, fun _ => rfl⟩

/-- All entries of the categories are those of operations. -/
def HasOperations (n : Navigation) : Prop :=
  ∀ c ∈ n.categories, ∀ e ∈ c.entries, e.method ≠ none ∧ e.operation ≠ none

/-- **Rendering a tree with other ids** gives the pages of the tree, in the same order, under the
other ids. -/
theorem renderAll_alike (site : Site) {f : Text → Text} (hf : Function.Injective f) (d : Document)
    {n : Navigation} (h : HasOperations n) :
    Alike (List.Forall₂ (fun q q' => q'.1 = f q.1 ∧ PageAlike site f q.2 q'.2))
      (renderAll site d n) (renderAll site d (n.withIds f)) := by
  have hcategories : Alike (List.Forall₂ (List.Forall₂ (PageAlike site f)))
      (n.categories.mapM (categoryAndEntries site d))
      ((n.withIds f).categories.mapM (categoryAndEntries site d)) := by
    refine alike_mapM ?_
    unfold withIds
    rw [List.forall₂_map_right_iff, List.forall₂_same]
    intro c hc
    have hentries : Alike (List.Forall₂ (PageAlike site f)) (c.entries.mapM operation)
        ((c.withIds f).entries.mapM operation) := by
      refine alike_mapM ?_
      unfold Category.withIds
      rw [List.forall₂_map_right_iff, List.forall₂_same]
      exact fun e he => operation_alike (h c hc e he).2
    unfold categoryAndEntries
    refine (category_alike fun e he => (h c hc e he).1).bind fun p p' hp => ?_
    exact hentries.bind fun ps ps' hps => .ok (.cons hp hps)
  unfold renderAll
  refine hcategories.bind fun pss pss' hpss => .ok (Keyed.forall₂_ofList hf ?_)
  have hpages : List.Forall₂ (PageAlike site f) (overview site d n :: pss.flatten)
      (overview site d (n.withIds f) :: pss'.flatten) :=
    .cons (overview_alike site f d n) (List.rel_flatten hpss)
  rw [List.forall₂_map_left_iff, List.forall₂_map_right_iff]
  exact hpages.imp fun p p' hp => ⟨hp.id, hp⟩

theorem hasOperations_treeOf (options : Options) (d : Document) :
    HasOperations (treeOf options d) := by
  intro c hc e he
  rw [(of_mem_heads hc).2, entriesUnder] at he
  obtain ⟨p, hp, rfl⟩ := List.mem_map.mp he
  rw [eq_operationEntry (List.mem_of_mem_filter hp)]
  exact ⟨Option.some_ne_none _, Option.some_ne_none _⟩

end Page

/-! ## 2. Documents of a directory -/

namespace Output

open FileSystem

variable {fs : FileSystem} {directory : Location}

/-- A file with the suffix of a document has a name before the suffix. -/
theorem stemOf_ne_nil {name : Text} (h : isDocument name = true) : stemOf name ≠ [] := by
  have hnone : documentSuffixes.contains [] = false := by decide
  unfold isDocument suffixOf splitSuffix at h
  unfold stemOf splitSuffix
  dsimp only at h ⊢
  split at h
  · rw [hnone] at h
    cases h
  · next hsplit =>
    rw [if_neg hsplit]
    exact fun hnil => hsplit (Or.inr (Or.inr (List.isEmpty_iff.mpr hnil)))

/-- The id that a document has by itself: that in its front matter, or else its name. -/
def ownId (names : List Text) (own : Option Text) : Text :=
  match own with
  | some id => if id.isEmpty then stemOf (names.getLast?.getD []) else id
  | none => stemOf (names.getLast?.getD [])

theorem ownId_ne_nil {names : List Text} (h : isDocument (names.getLast?.getD []) = true)
    (own : Option Text) : ownId names own ≠ [] := by
  have hstem := stemOf_ne_nil h
  cases own with
  | none => exact hstem
  | some id =>
    unfold ownId
    dsimp only
    split
    · exact hstem
    · next hid => exact fun hnil => hid (by rw [hnil]; rfl)

theorem joinWith_cons (separator first : Text) {rest : List Text} (h : rest ≠ []) :
    Text.joinWith separator (first :: rest)
      = first ++ separator ++ Text.joinWith separator rest := by
  obtain ⟨next, rest, rfl⟩ := List.exists_cons_of_ne_nil h
  exact List.intercalate_cons_cons

/-- **The id of a document under a prefix** is its id without one, put under the prefix. -/
theorem documentId_eq_underPrefix (idPrefix : Text) {names : List Text}
    (h : isDocument (names.getLast?.getD []) = true) (own : Option Text) :
    documentId idPrefix names own = underPrefix idPrefix (documentId [] names own) := by
  have hid : ∀ front : Text, documentId front names own
      = Text.joinWith "/" ((Text.stripSlashes front :: (names.dropLast ++ [ownId names own])).filter
        (fun part => !part.isEmpty)) := fun _ => rfl
  have hparts : (names.dropLast ++ [ownId names own]).filter (fun part => !part.isEmpty) ≠ [] := by
    refine List.ne_nil_of_mem (List.mem_filter.mpr ⟨List.mem_append_right _ List.mem_cons_self, ?_⟩)
    rw [List.isEmpty_eq_false_iff.mpr (ownId_ne_nil h own)]
    rfl
  have hbare : documentId [] names own = Text.joinWith "/"
      ((names.dropLast ++ [ownId names own]).filter (fun part => !part.isEmpty)) := by
    rw [hid, show Text.stripSlashes [] = [] from rfl, List.filter_cons_of_neg (by simp)]
  rw [hbare, hid]
  unfold underPrefix
  split
  · next hnil => rw [hnil, List.filter_cons_of_neg (by simp)]
  · next hne => rw [List.filter_cons_of_pos (by simpa using hne), joinWith_cons _ _ hparts]

/-- **The ids of the documents of a directory** under a prefix. -/
theorem run_documentIds_underPrefix (fs : FileSystem) (directory : Location) (idPrefix : Text) :
    fs.run (documentIds directory idPrefix)
      = ((fs.run (documentIds directory [])).1.map (List.map (underPrefix idPrefix)), fs) := by
  unfold documentIds
  rw [run_bind, run_bind, run_adapt, run_isDirectory]
  cases fs.kindAt directory with
  | error fault => rfl
  | ok kind =>
    dsimp only [Except.map, Except.mapError]
    split
    · rw [run_bind, run_bind, run_lift, runPlain_filesBelow]
      dsimp only
      rw [run_idsOf, run_idsOf]
      refine Prod.ext (mapM_eq_map fun names hnames => ?_) rfl
      unfold idOf
      cases fileId (FileAccess.textOf
          (fs.contentAt { directory with parts := directory.parts ++ names })) with
      | error fault => rfl
      | ok own =>
        exact congrArg Except.ok
          (documentId_eq_underPrefix idPrefix (mem_documents.mp hnames).2 own)
    · rfl

/-! ## 3. Prefixes -/

/-- **A prefix shows in ids and in links to them, and nowhere else.**  The tree of a document under
a prefix is the tree without one with its ids under the prefix.  Its pages are the same files with
the same front matter under these ids, and the lines of overview and categories differ in the targets
of links only.  The documents of a directory have their ids under the prefix.  Slashes at the ends of
a prefix do not count. -/
theorem prefix_only_in_ids (d : Document) (overviewId : Option Text) (idPrefix : Text)
    (site : Page.Site) (directory : Location) (fs : FileSystem) :
    ∃ n, compile { overviewId } d = .ok n ∧
      compile { idPrefix, overviewId } d = .ok (n.withIds (underPrefix idPrefix)) ∧
      Alike (List.Forall₂ (fun q q' => q'.1 = underPrefix idPrefix q.1 ∧
          Page.PageAlike site (underPrefix idPrefix) q.2 q'.2))
        (Page.renderAll site d n) (Page.renderAll site d (n.withIds (underPrefix idPrefix))) ∧
      fs.run (documentIds directory idPrefix)
        = ((fs.run (documentIds directory [])).1.map (List.map (underPrefix idPrefix)), fs) ∧
      ∀ before after : Nat,
        let slashed : Text :=
          List.replicate before (.char '/') ++ idPrefix ++ List.replicate after (.char '/')
        compile { idPrefix := slashed, overviewId } d
            = .ok (n.withIds (underPrefix idPrefix)) ∧
          fs.run (documentIds directory slashed) = fs.run (documentIds directory idPrefix) := by
  refine ⟨treeOf { overviewId } d, compile_eq _ d, ?_, ?_,
    run_documentIds_underPrefix fs directory _, fun before after => ⟨?_, ?_⟩⟩
  · rw [compile_eq, treeOf_eq_withIds]
  · exact Page.renderAll_alike site (underPrefix_injective idPrefix) d
      (Page.hasOperations_treeOf _ d)
  · rw [compile_eq, treeOf_eq_withIds, underPrefix_slashes]
  · rw [run_documentIds_underPrefix, underPrefix_slashes, ← run_documentIds_underPrefix]

end Output

end ApiDocs
