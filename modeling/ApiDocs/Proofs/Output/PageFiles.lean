import ApiDocs.Proofs.Output.Checking
import ApiDocs.Proofs.Slug.Shape
import ApiDocs.Proofs.Text.Splitting

/-!
# The files of the pages

Titles, tags, summaries and paths of a description are free texts, and the names of the files are made
from them.  But only what is left of a text in its slug gets into a name, so a name is a slug, one of
three endings, and nothing that could lead out of the directory (`ofText_fileName`).

The pages of a compiled tree are found under the ids that the sidebar refers to, each id once and in
the order of the sidebar.  So no page replaces another one, in the mapping or in the directory, and
no reference of the sidebar is without its page (`pages_match_sidebar`).
-/

namespace ApiDocs

/-! ## 1. Slugs of a compiled tree -/

namespace Navigation

open Slug

/-- All slugs of a tree are blocks of small letters and digits with single hyphens between them. -/
structure HasKebabSlugs (n : Navigation) : Prop where
  overview : IsKebab n.overview.slug
  category : ∀ c ∈ n.categories, IsKebab c.slug
  entry : ∀ c ∈ n.categories, ∀ e ∈ c.entries, IsKebab e.slug

theorem isKebab_firstNonEmpty {texts : List Text} {default : Text}
    (htexts : ∀ t ∈ texts, t = [] ∨ IsKebab t) (hdefault : IsKebab default) :
    IsKebab (firstNonEmpty texts default) := by
  rcases firstNonEmpty_eq_or_mem texts default with heq | ⟨hmem, hne⟩
  · rwa [heq]
  · exact (htexts _ hmem).resolve_left hne

theorem isKebab_method {method : Text} (h : method ∈ methods) : IsKebab method := by
  have hall : ∀ method ∈ methods, method = Text.ofChars (Text.toChars method) ∧
      Text.toChars method ≠ [] ∧ (Text.toChars method).all isSlugChar = true := by decide
  obtain ⟨hself, hne, hchars⟩ := hall method h
  rw [hself]
  exact isKebab_block hne hchars

theorem isKebab_overviewSlug (overviewId : Option Text) (title : Text) :
    IsKebab (overviewSlug overviewId title) := by
  refine isKebab_firstNonEmpty ?_ (isKebab_block (by decide) (by decide))
  simp only [List.forall_mem_cons, List.not_mem_nil, false_implies, implies_true, and_true]
  exact ⟨isKebab_slugify _, isKebab_slugify _⟩

theorem isKebab_operationSlug {o : Operation} (h : o.method ∈ methods) :
    IsKebab (operationSlug o) := by
  refine isKebab_firstNonEmpty ?_ (isKebab_method h)
  simp only [List.forall_mem_cons, List.not_mem_nil, false_implies, implies_true, and_true]
  exact ⟨isKebab_slugify _, isKebab_slugify _, isKebab_slugify _⟩

theorem isKebab_categorySlug (label : Text) : IsKebab (categorySlug label) := by
  refine isKebab_firstNonEmpty ?_ (isKebab_block (by decide) (by decide))
  exact List.forall_mem_singleton.mpr (isKebab_slugify _)

variable {options : Options} {d : Document}

theorem isKebab_of_mem_slugs (hmethods : ∀ o ∈ d.operations, o.method ∈ methods) {s : Text}
    (h : s ∈ slugs options d) : IsKebab s := by
  rw [slugs_eq_assign] at h
  refine isKebab_of_mem_assign (fun slug hslug => ?_) h
  rcases List.mem_append.mp hslug with hslug | hslug
  · rcases List.mem_cons.mp hslug with heq | hslug
    · rw [heq]
      exact isKebab_overviewSlug _ _
    · obtain ⟨o, ho, rfl⟩ := List.mem_map.mp hslug
      exact isKebab_operationSlug (hmethods o ho)
  · obtain ⟨tag, -, rfl⟩ := List.mem_map.mp hslug
    exact isKebab_categorySlug tag

/-- The slugs of a tree are those of its sheets. -/
theorem hasKebabSlugs_of_sheets {n : Navigation}
    (h : ∀ sheet ∈ Page.sheetsOfTree d n, IsKebab sheet.slug) : HasKebabSlugs n := by
  have hcategory : ∀ c ∈ n.categories, ∀ sheet ∈ Page.sheetsOf d c, IsKebab sheet.slug :=
    fun c hc sheet hmem => h sheet (List.mem_cons_of_mem _ (List.mem_flatMap.mpr ⟨c, hc, hmem⟩))
  refine ⟨h (Page.overviewSheet d n.overview) List.mem_cons_self, fun c hc => ?_,
    fun c hc e he => ?_⟩
  · exact hcategory c hc (Page.categorySheet d c) List.mem_cons_self
  · exact hcategory c hc (Page.entrySheet e) (List.mem_cons_of_mem _ (List.mem_map_of_mem he))

/-- **The slugs of a compiled tree** have the shape, wherever they come from. -/
theorem hasKebabSlugs_treeOf (options : Options)
    (hmethods : ∀ o ∈ d.operations, o.method ∈ methods) : HasKebabSlugs (treeOf options d) :=
  hasKebabSlugs_of_sheets fun _ hsheet =>
    isKebab_of_mem_slugs hmethods (Page.slug_mem_slugs hsheet)

end Navigation

/-! ## 2. Names of files -/

namespace Page

open Navigation

/-- The names of the files of the pages of a tree, in the order of the sidebar. -/
def fileNames (n : Navigation) : List Text :=
  (n.overview.slug ++ ".info.mdx") :: n.categories.flatMap fun c =>
    (c.slug ++ ".tag.mdx") :: c.entries.map (fun e => e.slug ++ ".api.mdx")

theorem map_fileName_sheets (d : Document) (n : Navigation) :
    (sheetsOfTree d n).map (fun sheet => sheet.slug ++ sheet.ending) = fileNames n := by
  unfold sheetsOfTree fileNames
  rw [List.map_cons, List.map_flatMap]
  refine congrArg _ (List.flatMap_congr fun c _ => ?_)
  unfold sheetsOf
  rw [List.map_cons, List.map_map]
  rfl

/-- A name without slashes that is not a single point is one part of a path. -/
theorem ofText_name {name : Text} (hne : name ≠ []) (hpoint : name ≠ Text.ofString ".")
    (hslash : ∀ p ∈ name, CodePoint.isIn (· == '/') p = false) :
    Location.ofText name = ⟨"", [name]⟩ := by
  have hparts : Location.partsOf name = [name] := by
    unfold Location.partsOf Text.pieces
    rw [Text.splitAt_eq_splitOnP, List.splitOnP_eq_singleton hslash]
    simp [hne, hpoint]
  have hroot : Location.rootOf name = "" := by
    unfold Location.rootOf
    split
    · exact absurd (hslash _ List.mem_cons_self) (by decide)
    · exact absurd (hslash _ List.mem_cons_self) (by decide)
    · exact absurd (hslash _ List.mem_cons_self) (by decide)
    · rfl
  rw [Location.ofText, hroot, hparts]

theorem ne_slash_of_isKebab {slug : Text} (h : Slug.IsKebab slug) :
    ∀ p ∈ slug, CodePoint.isIn (· == '/') p = false := by
  intro p hp
  obtain ⟨c, rfl, hc⟩ := Slug.eq_hyphen_or_isSlugChar h hp
  rw [CodePoint.isIn_char, beq_eq_false_iff_ne]
  rintro rfl
  rcases hc with hbad | hbad
  · exact absurd hbad (by decide)
  · exact absurd hbad (by decide)

/-- **The name of a file is one part of a path**, and leads nowhere else. -/
theorem ofText_fileName {slug ending : Text} (hslug : Slug.IsKebab slug)
    (hending : ending ∈ endings) :
    Location.ofText (slug ++ ending) = ⟨"", [slug ++ ending]⟩ := by
  have hall : ∀ ending ∈ endings,
      (∀ p ∈ ending, CodePoint.isIn (· == '/') p = false) ∧ 1 < ending.length := by decide
  obtain ⟨hslash, hlength⟩ := hall ending hending
  have hlong : 1 < (slug ++ ending).length := by
    rw [List.length_append]
    omega
  refine ofText_name ?_ ?_ fun p hp => ?_
  · intro hnil
    rw [hnil] at hlong
    exact absurd hlong (by decide)
  · intro hpoint
    rw [hpoint] at hlong
    exact absurd hlong (by decide)
  · exact (List.mem_append.mp hp).elim (ne_slash_of_isKebab hslug p) (hslash p)

end Page

/-! ## 3. Pages and sidebar -/

namespace Output

open FileSystem Navigation

theorem map_fst_files (link : LinkSource) (n : Navigation) (pages : List (Text × Page)) :
    (files link n pages).map Prod.fst
      = pages.map (fun p => p.2.fileName) ++ [sidebarJson, sidebarTypeScript] := by
  unfold files
  rw [List.map_append, List.map_map]
  rfl

/-- **Pages and sidebar match.**

The pages of a description are found under the ids that the sidebar refers to, in its order, and each
page has the id that it is found under.  No two of their files have the same name.  A name is a slug
with the ending of the kind of page, and every slug is made of blocks of small letters and digits, so
the name is a single part of a path whatever texts it comes from.  Writing a build changes nothing
but what stands directly in the directory under the names of generated files, and a build that
succeeds has written its files there.  No reference of the sidebar is broken, whether headings of
categories are links or not. -/
theorem pages_match_sidebar {v : Value} {d : Document} {options : Options}
    {site : Page.Site} {n : Navigation} {pages : List (Text × Page)}
    (hread : Document.ofValue v = .ok d) (hcompile : compile options d = .ok n)
    (hrender : Page.renderAll site d n = .ok pages) :
    pages.map Prod.fst = n.docIds .tag ∧
    (∀ p ∈ pages, p.2.id = p.1) ∧
    (pages.map (fun p => p.2.fileName)).Nodup ∧
    pages.map (fun p => p.2.fileName) = Page.fileNames n ∧ HasKebabSlugs n ∧
    (∀ p ∈ pages, ∀ directory : Location,
      directory.join (.ofText p.2.fileName) = directory.child p.2.fileName) ∧
    (∀ (link : LinkSource) (directory : Location) (fs : FileSystem),
      Frame (fun name => isGenerated name = true) directory fs
        (fs.run (emit link n pages directory)).2 ∧
      ∀ report fs', fs.run (emit link n pages directory) = (.ok report, fs') →
        report.written = (Page.fileNames n ++ [sidebarJson, sidebarTypeScript]).map
          directory.child) ∧
    ∀ link, Reference.broken link (pages.map Prod.fst) n = [] := by
  have hbuild : ∀ link, ProperNames (files link n pages) := fun link =>
    Build.properNames
      { link, tree := n, pages
        compiled := ⟨options, site, d, pages, hcompile, hrender, .refl pages⟩ }
  rw [compile_eq] at hcompile
  obtain rfl := Except.ok.inj hcompile
  have hmethods := method_mem_of_ofValue hread
  have hids := Page.ids_of_render hrender
  obtain ⟨ps, rfl, hbears⟩ := Page.renderAll_ok hrender
  have hnames : (ps.map (fun p => (p.id, p))).map (fun p => p.2.fileName)
      = Page.fileNames (treeOf options d) := by
    rw [List.map_map, ← Page.map_fileName_sheets d]
    exact Page.map_of_bears (fun p sheet => Page.Bears.fileName) hbears
  have hnodup : ((ps.map (fun p => (p.id, p))).map (fun p => p.2.fileName)).Nodup := by
    rw [List.map_map]
    exact Page.nodup_fileNames hbears
  refine ⟨hids, ?_, hnodup, hnames, hasKebabSlugs_treeOf options hmethods, ?_, ?_, ?_⟩
  · intro p hp
    obtain ⟨page, -, rfl⟩ := List.mem_map.mp hp
    rfl
  · intro p hp directory
    obtain ⟨page, hpage, rfl⟩ := List.mem_map.mp hp
    obtain ⟨sheet, hsheet, hbear⟩ := Page.sheet_of_mem hbears hpage
    have hslug := isKebab_of_mem_slugs hmethods (Page.slug_mem_slugs hsheet)
    rw [hbear.fileName, Page.ofText_fileName hslug (Page.ending_mem hsheet)]
    rfl
  · intro link directory fs
    refine ⟨(within_emit (hbuild link).isGenerated directory fs).frame, fun report fs' hrun => ?_⟩
    obtain ⟨-, -, -, -, hwritten, -⟩ := emit_ok (hbuild link) hrun
    rw [hwritten, ← hnames, ← map_fst_files link, List.map_map]
    rfl
  · intro link
    have hsub : (treeOf options d).docIds link ⊆ (ps.map (fun p => (p.id, p))).map Prod.fst := by
      rw [hids]
      exact docIds_subset link _
    have hall := broken_filter hsub (fun _ => false)
    simpa using hall

/-! ## 4. Texts that look like paths -/

/-- A description whose title and summaries are paths and whose tag has no letters of ASCII. -/
def pathsValue : Value :=
  .map [(.str "openapi", .str "3.0.0"), (.str "info", .map [(.str "title", .str "../x")]),
    (.str "paths", .map [(.str "/", .map [
      (.str "get", .map [(.str "tags", .list [.str "食"])]),
      (.str "post", .map [(.str "summary", .str "../x"), (.str "tags", .list [.str "食"])])])])]

/-- The description as it is read. -/
def pathsDocument : Document := (Document.ofValue pathsValue).toOption.getD { dialect := .openapi3 }

/-- Its sidebar, below a prefix. -/
def pathsTree : Navigation := (compile { idPrefix := "/api/" } pathsDocument).toOption.getD default

/-- Its pages. -/
def pathsPages : List (Text × Page) := (Page.renderAll {} pathsDocument pathsTree).toOption.getD []

/-- The operation at the root is named after its method, the one with the title's summary gets a
suffix, and the tag the slug of all tags without letters. -/
theorem pages_match_sidebar_paths :
    Page.renderAll {} pathsDocument pathsTree = .ok pathsPages ∧
    pathsPages.map Prod.fst = ["api/x", "api/tag", "api/get", "api/x-2"].map Text.ofString ∧
    pathsPages.map (fun p => p.2.fileName)
      = ["x.info.mdx", "tag.tag.mdx", "get.api.mdx", "x-2.api.mdx"].map Text.ofString := by
  have hread : Document.ofValue pathsValue = .ok pathsDocument := eq_ok_getD (by decide +kernel)
  have hcompile : compile { idPrefix := "/api/" } pathsDocument = .ok pathsTree :=
    eq_ok_getD (by decide +kernel)
  have hrender : Page.renderAll {} pathsDocument pathsTree = .ok pathsPages :=
    eq_ok_getD (by decide +kernel)
  have hids : pathsTree.docIds .tag
      = ["api/x", "api/tag", "api/get", "api/x-2"].map Text.ofString := by
    decide +kernel
  have hfiles : Page.fileNames pathsTree
      = ["x.info.mdx", "tag.tag.mdx", "get.api.mdx", "x-2.api.mdx"].map Text.ofString := by
    decide +kernel
  obtain ⟨hkeys, -, -, hnames, -⟩ := pages_match_sidebar hread hcompile hrender
  exact ⟨hrender, hkeys.trans hids, hnames.trans hfiles⟩

end Output

end ApiDocs
