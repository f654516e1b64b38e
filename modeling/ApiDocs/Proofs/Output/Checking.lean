import ApiDocs.Output.SavedSidebar
import ApiDocs.Proofs.Document.Methods
import ApiDocs.Proofs.Navigation.SavedSidebar
import ApiDocs.Proofs.Output.Builds
import ApiDocs.Proofs.Output.Documents
import ApiDocs.Proofs.Page.FrontMatter

/-!
# Checking a build

A build reports the references of its sidebar for which it has no page.  Checking the directory later
starts from the files alone: the references are those in the saved sidebar, and the documents are
whatever Markdown files there are, under the ids in their front matter.  Both find the same
(`check_after_emit`): pages that were left out are missing, and no others, as long as the directory
held nothing else.  Other documents can only make fewer references broken.

That the id of a page is found in its file is the core of it (`Recovers`, `recovers_of_render`).
-/

namespace ApiDocs.Output

open FileSystem Navigation

variable {directory : Location} {base : List Text} {fs made cleaned fs' : FileSystem}
  {removed : List Location} {link : LinkSource} {n : Navigation} {pages : List (Text × Page)}
  {idPrefix : Text}

/-! ## 1. Pages that are recovered -/

/-- The id of a page can be recovered from its file. -/
structure Recovers (idPrefix : Text) (p : Text × Page) (slug : Text) : Prop where
  nonempty : slug ≠ []
  id : p.1 = docId idPrefix slug
  name : ∃ ending ∈ Page.endings, p.2.fileName = slug ++ ending
  own : ∀ bytes, Text.encode? p.2.content = some bytes →
    fileId (FileAccess.textOf (.ok bytes)) = .ok (some slug)

/-- **The ids of all pages of a description can be recovered**, if YAML reads the ids in their front
matter as they were written. -/
theorem recovers_of_render {v : Value} {d : Document} {options : Options}
    {site : Page.Site} {all : List (Text × Page)} (hread : Document.ofValue v = .ok d)
    (hrender : Page.renderAll site d (treeOf options d) = .ok all)
    (hreloads : ∀ sheet ∈ Page.sheetsOfTree d (treeOf options d), Page.Reloads sheet.fields) :
    ∀ p ∈ all, ∃ slug, Recovers options.idPrefix p slug := by
  obtain ⟨ps, rfl, hbears⟩ := Page.renderAll_ok hrender
  intro p hp
  obtain ⟨page, hpage, rfl⟩ := List.mem_map.mp hp
  obtain ⟨sheet, hsheet, hbear⟩ := Page.sheet_of_mem hbears hpage
  have hmethods : ∀ o ∈ d.operations, o.method ≠ [] := by
    intro o ho hempty
    have hmem := method_mem_of_ofValue hread o ho
    rw [hempty] at hmem
    exact absurd hmem (by decide)
  have hslug : sheet.slug ≠ [] := ne_nil_of_mem_slugs hmethods (Page.slug_mem_slugs hsheet)
  exact ⟨sheet.slug, hslug, hbear.id, ⟨sheet.ending, Page.ending_mem hsheet, hbear.fileName⟩,
    fun bytes hbytes => Page.fileId_of_bears hbear (Page.isProper_of_mem hsheet) hslug
      (hreloads sheet hsheet) hbytes⟩

/-! ## 2. Documents after a build -/

theorem mem_files {p : Text × Page} (hp : p ∈ pages) :
    (p.2.fileName, p.2.content) ∈ Output.files link n pages :=
  List.mem_append_left _ (List.mem_map_of_mem hp)

namespace Emitted

variable (h : Emitted directory base (Output.files link n pages) fs made cleaned fs' removed)

include h

/-- Where nothing stood, the build alone has put files. -/
theorem file_of_vacant (hvacant : IsVacant directory fs) {names : List Text} {content : ByteArray}
    (hne : names ≠ []) (hget : fs'.get? (base ++ names) = some (.file content)) :
    ∃ f ∈ Output.files link n pages, names = [f.1] := by
  by_contra hnot
  have hother : ∀ f ∈ Output.files link n pages, base ++ names ≠ namesOf base f :=
    fun f hf hsame => hnot ⟨f, hf, List.append_cancel_left hsame⟩
  rw [h.puts, get?_putAll_of_ne hother] at hget
  -- neither cleaning nor making directories leaves a file that was not there
  have hmade : made.get? (base ++ names) = some (.file content) := by
    by_cases hs : Stale (fun name => isGenerated name = true) directory made (base ++ names)
    · rw [h.cleanedOf.gone _ hs] at hget
      cases hget
    · rwa [h.cleanedOf.kept _ hs] at hget
  rcases h.get?_made (base ++ names) with hsame | ⟨-, -, hdir⟩
  · rw [hmade, ← h.place, hvacant names hne] at hsame
    cases hsame
  · rw [hmade] at hdir
    cases hdir

/-- The documents in a directory that was vacant are those of the pages. -/
theorem documents_of_vacant (hvacant : IsVacant directory fs) {names : List Text}
    (hmem : names ∈ documents (fs'.filesBelowAt directory)) :
    ∃ p ∈ pages, names = [p.2.fileName] := by
  obtain ⟨hlisted, hdocument⟩ := mem_documents.mp hmem
  obtain ⟨hne, content, hget⟩ := (mem_filesBelowAt h.hasDirectory_after).mp hlisted
  rw [h.places.2.2] at hget
  obtain ⟨f, hf, rfl⟩ := h.file_of_vacant hvacant hne hget
  rcases List.mem_append.mp hf with hf | hf
  · obtain ⟨p, hp, rfl⟩ := List.mem_map.mp hf
    exact ⟨p, hp, rfl⟩
  · -- the files of the sidebar are no documents
    have hjson : isDocument sidebarJson = false := by decide
    have htypescript : isDocument sidebarTypeScript = false := by decide
    have hname : isDocument f.1 = true := hdocument
    rcases List.mem_pair.mp hf with heq | heq
    · rw [heq, hjson] at hname
      cases hname
    · rw [heq, htypescript] at hname
      cases hname

variable (hnames : ProperNames (Output.files link n pages))

include hnames

/-- The file of a page is where it was written. -/
theorem get?_page {p : Text × Page} (hp : p ∈ pages) :
    fs'.get? (base ++ [p.2.fileName]) = some (.file (bytesOf p.2.content)) := by
  exact h.get?_file hnames.nodup (mem_files hp)

/-- **The id of a page is found at its file.** -/
theorem idOf_page {p : Text × Page} (hp : p ∈ pages) {slug : Text}
    (hslug : Recovers idPrefix p slug) :
    idOf fs' directory idPrefix [p.2.fileName] = .ok p.1 := by
  have hfile : fs'.contentAt (directory.child p.2.fileName) = .ok (bytesOf p.2.content) :=
    h.contentAt_file hnames (mem_files hp)
  unfold idOf
  refine bind_eq_ok.mpr ⟨some slug, ?_, ?_⟩
  · show fileId (FileAccess.textOf (fs'.contentAt (directory.child p.2.fileName))) = _
    rw [hfile]
    exact hslug.own _ (h.writable _ (mem_files hp)).encoded
  · rw [documentId_fileName idPrefix _ hslug.nonempty, ← hslug.id]
    rfl

/-- The files of pages are documents of the directory. -/
theorem mem_documents_page {p : Text × Page} (hp : p ∈ pages) {slug : Text}
    (hslug : Recovers idPrefix p slug) :
    [p.2.fileName] ∈ documents (fs'.filesBelowAt directory) := by
  obtain ⟨ending, hending, hname⟩ := hslug.name
  refine mem_documents.mpr ⟨?_, ?_⟩
  · refine (mem_filesBelowAt h.hasDirectory_after).mpr
      ⟨List.cons_ne_nil _ [], bytesOf p.2.content, ?_⟩
    rw [h.places.2.2]
    exact h.get?_page hnames hp
  · show isDocument (p.2.fileName) = true
    rw [hname]
    exact isDocument_append hending

/-- **Whatever else there is, the pages of a build are among the documents.** -/
theorem subset_documentIds (hrecovers : ∀ p ∈ pages, ∃ slug, Recovers idPrefix p slug)
    {ids : List Text} {fs'' : FileSystem}
    (hrun : fs'.run (documentIds directory idPrefix) = (.ok ids, fs'')) :
    pages.map Prod.fst ⊆ ids := by
  intro id hid
  obtain ⟨p, hp, rfl⟩ := List.mem_map.mp hid
  obtain ⟨slug, hslug⟩ := hrecovers p hp
  rw [run_documentIds h.hasDirectory_after] at hrun
  refine (mem_of_mapM_eq_ok (Prod.mk.inj hrun).1).mpr ⟨_, h.mem_documents_page hnames hp hslug, ?_⟩
  exact h.idOf_page hnames hp hslug

/-- **The documents of a directory that was vacant are the pages of the build**, under their
ids. -/
theorem run_documentIds_of_vacant (hvacant : IsVacant directory fs)
    (hrecovers : ∀ p ∈ pages, ∃ slug, Recovers idPrefix p slug) :
    ∃ ids, fs'.run (documentIds directory idPrefix) = (.ok ids, fs') ∧
      ∀ id, id ∈ ids ↔ id ∈ pages.map Prod.fst := by
  have hrun := run_documentIds h.hasDirectory_after idPrefix
  obtain ⟨ids, hids⟩ : ∃ ids, (documents (fs'.filesBelowAt directory)).mapM
      (idOf fs' directory idPrefix) = .ok ids := by
    refine exists_mapM_eq_ok fun names hmem => ?_
    obtain ⟨p, hp, rfl⟩ := h.documents_of_vacant hvacant hmem
    obtain ⟨slug, hslug⟩ := hrecovers p hp
    exact ⟨p.1, h.idOf_page hnames hp hslug⟩
  rw [hids] at hrun
  refine ⟨ids, hrun, fun id => ⟨fun hid => ?_, fun hid => ?_⟩⟩
  · obtain ⟨names, hmem, hid⟩ := (mem_of_mapM_eq_ok hids).mp hid
    obtain ⟨p, hp, rfl⟩ := h.documents_of_vacant hvacant hmem
    obtain ⟨slug, hslug⟩ := hrecovers p hp
    rw [h.idOf_page hnames hp hslug] at hid
    cases hid
    exact List.mem_map_of_mem hp
  · exact h.subset_documentIds hnames hrecovers hrun hid

/-- **The saved sidebar is the one that was written.** -/
theorem run_savedSidebar : fs'.runPlain (savedSidebar (directory.child sidebarJson))
    = (.ok (n.items link), fs') := by
  have hmem : (sidebarJson, n.toJson link) ∈ Output.files link n pages :=
    List.mem_append_right _ List.mem_cons_self
  have hfile : fs'.contentAt (directory.child sidebarJson) = .ok (bytesOf (n.toJson link)) :=
    h.contentAt_file hnames hmem
  unfold savedSidebar
  rw [runPlain_bind, runPlain_readText, hfile]
  dsimp only
  rw [sidebarOf_toJson (h.writable _ hmem).encoded]
  rfl

end Emitted

/-! ## 3. References without a document -/

theorem broken_congr {known known' : List Text} (h : ∀ id, id ∈ known ↔ id ∈ known') :
    Reference.broken link known n = Reference.broken link known' n := by
  unfold Reference.broken
  refine List.filter_congr fun id _ => ?_
  rw [Bool.eq_iff_iff, Bool.not_eq_true', Bool.not_eq_true', List.contains_eq_mem,
    List.contains_eq_mem, decide_eq_false_iff_not, decide_eq_false_iff_not, h id]

/-- With more documents no more references are broken. -/
theorem broken_sublist {known known' : List Text} (h : known ⊆ known') :
    (Reference.broken link known' n).Sublist (Reference.broken link known n) := by
  unfold Reference.broken
  refine List.monotone_filter_right _ fun id hid => ?_
  rw [Bool.not_eq_true', List.contains_eq_mem, decide_eq_false_iff_not] at hid ⊢
  exact fun hmem => hid (h hmem)

/-- Every reference of a sidebar is one of the sidebar whose categories are linked. -/
theorem docIds_subset (link : LinkSource) (n : Navigation) : n.docIds link ⊆ n.docIds .tag := by
  unfold Navigation.docIds
  refine List.cons_subset_cons _ fun id hid => ?_
  obtain ⟨c, hc, hid⟩ := List.mem_flatMap.mp hid
  refine List.mem_flatMap.mpr ⟨c, hc, ?_⟩
  rcases List.mem_append.mp hid with hlink | hentry
  · have hid : id = c.id := by
      split at hlink
      · exact List.mem_singleton.mp hlink
      · exact absurd hlink List.not_mem_nil
    rw [hid]
    exact List.mem_append_left _ (List.mem_singleton_self _)
  · exact List.mem_append_right _ hentry

/-- The ids of pages without some of them. -/
theorem mem_keys_filter {all : List (Text × Page)} {gone : Text → Bool} {id : Text} :
    id ∈ (all.filter (fun p => !gone p.1)).map Prod.fst ↔ id ∈ all.map Prod.fst ∧ gone id = false := by
  simp only [List.mem_map, List.mem_filter, Bool.not_eq_true']
  constructor
  · rintro ⟨p, ⟨hp, hgone⟩, rfl⟩
    exact ⟨⟨p, hp, rfl⟩, hgone⟩
  · rintro ⟨⟨p, hp, rfl⟩, hgone⟩
    exact ⟨p, ⟨hp, hgone⟩, rfl⟩

/-- The references that are broken without some of the pages are the ids of these. -/
theorem broken_filter {all : List (Text × Page)} (hids : n.docIds link ⊆ all.map Prod.fst)
    (gone : Text → Bool) :
    Reference.broken link ((all.filter (fun p => !gone p.1)).map Prod.fst) n
      = (n.docIds link).filter gone := by
  unfold Reference.broken
  refine List.filter_congr fun id hid => ?_
  have hmem := @mem_keys_filter all gone id
  rw [Bool.eq_iff_iff, Bool.not_eq_true', List.contains_eq_mem, decide_eq_false_iff_not, hmem,
    Bool.eq_false_iff, not_and, not_not]
  exact ⟨fun h => h (hids hid), fun h _ => h⟩

/-! ## 4. Checking -/

/-- **What checking finds after a build** is what the build has reported.

The build is one of a description that could be read, without the pages whose ids are `gone`.  It
reports the references to these pages, in the order of the sidebar, and the saved sidebar is the one
that was written.  In a directory where nothing stood, the documents are exactly the other pages,
and the references without a document are those that were reported.  Where there were other
documents, as far as their ids can be read, no further references are broken.

It is assumed that YAML reads the id in the front matter of every page as it was written. -/
theorem check_after_emit {v : Value} {d : Document} {options : Options}
    {site : Page.Site} {all : List (Text × Page)} {gone : Text → Bool} {report : Report}
    (hread : Document.ofValue v = .ok d) (hcompile : compile options d = .ok n)
    (hrender : Page.renderAll site d n = .ok all)
    (hreloads : ∀ sheet ∈ Page.sheetsOfTree d n, Page.Reloads sheet.fields)
    (hrun : fs.run (emit link n (all.filter (fun p => !gone p.1)) directory) = (.ok report, fs')) :
    report.broken = (n.docIds link).filter gone ∧
    ((∀ id ∈ all.map Prod.fst, gone id = false) → report.broken = []) ∧
    fs'.runPlain (savedSidebar (directory.child sidebarJson)) = (.ok (n.items link), fs') ∧
    (IsVacant directory fs →
      ∃ ids, fs'.run (documentIds directory options.idPrefix) = (.ok ids, fs') ∧
        (∀ id, id ∈ ids ↔ id ∈ all.map Prod.fst ∧ gone id = false) ∧
        Reference.brokenItems ids (n.items link) = .ok (report.broken.map .str)) ∧
    ∀ ids fs'', fs'.run (documentIds directory options.idPrefix) = (.ok ids, fs'') →
      ∃ broken : List Text, Reference.brokenItems ids (n.items link) = .ok (broken.map .str) ∧
        broken.Sublist report.broken := by
  have hnames : ProperNames (files link n (all.filter (fun p => !gone p.1))) :=
    Build.properNames
      { link, tree := n, pages := all.filter (fun p => !gone p.1)
        compiled := ⟨options, site, d, all, hcompile, hrender, List.filter_sublist⟩ }
  obtain ⟨base, made, cleaned, hemit, -, hbroken⟩ := emit_ok hnames hrun
  rw [compile_eq] at hcompile
  obtain rfl := Except.ok.inj hcompile
  have hrecovers := recovers_of_render hread hrender hreloads
  have hkept : ∀ p ∈ all.filter (fun p => !gone p.1), ∃ slug, Recovers options.idPrefix p slug :=
    fun p hp => hrecovers p (List.mem_filter.mp hp).1
  have hids : (treeOf options d).docIds link ⊆ all.map Prod.fst := by
    rw [Page.ids_of_render hrender]
    exact docIds_subset link _
  have hgone := hbroken.trans (broken_filter hids gone)
  refine ⟨hgone, fun hnone => ?_, hemit.run_savedSidebar hnames, ?_, ?_⟩
  · rw [hgone, List.filter_eq_nil_iff]
    intro id hid
    rw [hnone id (hids hid)]
    exact Bool.false_ne_true
  · intro hvacant
    obtain ⟨ids, hdocuments, hmem⟩ := hemit.run_documentIds_of_vacant hnames hvacant hkept
    refine ⟨ids, hdocuments, fun id => (hmem id).trans mem_keys_filter, ?_⟩
    rw [brokenItems_items, hbroken, broken_congr hmem]
  · intro ids fs'' hdocuments
    refine ⟨_, brokenItems_items ids link _, ?_⟩
    rw [hbroken]
    exact broken_sublist (hemit.subset_documentIds hnames hkept hdocuments)

/-! ## 5. A build without one of its pages -/

/-- A description with one operation, whose tag is a number. -/
def petsValue : Value :=
  .map [(.str "openapi", .str "3.0.0"), (.str "info", .map [(.str "title", .str "Pets")]),
    (.str "paths", .map [(.str "/pets", .map [(.str "get", .map [(.str "tags",
      .list [.str "123"])])])])]

/-- The description as it is read. -/
def petsDocument : Document := (Document.ofValue petsValue).toOption.getD { dialect := .openapi3 }

/-- Its sidebar. -/
def petsTree : Navigation := (compile {} petsDocument).toOption.getD default

/-- All of its pages. -/
def petsPages : List (Text × Page) := (Page.renderAll {} petsDocument petsTree).toOption.getD []

/-- The id of the page of the tag. -/
def isTagId (id : Text) : Bool := id == Text.ofString "123"

/-- The pages without that of the tag. -/
def petsWithoutTag : List (Text × Page) := petsPages.filter (fun p => !isTagId p.1)

/-- In a new directory the page that was left out is missing, and no other. -/
theorem check_after_emit_pets :
    ∃ report fs' ids, ({} : FileSystem).run (emit .tag petsTree petsWithoutTag
        ⟨"", [Text.ofString "docs"]⟩) = (.ok report, fs') ∧
      report.broken = [Text.ofString "123"] ∧
      fs'.run (documentIds ⟨"", [Text.ofString "docs"]⟩ []) = (.ok ids, fs') ∧
      Reference.brokenItems ids (petsTree.items .tag) = .ok [.str (Text.ofString "123")] := by
  have hread : Document.ofValue petsValue = .ok petsDocument := eq_ok_getD (by decide +kernel)
  have hcompile : compile {} petsDocument = .ok petsTree := eq_ok_getD (by decide +kernel)
  have hrender : Page.renderAll {} petsDocument petsTree = .ok petsPages :=
    eq_ok_getD (by decide +kernel)
  have hreloads : ∀ sheet ∈ Page.sheetsOfTree petsDocument petsTree, Page.Reloads sheet.fields := by
    have hall : ∀ sheet ∈ Page.sheetsOfTree petsDocument petsTree,
        Page.reloads sheet.fields = true := by
      decide +kernel
    exact fun sheet hsheet => .of_reloads (hall sheet hsheet)
  have hbuild : (({} : FileSystem).run (emit .tag petsTree petsWithoutTag
      ⟨"", [Text.ofString "docs"]⟩)).1.toOption.isSome = true := by
    decide +kernel
  have hgone : (petsTree.docIds .tag).filter isTagId = [Text.ofString "123"] := by
    decide +kernel
  have hvacant : IsVacant ⟨"", [Text.ofString "docs"]⟩ {} := fun names _ =>
    get?_of_not_front fun hprefix => List.cons_ne_nil _ _ (List.prefix_nil.mp hprefix)
  rcases hrun : ({} : FileSystem).run (emit .tag petsTree petsWithoutTag
    ⟨"", [Text.ofString "docs"]⟩) with ⟨_ | report, fs'⟩
  · rw [hrun] at hbuild
    cases hbuild
  · unfold petsWithoutTag at hrun
    obtain ⟨hbroken, -, -, hchecked, -⟩ :=
      check_after_emit hread hcompile hrender hreloads hrun
    obtain ⟨ids, hdocuments, -, hitems⟩ := hchecked hvacant
    rw [hgone] at hbroken
    rw [hbroken] at hitems
    exact ⟨report, fs', ids, rfl, hbroken, hdocuments, hitems⟩

end ApiDocs.Output
