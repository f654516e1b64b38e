import ApiDocs.Proofs.FileSystem.Lookup
import ApiDocs.Proofs.FileSystem.Program
import ApiDocs.Proofs.Navigation.SavedSidebar

/-!
# A sidebar in a file

The sidebar of any tree can be written to a file and read back: the value is that of the tree, and
so are the references in it and those of them that lead nowhere (`savedSidebar_of_written`).  Ids,
labels and methods may repeat and may hold quotes, line breaks and controls, since all of these are
escaped.

The one thing that does not survive is half of a surrogate pair.  It is written as itself, and UTF-8
has no form for it.  So a tree that shows one has no file at all: writing it fails
(`run_writeText_eq_error`), and nothing wrong is ever read back.
-/

namespace ApiDocs

open FileAccess FileSystem

namespace Navigation

/-! ## 1. What a sidebar shows -/

/-- The texts of an entry that are written to the sidebar. -/
def Entry.shown (e : Entry) : List Text :=
  match e.method with
  | none => [e.id]
  | some _ => [e.id, e.label, e.className]

/-- The texts of a category that are written to the sidebar. -/
def Category.shown (link : LinkSource) (c : Category) : List Text :=
  c.label :: (if link = .tag then [c.id] else []) ++ c.entries.flatMap Entry.shown

/-- The ids, labels and style classes that are written to the sidebar. -/
def shown (link : LinkSource) (n : Navigation) : List Text :=
  n.overview.shown ++ n.categories.flatMap (Category.shown link)

theorem hasNoHalves_doc (level : Nat) {id : Text} :
    Text.HasNoHalves (Json.write level (.obj (docItem id))) ↔ Text.HasNoHalves id := by
  rw [Json.hasNoHalves_write_obj]
  simp [docItem, Json.member, Json.write_str, Json.hasNoHalves_writeString,
    Text.hasNoHalves_ofString]

theorem hasNoHalves_entry (level : Nat) (e : Entry) :
    Text.HasNoHalves (Json.write level e.item) ↔ ∀ t ∈ e.shown, Text.HasNoHalves t := by
  unfold Entry.item Entry.shown
  cases e.method with
  | none => exact (hasNoHalves_doc level).trans List.forall_mem_singleton.symm
  | some method =>
    dsimp only
    rw [Json.hasNoHalves_write_obj]
    simp [docItem, Json.member, Json.write_str, Json.hasNoHalves_writeString,
      Text.hasNoHalves_ofString]

theorem hasNoHalves_entries (level : Nat) (es : List Entry) :
    Text.HasNoHalves (Json.write level (.arr (es.map Entry.item))) ↔
      ∀ t ∈ es.flatMap Entry.shown, Text.HasNoHalves t := by
  rw [Json.hasNoHalves_write_arr, List.forall_mem_map, List.forall_mem_flatMap]
  exact forall₂_congr fun e _ => hasNoHalves_entry (level + 1) e

theorem hasNoHalves_category (level : Nat) (link : LinkSource) (c : Category) :
    Text.HasNoHalves (Json.write level (c.item link)) ↔
      ∀ t ∈ c.shown link, Text.HasNoHalves t := by
  have hitems := hasNoHalves_entries (level + 1) c.entries
  unfold Category.item Category.shown
  rw [Json.hasNoHalves_write_obj]
  cases link with
  | tag =>
    simp [Json.member, hitems, hasNoHalves_doc, Json.write_str, Json.hasNoHalves_writeString,
      Text.hasNoHalves_ofString]
  | nothing =>
    simp [Json.member, hitems, Json.write_str, Json.hasNoHalves_writeString,
      Text.hasNoHalves_ofString]

/-- **The file of a sidebar can be stored if everything that the sidebar shows can.** -/
theorem hasNoHalves_toJson (link : LinkSource) (n : Navigation) :
    Text.HasNoHalves (n.toJson link) ↔ ∀ t ∈ n.shown link, Text.HasNoHalves t := by
  have hitems : Text.HasNoHalves (Json.write 0 (n.items link)) ↔
      ∀ t ∈ n.shown link, Text.HasNoHalves t := by
    unfold items shown
    rw [Json.hasNoHalves_write_arr, List.forall_mem_cons, hasNoHalves_entry, List.forall_mem_append,
      List.forall_mem_map, List.forall_mem_flatMap]
    exact and_congr_right fun _ => forall₂_congr fun c _ => hasNoHalves_category 1 link c
  unfold toJson
  rw [Text.hasNoHalves_append, and_iff_left (Text.hasNoHalves_ofString "\n")]
  exact hitems

end Navigation

/-! ## 2. Texts in files -/

namespace FileSystem

variable {fs fs' : FileSystem} {file : Location} {t : Text} {bytes : ByteArray}

theorem run_writeText_of_encode? (h : Text.encode? t = some bytes) :
    fs.run (writeText file t) = fs.settled (fs.withFile file bytes) := by
  unfold writeText
  rw [h]
  exact fs.runPlain_write file bytes

/-- A file that a text can be written to takes any content. -/
theorem withFile_of_run_writeText {u : Text} (h : (fs.run (writeText file u)).1 = .ok ()) :
    ∃ fs', fs.withFile file bytes = .ok fs' := by
  have hwritten : ∃ content fs', fs.withFile file content = .ok fs' := by
    cases hu : Text.encode? u with
    | some content =>
      rw [run_writeText_of_encode? hu] at h
      exact ⟨content, _, of_settled_ok (Prod.ext h rfl)⟩
    | none =>
      obtain ⟨fs', hfs'⟩ : ∃ fs', fs.run (writeText file u) = (.ok (), fs') := ⟨_, Prod.ext h rfl⟩
      unfold writeText at hfs'
      rw [hu] at hfs'
      obtain ⟨_, _, -, hthrow⟩ := of_run_bind hfs'
      cases hthrow
  obtain ⟨content, fs', hfs'⟩ := hwritten
  obtain ⟨names, hresolve, hget, -⟩ := withFile_eq_ok.mp hfs'
  exact ⟨_, withFile_eq_ok.mpr ⟨names, hresolve, hget, rfl⟩⟩

/-- A text with a half is not written, also where other texts are. -/
theorem run_writeText_eq_error (h : ¬ Text.HasNoHalves t)
    (hfile : (fs.run (writeText file [])).1 = .ok ()) :
    (fs.run (writeText file t)).1 = .error .unencodable := by
  obtain ⟨fs', hfs'⟩ := @withFile_of_run_writeText fs file .empty [] hfile
  have hempty : fs.run (ExceptT.mk (FileAccess.write file .empty)) = (.ok (), fs') := by
    rw [run_mk, runPlain_write, hfs', settled_ok]
  unfold writeText
  rw [Text.encode?_eq_none.mpr h]
  exact congrArg Prod.fst (run_bind_ok hempty)

/-- **What is read from a file is what was written to it.** -/
theorem contentAt_of_withFile (h : fs.withFile file bytes = .ok fs') :
    fs'.contentAt file = .ok bytes := by
  obtain ⟨names, hresolve, hget, rfl⟩ := withFile_eq_ok.mp h
  have hplace := resolve_mono (keepsDirectories_insert (e := .file bytes) hget) hresolve
  refine hasFile_iff.mp (entryAt_eq_ok.mpr ⟨resolve_place hplace ▸ hplace, ?_⟩)
  rw [← resolve_place hplace]
  exact get?_insert_self (not_front_of_get? hget) _

end FileSystem

/-! ## 3. Sidebars in files -/

namespace Output

open Navigation

/-- **A sidebar is read back as it was written**, from any file that can be written to and for any
tree that shows no half of a surrogate pair; a tree that shows one is not written.  The references
in the value are those of the tree, and so are the ones among them that lead nowhere. -/
theorem savedSidebar_of_written (link : LinkSource) (n : Navigation) (known : List Text)
    (fs : FileSystem) (file : Location) (hfile : (fs.run (writeText file [])).1 = .ok ()) :
    ((∀ t ∈ n.shown link, t.HasNoHalves) →
      ∃ fs', fs.run (writeText file (n.toJson link)) = (.ok (), fs') ∧
        fs'.runPlain (savedSidebar file) = (.ok (n.items link), fs')) ∧
    ((∃ t ∈ n.shown link, ¬ t.HasNoHalves) →
      (fs.run (writeText file (n.toJson link))).1 = .error .unencodable) ∧
    Reference.listIds (n.items link) = .ok ((n.docIds link).map .str) ∧
    Reference.brokenItems known (n.items link)
      = .ok ((Reference.broken link known n).map .str) := by
  refine ⟨fun hshown => ?_, fun ⟨t, ht, hhalf⟩ => ?_, listIds_items link n,
    brokenItems_items known link n⟩
  · have hhalves := (hasNoHalves_toJson link n).mpr hshown
    obtain ⟨bytes, hbytes⟩ : ∃ bytes, Text.encode? (n.toJson link) = some bytes :=
      Option.ne_none_iff_exists'.mp fun h => Text.encode?_eq_none.mp h hhalves
    obtain ⟨fs', hfs'⟩ := @withFile_of_run_writeText fs file bytes [] hfile
    refine ⟨fs', by rw [run_writeText_of_encode? hbytes, hfs', settled_ok], ?_⟩
    unfold savedSidebar
    rw [runPlain_bind, runPlain_readText, contentAt_of_withFile hfs', runPlain_pure,
      sidebarOf_toJson hbytes]
  · exact run_writeText_eq_error (fun h => hhalf ((hasNoHalves_toJson link n).mp h t ht)) hfile

/-- A sidebar with a label that has quotes, a backslash and line ends, with an id twice and with a
method in quotes. -/
def quotedTree : Navigation where
  overview := { id := "overview", slug := "overview", label := "Overview" }
  categories := [
    { label := "say \"hi\" \\\r\n\t", id := "say-hi", slug := "say-hi"
      entries := [
        { id := "x", slug := "x", label := "食\x01", method := some "get" },
        { id := "x", slug := "x", label := "X", method := some "\"post\"" }] }]

/-- The file that a sidebar is kept in. -/
def sidebarPath : Location := ⟨"", [sidebarJson]⟩

/-- The label comes back with its line ends, and both references to the id are found. -/
theorem savedSidebar_of_written_quoted :
    ∃ fs', ({} : FileSystem).run (writeText sidebarPath (quotedTree.toJson .tag)) = (.ok (), fs') ∧
      fs'.runPlain (savedSidebar sidebarPath) = (.ok (quotedTree.items .tag), fs') ∧
      Reference.brokenItems [Text.ofString "say-hi"] (quotedTree.items .tag)
        = .ok (["overview", "x", "x"].map (fun id => .str (Text.ofString id))) := by
  have hfile : (({} : FileSystem).run (writeText sidebarPath [])).1 = .ok () := by decide +kernel
  have hshown : ∀ t ∈ quotedTree.shown .tag, t.HasNoHalves := by
    rw [show quotedTree.shown .tag = ["overview", "say \"hi\" \\\r\n\t", "say-hi", "x", "食\x01",
      "api-method get", "x", "X", "api-method \"post\""].map Text.ofString from rfl,
      List.forall_mem_map]
    exact fun s _ => Text.hasNoHalves_ofString s
  obtain ⟨hback, -, -, hbroken⟩ :=
    savedSidebar_of_written .tag quotedTree [Text.ofString "say-hi"] {} sidebarPath hfile
  obtain ⟨fs', hwritten, hread⟩ := hback hshown
  exact ⟨fs', hwritten, hread, hbroken⟩

/-- A sidebar with half of a surrogate pair in a label. -/
def halfTree : Navigation where
  overview := { id := "overview", slug := "overview", label := "Overview" }
  categories := [
    { label := "Untagged", id := "untagged", slug := "untagged"
      entries := [
        { id := "half", slug := "half", label := Text.ofString "Half " ++ [.half 0]
          method := some "get" }] }]

/-- **Not every sidebar can be written**, though there is a place for its file. -/
theorem not_savedSidebar_of_written_half :
    ¬ ∀ (link : LinkSource) (n : Navigation) (fs : FileSystem) (file : Location),
      (fs.run (writeText file [])).1 = .ok () →
        ∃ fs', fs.run (writeText file (n.toJson link)) = (.ok (), fs') ∧
          fs'.runPlain (savedSidebar file) = (.ok (n.items link), fs') := by
  intro h
  have hfile : (({} : FileSystem).run (writeText sidebarPath [])).1 = .ok () := by decide +kernel
  have hfails : (({} : FileSystem).run (writeText sidebarPath (halfTree.toJson .tag))).1
      = .error .unencodable := by
    decide +kernel
  obtain ⟨fs', hwritten, -⟩ := h .tag halfTree {} sidebarPath hfile
  rw [hwritten] at hfails
  cases hfails

end Output

end ApiDocs
