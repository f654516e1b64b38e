import ApiDocs.Navigation.Sidebar
import ApiDocs.Output.SavedSidebar
import ApiDocs.Proofs.Json.Lines
import ApiDocs.Proofs.Outcome
import ApiDocs.Reference

/-!
# Reading a sidebar back

The JSON file of a sidebar is read as the items that it was written from (`sidebarOf_toJson`), for
any tree.  The references that are found in the items are the document ids of the tree, in the order
of the sidebar (`listIds_items`), so those without a document are the same whether they are looked
for in the tree or in the file (`brokenItems_items`).
-/

namespace ApiDocs.Navigation

open Json

/-! ## 1. Items are plain -/

theorem isPlain_docItem {depth : Nat} (id : Text) : ∀ m ∈ docItem id, IsPlain depth m.2 := by
  intro m hm
  rcases List.mem_pair.mp hm with rfl | rfl
  · exact .str _
  · exact .str _

theorem isPlain_doc {depth : Nat} (id : Text) : IsPlain (depth + 1) (.obj (docItem id)) :=
  .obj (show (["type", "id"].map Text.ofString).Nodup by decide) (isPlain_docItem id)

theorem isPlain_entry {depth : Nat} (e : Entry) : IsPlain (depth + 1) e.item := by
  have hnames : (["type", "id", "label", "className"].map Text.ofString).Nodup := by decide
  unfold Entry.item
  split
  · exact isPlain_doc e.id
  · refine .obj hnames fun m hm => ?_
    rcases List.mem_append.mp hm with hm | hm
    · exact isPlain_docItem e.id m hm
    · rcases List.mem_pair.mp hm with rfl | rfl
      · exact .str _
      · exact .str _

theorem isPlain_category {depth : Nat} (link : LinkSource) (c : Category) :
    IsPlain (depth + 3) (c.item link) := by
  have hnames : (["type", "label", "link", "items"].map Text.ofString).Nodup := by decide
  have hentries : IsPlain (depth + 2) (.arr (c.entries.map Entry.item)) := by
    refine .arr fun v hv => ?_
    obtain ⟨e, -, rfl⟩ := List.mem_map.mp hv
    exact isPlain_entry e
  cases link with
  | tag =>
    refine .obj hnames fun m hm => ?_
    rcases List.mem_append.mp hm with hm | hm
    · rcases List.mem_cons.mp hm with rfl | hm
      · exact .str _
      · rcases List.mem_pair.mp hm with rfl | rfl
        · exact .str _
        · exact isPlain_doc c.id
    · rw [List.mem_singleton.mp hm]
      exact hentries
  | nothing =>
    have hsub : (["type", "label", "items"].map Text.ofString).Nodup := by decide
    refine .obj hsub fun m hm => ?_
    rcases List.mem_append.mp hm with hm | hm
    · rcases List.mem_pair.mp hm with rfl | rfl
      · exact .str _
      · exact .str _
    · rw [List.mem_singleton.mp hm]
      exact hentries

/-- A sidebar is made of strings, lists and objects, nested four deep. -/
theorem isPlain_items {depth : Nat} (link : LinkSource) (n : Navigation) :
    IsPlain (depth + 4) (n.items link) := by
  refine .arr fun v hv => ?_
  rcases List.mem_cons.mp hv with rfl | hv
  · exact isPlain_entry n.overview
  · obtain ⟨c, -, rfl⟩ := List.mem_map.mp hv
    exact isPlain_category link c

/-! ## 2. The file -/

theorem read_toJson {link : LinkSource} {n : Navigation} {s : String}
    (h : Text.ofString s = n.toJson link) : Json.read s = .ok (n.items link) :=
  read_pretty (isPlain_items link n) h

/-- The file of a sidebar holds no control characters but line feeds. -/
theorem isLaidOut_toJson (link : LinkSource) (n : Navigation) : IsLaidOut (n.toJson link) := by
  refine isLaidOut_append (isLaidOut_write 0 (n.items link)) fun p hp => ?_
  exact Or.inl (List.mem_singleton.mp hp)

/-- **The file of a sidebar is read as its items.** -/
theorem sidebarOf_toJson {link : LinkSource} {n : Navigation} {bytes : ByteArray}
    (h : Text.encode? (n.toJson link) = some bytes) :
    Output.sidebarOf (FileAccess.textOf (.ok bytes)) = .ok (n.items link) := by
  obtain ⟨s, hs, rfl⟩ := Text.encode?_eq_some.mp h
  have hreturn : '\r' ∉ s.toList := by
    intro hmem
    have hlaid := isLaidOut_toJson link n
    rw [hs] at hlaid
    rcases hlaid (.char '\r') (List.mem_map_of_mem hmem) with hbad | hbad
    · exact absurd hbad (by decide)
    · exact absurd hbad (by decide)
  have hfile : Text.ofFile? s.toUTF8 = some s := by
    rw [Text.ofFile?_of_encode? (Text.encode?_eq_some.mpr ⟨s, rfl, rfl⟩),
      Text.unifyNewlines_of_notMem hreturn, String.ofList_toList]
  unfold FileAccess.textOf
  dsimp only
  rw [hfile]
  unfold Output.sidebarOf
  dsimp only
  rw [read_toJson hs.symm]
  rfl

/-! ## 3. References -/

theorem itemIds_doc (id : Text) (more : List (Text × Json)) :
    Reference.itemIds (.obj (docItem id ++ more)) = .ok [.str id] := by
  have htype : Reference.isText "doc" (Json.lookup? "type" (docItem id ++ more)) = true := rfl
  have hid : Json.lookup? "id" (docItem id ++ more) = some (.str id) := rfl
  rw [Reference.itemIds, htype, if_pos rfl, hid]

theorem itemIds_entry (e : Entry) : Reference.itemIds e.item = .ok [.str e.id] := by
  unfold Entry.item
  split
  · exact itemIds_doc e.id []
  · exact itemIds_doc e.id _

theorem itemsIds_entries : ∀ es : List Entry,
    Reference.itemsIds (es.map Entry.item) = .ok ((es.map (·.id)).map .str)
  | [] => rfl
  | e :: es => by
    rw [List.map_cons, Reference.itemsIds, itemIds_entry, itemsIds_entries es]
    rfl

theorem itemIds_of_category {members : List (Text × Json)}
    (h : Json.lookup? "type" members = some (.str (Text.ofString "category"))) :
    Reference.itemIds (.obj members) = (do
      let link ← Reference.linkIds members
      return link ++ (← Reference.childIds members)) := by
  have hdoc : Reference.isText "doc" (Json.lookup? "type" members) = false := by
    rw [h]
    decide
  have hcategory : Reference.isText "category" (Json.lookup? "type" members) = true := by
    rw [h]
    decide
  rw [Reference.itemIds, hdoc, if_neg Bool.false_ne_true, hcategory, if_pos rfl]

theorem itemIds_category (link : LinkSource) (c : Category) :
    Reference.itemIds (c.item link) = .ok ((c.docIds link).map .str) := by
  have hitems := itemsIds_entries c.entries
  unfold Category.item Category.docIds
  rw [itemIds_of_category rfl]
  -- the items come last, under the first member that has their name
  cases link with
  | tag =>
    have hlink : Reference.linkIds (Json.member "type" (.str "category")
        :: Json.member "label" (.str c.label) :: Json.member "link" (.obj (docItem c.id))
        :: [Json.member "items" (.arr (c.entries.map Entry.item))]) = .ok [.str c.id] := rfl
    have hchild : Reference.childIds (Json.member "type" (.str "category")
        :: Json.member "label" (.str c.label) :: Json.member "link" (.obj (docItem c.id))
        :: [Json.member "items" (.arr (c.entries.map Entry.item))])
          = .ok ((c.entries.map (·.id)).map .str) := hitems
    exact bind_eq_ok.mpr ⟨_, hlink, bind_eq_ok.mpr ⟨_, hchild, rfl⟩⟩
  | nothing =>
    have hlink : Reference.linkIds (Json.member "type" (.str "category")
        :: Json.member "label" (.str c.label)
        :: [Json.member "items" (.arr (c.entries.map Entry.item))]) = .ok [] := rfl
    have hchild : Reference.childIds (Json.member "type" (.str "category")
        :: Json.member "label" (.str c.label)
        :: [Json.member "items" (.arr (c.entries.map Entry.item))])
          = .ok ((c.entries.map (·.id)).map .str) := hitems
    exact bind_eq_ok.mpr ⟨_, hlink, bind_eq_ok.mpr ⟨_, hchild, rfl⟩⟩

theorem itemsIds_categories (link : LinkSource) : ∀ cs : List Category,
    Reference.itemsIds (cs.map (Category.item link))
      = .ok ((cs.flatMap (Category.docIds link)).map .str)
  | [] => rfl
  | c :: cs => by
    rw [List.map_cons, Reference.itemsIds, itemIds_category, itemsIds_categories link cs,
      List.flatMap_cons, List.map_append]
    rfl

/-- **The references of a sidebar are the document ids of the tree**, in its order. -/
theorem listIds_items (link : LinkSource) (n : Navigation) :
    Reference.listIds (n.items link) = .ok ((n.docIds link).map .str) := by
  unfold items Reference.listIds
  rw [Reference.itemsIds, itemIds_entry, itemsIds_categories]
  rfl

theorem unknownIds_str (known : List Text) : ∀ ids : List Text,
    Reference.unknownIds known (ids.map .str)
      = .ok ((ids.filter (fun id => !known.contains id)).map .str)
  | [] => rfl
  | id :: ids => by
    rw [List.map_cons, Reference.unknownIds, unknownIds_str known ids, List.filter_cons]
    show (Except.ok (if known.contains id then _ else _) : Except Reference.Fault (List Json)) = _
    cases hknown : known.contains id with
    | true => rfl
    | false => rfl

/-- **The references without a document are the same in the tree and in its items.** -/
theorem brokenItems_items (known : List Text) (link : LinkSource) (n : Navigation) :
    Reference.brokenItems known (n.items link)
      = .ok ((Reference.broken link known n).map .str) := by
  unfold Reference.brokenItems
  rw [listIds_items]
  exact unknownIds_str known (n.docIds link)

end ApiDocs.Navigation
