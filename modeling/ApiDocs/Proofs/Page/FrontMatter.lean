import ApiDocs.Output.Documents
import ApiDocs.Proofs.Page.Pages
import ApiDocs.Proofs.Text.Strings
import ApiDocs.Proofs.Yaml.Mappings

/-!
# Reading the front matter of a page

The id of a document is looked for in its front matter, which ends where a line starts with three
hyphens.  In a page that was rendered, no line within the front matter does, whatever the fields
hold, so all of it is found again (`frontMatter?_of_file`).

What YAML makes of the text found is not shown here: `Reloads` says of some fields that loading the
text they are written as gives a mapping with the same id.  Under this assumption the id in the file
of a page is the slug of the page (`fileId_of_bears`).
-/

namespace ApiDocs.Page

open Navigation Output Yaml

/-! ## 1. The end of front matter -/

/-- Front matter is found up to the first line that starts with three hyphens. -/
theorem before?_of_isChain {cs : List Char} (rest : List Char)
    (h : cs.IsChain (fun before after => ¬ (after = '-' ∧ before = '\n'))) :
    before? "\n---".toList (cs ++ "\n---".toList ++ rest) = some cs := by
  induction cs with
  | nil =>
    have hstarts : "\n---".toList.isPrefixOf ([] ++ "\n---".toList ++ rest) = true :=
      List.isPrefixOf_iff_prefix.mpr (List.prefix_append _ _)
    exact if_pos hstarts
  | cons c cs ih =>
    -- a line feed at `c` is not followed by a hyphen
    have hstarts : "\n---".toList.isPrefixOf (c :: (cs ++ "\n---".toList ++ rest)) = false := by
      rw [Bool.eq_false_iff]
      intro hbad
      obtain ⟨hc, hnext⟩ := List.cons_prefix_cons.mp (List.isPrefixOf_iff_prefix.mp hbad)
      cases cs with
      | nil => exact absurd (List.cons_prefix_cons.mp hnext).1 (by decide)
      | cons d ds =>
        have hd := (List.cons_prefix_cons.mp hnext).1
        exact (List.isChain_cons_cons.mp h).1 ⟨hd.symm, hc.symm⟩
    rw [List.cons_append, List.cons_append, before?, hstarts, if_neg Bool.false_ne_true, ih h.tail]
    rfl

/-- A text that can stand as front matter: it has no carriage return, and no line of it but the first
starts with a hyphen. -/
structure IsFront (cs : List Char) : Prop where
  clean : '\r' ∉ cs
  lines : cs.IsChain (fun before after => ¬ (after = '-' ∧ before = '\n'))

/-- **Front matter is found again in a file** that starts with it. -/
theorem frontMatter?_of_file {front s : String} {rest : List Char} (h : IsFront front.toList)
    (hs : s.toList = "---\n".toList ++ (front.toList ++ "\n---".toList ++ rest)) :
    ∃ text, FileAccess.textOf (.ok s.toUTF8) = .ok text ∧ Output.frontMatter? text = some front := by
  have hclean : '\r' ∉ "---\n".toList ++ (front.toList ++ "\n---".toList) := by
    simp [h.clean]
  have htext : Text.unifyNewlines s.toList
      = "---\n".toList ++ (front.toList ++ "\n---".toList ++ Text.unifyNewlines rest) := by
    rw [hs, ← List.append_assoc "---\n".toList, Text.unifyNewlines_append _ hclean,
      List.append_assoc "---\n".toList]
  have hfile : Text.ofFile? s.toUTF8 = some (String.ofList (Text.unifyNewlines s.toList)) :=
    Text.ofFile?_of_encode? (Text.encode?_eq_some.mpr ⟨s, rfl, rfl⟩)
  have hstarts : "---\n".toList.isPrefixOf (Text.unifyNewlines s.toList) = true := by
    rw [htext]
    exact List.isPrefixOf_iff_prefix.mpr (List.prefix_append _ _)
  have hdrop : (Text.unifyNewlines s.toList).drop "---\n".toList.length
      = front.toList ++ "\n---".toList ++ Text.unifyNewlines rest := by
    rw [htext]
    exact List.drop_left
  refine ⟨String.ofList (Text.unifyNewlines s.toList), ?_, ?_⟩
  · unfold FileAccess.textOf
    dsimp only
    rw [hfile]
  · unfold Output.frontMatter?
    rw [@String.toList_ofList (Text.unifyNewlines s.toList)]
    dsimp only
    rw [if_pos hstarts, hdrop, before?_of_isChain _ h.lines]
    exact congrArg some String.ofList_toList

/-! ## 2. The fields of a sheet -/

/-- The names of the fields of all kinds of pages, and of the fields within them. -/
def fieldNames : List String :=
  ["id", "title", "sidebar_label", "description", "sidebar_class_name", "api", "custom_edit_url",
    "method", "path"]

theorem isPlainKey_of_mem {k : String} (hk : k ∈ fieldNames) : IsPlainKey k := by
  have hall : ∀ k ∈ fieldNames, Scalar.isSimpleKey ⟨k, .str, false⟩ = true ∧
      Scalar.chooseStyle true ⟨k, .str, false⟩ = .plain ∧
        k.toList.head?.any (fun c => c != '-' && c != ' ') = true := by
    decide +kernel
  obtain ⟨hsimple, hplain, hfirst⟩ := hall k hk
  exact ⟨hsimple, hplain, hfirst⟩

theorem isField_entriesOf {fields : List (String × Value)} (hne : fields ≠ [])
    (hnames : fields.map Prod.fst ⊆ fieldNames) (hvalues : ∀ f ∈ fields, IsField f.2) :
    IsField (.map (entriesOf fields)) := by
  refine .map (fun h => hne (List.map_eq_nil_iff.mp h)) ?_ ?_
  · intro e he
    obtain ⟨f, hf, rfl⟩ := List.mem_map.mp he
    exact ⟨f.1, rfl, isPlainKey_of_mem (hnames (List.mem_map_of_mem hf))⟩
  · intro e he
    obtain ⟨f, hf, rfl⟩ := List.mem_map.mp he
    exact hvalues f hf

/-- The fields of a sheet can be written line by line, and the id among them is the slug. -/
structure Sheet.IsProper (sheet : Sheet) : Prop where
  fields : IsField (.map (entriesOf sheet.fields))
  id : Value.lookup "id" (entriesOf sheet.fields) = .str sheet.slug

theorem lookup_id (v : Value) (fields : List (String × Value)) :
    Value.lookup "id" (entriesOf (("id", v) :: fields)) = v := by
  unfold Value.lookup entriesOf
  rw [List.map_cons, Value.lookup?, Value.sameKey_str, beq_self_eq_true, if_pos rfl]
  rfl

theorem isProper_overviewSheet (d : Document) (e : Navigation.Entry) :
    (overviewSheet d e).IsProper := by
  have hnames : ["id", "title", "sidebar_label", "description", "custom_edit_url"] ⊆ fieldNames := by
    decide
  refine ⟨isField_entriesOf (List.cons_ne_nil _ _) hnames ?_, lookup_id _ _⟩
  simp [overviewSheet, overviewFields, IsField.str, IsField.null]

theorem isProper_categorySheet (d : Document) (c : Category) : (categorySheet d c).IsProper := by
  have hnames : ["id", "title", "description", "custom_edit_url"] ⊆ fieldNames := by decide
  refine ⟨isField_entriesOf (List.cons_ne_nil _ _) hnames ?_, lookup_id _ _⟩
  simp [categorySheet, categoryFields, IsField.str, IsField.null]

theorem isProper_entrySheet {e : Navigation.Entry} {o : Operation} (h : e.operation = some o) :
    (entrySheet e).IsProper := by
  have hnames : ["id", "title", "sidebar_label", "description", "sidebar_class_name", "api",
      "custom_edit_url"] ⊆ fieldNames := by
    decide
  have hapi : ["method", "path"] ⊆ fieldNames := by decide
  have hfields : (entrySheet e).fields = operationFields e o := by
    unfold entrySheet
    rw [h]
    rfl
  have hmap : IsField (.map (entriesOf [("method", .str o.method), ("path", .str o.path)])) :=
    isField_entriesOf (List.cons_ne_nil _ _) hapi (by simp [IsField.str])
  refine ⟨?_, ?_⟩
  · rw [hfields]
    refine isField_entriesOf (List.cons_ne_nil _ _) hnames ?_
    simp only [operationFields, List.forall_mem_cons]
    exact ⟨.str _, .str _, .str _, .str _, .str _, hmap, .null, fun _ h => absurd h List.not_mem_nil⟩
  · rw [hfields]
    exact lookup_id _ _

variable {options : Options} {d : Document} {sheet : Sheet}

/-- **The sheets of a compiled tree are proper.** -/
theorem isProper_of_mem (h : sheet ∈ sheetsOfTree d (treeOf options d)) : sheet.IsProper := by
  rcases List.mem_cons.mp h with rfl | h
  · exact isProper_overviewSheet d _
  · obtain ⟨c, hc, h⟩ := List.mem_flatMap.mp h
    rcases List.mem_cons.mp h with rfl | h
    · exact isProper_categorySheet d c
    · obtain ⟨e, he, rfl⟩ := List.mem_map.mp h
      rw [(of_mem_heads hc).2, entriesUnder] at he
      obtain ⟨p, hp, rfl⟩ := List.mem_map.mp he
      refine @isProper_entrySheet p.2 p.1 ?_
      rw [eq_operationEntry (List.mem_of_mem_filter hp)]
      rfl

/-- The slugs of the sheets are those that were claimed. -/
theorem slug_mem_slugs (h : sheet ∈ sheetsOfTree d (treeOf options d)) :
    sheet.slug ∈ slugs options d := by
  have hid : docId options.idPrefix sheet.slug ∈ (treeOf options d).docIds .tag := by
    rw [docIds_eq_map (consistent_treeOf options d)]
    exact List.mem_map_of_mem h
  obtain ⟨slug, hslug, heq⟩ := List.mem_map.mp (docIds_treeOf_perm.mem_iff.mp hid)
  rwa [← docId_injective options.idPrefix heq]

/-! ## 3. The id of a page in its file -/

/-- Loading the text that fields are written as, up to its last line feed, gives a mapping with the
same id. -/
def Reloads (fields : List (String × Value)) : Prop :=
  ∀ front : String, writeMapping (entriesOf fields) = Text.ofString front ++ "\n" →
    ∃ v es, Yaml.load front = .ok v ∧ v.entries? = some es ∧
      Value.lookup "id" es = Value.lookup "id" (entriesOf fields)

/-- Whether some fields reload, found out by loading them. -/
def reloads (fields : List (String × Value)) : Bool :=
  match Text.toString? (writeMapping (entriesOf fields)).dropLast with
  | none => true
  | some front => match Yaml.load front with
    | .error _ => false
    | .ok v => match v.entries? with
      | none => false
      | some es => match Value.lookup "id" es, Value.lookup "id" (entriesOf fields) with
        | .str a, .str b => a == b
        | _, _ => false

theorem Reloads.of_reloads {fields : List (String × Value)} (h : reloads fields = true) :
    Reloads fields := by
  intro front hfront
  unfold reloads at h
  rw [hfront, show Text.ofString front ++ Text.ofString "\n"
    = Text.ofString front ++ [.char '\n'] from rfl, List.dropLast_concat,
    Text.toString?_ofString] at h
  dsimp only at h
  cases hload : Yaml.load front with
  | error fault =>
    rw [hload] at h
    cases h
  | ok v =>
    rw [hload] at h
    dsimp only at h
    cases hes : v.entries? with
    | none =>
      rw [hes] at h
      cases h
    | some es =>
      rw [hes] at h
      dsimp only at h
      refine ⟨v, es, rfl, hes, ?_⟩
      split at h
      · next ha hb => rw [ha, hb, eq_of_beq h]
      · cases h

/-- What is stored for a page starts with its front matter. -/
theorem exists_front {idPrefix : Text} {p : Page} {s : String} (hbears : Bears idPrefix p sheet)
    (hproper : sheet.IsProper) (hs : p.content = Text.ofString s) :
    ∃ (front : String) (rest : List Char),
      writeMapping (entriesOf sheet.fields) = Text.ofString front ++ "\n" ∧ IsFront front.toList ∧
        s.toList = "---\n".toList ++ (front.toList ++ "\n---".toList ++ rest) := by
  obtain ⟨body, hwrite, hreturn, hlines⟩ := writeMapping_spec hproper.fields
  obtain ⟨lines, rfl⟩ := hbears
  obtain ⟨rest, hrest⟩ : ∃ rest : Text, Text.ofString s
      = Text.ofString "---\n" ++ (body ++ Text.ofString "\n---" ++ rest) := by
    refine ⟨"\n" ++ ("\n" ++ Text.joinWith "\n" lines), ?_⟩
    rw [← hs]
    unfold assemble frontMatter enclosed
    rw [hwrite]
    simp [Text.ofString]
  have hhalves : Text.HasNoHalves body := by
    refine (Text.hasNoHalves_ofString s).mono fun p hp => ?_
    rw [hrest]
    exact List.mem_append_right _ (List.mem_append_left _ (List.mem_append_left _ hp))
  obtain ⟨front, rfl⟩ : ∃ front : String, body = Text.ofString front :=
    ⟨String.ofList (Text.toChars body), by rw [Text.ofString_ofList, Text.ofChars_toChars hhalves]⟩
  refine ⟨front, Text.toChars rest, hwrite, ⟨fun h => hreturn (List.mem_map_of_mem h), ?_⟩, ?_⟩
  · unfold Text.ofString Text.ofChars at hlines
    rw [List.isChain_map] at hlines
    refine hlines.imp fun a b h hab => h ⟨?_, ?_⟩
    · rw [hab.1]
    · rw [hab.2]
  · have hchars := congrArg Text.toChars hrest
    unfold Text.ofString at hchars
    rwa [Text.toChars_append, Text.toChars_append, Text.toChars_append, Text.toChars_ofChars,
      Text.toChars_ofChars, Text.toChars_ofChars, Text.toChars_ofChars] at hchars

/-- **The id in the file of a page** is the slug, in whatever way the slug is written. -/
theorem fileId_of_bears {idPrefix : Text} {p : Page} {bytes : ByteArray}
    (hbears : Bears idPrefix p sheet) (hproper : sheet.IsProper) (hslug : sheet.slug ≠ [])
    (hreloads : Reloads sheet.fields) (hbytes : Text.encode? p.content = some bytes) :
    fileId (FileAccess.textOf (.ok bytes)) = .ok (some sheet.slug) := by
  obtain ⟨s, hs, rfl⟩ := Text.encode?_eq_some.mp hbytes
  obtain ⟨front, rest, hwrite, hfront, hchars⟩ := exists_front hbears hproper hs
  obtain ⟨text, htext, hfound⟩ := frontMatter?_of_file hfront hchars
  obtain ⟨v, es, hload, hes, hid⟩ := hreloads front hwrite
  have htruthy : (Value.str sheet.slug).isTruthy = true := by
    show (!sheet.slug.isEmpty) = true
    rw [List.isEmpty_eq_false_iff.mpr hslug, Bool.not_false]
  rw [htext]
  unfold fileId frontMatterId
  dsimp only
  rw [hfound]
  dsimp only
  rw [hload]
  dsimp only
  unfold idIn
  rw [hes, Option.getD_some, hid, hproper.id, if_pos htruthy]
  rfl

end ApiDocs.Page
