import ApiDocs.Proofs.Outcome
import ApiDocs.Proofs.Text.Strings
import ApiDocs.Settings

/-!
# What an update does to each field

`update` goes through a table of fields with a reader for each.  Here is what it comes to, said
without readers: which values a field takes (`rules`), and what they stand for (`IsPathFrom`,
`IsText`, `IsWordFor`, `OrNull`).

* `complaints_eq_nil`: there is nothing to complain about exactly if no change is refused, and
  whether one is refused (`IsRefused`) does not depend on anything but its name and its value;
* `update_eq_ok`: an update that is not refused gives every field by itself what was picked for it
  (`picked`), the content of the value under its name, or else what the field held before.
-/

namespace ApiDocs.Settings

open Record (Problem)

variable {α : Type} {directory : Location} {changes : Changes} {name : Text} {v : Value}

/-! ## 1. What values stand for -/

/-- The value is a path, and leads to the location if it is seen from the directory. -/
def IsPathFrom (directory : Location) (v : Value) (l : Location) : Prop :=
  ∃ t, v = .str t ∧ l = directory.join (.ofText t)

/-- The value is a text, or bytes that spell it in UTF-8. -/
def IsText (v : Value) (t : Text) : Prop :=
  v = .str t ∨ ∃ (bytes : List UInt8) (s : String),
    v = .bytes bytes ∧ String.fromUTF8? ⟨bytes.toArray⟩ = some s ∧ t = Text.ofString s

/-- The value is one of some words, each of which stands for something. -/
def IsWordFor (words : List (String × α)) (v : Value) (a : α) : Prop :=
  ∃ word, v = .str (Text.ofString word) ∧ words.lookup word = some a

/-- The value is null, which stands for nothing, or stands for something else. -/
def OrNull (R : Value → α → Prop) (v : Value) : Option α → Prop
  | none => v = .null
  | some a => R v a

theorem path_eq_ok {l : Location} : path directory v = .ok l ↔ IsPathFrom directory v l := by
  cases v <;> simp [path, IsPathFrom, eq_comm]

theorem text_eq_ok {t : Text} : Record.text v = .ok t ↔ IsText v t := by
  cases v with
  | str s => simp [Record.text, IsText]
  | bytes bytes =>
    unfold Record.text Record.decodeUtf8? IsText
    cases h : String.fromUTF8? ⟨bytes.toArray⟩ <;> simp [h, eq_comm]
  | _ => simp [Record.text, IsText]

theorem choice_eq_ok {words : List (String × α)} {a : α} :
    choice words v = .ok a ↔ IsWordFor words v a := by
  unfold choice IsWordFor
  cases v with
  | str t =>
    cases hs : Text.toString? t with
    | none =>
      have hnone : ∀ word, t ≠ Text.ofString word := by
        rintro word rfl
        simp at hs
      simp [hs, hnone]
    | some s =>
      obtain rfl := Text.toString?_eq_some.mp hs
      cases hword : words.lookup s <;> simp [hword, Text.ofString_injective.eq_iff]
  | _ => simp

theorem optional_of_ne_null {read : Value → Except Problem α} (h : v ≠ .null) :
    optional read v = (read v).map some := by
  cases v with
  | null => exact absurd rfl h
  | _ => rfl

theorem optional_eq_ok {read : Value → Except Problem α} {R : Value → α → Prop}
    (hread : ∀ v a, read v = .ok a ↔ R v a) (hnull : ∀ a, ¬ R .null a) {o : Option α} :
    optional read v = .ok o ↔ OrNull R v o := by
  by_cases h : v = .null
  · subst h
    cases o <;> simp [optional, OrNull, hnull]
  · rw [optional_of_ne_null h, map_eq_ok]
    cases o <;> simp [OrNull, hread, h]

theorem optional_path_eq_ok {l : Option Location} :
    optional (path directory) v = .ok l ↔ OrNull (IsPathFrom directory) v l :=
  optional_eq_ok (fun _ _ => path_eq_ok) (by simp [IsPathFrom])

theorem optional_text_eq_ok {t : Option Text} :
    optional Record.text v = .ok t ↔ OrNull IsText v t :=
  optional_eq_ok (fun _ _ => text_eq_ok) (by simp [IsText])

/-! ## 2. What fields take -/

/-- What each field takes. -/
def rules : List (Text × (Value → Prop)) :=
  [("spec_path", fun v => v = .null ∨ ∃ t, v = .str t),
    ("output_dir", fun v => ∃ t, v = .str t),
    ("group_paths_by", fun v => v = .str "tag"),
    ("category_link_source", fun v => v = .str "tag" ∨ v = .str "none"),
    ("locale", fun v => ∃ t, IsText v t),
    ("base_url", fun v => ∃ t, IsText v t),
    ("route_base_path", fun v => ∃ t, IsText v t),
    ("id_prefix", fun v => ∃ t, IsText v t),
    ("overview_id", fun v => v = .null ∨ ∃ t, IsText v t)]

/-- No field has the name, or the one that has it does not take the value. -/
def IsRefused (name : Text) (v : Value) : Prop :=
  name ∉ rules.map Prod.fst ∨ ∃ rule ∈ rules, rule.1 = name ∧ ¬ rule.2 v

theorem exists_orNull {R : Value → α → Prop} :
    (∃ o, OrNull R v o) ↔ v = .null ∨ ∃ a, R v a := by
  simp [Option.exists, OrNull]

theorem exists_isPathFrom : (∃ l, IsPathFrom directory v l) ↔ ∃ t, v = .str t := by
  simp [IsPathFrom]

theorem exists_isWordFor {words : List (String × α)} :
    (∃ a, IsWordFor words v a) ↔ ∃ word ∈ words.map Prod.fst, v = .str (Text.ofString word) := by
  have hlookup : ∀ word, (∃ a, words.lookup word = some a) ↔ word ∈ words.map Prod.fst := by
    intro word
    rw [← Option.isSome_iff_exists, List.lookup_isSome_iff, List.mem_map]
    exact exists_congr fun e => and_congr_right fun _ => by rw [beq_iff_eq, eq_comm]
  simp only [IsWordFor, ← hlookup]
  constructor
  · rintro ⟨a, word, rfl, ha⟩
    exact ⟨word, ⟨a, ha⟩, rfl⟩
  · rintro ⟨word, ⟨a, ha⟩, rfl⟩
    exact ⟨a, word, rfl, ha⟩

/-- **The readers of the fields accept what the rules say**, from whatever directory paths are
seen. -/
theorem forall₂_rules (directory : Location) :
    List.Forall₂ (fun (f : SettingField) (rule : Text × (Value → Prop)) =>
      f.name = rule.1 ∧ ∀ v, (∃ a, f.read v = .ok a) ↔ rule.2 v) (fields directory) rules := by
  have htext : ∀ v, (∃ t, Record.text v = .ok t) ↔ ∃ t, IsText v t := by simp [text_eq_ok]
  unfold fields rules
  refine .cons ⟨rfl, fun v => ?_⟩ <| .cons ⟨rfl, fun v => ?_⟩ <| .cons ⟨rfl, fun v => ?_⟩ <|
    .cons ⟨rfl, fun v => ?_⟩ <| .cons ⟨rfl, htext⟩ <| .cons ⟨rfl, htext⟩ <|
    .cons ⟨rfl, htext⟩ <| .cons ⟨rfl, htext⟩ <| .cons ⟨rfl, fun v => ?_⟩ .nil
  · simp only [optional_path_eq_ok, exists_orNull, exists_isPathFrom]
  · simp only [path_eq_ok, exists_isPathFrom]
  · simp [choice_eq_ok, exists_isWordFor, groupings]
  · simp [choice_eq_ok, exists_isWordFor, linkSources]
  · simp only [optional_text_eq_ok, exists_orNull]

/-! ## 3. Complaints -/

/-- Every value under a name of the changes can be read. -/
def IsReadable (changes : Changes) (name : Text) (read : Value → Except Problem α) : Prop :=
  ∀ v, changes.lookup name = some v → ∃ a, read v = .ok a

theorem complaint?_eq_none {f : SettingField} :
    complaint? changes f = none ↔ IsReadable changes f.name f.read := by
  unfold complaint? IsReadable
  cases changes.lookup f.name with
  | none => simp
  | some v => cases hread : f.read v <;> simp [hread]

/-- There is nothing to complain about if all names are fields and their values can be read. -/
theorem complaints_eq_nil_iff : complaints directory changes = [] ↔
    (∀ f ∈ fields directory, IsReadable changes f.name f.read) ∧ ∀ e ∈ changes, e.1 ∈ names := by
  unfold complaints unknownNames
  simp [complaint?_eq_none]

/-- Every name of a field has a value of its own. -/
def IsSet (changes : Changes) : Prop := (changes.map Prod.fst).Nodup

instance (changes : Changes) : Decidable (IsSet changes) :=
  inferInstanceAs (Decidable (changes.map Prod.fst).Nodup)

theorem mem_of_lookup (h : changes.lookup name = some v) : (name, v) ∈ changes := by
  obtain ⟨before, after, rfl, -⟩ := List.lookup_eq_some_iff.mp h
  simp

theorem lookup_of_mem (hset : IsSet changes) (h : (name, v) ∈ changes) :
    changes.lookup name = some v := by
  obtain ⟨before, after, rfl⟩ := List.append_of_mem h
  refine List.lookup_eq_some_iff.mpr ⟨before, after, rfl, fun e he => bne_iff_ne.mpr ?_⟩
  rintro rfl
  unfold IsSet at hset
  rw [List.map_append, List.nodup_append] at hset
  exact hset.2.2 e.1 (List.mem_map_of_mem he) e.1 (by simp) rfl

/-- The values of fields can be read unless a change is refused. -/
theorem isReadable_of_not_isRefused (h : ∀ e ∈ changes, ¬ IsRefused e.1 e.2) :
    ∀ f ∈ fields directory, IsReadable changes f.name f.read := by
  intro f hf v hv
  obtain ⟨rule, hrule, hname, htakes⟩ := exists_of_mem_right (forall₂_rules directory).flip hf
  refine (htakes v).mpr ?_
  by_contra hnot
  exact h _ (mem_of_lookup hv) (Or.inr ⟨rule, hrule, hname.symm, hnot⟩)

theorem complaints_eq_nil_of_not_isRefused (h : ∀ e ∈ changes, ¬ IsRefused e.1 e.2) :
    complaints directory changes = [] := by
  refine complaints_eq_nil_iff.mpr ⟨isReadable_of_not_isRefused h, fun e he => ?_⟩
  by_contra hname
  exact h e he (Or.inl hname)

/-- **Whether there is something to complain about** does not depend on the directory. -/
theorem complaints_eq_nil (hset : IsSet changes) :
    complaints directory changes = [] ↔ ∀ e ∈ changes, ¬ IsRefused e.1 e.2 := by
  refine ⟨fun h e he hrefused => ?_, complaints_eq_nil_of_not_isRefused⟩
  obtain ⟨hread, hnames⟩ := complaints_eq_nil_iff.mp h
  rcases hrefused with hname | ⟨rule, hrule, hname, hnot⟩
  · exact hname (hnames e he)
  · obtain ⟨f, hf, hsame, htakes⟩ := exists_of_mem_right (forall₂_rules directory) hrule
    have hlookup : changes.lookup f.name = some e.2 := by
      rw [hsame, hname]
      exact lookup_of_mem hset he
    exact hnot ((htakes e.2).mp (hread f hf e.2 hlookup))

/-! ## 4. Updates -/

/-- What is picked for a field: the content of the value under its name, if there is one, else what
it held before. -/
def pick (changes : Changes) (name : Text) (read : Value → Except Problem α) (old : α) : α :=
  match changes.lookup name with
  | none => old
  | some v => (read v).toOption.getD old

/-- The settings with what is picked for each field. -/
def picked (directory : Location) (changes : Changes) (s : Settings) : Settings where
  specPath := pick changes "spec_path" (optional (path directory)) s.specPath
  outputDir := pick changes "output_dir" (path directory) s.outputDir
  grouping := pick changes "group_paths_by" (choice groupings) s.grouping
  categoryLink := pick changes "category_link_source" (choice linkSources) s.categoryLink
  locale := pick changes "locale" Record.text s.locale
  baseUrl := pick changes "base_url" Record.text s.baseUrl
  routeBasePath := pick changes "route_base_path" Record.text s.routeBasePath
  idPrefix := pick changes "id_prefix" Record.text s.idPrefix
  overviewId := pick changes "overview_id" (optional Record.text) s.overviewId

/-- One field is updated to what is picked for it. -/
theorem updateField_eq {read : Value → Except Problem α} {put : α → Settings → Settings}
    (get : Settings → α) (hget : ∀ s, put (get s) s = s) (s : Settings) :
    updateField changes s ⟨name, α, read, put⟩ = put (pick changes name read (get s)) s := by
  unfold updateField pick
  dsimp only
  cases changes.lookup name with
  | none => exact (hget s).symm
  | some v =>
    dsimp only
    cases read v with
    | error problem => exact (hget s).symm
    | ok a => rfl

theorem foldl_updateField (s : Settings) :
    (fields directory).foldl (updateField changes) s = picked directory changes s := by
  have specPath := @updateField_eq _ changes "spec_path" (optional (path directory)) (fun a s => { s with specPath := a })
    (·.specPath) fun _ => rfl
  have outputDir := @updateField_eq _ changes "output_dir" (path directory) (fun a s => { s with outputDir := a })
    (·.outputDir) fun _ => rfl
  have grouping := @updateField_eq _ changes "group_paths_by" (choice groupings) (fun a s => { s with grouping := a })
    (·.grouping) fun _ => rfl
  have categoryLink := @updateField_eq _ changes "category_link_source" (choice linkSources) (fun a s => { s with categoryLink := a })
    (·.categoryLink) fun _ => rfl
  have locale := @updateField_eq _ changes "locale" (Record.text) (fun a s => { s with locale := a })
    (·.locale) fun _ => rfl
  have baseUrl := @updateField_eq _ changes "base_url" (Record.text) (fun a s => { s with baseUrl := a })
    (·.baseUrl) fun _ => rfl
  have routeBasePath := @updateField_eq _ changes "route_base_path" (Record.text) (fun a s => { s with routeBasePath := a })
    (·.routeBasePath) fun _ => rfl
  have idPrefix := @updateField_eq _ changes "id_prefix" (Record.text) (fun a s => { s with idPrefix := a })
    (·.idPrefix) fun _ => rfl
  have overviewId := @updateField_eq _ changes "overview_id" (optional Record.text) (fun a s => { s with overviewId := a })
    (·.overviewId) fun _ => rfl
  simp only [fields, List.foldl_cons, List.foldl_nil, specPath, outputDir, grouping, categoryLink, locale,
    baseUrl, routeBasePath, idPrefix, overviewId, picked]

/-- **An update that is not refused** picks the content of every field by itself. -/
theorem update_eq_ok {s s' : Settings} : update directory changes s = .ok s' ↔
    complaints directory changes = [] ∧ picked directory changes s = s' := by
  unfold update
  rw [foldl_updateField]
  cases complaints directory changes <;> simp

end ApiDocs.Settings
