import ApiDocs.Proofs.Document.Shape
import ApiDocs.Proofs.Settings.Fields
import ApiDocs.Proofs.Value.Keys

/-!
# How reading a file of settings ends

A file of settings is a text in YAML, its value is a mapping or counts as false, the keys of the
mapping are names of fields, and the values are what the fields take.  Each of these steps has
faults of its own.  Some of them are reported to the user (`IsReported`), and the others escape
(`Escapes`); both relations say for which texts.  `ofText_eq_error` says that these are all.

What is read without a fault is an update of the defaults (`ofText_eq_ok`).
-/

namespace ApiDocs.Settings

open Value (Entries lookup?)

variable {file : Location} {text : Except TextFault String} {entries : Entries} {changes : Changes}
  {fault : Fault} {s : Settings} {v : Value}

/-! ## 1. Entries -/

/-- Something else than null and texts stands for a path. -/
def HasUnfitPath (entries : Entries) : Prop :=
  ∃ e ∈ entries, (e.1 = .str "spec_path" ∨ e.1 = .str "output_dir") ∧
    e.2 ≠ .null ∧ ∀ t, e.2 ≠ .str t

/-- A key is no text, and so no name of a field. -/
def HasUnfitName (entries : Entries) : Prop := ∃ e ∈ entries, ∀ t, e.1 ≠ .str t

/-- The entries of changes. -/
def entriesOf (changes : Changes) : Entries := changes.map (fun c => (.str c.1, c.2))

theorem isPath_eq_false : isPath v = false ↔ v ≠ .null ∧ ∀ t, v ≠ .str t := by
  cases v <;> simp [isPath]

/-- The change that an entry stands for. -/
def changeOf (e : Value × Value) : Except Fault (Text × Value) :=
  match e.1 with
  | .str name => .ok (name, e.2)
  | _ => .error .notName

theorem changeOf_eq_ok {e : Value × Value} {change : Text × Value} :
    changeOf e = .ok change ↔ e = (.str change.1, change.2) := by
  obtain ⟨key, v⟩ := e
  cases key <;> simp [changeOf, Prod.ext_iff]

theorem changeOf_eq_error {e : Value × Value} :
    changeOf e = .error fault ↔ (∀ t, e.1 ≠ .str t) ∧ fault = .notName := by
  obtain ⟨key, v⟩ := e
  cases key <;> simp [changeOf, eq_comm]

theorem all_pathNames : pathNames.all
    (fun name => entries.all (fun e => !e.1.sameKey (.str name) || isPath e.2)) = true ↔
      ¬ HasUnfitPath entries := by
  unfold HasUnfitPath
  simp only [pathNames, List.all_cons, List.all_nil, Bool.and_true, Bool.and_eq_true,
    List.all_eq_true, Bool.or_eq_true, Bool.not_eq_true', ← isPath_eq_false, not_exists, not_and,
    Bool.not_eq_false, ← Value.sameKey_str_iff]
  constructor
  · rintro ⟨hspec, hout⟩ e he (hkey | hkey)
    · exact (hspec e he).resolve_left (by simp [hkey])
    · exact (hout e he).resolve_left (by simp [hkey])
  · intro h
    constructor
    · intro e he
      cases hkey : e.1.sameKey (.str "spec_path") with
      | false => exact Or.inl rfl
      | true => exact Or.inr (h e he (Or.inl hkey))
    · intro e he
      cases hkey : e.1.sameKey (.str "output_dir") with
      | false => exact Or.inl rfl
      | true => exact Or.inr (h e he (Or.inr hkey))

/-- The paths are looked at before anything else. -/
theorem changesOf_of_hasUnfitPath (h : HasUnfitPath entries) :
    changesOf entries = .error .notPath := by
  unfold changesOf
  dsimp only
  rw [if_neg (all_pathNames.not.mpr (not_not.mpr h))]
  rfl

theorem changesOf_of_not_hasUnfitPath (h : ¬ HasUnfitPath entries) :
    changesOf entries = entries.mapM changeOf := by
  unfold changesOf
  dsimp only
  rw [if_pos (all_pathNames.mpr h)]
  rfl

theorem mapM_changeOf_eq_ok : entries.mapM changeOf = .ok changes ↔ entries = entriesOf changes := by
  rw [mapM_eq_ok, entriesOf, ← List.forall₂_eq_eq_eq, List.forall₂_map_right_iff]
  simp only [changeOf_eq_ok]

theorem mapM_changeOf_eq_error :
    entries.mapM changeOf = .error fault ↔ HasUnfitName entries ∧ fault = .notName := by
  cases hmap : entries.mapM changeOf with
  | error found =>
    obtain ⟨e, he, hfault⟩ := exists_of_mapM_eq_error hmap
    obtain ⟨hname, rfl⟩ := changeOf_eq_error.mp hfault
    have hunfit : HasUnfitName entries := ⟨e, he, hname⟩
    simp [hunfit, eq_comm]
  | ok changes =>
    have hfit : ¬ HasUnfitName entries := by
      rintro ⟨e, he, hname⟩
      rw [mapM_changeOf_eq_ok.mp hmap, entriesOf] at he
      obtain ⟨change, -, rfl⟩ := List.mem_map.mp he
      exact hname _ rfl
    simp [hfit]

theorem changesOf_eq_ok : changesOf entries = .ok changes ↔
    ¬ HasUnfitPath entries ∧ entries = entriesOf changes := by
  by_cases h : HasUnfitPath entries
  · simp [changesOf_of_hasUnfitPath h, h]
  · rw [changesOf_of_not_hasUnfitPath h, mapM_changeOf_eq_ok, and_iff_right h]

theorem changesOf_eq_error : changesOf entries = .error fault ↔
    HasUnfitPath entries ∧ fault = .notPath ∨
      ¬ HasUnfitPath entries ∧ HasUnfitName entries ∧ fault = .notName := by
  by_cases h : HasUnfitPath entries
  · simp [changesOf_of_hasUnfitPath h, h, eq_comm]
  · simp [changesOf_of_not_hasUnfitPath h, mapM_changeOf_eq_error, h]

/-- What stands under a name. -/
theorem lookup_entriesOf (name : String) : ∀ changes : Changes,
    lookup? name (entriesOf changes) = changes.lookup (Text.ofString name)
  | [] => rfl
  | (other, v) :: changes => by
    have ih := lookup_entriesOf name changes
    unfold entriesOf at ih ⊢
    rw [List.map_cons, List.lookup_cons, lookup?, ih]
    by_cases h : other = Text.ofString name
    · simp [h]
    · rw [beq_false_of_ne (Ne.symm h)]
      simp [h]

/-! ## 2. Texts -/

/-- The faults that are reported to the user.  The paths in a file are seen from its directory. -/
inductive IsReported (file : Location) : Except TextFault String → Fault → Prop
  | unreadable {fault : FileFault} (h : fault.isNameFault = false) :
    IsReported file (.error (.file fault)) .unreadable
  | notYaml {t : String} (h : Yaml.load t = .error .malformed) : IsReported file (.ok t) .unreadable
  | notMapping {t : String} {v : Value} (hload : Yaml.load t = .ok v) (h : ¬ IsMappingOrFalse v) :
    IsReported file (.ok t) .notMapping
  | invalid {t : String} {v : Value} {changes : Changes} (hload : Yaml.load t = .ok v)
    (hshape : IsMappingOrFalse v) (hpaths : ¬ HasUnfitPath (mapped v))
    (hentries : mapped v = entriesOf changes) (h : complaints file.parent changes ≠ []) :
    IsReported file (.ok t) (.invalid (complaints file.parent changes))

/-- The faults that escape. -/
inductive Escapes : Except TextFault String → Fault → Prop
  | path {fault : FileFault} (h : fault.isNameFault = true) :
    Escapes (.error (.file fault)) (.path fault)
  | notUtf8 : Escapes (.error .notUtf8) .notUtf8
  | load {t : String} {fault : Yaml.Fault} (hload : Yaml.load t = .error fault)
    (h : fault ≠ .malformed) : Escapes (.ok t) (.load fault)
  | notPath {t : String} {v : Value} (hload : Yaml.load t = .ok v) (hshape : IsMappingOrFalse v)
    (h : HasUnfitPath (mapped v)) : Escapes (.ok t) .notPath
  | notName {t : String} {v : Value} (hload : Yaml.load t = .ok v) (hshape : IsMappingOrFalse v)
    (hpaths : ¬ HasUnfitPath (mapped v)) (h : HasUnfitName (mapped v)) : Escapes (.ok t) .notName

theorem load_of_nameFault {found : FileFault} (h : found.isNameFault = true) :
    load (.error (.file found)) = .error (.path found) := by
  simp [load, h]

theorem load_of_fileFault {found : FileFault} (h : found.isNameFault = false) :
    load (.error (.file found)) = .error .unreadable := by
  simp [load, h]

theorem load_of_malformed {t : String} (h : Yaml.load t = .error .malformed) :
    load (.ok t) = .error .unreadable := by
  simp only [load, h]

theorem load_of_fault {t : String} {fault : Yaml.Fault} (h : Yaml.load t = .error fault)
    (hne : fault ≠ .malformed) : load (.ok t) = .error (.load fault) := by
  unfold load
  cases fault with
  | malformed => exact absurd rfl hne
  | _ => simp only [h]

theorem load_of_not_shape {t : String} (h : Yaml.load t = .ok v) (hshape : ¬ IsMappingOrFalse v) :
    load (.ok t) = .error .notMapping := by
  unfold IsMappingOrFalse IsMapping at hshape
  obtain ⟨htrue, hentries⟩ := not_or.mp hshape
  have hnone : v.entries? = none := Option.eq_none_iff_forall_ne_some.mpr (not_exists.mp hentries)
  simp [load, h, hnone, Bool.eq_true_of_not_eq_false htrue]

theorem load_of_shape {t : String} (h : Yaml.load t = .ok v) (hshape : IsMappingOrFalse v) :
    load (.ok t) = .ok (mapped v) := by
  obtain ⟨entries, hentries⟩ := isMappingOrFalse_iff.mpr hshape
  rw [mapped_of_eq_some hentries]
  unfold entriesOrEmpty? at hentries
  simp only [load, h]
  split
  · next htrue =>
    rw [if_pos htrue] at hentries
    rw [hentries]
  · next hfalse =>
    rw [if_neg hfalse] at hentries
    cases hentries
    rfl

/-- A value of the right shape is an update of the defaults if its entries are changes. -/
theorem ofText_of_shape {t : String} (h : Yaml.load t = .ok v) (hshape : IsMappingOrFalse v) :
    ofText file (.ok t) = changesOf (mapped v) >>= fun changes =>
      (update file.parent changes {}).mapError .invalid := by
  unfold ofText
  rw [load_of_shape h hshape]
  rfl

theorem ofText_of_load_error (h : load text = .error fault) : ofText file text = .error fault := by
  unfold ofText
  rw [h]
  rfl

theorem mapError_update_eq_error : (update file.parent changes s).mapError .invalid = .error fault ↔
    complaints file.parent changes ≠ [] ∧ fault = .invalid (complaints file.parent changes) := by
  unfold update
  cases complaints file.parent changes <;> simp [Except.mapError, eq_comm]

theorem isReported_or_escapes (h : ofText file text = .error fault) :
    IsReported file text fault ∨ Escapes text fault := by
  match text with
  | .error .notUtf8 =>
    cases h
    exact Or.inr .notUtf8
  | .error (.file found) =>
    cases hname : found.isNameFault with
    | true =>
      rw [ofText_of_load_error (load_of_nameFault hname)] at h
      cases h
      exact Or.inr (.path hname)
    | false =>
      rw [ofText_of_load_error (load_of_fileFault hname)] at h
      cases h
      exact Or.inl (.unreadable hname)
  | .ok t =>
    cases hload : Yaml.load t with
    | error found =>
      by_cases hfound : found = .malformed
      · subst hfound
        rw [ofText_of_load_error (load_of_malformed hload)] at h
        cases h
        exact Or.inl (.notYaml hload)
      · rw [ofText_of_load_error (load_of_fault hload hfound)] at h
        cases h
        exact Or.inr (.load hload hfound)
    | ok v =>
      by_cases hshape : IsMappingOrFalse v
      · rw [ofText_of_shape hload hshape, bind_eq_error] at h
        rcases h with h | ⟨changes, hchanges, h⟩
        · rcases changesOf_eq_error.mp h with ⟨hpath, rfl⟩ | ⟨hpath, hname, rfl⟩
          · exact Or.inr (.notPath hload hshape hpath)
          · exact Or.inr (.notName hload hshape hpath hname)
        · obtain ⟨hpath, hentries⟩ := changesOf_eq_ok.mp hchanges
          obtain ⟨hne, rfl⟩ := mapError_update_eq_error.mp h
          exact Or.inl (.invalid hload hshape hpath hentries hne)
      · rw [ofText_of_load_error (load_of_not_shape hload hshape)] at h
        cases h
        exact Or.inl (.notMapping hload hshape)

theorem IsReported.ofText_eq (h : IsReported file text fault) : ofText file text = .error fault := by
  cases h with
  | unreadable hname => exact ofText_of_load_error (load_of_fileFault hname)
  | notYaml hload => exact ofText_of_load_error (load_of_malformed hload)
  | notMapping hload hshape => exact ofText_of_load_error (load_of_not_shape hload hshape)
  | invalid hload hshape hpath hentries hne =>
    rw [ofText_of_shape hload hshape, changesOf_eq_ok.mpr ⟨hpath, hentries⟩]
    exact mapError_update_eq_error.mpr ⟨hne, rfl⟩

theorem Escapes.ofText_eq (h : Escapes text fault) : ofText file text = .error fault := by
  cases h with
  | path hname => exact ofText_of_load_error (load_of_nameFault hname)
  | notUtf8 => rfl
  | load hload hne => exact ofText_of_load_error (load_of_fault hload hne)
  | notPath hload hshape hpath =>
    rw [ofText_of_shape hload hshape, changesOf_eq_error.mpr (Or.inl ⟨hpath, rfl⟩)]
    rfl
  | notName hload hshape hpath hname =>
    rw [ofText_of_shape hload hshape, changesOf_eq_error.mpr (Or.inr ⟨hpath, hname, rfl⟩)]
    rfl

/-- **The faults of a file of settings** are those that are reported and those that escape. -/
theorem ofText_eq_error :
    ofText file text = .error fault ↔ IsReported file text fault ∨ Escapes text fault :=
  ⟨isReported_or_escapes, fun h => h.elim (·.ofText_eq) (·.ofText_eq)⟩

/-- **What is read without a fault** is an update of the defaults. -/
theorem ofText_eq_ok : ofText file text = .ok s ↔ ∃ t v changes, text = .ok t ∧
    Yaml.load t = .ok v ∧ IsMappingOrFalse v ∧ ¬ HasUnfitPath (mapped v) ∧
      mapped v = entriesOf changes ∧ update file.parent changes {} = .ok s := by
  constructor
  · intro h
    match text with
    | .error .notUtf8 => cases h
    | .error (.file found) => cases h
    | .ok t =>
      cases hload : Yaml.load t with
      | error found =>
        by_cases hfound : found = .malformed
        · rw [ofText_of_load_error (load_of_malformed (hfound ▸ hload))] at h
          cases h
        · rw [ofText_of_load_error (load_of_fault hload hfound)] at h
          cases h
      | ok v =>
        by_cases hshape : IsMappingOrFalse v
        · rw [ofText_of_shape hload hshape] at h
          obtain ⟨changes, hchanges, h⟩ := bind_eq_ok.mp h
          obtain ⟨hpath, hentries⟩ := changesOf_eq_ok.mp hchanges
          exact ⟨t, v, changes, rfl, hload, hshape, hpath, hentries, mapError_eq_ok.mp h⟩
        · rw [ofText_of_load_error (load_of_not_shape hload hshape)] at h
          cases h
  · rintro ⟨t, v, changes, rfl, hload, hshape, hpath, hentries, hupdate⟩
    rw [ofText_of_shape hload hshape, changesOf_eq_ok.mpr ⟨hpath, hentries⟩]
    exact mapError_eq_ok.mpr hupdate

end ApiDocs.Settings
