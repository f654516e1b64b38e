import ApiDocs.Command.Run
import ApiDocs.Proofs.FileSystem.Program
import ApiDocs.Proofs.Settings.Loading

/-!
# How commands load their files

A build loads its settings from a file, and a check loads the sidebar of an earlier build.  For
every content of the file this ends in one of three ways (`Ends`): with what the file holds, with a
fault that the user is told about in a message that names the file, or with a fault that escapes
and has no message.

Which contents lead to which faults is said by two relations for each loader; those for settings are
in `Settings/Loading`, those for sidebars here.  That they are exact means two things: nothing else
goes wrong, and whatever is listed as escaping does escape (`loading_outcomes`).
-/

namespace ApiDocs

open FileAccess (textOf)

/-! ## 1. Sidebars -/

namespace Output

variable {text : Except TextFault String} {fault : SidebarFault} {v : Json}

/-- The faults of a saved sidebar that are reported to the user. -/
inductive SidebarFault.IsReported : Except TextFault String → SidebarFault → Prop
  | unreadable {fault : FileFault} (h : fault.isNameFault = false) :
    IsReported (.error (.file fault)) .unreadable
  | notJson {t : String} (h : Json.read t = .error .malformed) : IsReported (.ok t) .unreadable
  | notList {t : String} {v : Json} (hread : Json.read t = .ok v) (h : ∀ items, v ≠ .arr items) :
    IsReported (.ok t) .notList

/-- The faults that escape. -/
inductive SidebarFault.Escapes : Except TextFault String → SidebarFault → Prop
  | path {fault : FileFault} (h : fault.isNameFault = true) :
    Escapes (.error (.file fault)) (.path fault)
  | notUtf8 : Escapes (.error .notUtf8) .notUtf8
  | longInteger {t : String} (h : Json.read t = .error .longInteger) : Escapes (.ok t) .longInteger
  | tooDeep {t : String} (h : Json.read t = .error .tooDeep) : Escapes (.ok t) .tooDeep

theorem sidebarOf_of_nameFault {found : FileFault} (h : found.isNameFault = true) :
    sidebarOf (.error (.file found)) = .error (.path found) := by
  simp [sidebarOf, h]

theorem sidebarOf_of_fileFault {found : FileFault} (h : found.isNameFault = false) :
    sidebarOf (.error (.file found)) = .error .unreadable := by
  simp [sidebarOf, h]

theorem sidebarOf_of_not_list {t : String} (hread : Json.read t = .ok v)
    (h : ∀ items, v ≠ .arr items) : sidebarOf (.ok t) = .error .notList := by
  unfold sidebarOf
  dsimp only
  rw [hread]
  cases v with
  | arr items => exact absurd rfl (h items)
  | _ => rfl

theorem SidebarFault.IsReported.sidebarOf_eq (h : IsReported text fault) :
    sidebarOf text = .error fault := by
  cases h with
  | unreadable hname => exact sidebarOf_of_fileFault hname
  | notJson hread => simp only [sidebarOf, hread]
  | notList hread hlist => exact sidebarOf_of_not_list hread hlist

theorem SidebarFault.Escapes.sidebarOf_eq (h : Escapes text fault) :
    sidebarOf text = .error fault := by
  cases h with
  | path hname => exact sidebarOf_of_nameFault hname
  | notUtf8 => rfl
  | longInteger hread => simp only [sidebarOf, hread]
  | tooDeep hread => simp only [sidebarOf, hread]

/-- A text holds a sidebar, or there is a reason why it does not. -/
theorem sidebarOf_outcome (text : Except TextFault String) :
    (∃ t items, text = .ok t ∧ Json.read t = .ok (.arr items) ∧
      sidebarOf text = .ok (.arr items)) ∨
    ∃ fault : SidebarFault, fault.IsReported text ∨ fault.Escapes text := by
  match text with
  | .error .notUtf8 => exact Or.inr ⟨_, Or.inr .notUtf8⟩
  | .error (.file found) =>
    cases hname : found.isNameFault with
    | true => exact Or.inr ⟨_, Or.inr (.path hname)⟩
    | false => exact Or.inr ⟨_, Or.inl (.unreadable hname)⟩
  | .ok t =>
    cases hread : Json.read t with
    | error found =>
      cases found with
      | malformed => exact Or.inr ⟨_, Or.inl (.notJson hread)⟩
      | longInteger => exact Or.inr ⟨_, Or.inr (.longInteger hread)⟩
      | tooDeep => exact Or.inr ⟨_, Or.inr (.tooDeep hread)⟩
    | ok v =>
      by_cases hlist : ∃ items, v = .arr items
      · obtain ⟨items, rfl⟩ := hlist
        exact Or.inl ⟨t, items, rfl, hread, by simp only [sidebarOf, hread]⟩
      · exact Or.inr ⟨_, Or.inl (.notList hread (not_exists.mp hlist))⟩

/-- **The faults of a saved sidebar** are those that are reported and those that escape. -/
theorem sidebarOf_eq_error :
    sidebarOf text = .error fault ↔ fault.IsReported text ∨ fault.Escapes text := by
  constructor
  · intro h
    rcases sidebarOf_outcome text with ⟨t, items, -, -, hok⟩ | ⟨found, hreason⟩
    · rw [hok] at h
      cases h
    · have hfound := hreason.elim (·.sidebarOf_eq) (·.sidebarOf_eq)
      rw [hfound] at h
      cases h
      exact hreason
  · rintro (h | h)
    · exact h.sidebarOf_eq
    · exact h.sidebarOf_eq

/-- **A saved sidebar is a list**, and the text holds nothing else. -/
theorem sidebarOf_eq_ok : sidebarOf text = .ok v ↔
    ∃ t items, text = .ok t ∧ Json.read t = .ok (.arr items) ∧ v = .arr items := by
  constructor
  · intro h
    rcases sidebarOf_outcome text with ⟨t, items, htext, hread, hok⟩ | ⟨fault, hreason⟩
    · rw [hok] at h
      cases h
      exact ⟨t, items, htext, hread, rfl⟩
    · rw [sidebarOf_eq_error.mpr hreason] at h
      cases h
  · rintro ⟨t, items, rfl, hread, rfl⟩
    simp only [sidebarOf, hread]

end Output

namespace Command

variable {α ε : Type}

/-! ## 2. Messages -/

/-- How loading a file ends: something is loaded (`holds`), or there is a fault.  One that is
reported has a message, the path of the file and one of the given reasons; one that escapes has
none. -/
structure Ends (file : Location) (failure : ε → Failure) (reasons : List Text) (holds : α → Prop)
    (reported escapes : ε → Prop) (r : Except ε α) : Prop where
  loaded : ∀ a, r = .ok a ↔ holds a
  fault : ∀ fault, r = .error fault ↔ reported fault ∨ escapes fault
  message : ∀ fault, reported fault →
    ∃ reason ∈ reasons, (failure fault).message? = some (file.text ++ reason)
  silence : ∀ fault, escapes fault → (failure fault).message? = none

/-- What is said about a file of settings. -/
def settingsReasons : List Text :=
  [": cannot load config", ": config must be a mapping", ": invalid config"]

/-- What is said about a saved sidebar. -/
def sidebarReasons : List Text := [": cannot load sidebar", ": sidebar must be a list"]

/-- The settings that a text holds. -/
def HoldsSettings (file : Location) (text : Except TextFault String) (s : Settings) : Prop :=
  ∃ t v changes, text = .ok t ∧ Yaml.load t = .ok v ∧ IsMappingOrFalse v ∧
    ¬ Settings.HasUnfitPath (mapped v) ∧ mapped v = Settings.entriesOf changes ∧
      Settings.update file.parent changes {} = .ok s

/-- The sidebar that a text holds. -/
def HoldsSidebar (text : Except TextFault String) (sidebar : Json) : Prop :=
  ∃ t items, text = .ok t ∧ Json.read t = .ok (.arr items) ∧ sidebar = .arr items

theorem ends_ofText (file : Location) (text : Except TextFault String) :
    Ends file (.settings file) settingsReasons (HoldsSettings file text)
      (Settings.IsReported file text) (Settings.Escapes text) (Settings.ofText file text) where
  loaded _ := Settings.ofText_eq_ok
  fault _ := Settings.ofText_eq_error
  message fault h := by
    cases h with
    | unreadable _ => exact ⟨_, List.mem_cons_self, rfl⟩
    | notYaml _ => exact ⟨_, List.mem_cons_self, rfl⟩
    | notMapping _ _ => exact ⟨_, List.mem_cons_of_mem _ List.mem_cons_self, rfl⟩
    | invalid _ _ _ _ _ =>
      exact ⟨_, List.mem_cons_of_mem _ (List.mem_cons_of_mem _ List.mem_cons_self), rfl⟩
  silence fault h := by cases h <;> rfl

theorem ends_sidebarOf (file : Location) (text : Except TextFault String) :
    Ends file (.sidebar file) sidebarReasons (HoldsSidebar text)
      (Output.SidebarFault.IsReported text) (Output.SidebarFault.Escapes text)
      (Output.sidebarOf text) where
  loaded _ := Output.sidebarOf_eq_ok
  fault _ := Output.sidebarOf_eq_error
  message fault h := by
    cases h with
    | unreadable _ => exact ⟨_, List.mem_cons_self, rfl⟩
    | notJson _ => exact ⟨_, List.mem_cons_self, rfl⟩
    | notList _ _ => exact ⟨_, List.mem_cons_of_mem _ List.mem_cons_self, rfl⟩
  silence fault h := by cases h <;> rfl

/-! ## 3. Commands -/

variable {fs : FileSystem}

/-- A build whose settings cannot be loaded does nothing else. -/
theorem runBuild_of_fault (a : BuildArguments) {path : Text} {fault : Settings.Fault}
    (h : Settings.ofText (.ofText path) (textOf (fs.contentAt (.ofText path))) = .error fault) :
    fs.runPlain (runBuild { a with config := some path })
      = ({ failure := some (.settings (.ofText path) fault) }, fs) := by
  have hload : fs.run (ExceptT.adapt (Failure.settings (.ofText path))
      (ExceptT.mk (Settings.ofFile (.ofText path))))
        = (.error (.settings (.ofText path) fault), fs) := by
    rw [FileSystem.run_adapt]
    show (Except.mapError _ (Settings.ofText _ (textOf _)), fs) = _
    rw [h]
    rfl
  have hsettings : fs.run (settingsOf { a with config := some path })
      = (.error (.settings (.ofText path) fault), fs) := by
    unfold settingsOf configFile
    show fs.run (ExceptT.adapt (Failure.settings (.ofText path))
      (ExceptT.mk (Settings.ofFile (.ofText path))) >>= _) = _
    rw [FileSystem.run_bind, hload]
  unfold runBuild
  rw [FileSystem.runPlain_bind]
  rw [show fs.runPlain (settingsOf { a with config := some path }).run
    = (.error (.settings (.ofText path) fault), fs) from hsettings]
  rfl

/-- A check whose sidebar cannot be loaded does nothing else. -/
theorem runCheck_of_fault {file : Location} (directory idPrefix : Text)
    {fault : Output.SidebarFault}
    (hfile : file = (Location.ofText directory).child Output.sidebarJson)
    (h : Output.sidebarOf (textOf (fs.contentAt file)) = .error fault) :
    fs.runPlain (runCheck directory idPrefix)
      = ({ failure := some (.sidebar file fault) }, fs) := by
  subst hfile
  unfold runCheck
  dsimp only
  rw [FileSystem.runPlain_bind]
  rw [show fs.runPlain (Output.savedSidebar ((Location.ofText directory).child Output.sidebarJson))
    = (.error fault, fs) from Prod.ext h rfl]
  rfl

/-- **How loading a file ends.**  For every content of the file, and if there is none, the settings
and the saved sidebar are loaded or there is a fault, and nothing is changed.  The faults that are
reported and those that escape are exactly the ones listed; a build and a check end with them. -/
theorem loading_outcomes (fs : FileSystem) :
    (∀ file, ∃ r, fs.runPlain (Settings.ofFile file) = (r, fs) ∧
      Ends file (.settings file) settingsReasons (HoldsSettings file (textOf (fs.contentAt file)))
        (Settings.IsReported file (textOf (fs.contentAt file)))
        (Settings.Escapes (textOf (fs.contentAt file))) r ∧
      ∀ (a : BuildArguments) (path : Text) fault, file = .ofText path → r = .error fault →
        fs.runPlain (runBuild { a with config := some path })
          = ({ failure := some (.settings file fault) }, fs)) ∧
    ∀ file, ∃ r, fs.runPlain (Output.savedSidebar file) = (r, fs) ∧
      Ends file (.sidebar file) sidebarReasons (HoldsSidebar (textOf (fs.contentAt file)))
        (Output.SidebarFault.IsReported (textOf (fs.contentAt file)))
        (Output.SidebarFault.Escapes (textOf (fs.contentAt file))) r ∧
      ∀ (directory idPrefix : Text) fault,
        file = (Location.ofText directory).child Output.sidebarJson → r = .error fault →
          fs.runPlain (runCheck directory idPrefix)
            = ({ failure := some (.sidebar file fault) }, fs) := by
  constructor
  · intro file
    refine ⟨_, rfl, ends_ofText file (textOf (fs.contentAt file)), ?_⟩
    rintro a path fault rfl hfault
    exact runBuild_of_fault a hfault
  · intro file
    refine ⟨_, rfl, ends_sidebarOf file (textOf (fs.contentAt file)), ?_⟩
    intro directory idPrefix fault hfile hfault
    exact runCheck_of_fault directory idPrefix hfile hfault

/-- A file system where the settings and the sidebar are files that are no text. -/
def noTexts : FileSystem where
  entries := [([Text.ofString "openapi-sidebar.yaml"], .file ⟨#[0xff]⟩),
    ([Text.ofString "sidebar.json"], .file ⟨#[0xff]⟩)]

/-- A file of settings with a number for a path. -/
def numberedPath : String := "spec_path: 5\n"

/-- **Not every file is loaded or reported**: a file that is no text is not, and neither is a number
for a path. -/
theorem not_loading_outcomes_noTexts :
    (¬ ∀ (fs : FileSystem) (file : Location) (fault : Settings.Fault),
      (fs.runPlain (Settings.ofFile file)).1 = .error fault →
        (Failure.settings file fault).message? ≠ none) ∧
    (¬ ∀ (fs : FileSystem) (file : Location) (fault : Output.SidebarFault),
      (fs.runPlain (Output.savedSidebar file)).1 = .error fault →
        (Failure.sidebar file fault).message? ≠ none) ∧
    Settings.ofText defaultConfig (.ok numberedPath) = .error .notPath := by
  have hsidebar : textOf (noTexts.contentAt (.ofText Output.sidebarJson)) = .error .notUtf8 := by
    decide +kernel
  refine ⟨fun h => ?_, fun h => ?_, by decide +kernel⟩
  · exact h noTexts defaultConfig .notUtf8 (by decide +kernel) rfl
  · refine h noTexts (.ofText Output.sidebarJson) .notUtf8 ?_ rfl
    show Output.sidebarOf (textOf (noTexts.contentAt (.ofText Output.sidebarJson))) = _
    rw [hsidebar]
    rfl

end Command

end ApiDocs
