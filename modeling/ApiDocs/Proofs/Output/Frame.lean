import ApiDocs.Proofs.Output.Steps
import Mathlib.Data.List.Induction

/-!
# What a build leaves alone

Building into a directory and cleaning it change what stands under the names of generated files
directly in it, and make the directories that are missing on the way to it.  Everything else stays:
files with other names, whatever stands deeper, and directories that bear the name of a generated
file.  This is the `Frame` of the directory, for the names that are those of generated files.

A frame is reflexive and transitive, so every sequence of steps has it, because each step has it
(`Steps.frame`).  In the same way a file system stays a tree (`Steps.isTree`).

With `Frame.keepsDirectories` a directory once found is found again later.
-/

namespace ApiDocs.Output

open FileSystem

/-! ## 1. The frame of a directory -/

/-- The names stand on the way to a location. -/
def OnWay (fs : FileSystem) (l : Location) (names : List Text) : Prop :=
  ∃ front rest, l.parts = front ++ rest ∧ names = fs.place ⟨l.root, front⟩

/-- The names lead to a name of a certain kind directly in a directory. -/
def Inside (P : Text → Prop) (fs : FileSystem) (directory : Location) (names : List Text) : Prop :=
  ∃ name, names = fs.place directory ++ [name] ∧ P name

/-- What can have become of what stands under some names. -/
inductive Kept (P : Text → Prop) (directory : Location) (fs fs' : FileSystem)
    (names : List Text) : Prop where
  /-- It is as it was. -/
  | same (h : fs'.get? names = fs.get? names)
  /-- It was no directory, and it stands directly in the directory under a name of the kind. -/
  | inside (h : Inside P fs directory names) (hfile : fs.get? names ≠ some .directory)
  /-- It was missing on the way to the directory. -/
  | made (h : OnWay fs directory names) (hnone : fs.get? names = none)
      (hdir : fs'.get? names = some .directory)

/-- **The frame of a directory** for names of a certain kind: the second file system differs from
the first one at most in what stands directly in the directory under such a name, and by directories
that were missing on the way to it. -/
structure Frame (P : Text → Prop) (directory : Location) (fs fs' : FileSystem) : Prop where
  /-- The working directory is the same. -/
  working : fs'.working = fs.working
  kept : ∀ names, Kept P directory fs fs' names

variable {P : Text → Prop} {directory : Location} {fs mid fs' : FileSystem}

theorem Frame.refl (P : Text → Prop) (directory : Location) (fs : FileSystem) :
    Frame P directory fs fs :=
  ⟨rfl, fun _ => .same rfl⟩

theorem Frame.keepsDirectories (h : Frame P directory fs fs') : KeepsDirectories fs fs' := by
  refine ⟨h.working, fun names hdir => ?_⟩
  rcases h.kept names with hsame | ⟨-, hfile⟩ | ⟨-, hnone, -⟩
  · rw [hsame, hdir]
  · exact absurd hdir hfile
  · rw [hdir] at hnone
    cases hnone

theorem Frame.trans (h₁ : Frame P directory fs mid) (h₂ : Frame P directory mid fs') :
    Frame P directory fs fs' := by
  refine ⟨h₂.working.trans h₁.working, fun names => ?_⟩
  have hplace : ∀ l, mid.place l = fs.place l := place_congr h₁.working
  rcases h₁.kept names with hsame | ⟨hgen, hfile⟩ | ⟨hway, hnone, hdir⟩
  · rcases h₂.kept names with hsame' | ⟨⟨name, hnames, hname⟩, hfile⟩ |
      ⟨⟨front, rest, hparts, hnames⟩, hnone, hdir⟩
    · exact .same (hsame'.trans hsame)
    · exact .inside ⟨name, hnames.trans (by rw [hplace]), hname⟩ (hsame ▸ hfile)
    · exact .made ⟨front, rest, hparts, hnames.trans (hplace _)⟩ (hsame ▸ hnone) hdir
  · exact .inside hgen hfile
  · exact .made hway hnone (h₂.keepsDirectories.directory names hdir)

theorem inside_of_resolve {name : Text} {names : List Text} (hname : P name) (hup : name ≠ up)
    (h : fs.resolve (directory.child name) = .ok names) : Inside P fs directory names :=
  ⟨name, (resolve_place h).trans (place_child_of_ne_up hup fs directory), hname⟩

theorem frame_of_get?_ne {names : List Text} (hworking : fs'.working = fs.working)
    (hgen : Inside P fs directory names) (hfile : fs.get? names ≠ some .directory)
    (h : ∀ other, other ≠ names → fs'.get? other = fs.get? other) : Frame P directory fs fs' := by
  refine ⟨hworking, fun other => ?_⟩
  by_cases heq : other = names
  · rw [heq]
    exact .inside hgen hfile
  · exact .same (h other heq)

theorem frame_withFile {name : Text} {content : ByteArray} (hname : P name) (hup : name ≠ up)
    (h : fs.withFile (directory.child name) content = .ok fs') : Frame P directory fs fs' := by
  obtain ⟨names, hplace, hfile, rfl⟩ := withFile_eq_ok.mp h
  exact frame_of_get?_ne rfl (inside_of_resolve hname hup hplace) hfile
    fun _ hne => get?_insert_ne hne _ fs

theorem frame_withoutFile {name : Text} (hname : P name) (hup : name ≠ up)
    (h : fs.withoutFile (directory.child name) = .ok fs') : Frame P directory fs fs' := by
  obtain ⟨names, content, hplace, hget, rfl⟩ := withoutFile_eq_ok.mp h
  refine frame_of_get?_ne rfl (inside_of_resolve hname hup hplace) ?_
    fun _ hne => get?_erase_ne hne fs
  rw [hget]
  exact fun heq => by cases heq

theorem frame_withDirectory {front rest : List Text} (hparts : directory.parts = front ++ rest)
    (h : fs.withDirectory ⟨directory.root, front⟩ = .ok fs') : Frame P directory fs fs' := by
  obtain ⟨names, hplace, hnone, rfl⟩ := withDirectory_eq_ok.mp h
  refine ⟨rfl, fun other => ?_⟩
  by_cases heq : other = names
  · rw [heq]
    refine .made ⟨front, rest, hparts, resolve_place hplace⟩ hnone (get?_insert_self ?_ _)
    exact not_front_of_get? (by rw [hnone]; exact nofun)
  · exact .same (get?_insert_ne heq _ fs)

/-- **Steps keep the frame of their directory.** -/
theorem Steps.frame (h : Steps P directory fs fs') : Frame P directory fs fs' := by
  induction h with
  | refl => exact Frame.refl P directory fs
  | tail _ hstep ih =>
    rcases hstep with ⟨hname, hup, hstep⟩ | ⟨hname, hup, hstep⟩ | ⟨hparts, hstep⟩
    · exact ih.trans (frame_withFile hname hup hstep)
    · exact ih.trans (frame_withoutFile hname hup hstep)
    · exact ih.trans (frame_withDirectory hparts hstep)

/-! ## 2. Trees -/

/-- Whatever there is stands in a directory. -/
def IsTree (fs : FileSystem) : Prop :=
  ∀ names name, fs.get? (names ++ [name]) ≠ none → fs.get? names = some .directory

theorem IsTree.front (h : IsTree fs) {front names : List Text} (hfront : front <+: names)
    (hdir : fs.get? names = some .directory) : fs.get? front = some .directory := by
  obtain ⟨rest, rfl⟩ := hfront
  induction rest using List.reverseRecOn with
  | nil => rwa [List.append_nil] at hdir
  | append_singleton rest last ih =>
    rw [← List.append_assoc] at hdir
    refine ih (h _ last ?_)
    rw [hdir]
    exact nofun

/-- A new entry in a directory, or in the place of a file, makes no tree another thing. -/
theorem IsTree.insert (h : IsTree fs) {base : List Text} {name : Text} {e : Entry}
    (hbase : fs.get? base = some .directory) (hfile : fs.get? (base ++ [name]) ≠ some .directory) :
    IsTree (fs.insert (base ++ [name]) e) := by
  have hkept := @keepsDirectories_insert fs (base ++ [name]) e hfile
  intro names other hother
  by_cases heq : names ++ [other] = base ++ [name]
  · rw [List.append_inj_left' heq rfl]
    exact hkept.directory base hbase
  · rw [get?_insert_ne heq] at hother
    exact hkept.directory names (h names other hother)

theorem IsTree.erase (h : IsTree fs) {names : List Text} {content : ByteArray}
    (hfile : fs.get? names = some (.file content)) : IsTree (fs.erase names) := by
  intro other name hother
  have hne : other ++ [name] ≠ names := by
    rintro rfl
    exact hother (get?_erase_self (not_front_of_get? (by rw [hfile]; exact nofun)))
  rw [get?_erase_ne hne] at hother
  exact (keepsDirectories_erase hfile).directory other (h other name hother)

/-- A directory is made in a directory. -/
theorem IsTree.withDirectory (h : IsTree fs) {l : Location} (hl : fs.withDirectory l = .ok fs') :
    IsTree fs' := by
  obtain ⟨names, hplace, hnone, rfl⟩ := withDirectory_eq_ok.mp hl
  have hfile : fs.get? names ≠ some .directory := by
    rw [hnone]
    exact fun hdir => by cases hdir
  obtain ⟨root, parts⟩ := l
  rcases List.eq_nil_or_concat parts with rfl | ⟨init, last, rfl⟩
  · refine absurd ?_ hfile
    rw [resolve_place hplace]
    exact (open_startOf fs root).get?
  · rw [List.concat_eq_append] at hplace
    have hat := (entryAt_eq_ok.mp (hasDirectory_of_resolve (List.cons_ne_nil last []) hplace)).2
    have hq := (resolve_place hplace).trans (place_child fs ⟨root, init⟩ last)
    by_cases hup : last = up
    · -- the way leads up from a directory, so it leads to a directory
      refine absurd ?_ hfile
      rw [hq, hup, enter_up]
      exact h.front (List.dropLast_prefix _) hat
    · rw [enter_of_ne_up hup] at hq
      subst hq
      exact h.insert hat hfile

theorem Step.isTree (hstep : Step P directory fs fs') (h : IsTree fs) : IsTree fs' := by
  rcases hstep with ⟨-, hup, hstep⟩ | ⟨-, hup, hstep⟩ | ⟨hparts, hstep⟩
  · obtain ⟨names, hplace, hfile, rfl⟩ := withFile_eq_ok.mp hstep
    have hdir := (entryAt_eq_ok.mp (hasDirectory_of_resolve (List.cons_ne_nil _ []) hplace)).2
    obtain rfl := (resolve_place hplace).trans (place_child_of_ne_up hup fs directory)
    exact h.insert hdir hfile
  · obtain ⟨names, content, -, hget, rfl⟩ := withoutFile_eq_ok.mp hstep
    exact h.erase hget
  · exact h.withDirectory hstep

theorem Steps.isTree (hsteps : Steps P directory fs fs') (h : IsTree fs) : IsTree fs' := by
  induction hsteps with
  | refl => exact h
  | tail _ hstep ih => exact hstep.isTree ih

end ApiDocs.Output
