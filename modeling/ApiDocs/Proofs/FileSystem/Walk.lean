import ApiDocs.FileSystem.Basic

/-!
# Where ways lead

Two points in a path lead to the directory above, so what a path names depends, at first sight, on
what there is.  There are no links, however: wherever a way leads, it leads to the place that can be
read off its parts (`along`, `walk_place`), and what there is decides only whether it leads anywhere.

All of this rests on what a single step of a way needs (`Passes`): more directories make no way end
(`walk_mono`), a way to a directory can be gone on with (`walk_append`), and a way from the working
directory or from the root leads through directories only (`walk_front`).
-/

namespace ApiDocs

namespace FileSystem

/-! ## 1. Places -/

/-- Where a part of a path leads from a place. -/
def enter (place : List Text) (part : Text) : List Text :=
  if part = up then place.dropLast else place ++ [part]

/-- Where several parts lead from a place, one after another. -/
def along (place parts : List Text) : List Text := parts.foldl enter place

@[simp] theorem along_nil (place : List Text) : along place [] = place := rfl

@[simp] theorem along_cons (place : List Text) (part : Text) (parts : List Text) :
    along place (part :: parts) = along (enter place part) parts := rfl

theorem along_append (place parts more : List Text) :
    along place (parts ++ more) = along (along place parts) more :=
  List.foldl_append

@[simp] theorem enter_up (place : List Text) : enter place up = place.dropLast := if_pos rfl

theorem enter_of_ne_up {part : Text} (h : part ≠ up) (place : List Text) :
    enter place part = place ++ [part] := if_neg h

variable {fs fs' : FileSystem}

/-! ## 2. Ways -/

/-- The second file system has the directories of the first, and one stands at the same place. -/
structure KeepsDirectories (fs fs' : FileSystem) : Prop where
  working : fs'.working = fs.working
  directory : ∀ names, fs.get? names = some .directory → fs'.get? names = some .directory

/-- A way goes on from a place with a part of a path: what the part leads to has to be a directory
if further parts follow. -/
def Passes (fs : FileSystem) (place : List Text) (part : Text) (parts : List Text) : Prop :=
  part = up ∨ (nameSize part ≤ maxNameSize ∧
    (parts = [] ∨ fs.get? (enter place part) = some .directory))

theorem walk_up (fs : FileSystem) (place parts : List Text) :
    fs.walk place (up :: parts) = fs.walk place.dropLast parts := by
  rw [walk.eq_def]
  exact if_pos rfl

theorem walk_of_ne_up (fs : FileSystem) {part : Text} (hup : part ≠ up) (place parts : List Text) :
    fs.walk place (part :: parts) =
      if maxNameSize < nameSize part then .error .refused
      else if parts = [] then .ok (place ++ [part])
      else match fs.get? (place ++ [part]) with
        | some .directory => fs.walk (place ++ [part]) parts
        | some (.file _) => .error .notDirectory
        | none => .error .notFound := by
  rw [walk.eq_def]
  exact if_neg hup

theorem walk_cons_of_passes {place : List Text} {part : Text} {parts : List Text}
    (h : fs.Passes place part parts) :
    fs.walk place (part :: parts) = fs.walk (enter place part) parts := by
  by_cases hup : part = up
  · rw [hup, enter_up, walk_up]
  · obtain ⟨hsize, hdir⟩ := h.resolve_left hup
    rw [enter_of_ne_up hup] at hdir ⊢
    rw [walk_of_ne_up fs hup, if_neg (Nat.not_lt.mpr hsize)]
    by_cases hnil : parts = []
    · rw [if_pos hnil, hnil]
      rfl
    · rw [if_neg hnil, show fs.get? (place ++ [part]) = some .directory from
        hdir.resolve_left hnil]

theorem of_walk_cons {place q : List Text} {part : Text} {parts : List Text}
    (h : fs.walk place (part :: parts) = .ok q) :
    fs.Passes place part parts ∧ fs.walk (enter place part) parts = .ok q := by
  have hpasses : fs.Passes place part parts := by
    by_cases hup : part = up
    · exact Or.inl hup
    · rw [walk_of_ne_up fs hup] at h
      split at h
      · cases h
      · next hsize =>
        refine Or.inr ⟨Nat.not_lt.mp hsize, ?_⟩
        rw [enter_of_ne_up hup]
        split at h
        · next hnil => exact Or.inl hnil
        · split at h
          · next hdir => exact Or.inr hdir
          · cases h
          · cases h
  exact ⟨hpasses, walk_cons_of_passes hpasses ▸ h⟩

/-- **A way leads where its parts say**, if it leads anywhere. -/
theorem walk_place : ∀ {parts place q : List Text},
    fs.walk place parts = .ok q → q = along place parts
  | [], _, _, h => by
    cases h
    rfl
  | part :: parts, place, _, h => by
    rw [along_cons]
    exact walk_place (of_walk_cons h).2

/-- A way stays one as long as its directories stay. -/
theorem walk_mono (hdirs : KeepsDirectories fs fs') : ∀ {parts place q : List Text},
    fs.walk place parts = .ok q → fs'.walk place parts = .ok q
  | [], _, _, h => h
  | part :: parts, place, q, h => by
    obtain ⟨hpasses, hrest⟩ := of_walk_cons h
    have hpasses' : fs'.Passes place part parts :=
      hpasses.imp_right fun ⟨hsize, hdir⟩ => ⟨hsize, hdir.imp_right (hdirs.directory _)⟩
    rw [walk_cons_of_passes hpasses']
    exact walk_mono hdirs hrest

/-- A way that leads to a directory goes on from there. -/
theorem walk_append : ∀ {parts place q : List Text} (more : List Text),
    fs.walk place parts = .ok q → fs.get? q = some .directory →
      fs.walk place (parts ++ more) = fs.walk q more
  | [], _, _, more, h, _ => by
    cases h
    rfl
  | part :: parts, place, q, more, h, hq => by
    obtain ⟨hpasses, hrest⟩ := of_walk_cons h
    have hpasses' : fs.Passes place part (parts ++ more) := by
      refine hpasses.imp_right fun ⟨hsize, hdir⟩ => ⟨hsize, Or.inr ?_⟩
      -- that the last part leads to a directory matters only now that the way goes on
      rcases hdir with rfl | hdir
      · cases hrest
        exact hq
      · exact hdir
    rw [List.cons_append, walk_cons_of_passes hpasses']
    exact walk_append more hrest hq

/-- Every directory on the way to a place is one. -/
def Open (fs : FileSystem) (place : List Text) : Prop :=
  ∀ front, front <+: place → fs.get? front = some .directory

/-- The working directory and the root are places to start from. -/
theorem open_startOf (fs : FileSystem) (root : String) : fs.Open (fs.startOf root) := by
  unfold startOf
  split
  · exact fun front h => get?_of_front h
  · exact fun front h => get?_of_front (h.trans List.nil_prefix)

theorem Open.get? {place : List Text} (h : fs.Open place) : fs.get? place = some .directory :=
  h place List.prefix_rfl

theorem Open.enter {place : List Text} {part : Text} (h : fs.Open place)
    (hdir : part = up ∨ fs.get? (enter place part) = some .directory) :
    fs.Open (enter place part) := by
  intro front hfront
  by_cases hup : part = up
  · rw [hup, enter_up] at hfront
    exact h front (hfront.trans (List.dropLast_prefix place))
  · have hat := hdir.resolve_left hup
    rw [enter_of_ne_up hup] at hfront hat
    rcases List.prefix_concat_iff.mp hfront with rfl | hfront
    · exact hat
    · exact h front hfront

/-- **A front part of a way leads to a directory**, if the way starts from a directory. -/
theorem walk_front : ∀ {front rest place q : List Text}, fs.Open place →
    rest ≠ [] → fs.walk place (front ++ rest) = .ok q →
      ∃ q', fs.walk place front = .ok q' ∧ fs.get? q' = some .directory
  | [], _, place, _, hopen, _, _ => ⟨place, by unfold walk; rfl, hopen.get?⟩
  | part :: front, rest, place, q, hopen, hrest, h => by
    obtain ⟨hpasses, hwalk⟩ := of_walk_cons h
    have hdir : part = up ∨ (nameSize part ≤ maxNameSize ∧
        fs.get? (FileSystem.enter place part) = some .directory) :=
      hpasses.imp_right fun ⟨hsize, hnil⟩ =>
        ⟨hsize, hnil.resolve_left (fun hnil => hrest (List.append_eq_nil_iff.mp hnil).2)⟩
    have hpasses' : fs.Passes place part front :=
      hdir.imp_right fun ⟨hsize, hat⟩ => ⟨hsize, Or.inr hat⟩
    obtain ⟨q', hq', hat⟩ := walk_front (hopen.enter (hdir.imp_right fun h => h.2)) hrest hwalk
    exact ⟨q', by rw [walk_cons_of_passes hpasses']; exact hq', hat⟩

end FileSystem

end ApiDocs
