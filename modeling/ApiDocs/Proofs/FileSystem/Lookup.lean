import ApiDocs.Proofs.FileSystem.Walk
import ApiDocs.Proofs.Outcome

/-!
# What stands at a location

Where a location leads can be read off its parts (`place`, `resolve_place`), and a location of a name
in a directory leads one step further (`resolve_child`), unless the system does not take the name or
the path.  That depends on nothing that is stored (`childFault?`).

What each operation does is then said in terms of `get?` alone: `withFile_eq_ok`,
`withoutFile_eq_ok`, `withDirectory_eq_ok` for those that change something, `kindAt_eq_file`,
`kindAt_eq_directory` and `mem_namesAt` for those that look.
-/

namespace ApiDocs

open FileSystem

/-! ## 1. Texts of paths -/

/-- What joins the first of several texts joins all of them further on. -/
theorem Text.joinWith_prefix (separator : Text) : ∀ ts us : List Text,
    Text.joinWith separator ts <+: Text.joinWith separator (ts ++ us)
  | [], us => List.nil_prefix
  | [t], us => by
    unfold Text.joinWith
    cases us with
    | nil => exact List.prefix_rfl
    | cons u us =>
      rw [List.singleton_append, List.intercalate_singleton, List.intercalate_cons_cons,
        List.append_assoc]
      exact List.prefix_append t _
  | t :: u :: ts, us => by
    have ih := Text.joinWith_prefix separator (u :: ts) us
    unfold Text.joinWith at ih ⊢
    rw [List.cons_append, List.cons_append, List.intercalate_cons_cons,
      List.intercalate_cons_cons]
    exact (List.prefix_append_right_inj _).mpr ih

theorem nameSize_append (front rest : Text) :
    nameSize (front ++ rest) = nameSize front + nameSize rest := by
  have hfrom : ∀ (t : Text) (size : Nat),
      t.foldl (fun size p => size + p.byteSize) size = size + nameSize t := by
    intro t
    unfold nameSize
    induction t with
    | nil => exact fun _ => rfl
    | cons p t ih =>
      intro size
      rw [List.foldl_cons, List.foldl_cons, ih, ih (0 + p.byteSize)]
      omega
  rw [nameSize, List.foldl_append]
  exact hfrom rest _

/-- The front part of a path that the system takes is a path that it takes. -/
theorem front_taken {root : String} {front rest : List Text}
    (hname : nameFault? ⟨root, front ++ rest⟩ = none)
    (hsize : ¬ maxPathSize < nameSize (Location.text ⟨root, front ++ rest⟩)) :
    nameFault? ⟨root, front⟩ = none ∧ ¬ maxPathSize < nameSize (Location.text ⟨root, front⟩) := by
  by_cases hempty : root = "" ∧ front = []
  · obtain ⟨rfl, rfl⟩ := hempty
    decide
  · have hpre : Location.text ⟨root, front⟩ <+: Location.text ⟨root, front ++ rest⟩ := by
      have hall : ¬ (root = "" ∧ front ++ rest = []) := fun h =>
        hempty ⟨h.1, (List.append_eq_nil_iff.mp h.2).1⟩
      unfold Location.text
      rw [if_neg hempty, if_neg hall]
      exact (List.prefix_append_right_inj _).mpr (Text.joinWith_prefix _ front rest)
    obtain ⟨more, hmore⟩ := hpre
    unfold nameFault? at hname ⊢
    rw [← hmore] at hname hsize
    simp only [List.all_append, List.contains_append] at hname ⊢
    rw [nameSize_append] at hsize
    refine ⟨?_, by omega⟩
    split at hname
    · cases hname
    · split at hname
      · cases hname
      · simp_all

/-! ## 2. Places of locations -/

namespace FileSystem

variable {fs fs' : FileSystem}

/-- Where a location leads, if it leads anywhere. -/
def place (fs : FileSystem) (l : Location) : List Text := along (fs.startOf l.root) l.parts

theorem place_congr (h : fs'.working = fs.working) (l : Location) : fs'.place l = fs.place l := by
  unfold place startOf
  rw [h]

theorem place_child (fs : FileSystem) (directory : Location) (name : Text) :
    fs.place (directory.child name) = enter (fs.place directory) name :=
  (along_append _ directory.parts [name]).trans rfl

theorem place_child_of_ne_up {name : Text} (h : name ≠ up) (fs : FileSystem)
    (directory : Location) : fs.place (directory.child name) = fs.place directory ++ [name] := by
  rw [place_child, enter_of_ne_up h]

/-! ## 3. Ways of locations -/

theorem resolve_eq_walk (fs : FileSystem) {l : Location} (hname : nameFault? l = none)
    (hsize : ¬ maxPathSize < nameSize l.text) :
    fs.resolve l = fs.walk (fs.startOf l.root) l.parts := by
  unfold resolve
  rw [hname]
  dsimp only
  rw [if_neg hsize]

/-- What a location that leads somewhere fulfils, whatever there is. -/
theorem of_resolve_ok {l : Location} {q : List Text} (h : fs.resolve l = .ok q) :
    nameFault? l = none ∧ ¬ maxPathSize < nameSize l.text ∧
      fs.walk (fs.startOf l.root) l.parts = .ok q := by
  have hname : nameFault? l = none := by
    cases hl : nameFault? l with
    | none => rfl
    | some fault =>
      unfold resolve at h
      rw [hl] at h
      cases h
  have hsize : ¬ maxPathSize < nameSize l.text := by
    intro hlong
    unfold resolve at h
    rw [hname] at h
    dsimp only at h
    rw [if_pos hlong] at h
    cases h
  exact ⟨hname, hsize, resolve_eq_walk fs hname hsize ▸ h⟩

theorem resolve_place {l : Location} {q : List Text} (h : fs.resolve l = .ok q) : q = fs.place l :=
  walk_place (of_resolve_ok h).2.2

theorem resolve_mono (hdirs : KeepsDirectories fs fs') {l : Location} {q : List Text}
    (h : fs.resolve l = .ok q) : fs'.resolve l = .ok q := by
  obtain ⟨hname, hsize, hwalk⟩ := of_resolve_ok h
  rw [resolve_eq_walk fs' hname hsize, startOf, hdirs.working]
  exact walk_mono hdirs hwalk

theorem entryAt_of_resolve {l : Location} {q : List Text} (h : fs.resolve l = .ok q) :
    fs.entryAt l = match fs.get? q with
      | some e => .ok e
      | none => .error .notFound := by
  unfold entryAt
  rw [h]
  rfl

theorem entryAt_eq_ok {l : Location} {e : Entry} :
    fs.entryAt l = .ok e ↔ fs.resolve l = .ok (fs.place l) ∧ fs.get? (fs.place l) = some e := by
  cases hq : fs.resolve l with
  | error fault =>
    unfold entryAt
    rw [hq]
    exact ⟨fun h => (by cases h), fun h => (by cases h.1)⟩
  | ok q =>
    rw [entryAt_of_resolve hq, ← resolve_place hq]
    cases fs.get? q with
    | none => exact ⟨fun h => (by cases h), fun h => (by cases h.2)⟩
    | some e' => exact ⟨fun h => (by cases h; exact ⟨rfl, rfl⟩), fun h => (by cases h.2; rfl)⟩

/-- Ways lead up from the working directory and down from the root. -/
example :
    let fs : FileSystem := {
      entries := [([Text.ofString "etc"], .directory),
        ([Text.ofString "etc", Text.ofString "api.yaml"], .file .empty)]
      working := [Text.ofString "srv", Text.ofString "site"] }
    (fs.contentAt (.ofText "../../etc/api.yaml")).toOption = some .empty ∧
      (fs.contentAt (.ofText "/srv/../etc/api.yaml")).toOption = some .empty ∧
      fs.kindAt (.ofText "api.yaml") = .ok none := by
  decide +kernel

/-- There is a directory at a location. -/
def HasDirectory (fs : FileSystem) (l : Location) : Prop := fs.entryAt l = .ok .directory

/-- There is a file with a content at a location. -/
def HasFile (fs : FileSystem) (l : Location) (content : ByteArray) : Prop :=
  fs.entryAt l = .ok (.file content)

theorem hasFile_iff {l : Location} {content : ByteArray} :
    fs.HasFile l content ↔ fs.contentAt l = .ok content := by
  unfold HasFile contentAt
  rcases fs.entryAt l with fault | ⟨c⟩ | _
  · exact ⟨fun h => (by cases h), fun h => (by cases h)⟩
  · exact ⟨fun h => (by cases h; rfl), fun h => (by cases h; rfl)⟩
  · exact ⟨fun h => (by cases h), fun h => (by cases h)⟩

theorem HasDirectory.mono (hdirs : KeepsDirectories fs fs') {l : Location}
    (h : fs.HasDirectory l) : fs'.HasDirectory l := by
  obtain ⟨hresolve, hat⟩ := entryAt_eq_ok.mp h
  rw [← place_congr hdirs.working] at hresolve hat
  exact entryAt_eq_ok.mpr ⟨resolve_mono hdirs hresolve, hdirs.directory _ hat⟩

/-- A location that leads somewhere leads through directories. -/
theorem hasDirectory_of_resolve {root : String} {front rest : List Text} {q : List Text}
    (hrest : rest ≠ []) (h : fs.resolve ⟨root, front ++ rest⟩ = .ok q) :
    fs.HasDirectory ⟨root, front⟩ := by
  obtain ⟨hname, hsize, hwalk⟩ := of_resolve_ok h
  obtain ⟨hname', hsize'⟩ := front_taken hname hsize
  obtain ⟨q', hq', hat⟩ := walk_front (open_startOf fs root) hrest hwalk
  have hplace : fs.resolve ⟨root, front⟩ = .ok q' :=
    (resolve_eq_walk fs hname' hsize').trans hq'
  have hq := resolve_place hplace
  exact entryAt_eq_ok.mpr ⟨hq ▸ hplace, hq ▸ hat⟩

theorem HasDirectory.front {root : String} {front rest : List Text}
    (h : fs.HasDirectory ⟨root, front ++ rest⟩) : fs.HasDirectory ⟨root, front⟩ := by
  by_cases hrest : rest = []
  · rwa [hrest, List.append_nil] at h
  · exact hasDirectory_of_resolve hrest (entryAt_eq_ok.mp h).1

theorem HasFile.hasDirectory {directory : Location} {name : Text} {content : ByteArray}
    (h : fs.HasFile (directory.child name) content) : fs.HasDirectory directory :=
  hasDirectory_of_resolve (List.cons_ne_nil name []) (entryAt_eq_ok.mp h).1

/-! ## 4. Names in a directory -/

/-- The fault of a name in a directory that does not depend on what there is: the name or the path
is none that the system takes. -/
def childFault? (directory : Location) (name : Text) : Option FileFault :=
  match nameFault? (directory.child name) with
  | some fault => some fault
  | none =>
    if maxPathSize < nameSize (directory.child name).text ∨ maxNameSize < nameSize name then
      some .refused
    else none

/-- **The way to a name in a directory**: it leads there unless the name has a fault of its own. -/
theorem resolve_child {directory : Location} {name : Text} (hdir : fs.HasDirectory directory)
    (hup : name ≠ up) :
    fs.resolve (directory.child name) = match childFault? directory name with
      | some fault => .error fault
      | none => .ok (fs.place directory ++ [name]) := by
  obtain ⟨hresolve, hat⟩ := entryAt_eq_ok.mp hdir
  have hwalk := (of_resolve_ok hresolve).2.2
  have hlast : fs.walk (fs.startOf directory.root) (directory.parts ++ [name])
      = if maxNameSize < nameSize name then .error .refused
        else .ok (fs.place directory ++ [name]) := by
    rw [walk_append [name] hwalk hat, walk_of_ne_up fs hup, if_pos rfl]
  unfold resolve childFault?
  cases hname : nameFault? (directory.child name) with
  | some fault => rfl
  | none =>
    dsimp only
    by_cases hlong : maxPathSize < nameSize (directory.child name).text
    · rw [if_pos hlong, if_pos (Or.inl hlong)]
    · rw [if_neg hlong]
      show fs.walk (fs.startOf directory.root) (directory.parts ++ [name]) = _
      rw [hlast]
      by_cases hbig : maxNameSize < nameSize name
      · rw [if_pos hbig, if_pos (Or.inr hbig)]
      · rw [if_neg hbig, if_neg (fun h => h.elim hlong hbig)]

/-- What stands under a name in a directory, if the name has no fault. -/
theorem entryAt_child {directory : Location} {name : Text} {e : Entry}
    (hdir : fs.HasDirectory directory) (hup : name ≠ up) :
    fs.entryAt (directory.child name) = .ok e ↔
      childFault? directory name = none ∧ fs.get? (fs.place directory ++ [name]) = some e := by
  rw [entryAt_eq_ok, resolve_child hdir hup, place_child_of_ne_up hup]
  cases childFault? directory name with
  | some fault => exact ⟨fun h => (by cases h.1), fun h => (by cases h.1)⟩
  | none => exact ⟨fun h => ⟨rfl, h.2⟩, fun h => ⟨rfl, h.2⟩⟩

/-! ## 5. What there is -/

theorem kindAt_eq_file {l : Location} :
    fs.kindAt l = .ok (some .file) ↔ ∃ content, fs.HasFile l content := by
  unfold kindAt HasFile
  rcases fs.entryAt l with fault | ⟨content⟩ | _
  · constructor
    · intro h
      cases fault <;> cases h
    · rintro ⟨_, h⟩
      cases h
  · exact ⟨fun _ => ⟨content, rfl⟩, fun _ => rfl⟩
  · constructor
    · intro h
      cases h
    · rintro ⟨_, h⟩
      cases h

theorem kindAt_eq_directory {l : Location} :
    fs.kindAt l = .ok (some .directory) ↔ fs.HasDirectory l := by
  unfold kindAt HasDirectory
  rcases fs.entryAt l with fault | ⟨content⟩ | _
  · constructor
    · intro h
      cases fault <;> cases h
    · intro h
      cases h
  · exact ⟨fun h => (by cases h), fun h => (by cases h)⟩
  · exact ⟨fun _ => rfl, fun _ => rfl⟩

theorem kindAt_eq_error {l : Location} {fault : FileFault} :
    fs.kindAt l = .error fault ↔ fs.entryAt l = .error .refused ∧ fault = .refused := by
  unfold kindAt
  rcases fs.entryAt l with found | e
  · cases found <;> simp [eq_comm]
  · exact ⟨fun h => (by cases h), fun h => (by cases h.1)⟩

/-- Only a name or a path that the system does not take makes the question fail what there is. -/
theorem kindAt_child_eq_error {directory : Location} {name : Text} {fault : FileFault}
    (hdir : fs.HasDirectory directory) (hup : name ≠ up) :
    fs.kindAt (directory.child name) = .error fault ↔
      childFault? directory name = some .refused ∧ fault = .refused := by
  rw [kindAt_eq_error]
  refine and_congr_left fun _ => ?_
  have hresolve := resolve_child hdir hup
  cases hfault : childFault? directory name with
  | some found =>
    unfold entryAt
    rw [hresolve, hfault]
    exact ⟨fun h => (by cases h; rfl), fun h => (by cases h; rfl)⟩
  | none =>
    rw [hfault] at hresolve
    rw [entryAt_of_resolve hresolve]
    cases fs.get? (fs.place directory ++ [name]) with
    | some e => exact ⟨fun h => (by cases h), fun h => (by cases h)⟩
    | none => exact ⟨fun h => (by cases h), fun h => (by cases h)⟩

/-- The paths of a file system are the lists of names under which something stands. -/
theorem mem_paths {names : List Text} : names ∈ fs.paths ↔ fs.get? names ≠ none := by
  have hworking : names ∈ (List.range (fs.working.length + 1)).map (fun n => fs.working.take n) ↔
      names <+: fs.working := by
    rw [List.mem_map]
    constructor
    · rintro ⟨n, -, rfl⟩
      exact List.take_prefix n fs.working
    · intro h
      exact ⟨names.length, List.mem_range.mpr (Nat.lt_succ_of_le h.length_le),
        (List.prefix_iff_eq_take.mp h).symm⟩
  unfold paths
  rw [List.mem_eraseDups, List.mem_append, hworking]
  by_cases hprefix : names <+: fs.working
  · rw [get?_of_front hprefix]
    exact ⟨fun _ h => (by cases h), fun _ => Or.inl hprefix⟩
  · rw [get?_of_not_front hprefix, Ne, List.lookup_eq_none_iff, or_iff_right hprefix, List.mem_map]
    constructor
    · rintro ⟨p, hp, rfl⟩ hall
      exact bne_iff_ne.mp (hall p hp) rfl
    · intro hex
      by_contra hnot
      exact hex fun p hp => bne_iff_ne.mpr fun heq => hnot ⟨p, hp, heq.symm⟩

/-- The names in a directory are those under which something stands there. -/
theorem mem_namesAt {l : Location} {names : List Text} {name : Text}
    (h : fs.resolve l = .ok names) :
    name ∈ fs.namesAt l ↔ fs.get? (names ++ [name]) ≠ none := by
  rw [← mem_paths]
  unfold namesAt
  rw [h]
  dsimp only
  rw [List.mem_filterMap]
  constructor
  · rintro ⟨path, hpath, hname⟩
    split at hname
    · next hdrop =>
      rw [← hdrop, List.dropLast_append_getLast? name hname]
      exact hpath
    · cases hname
  · intro hpath
    exact ⟨_, hpath, by simp⟩

/-! ## 6. What changes at a location -/

theorem namesForFile_eq_ok {l : Location} {names : List Text} :
    fs.namesForFile l = .ok names ↔
      fs.resolve l = .ok names ∧ fs.get? names ≠ some .directory := by
  unfold namesForFile
  rw [bind_eq_ok]
  constructor
  · rintro ⟨place, hplace, h⟩
    split at h
    · cases h
    · next hne =>
      cases h
      exact ⟨hplace, hne⟩
  · rintro ⟨hplace, hne⟩
    refine ⟨_, hplace, ?_⟩
    split
    · next h => exact absurd h hne
    · rfl

theorem withFile_eq_ok {l : Location} {content : ByteArray} :
    fs.withFile l content = .ok fs' ↔
      ∃ names, fs.resolve l = .ok names ∧ fs.get? names ≠ some .directory ∧
        fs' = fs.insert names (.file content) := by
  unfold withFile
  rw [bind_eq_ok]
  constructor
  · rintro ⟨names, hnames, h⟩
    obtain ⟨hplace, hne⟩ := namesForFile_eq_ok.mp hnames
    cases h
    exact ⟨names, hplace, hne, rfl⟩
  · rintro ⟨names, hplace, hne, rfl⟩
    exact ⟨names, namesForFile_eq_ok.mpr ⟨hplace, hne⟩, rfl⟩

theorem withoutFile_eq_ok {l : Location} :
    fs.withoutFile l = .ok fs' ↔
      ∃ names content, fs.resolve l = .ok names ∧
        fs.get? names = some (.file content) ∧ fs' = fs.erase names := by
  unfold withoutFile
  rw [bind_eq_ok]
  constructor
  · rintro ⟨names, hnames, h⟩
    obtain ⟨hplace, hne⟩ := namesForFile_eq_ok.mp hnames
    rcases hget : fs.get? names with _ | ⟨content⟩ | _
    · rw [hget] at h
      cases h
    · rw [hget] at h
      cases h
      exact ⟨names, content, hplace, hget, rfl⟩
    · exact absurd hget hne
  · rintro ⟨names, content, hplace, hget, rfl⟩
    refine ⟨names, namesForFile_eq_ok.mpr ⟨hplace, fun h => ?_⟩, ?_⟩
    · rw [hget] at h
      cases h
    · rw [hget]
      rfl

theorem withDirectory_eq_ok {l : Location} :
    fs.withDirectory l = .ok fs' ↔
      ∃ names, fs.resolve l = .ok names ∧ fs.get? names = none ∧
        fs' = fs.insert names .directory := by
  unfold withDirectory
  rw [bind_eq_ok]
  constructor
  · rintro ⟨names, hplace, h⟩
    cases hget : fs.get? names with
    | some e =>
      rw [hget] at h
      cases h
    | none =>
      rw [hget] at h
      cases h
      exact ⟨names, hplace, hget, rfl⟩
  · rintro ⟨names, hplace, hget, rfl⟩
    refine ⟨_, hplace, ?_⟩
    rw [hget]
    rfl

/-- Where no directory stands, the working directory and those above it are not met. -/
theorem not_front_of_get? {names : List Text} (h : fs.get? names ≠ some .directory) :
    ¬ names <+: fs.working :=
  fun hprefix => h (get?_of_front hprefix)

theorem keepsDirectories_insert {names : List Text} {e : Entry}
    (h : fs.get? names ≠ some .directory) : KeepsDirectories fs (fs.insert names e) := by
  refine ⟨rfl, fun other hother => ?_⟩
  rw [get?_insert_ne _ e fs, hother]
  rintro rfl
  exact h hother

/-- The directory stays when a file is removed. -/
theorem keepsDirectories_erase {names : List Text} {content : ByteArray}
    (h : fs.get? names = some (.file content)) : KeepsDirectories fs (fs.erase names) := by
  refine ⟨rfl, fun other hother => ?_⟩
  rw [get?_erase_ne _ fs, hother]
  rintro rfl
  rw [h] at hother
  cases hother

end FileSystem

end ApiDocs
