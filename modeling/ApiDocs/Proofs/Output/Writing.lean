import ApiDocs.Proofs.Output.Cleaning
import ApiDocs.Proofs.Text.Strings

/-!
# What building writes

Building makes the directory, cleans it and writes the files of the build one after another.  Since
they all stand directly in the directory, a successful build leaves what cleaning left with these
files put in (`emit_ok`), and cleaning found the directory.

A directory that is there is not made again (`run_makeDirectories`), and files can be written exactly
if their names have no fault, bear no directory and their texts have a form in bytes
(`writeFiles_iff`).  Both are needed to see that a second build succeeds like the first.
-/

namespace ApiDocs.Output

open FileSystem FileAccess

variable {directory : Location} {base : List Text} {fs mid fs' : FileSystem}

/-! ## 1. Making a directory -/

theorem hasDirectory_of_withDirectory {l : Location} (h : fs.withDirectory l = .ok fs') :
    fs'.HasDirectory l := by
  obtain ⟨names, hplace, hnone, rfl⟩ := withDirectory_eq_ok.mp h
  have hfree : fs.get? names ≠ some .directory := by
    rw [hnone]
    exact nofun
  have hresolve := resolve_mono (keepsDirectories_insert (e := .directory) hfree) hplace
  have hq := resolve_place hresolve
  refine entryAt_eq_ok.mpr ⟨hq ▸ hresolve, ?_⟩
  rw [← hq]
  exact get?_insert_self (not_front_of_get? hfree) _

theorem hasDirectory_of_makeDirectoriesFrom {root : String} : ∀ {parts front : List Text}
    {fs : FileSystem}, fs.HasDirectory ⟨root, front⟩ →
      fs.run (makeDirectoriesFrom ⟨root, front⟩ parts) = (.ok (), fs') →
        fs'.HasDirectory ⟨root, front ++ parts⟩
  | [], front, fs, hdir, h => by
    cases h
    rwa [List.append_nil]
  | part :: parts, front, fs, hdir, h => by
    have happ : front ++ part :: parts = (front ++ [part]) ++ parts := by
      rw [List.append_assoc]
      rfl
    rw [happ]
    unfold makeDirectoriesFrom at h
    obtain ⟨kind, mid, hlook, hrest⟩ := of_run_bind h
    rw [run_mk, runPlain_kind?] at hlook
    obtain ⟨hkind, rfl⟩ := Prod.mk.inj hlook
    rcases kind with _ | _ | _
    · obtain ⟨_, mid, hmake, hrest⟩ := of_run_bind hrest
      rw [run_mk, runPlain_makeDirectory] at hmake
      exact hasDirectory_of_makeDirectoriesFrom
        (hasDirectory_of_withDirectory (of_settled_ok hmake)) hrest
    · cases hrest
    · exact hasDirectory_of_makeDirectoriesFrom (kindAt_eq_directory.mp hkind) hrest

/-- A directory that was made is there. -/
theorem hasDirectory_of_makeDirectories
    (h : fs.run (makeDirectories directory) = (.ok (), fs')) : fs'.HasDirectory directory := by
  unfold makeDirectories at h
  cases hname : nameFault? directory with
  | some fault =>
    rw [hname] at h
    cases h
  | none =>
    rw [hname] at h
    obtain ⟨_, mid, hdiscard, h⟩ := of_run_bind h
    obtain ⟨kind, mid', hlook, hmid⟩ := of_run_bind hdiscard
    cases hmid
    rw [run_mk, runPlain_kind?] at hlook
    obtain ⟨hkind, rfl⟩ := Prod.mk.inj hlook
    obtain ⟨missing, mid, hmissing, h⟩ := of_run_bind h
    have hmid : mid = fs := by
      have := runPlain_missing fs directory.root directory.parts.reverse
      rw [run_lift] at hmissing
      rw [← this]
      exact (Prod.mk.inj hmissing).2.symm
    -- the path as a whole is one that the system takes, so the root is one
    have hsize : ¬ maxPathSize < nameSize directory.text := by
      intro hlong
      have : fs.kindAt directory = .error .refused := by
        unfold kindAt entryAt resolve
        rw [hname]
        dsimp only
        rw [if_pos hlong]
        rfl
      rw [hkind] at this
      cases this
    obtain ⟨hname', hsize'⟩ :=
      @front_taken directory.root [] directory.parts hname hsize
    have hroot : fs.HasDirectory ⟨directory.root, []⟩ := by
      have hplace := resolve_eq_walk fs hname' hsize'
      unfold walk at hplace
      have hq := resolve_place hplace
      refine entryAt_eq_ok.mpr ⟨hq ▸ hplace, ?_⟩
      rw [← hq]
      exact (open_startOf fs directory.root).get?
    rw [hmid] at h
    have hfrom : fs.run (makeDirectoriesFrom ⟨directory.root, []⟩ directory.parts)
        = (.ok (), fs') := by
      dsimp only at h
      split at h
      · cases h
      · exact h
    exact hasDirectory_of_makeDirectoriesFrom hroot hfrom

theorem run_makeDirectoriesFrom {root : String} : ∀ {parts front : List Text},
    fs.HasDirectory ⟨root, front ++ parts⟩ →
      fs.run (makeDirectoriesFrom ⟨root, front⟩ parts) = (.ok (), fs)
  | [], _, _ => rfl
  | part :: parts, front, hdir => by
    have happ : front ++ part :: parts = (front ++ [part]) ++ parts := by
      rw [List.append_assoc]
      rfl
    rw [happ] at hdir
    have hkind : fs.run (ExceptT.mk (kind? ⟨root, front ++ [part]⟩))
        = (.ok (some .directory), fs) :=
      congrArg (·, fs) (kindAt_eq_directory.mpr hdir.front)
    unfold makeDirectoriesFrom
    show fs.run (ExceptT.mk (kind? ⟨root, front ++ [part]⟩) >>= _) = _
    rw [run_bind_ok hkind]
    exact run_makeDirectoriesFrom hdir

/-- **A directory that is there is not made again.** -/
theorem run_makeDirectories (hdir : fs.HasDirectory directory) :
    fs.run (makeDirectories directory) = (.ok (), fs) := by
  have hname := (of_resolve_ok (entryAt_eq_ok.mp hdir).1).1
  have hmissing : fs.runPlain (missing directory.root directory.parts.reverse) = (0, fs) := by
    rcases List.eq_nil_or_concat directory.parts with hnil | ⟨init, last, hparts⟩
    · rw [hnil]
      rfl
    · have hkind : fs.kindAt ⟨directory.root, directory.parts.reverse.reverse⟩
          = .ok (some .directory) := by
        rw [List.reverse_reverse]
        exact kindAt_eq_directory.mpr hdir
      rw [hparts, List.concat_eq_append, List.reverse_append] at hkind ⊢
      exact fs.runPlain_missing_of_kindAt hkind
  have hkind : fs.run (ExceptT.mk (kind? directory)) = (.ok (some .directory), fs) :=
    congrArg (·, fs) (kindAt_eq_directory.mpr hdir)
  have hlook : fs.run (discard (ExceptT.mk (kind? directory))) = (.ok (), fs) := by
    show fs.run (ExceptT.mk (kind? directory) >>= fun _ => pure ()) = _
    rw [run_bind_ok hkind]
    rfl
  unfold makeDirectories
  rw [hname]
  dsimp only
  rw [run_bind_ok hlook, run_bind, run_lift, hmissing]
  exact @run_makeDirectoriesFrom fs directory.root directory.parts [] hdir

/-! ## 2. Writing files -/

/-- The bytes of a text; none for a text that has no form in bytes. -/
def bytesOf (t : Text) : ByteArray := (Text.encode? t).getD .empty

/-- What a file is stored under in a directory. -/
def namesOf (base : List Text) (file : Text × Text) : List Text :=
  base ++ [file.1]

/-- A file can be written into a directory: its name has no fault and is not that of a directory,
and its text has a form in bytes. -/
structure Writable (directory : Location) (base : List Text) (fs : FileSystem)
    (file : Text × Text) : Prop where
  fault : childFault? directory file.1 = none
  free : fs.get? (namesOf base file) ≠ some .directory
  encoded : Text.encode? file.2 = some (bytesOf file.2)

/-- The file system with a file in a directory. -/
def put (base : List Text) (fs : FileSystem) (file : Text × Text) : FileSystem :=
  fs.insert (namesOf base file) (.file (bytesOf file.2))

/-- The file system with several files in a directory. -/
def putAll (base : List Text) (fs : FileSystem) (files : List (Text × Text)) : FileSystem :=
  files.foldl (put base) fs

theorem namesOf_inj {f g : Text × Text} : namesOf base f = namesOf base g ↔ f.1 = g.1 := by
  unfold namesOf
  rw [List.append_cancel_left_eq, List.singleton_inj]

theorem working_putAll (base : List Text) : ∀ (files : List (Text × Text)) (fs : FileSystem),
    (putAll base fs files).working = fs.working
  | [], _ => rfl
  | file :: files, fs => working_putAll base files (put base fs file)

/-- A file that can be written is not on the way to the working directory. -/
theorem Writable.not_front {file : Text × Text} (h : Writable directory base fs file) :
    ¬ namesOf base file <+: fs.working := not_front_of_get? h.free

theorem keepsDirectories_put {file : Text × Text} (h : Writable directory base fs file) :
    KeepsDirectories fs (put base fs file) :=
  keepsDirectories_insert h.free

theorem writable_put {f g : Text × Text} (hg : Writable directory base fs g) :
    Writable directory base (put base fs g) f ↔ Writable directory base fs f := by
  have hfree : (put base fs g).get? (namesOf base f) ≠ some .directory ↔
      fs.get? (namesOf base f) ≠ some .directory := by
    unfold put
    by_cases heq : namesOf base f = namesOf base g
    · rw [heq, get?_insert_self hg.not_front]
      exact ⟨fun _ => hg.free, fun _ h => by cases h⟩
    · rw [get?_insert_ne heq]
  exact ⟨fun h => ⟨h.fault, hfree.mp h.free, h.encoded⟩,
    fun h => ⟨h.fault, hfree.mpr h.free, h.encoded⟩⟩

theorem writeText_iff {file : Text × Text} (hdir : fs.HasDirectory directory)
    (hplace : fs.place directory = base) (hup : file.1 ≠ up) :
    fs.run (writeText (directory.child file.1) file.2) = (.ok (), fs') ↔
      Writable directory base fs file ∧ fs' = put base fs file := by
  have hresolve := resolve_child hdir hup
  rw [hplace] at hresolve
  unfold writeText
  constructor
  · intro h
    cases hbytes : Text.encode? file.2 with
    | none =>
      rw [hbytes] at h
      obtain ⟨_, _, -, h⟩ := of_run_bind h
      cases h
    | some bytes =>
      rw [hbytes] at h
      dsimp only at h
      rw [run_mk, runPlain_write] at h
      obtain ⟨names, hnames, hfree, rfl⟩ := withFile_eq_ok.mp (of_settled_ok h)
      have hbytes' : bytesOf file.2 = bytes := by
        unfold bytesOf
        rw [hbytes]
        rfl
      rw [hnames] at hresolve
      cases hfault : childFault? directory file.1 with
      | some fault =>
        rw [hfault] at hresolve
        cases hresolve
      | none =>
        rw [hfault] at hresolve
        cases hresolve
        refine ⟨⟨hfault, hfree, hbytes'.symm ▸ hbytes⟩, ?_⟩
        rw [put, hbytes']
        rfl
  · rintro ⟨⟨hfault, hfree, hencoded⟩, rfl⟩
    rw [hfault] at hresolve
    rw [hencoded]
    dsimp only
    rw [run_mk, runPlain_write, withFile_eq_ok.mpr ⟨_, hresolve, hfree, rfl⟩]
    rfl

/-- **Files are written one after another**, if each of them can be written. -/
theorem writeFiles_iff : ∀ {files : List (Text × Text)} {fs fs' : FileSystem}
    {written : List Location}, fs.HasDirectory directory → fs.place directory = base →
      (∀ f ∈ files, f.1 ≠ up) →
        (fs.run (writeFiles directory files) = (.ok written, fs') ↔
          (∀ f ∈ files, Writable directory base fs f) ∧
            written = files.map (fun f => directory.child f.1) ∧ fs' = putAll base fs files)
  | [], fs, fs', written, _, _, _ => by
    constructor
    · intro h
      cases h
      exact ⟨fun _ hmem => absurd hmem List.not_mem_nil, rfl, rfl⟩
    · rintro ⟨-, rfl, rfl⟩
      rfl
  | file :: files, fs, fs', written, hdir, hplace, hup => by
    have hfirst := @writeText_iff directory base fs (put base fs file) file hdir hplace
      (hup file List.mem_cons_self)
    have hup' : ∀ f ∈ files, f.1 ≠ up :=
      fun f hf => hup f (List.mem_cons_of_mem file hf)
    unfold writeFiles
    constructor
    · intro h
      obtain ⟨_, mid, htext, h⟩ := of_run_bind h
      obtain ⟨rest, mid', hrest, h⟩ := of_run_bind h
      obtain ⟨hfile, rfl⟩ := (writeText_iff hdir hplace (hup file List.mem_cons_self)).mp htext
      have hdir' := hdir.mono (keepsDirectories_put hfile)
      obtain ⟨hfiles, rfl, rfl⟩ := (writeFiles_iff hdir' hplace hup').mp hrest
      cases h
      refine ⟨fun f hf => ?_, rfl, rfl⟩
      rcases List.mem_cons.mp hf with rfl | hf
      · exact hfile
      · exact (writable_put hfile).mp (hfiles f hf)
    · rintro ⟨hall, rfl, rfl⟩
      have hfile := hall file List.mem_cons_self
      have hdir' := hdir.mono (keepsDirectories_put hfile)
      have hfiles : ∀ f ∈ files, Writable directory base (put base fs file) f :=
        fun f hf => (writable_put hfile).mpr (hall f (List.mem_cons_of_mem file hf))
      have hrest := (writeFiles_iff hdir' hplace hup').mpr ⟨hfiles, rfl, rfl⟩
      show fs.run (writeText (directory.child file.1) file.2 >>= _) = _
      rw [run_bind_ok (hfirst.mpr ⟨hfile, rfl⟩), run_bind_ok hrest]
      rfl

theorem get?_putAll_of_ne {names : List Text} : ∀ {files : List (Text × Text)}
    {fs : FileSystem}, (∀ f ∈ files, names ≠ namesOf base f) →
      (putAll base fs files).get? names = fs.get? names
  | [], _, _ => rfl
  | file :: files, fs, h => by
    show (putAll base (put base fs file) files).get? names = _
    rw [get?_putAll_of_ne fun f hf => h f (List.mem_cons_of_mem file hf), put,
      get?_insert_ne (h file List.mem_cons_self)]

/-- Of files with different names each is there after all are written. -/
theorem get?_putAll {file : Text × Text} : ∀ {files : List (Text × Text)} {fs : FileSystem},
    ¬ namesOf base file <+: fs.working → (files.map Prod.fst).Nodup → file ∈ files →
      (putAll base fs files).get? (namesOf base file) = some (.file (bytesOf file.2))
  | first :: files, fs, hfree, hnodup, hmem => by
    rw [List.map_cons, List.nodup_cons] at hnodup
    show (putAll base (put base fs first) files).get? _ = _
    rcases List.mem_cons.mp hmem with rfl | hmem
    · rw [get?_putAll_of_ne, put, get?_insert_self hfree]
      intro f hf hsame
      exact hnodup.1 (namesOf_inj.mp hsame ▸ List.mem_map_of_mem hf)
    · exact @get?_putAll file files (put base fs first) hfree hnodup.2 hmem

/-! ## 3. Building -/

/-- The names of the files of a build are those of generated files, and no two are the same. -/
structure ProperNames (files : List (Text × Text)) : Prop where
  isGenerated : ∀ f ∈ files, isGenerated f.1 = true
  nodup : (files.map Prod.fst).Nodup

/-- What a successful build consists of: the directory is made, cleaned, and the files are put into
it. -/
structure Emitted (directory : Location) (base : List Text) (files : List (Text × Text))
    (fs made cleaned fs' : FileSystem) (removed : List Location) : Prop where
  place : fs.place directory = base
  makes : fs.run (makeDirectories directory) = (.ok (), made)
  hasDirectory : made.HasDirectory directory
  cleans : made.run (clean directory) = (.ok removed, cleaned)
  writable : ∀ f ∈ files, Writable directory base cleaned f
  puts : fs' = putAll base cleaned files

variable {link : LinkSource} {n : Navigation} {pages : List (Text × Page)}

/-- **What a successful build does.** -/
theorem emit_ok {report : Report} (hnames : ProperNames (files link n pages))
    (h : fs.run (emit link n pages directory) = (.ok report, fs')) :
    ∃ base made cleaned,
      Emitted directory base (files link n pages) fs made cleaned fs' report.removed ∧
        report.written = (files link n pages).map (fun f => directory.child f.1) ∧
        report.broken = Reference.broken link (pages.map (·.1)) n := by
  unfold emit at h
  obtain ⟨_, made, hmakes, h⟩ := of_run_bind h
  obtain ⟨removed, cleaned, hcleans, h⟩ := of_run_bind h
  obtain ⟨written, after, hwrites, h⟩ := of_run_bind h
  cases h
  have hmade := hasDirectory_of_makeDirectories hmakes
  have hmaking : Frame (fun _ => False) directory fs made := by
    have := (within_makeDirectories (fun _ => False) directory fs).frame
    rwa [hmakes] at this
  have hcleaning : Frame (fun name => isGenerated name = true) directory made cleaned := by
    have := (within_clean directory made).frame
    rwa [hcleans] at this
  have hplace : cleaned.place directory = fs.place directory :=
    place_congr (hcleaning.working.trans hmaking.working) directory
  have hup : ∀ f ∈ files link n pages, f.1 ≠ up :=
    fun f hf => ne_up_of_isGenerated (hnames.isGenerated f hf)
  obtain ⟨hwritable, rfl, rfl⟩ :=
    (writeFiles_iff (hmade.mono hcleaning.keepsDirectories) hplace hup).mp hwrites
  exact ⟨_, made, cleaned, ⟨rfl, hmakes, hmade, hcleans, hwritable, rfl⟩, rfl, rfl⟩

end ApiDocs.Output
