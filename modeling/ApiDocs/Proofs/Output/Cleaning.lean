import ApiDocs.Proofs.Output.Frame

/-!
# What cleaning does

Cleaning a directory removes the generated files that stand directly in it, and nothing else
(`Cleaned`): after it there are none (`Cleaned.no_file`), what it returns are the places where they
were, and under all other names stands what stood there.

It succeeds unless a generated file has a name that the system does not take (`exists_run_clean`), which no
file written under its name has.
-/

namespace ApiDocs.Output

open FileSystem

variable {directory : Location} {fs mid fs' : FileSystem}

/-! ## 1. Files that are in the way -/

/-- Under the names stands a file directly in a directory, with a name of a certain kind. -/
def Stale (P : Text → Prop) (directory : Location) (fs : FileSystem) (names : List Text) : Prop :=
  ∃ name, P name ∧ fs.place (directory.child name) = names ∧
    ∃ content, fs.HasFile (directory.child name) content

/-- What is left of a file system without the files directly in a directory that have names of a
certain kind, and where these were. -/
structure Cleaned (P : Text → Prop) (directory : Location) (fs fs' : FileSystem)
    (removed : List Location) : Prop where
  working : fs'.working = fs.working
  removed : ∀ l, l ∈ removed ↔ ∃ name, P name ∧ l = directory.child name ∧
    ∃ content, fs.HasFile l content
  gone : ∀ names, Stale P directory fs names → fs'.get? names = none
  kept : ∀ names, ¬ Stale P directory fs names → fs'.get? names = fs.get? names

/-- Whether files are removed depends on the kinds of the names that files have. -/
theorem Cleaned.congr {P Q : Text → Prop} {removed : List Location}
    (h : Cleaned P directory fs fs' removed)
    (hPQ : ∀ name content, fs.HasFile (directory.child name) content → (P name ↔ Q name)) :
    Cleaned Q directory fs fs' removed := by
  have hstale : ∀ names, Stale P directory fs names ↔ Stale Q directory fs names := by
    intro names
    constructor
    · rintro ⟨name, hP, hplace, content, hfile⟩
      exact ⟨name, (hPQ name content hfile).mp hP, hplace, content, hfile⟩
    · rintro ⟨name, hQ, hplace, content, hfile⟩
      exact ⟨name, (hPQ name content hfile).mpr hQ, hplace, content, hfile⟩
  refine ⟨h.working, fun l => (h.removed l).trans ?_, fun names hs => h.gone names ((hstale names).mpr hs),
    fun names hs => h.kept names fun hs' => hs ((hstale names).mp hs')⟩
  constructor
  · rintro ⟨name, hP, rfl, content, hfile⟩
    exact ⟨name, (hPQ name content hfile).mp hP, rfl, content, hfile⟩
  · rintro ⟨name, hQ, rfl, content, hfile⟩
    exact ⟨name, (hPQ name content hfile).mpr hQ, rfl, content, hfile⟩

/-- Nothing is removed where there is no such file. -/
theorem Cleaned.refl {P : Text → Prop}
    (h : ∀ name content, P name → ¬ fs.HasFile (directory.child name) content) :
    Cleaned P directory fs fs [] := by
  refine ⟨rfl, fun l => ⟨fun hl => absurd hl List.not_mem_nil, ?_⟩, ?_, fun _ _ => rfl⟩
  · rintro ⟨name, hP, rfl, content, hfile⟩
    exact absurd hfile (h name content hP)
  · rintro names ⟨name, hP, -, content, hfile⟩
    exact absurd hfile (h name content hP)

theorem stale_iff {P : Text → Prop} (hdir : fs.HasDirectory directory)
    (hup : ∀ name, P name → name ≠ up) {names : List Text} :
    Stale P directory fs names ↔ ∃ name content, P name ∧ names = fs.place directory ++ [name] ∧
      childFault? directory name = none ∧ fs.get? names = some (.file content) := by
  constructor
  · rintro ⟨name, hP, rfl, content, hfile⟩
    obtain ⟨hfault, hget⟩ := (entryAt_child hdir (hup name hP)).mp hfile
    rw [place_child_of_ne_up (hup name hP)]
    exact ⟨name, content, hP, rfl, hfault, hget⟩
  · rintro ⟨name, content, hP, rfl, hfault, hget⟩
    exact ⟨name, hP, place_child_of_ne_up (hup name hP) fs directory, content,
      (entryAt_child hdir (hup name hP)).mpr ⟨hfault, hget⟩⟩

/-! ## 2. Removing several files -/

/-- One file less is a step of the cleaning. -/
theorem Cleaned.cons {name : Text} {ns : List Text} {content : ByteArray}
    {removed : List Location} (hdir : fs.HasDirectory directory)
    (hup : ∀ other ∈ name :: ns, other ≠ up)
    (hfile : fs.HasFile (directory.child name) content)
    (h : Cleaned (· ∈ ns) directory (fs.erase (fs.place directory ++ [name])) fs' removed) :
    Cleaned (· ∈ name :: ns) directory fs fs' (directory.child name :: removed) := by
  obtain ⟨hfault, hget⟩ := (entryAt_child hdir (hup name List.mem_cons_self)).mp hfile
  have hdir' := hdir.mono (keepsDirectories_erase hget)
  have hplace : (fs.erase (fs.place directory ++ [name])).place directory = fs.place directory :=
    rfl
  have hnone : (fs.erase (fs.place directory ++ [name])).get? (fs.place directory ++ [name])
      = none :=
    get?_erase_self (not_front_of_get? (by rw [hget]; exact nofun))
  -- a file that is left is one of those before, and not the one that is removed
  have hleft : ∀ other ∈ ns, ∀ c,
      (fs.erase (fs.place directory ++ [name])).HasFile (directory.child other) c ↔
        other ≠ name ∧ fs.HasFile (directory.child other) c := by
    intro other hother c
    have hother' := hup other (List.mem_cons_of_mem name hother)
    unfold HasFile
    rw [entryAt_child hdir' hother', entryAt_child hdir hother', hplace]
    by_cases heq : other = name
    · rw [heq, hnone]
      exact ⟨fun hbad => (by cases hbad.2), fun hbad => absurd rfl hbad.1⟩
    · have hnames : fs.place directory ++ [other] ≠ fs.place directory ++ [name] := fun hsame =>
        heq (List.singleton_inj.mp (List.append_cancel_left hsame))
      rw [get?_erase_ne hnames]
      exact ⟨fun hgood => ⟨heq, hgood⟩, fun hgood => hgood.2⟩
  have hstale : ∀ names, names ≠ fs.place directory ++ [name] →
      (Stale (· ∈ name :: ns) directory fs names ↔
        Stale (· ∈ ns) directory (fs.erase (fs.place directory ++ [name])) names) := by
    intro names hnames
    rw [stale_iff hdir hup,
      stale_iff hdir' (fun other hother => hup other (List.mem_cons_of_mem name hother)), hplace,
      get?_erase_ne hnames]
    constructor
    · rintro ⟨other, c, hother, rfl, hrest⟩
      rcases List.mem_cons.mp hother with rfl | hother
      · exact absurd rfl hnames
      · exact ⟨other, c, hother, rfl, hrest⟩
    · rintro ⟨other, c, hother, rfl, hrest⟩
      exact ⟨other, c, List.mem_cons_of_mem name hother, rfl, hrest⟩
  have hgone : fs'.get? (fs.place directory ++ [name]) = none := by
    rw [h.kept, hnone]
    rintro ⟨other, hother, hnames, c, hc⟩
    rw [place_child_of_ne_up (hup other (List.mem_cons_of_mem name hother)), hplace] at hnames
    have hsame := List.append_cancel_left hnames
    exact ((hleft other hother c).mp hc).1 (List.singleton_inj.mp hsame)
  refine ⟨h.working, fun l => ?_, fun names hs => ?_, fun names hs => ?_⟩
  · rw [List.mem_cons, h.removed l]
    constructor
    · rintro (rfl | ⟨other, hother, rfl, c, hc⟩)
      · exact ⟨name, List.mem_cons_self, rfl, content, hfile⟩
      · exact ⟨other, List.mem_cons_of_mem name hother, rfl, c, ((hleft other hother c).mp hc).2⟩
    · rintro ⟨other, hother, rfl, c, hc⟩
      by_cases heq : other = name
      · exact Or.inl (by rw [heq])
      · have hother' := (List.mem_cons.mp hother).resolve_left heq
        exact Or.inr ⟨other, hother', rfl, c, (hleft other hother' c).mpr ⟨heq, hc⟩⟩
  · by_cases hnames : names = fs.place directory ++ [name]
    · rw [hnames, hgone]
    · exact h.gone names ((hstale names hnames).mp hs)
  · by_cases hnames : names = fs.place directory ++ [name]
    · refine absurd ((stale_iff hdir hup).mpr ?_) hs
      exact ⟨name, content, List.mem_cons_self, hnames, hfault, hnames ▸ hget⟩
    · rw [h.kept names fun hs' => hs ((hstale names hnames).mpr hs'), get?_erase_ne hnames]

theorem Cleaned.skip {name : Text} {ns : List Text} {removed : List Location}
    (hfile : ∀ content, ¬ fs.HasFile (directory.child name) content)
    (h : Cleaned (· ∈ ns) directory fs fs' removed) :
    Cleaned (· ∈ name :: ns) directory fs fs' removed := by
  refine h.congr fun other content hother => ⟨List.mem_cons_of_mem name, fun hmem => ?_⟩
  refine (List.mem_cons.mp hmem).resolve_left fun heq => ?_
  rw [heq] at hother
  exact hfile content hother

/-- **Removing files removes those that there are**, unless one of the names is refused. -/
theorem removeFiles_spec : ∀ {ns : List Text} {fs : FileSystem}, fs.HasDirectory directory →
    (∀ name ∈ ns, name ≠ up) → (∀ name ∈ ns, childFault? directory name ≠ some .refused) →
      ∃ removed fs', fs.run (removeFiles directory ns) = (.ok removed, fs') ∧
        Cleaned (· ∈ ns) directory fs fs' removed
  | [], fs, _, _, _ =>
    ⟨[], fs, rfl, Cleaned.refl fun _ _ hmem => absurd hmem List.not_mem_nil⟩
  | name :: ns, fs, hdir, hup, hfault => by
    have hname := hup name List.mem_cons_self
    have hup' : ∀ other ∈ ns, other ≠ up := fun other ho => hup other (List.mem_cons_of_mem _ ho)
    have hfault' : ∀ other ∈ ns, childFault? directory other ≠ some .refused :=
      fun other ho => hfault other (List.mem_cons_of_mem _ ho)
    unfold removeFiles
    by_cases hfile : ∃ content, fs.HasFile (directory.child name) content
    · obtain ⟨content, hfile⟩ := hfile
      have hentry := (entryAt_child hdir hname).mp hfile
      have hresolve := resolve_child hdir hname
      rw [hentry.1] at hresolve
      have hremove := withoutFile_eq_ok.mpr ⟨_, content, hresolve, hentry.2, rfl⟩
      have hdir' := hdir.mono (keepsDirectories_erase hentry.2)
      obtain ⟨removed, fs', hrun, hclean⟩ := removeFiles_spec hdir' hup' hfault'
      refine ⟨directory.child name :: removed, fs', ?_, hclean.cons hdir hup hfile⟩
      rw [run_bind, run_isFile, kindAt_eq_file.mpr ⟨content, hfile⟩]
      show fs.run (ExceptT.mk (FileAccess.remove (directory.child name)) >>= _) = _
      rw [run_bind, run_mk, runPlain_remove, hremove]
      show (fs.erase (fs.place directory ++ [name])).run (removeFiles directory ns >>= _) = _
      rw [run_bind, hrun]
      rfl
    · obtain ⟨removed, fs', hrun, hclean⟩ := removeFiles_spec hdir hup' hfault'
      have hfile' : ∀ content, ¬ fs.HasFile (directory.child name) content :=
        fun content hc => hfile ⟨content, hc⟩
      refine ⟨removed, fs', ?_, hclean.skip hfile'⟩
      rw [run_bind, run_isFile]
      rcases hkind : fs.kindAt (directory.child name) with fault | _ | _ | _
      · exact absurd ((kindAt_child_eq_error hdir hname).mp hkind).1
          (hfault name List.mem_cons_self)
      · exact hrun
      · exact absurd (kindAt_eq_file.mp hkind) hfile
      · exact hrun

/-- A name that is refused makes the removing fail. -/
theorem not_refused_of_removeFiles : ∀ {ns : List Text} {fs fs' : FileSystem}
    {removed : List Location}, fs.HasDirectory directory → (∀ name ∈ ns, name ≠ up) →
      fs.run (removeFiles directory ns) = (.ok removed, fs') →
        ∀ name ∈ ns, childFault? directory name ≠ some .refused
  | [], _, _, _, _, _, _ => fun _ hmem => absurd hmem List.not_mem_nil
  | name :: ns, fs, fs', removed, hdir, hup, hrun => by
    have hname := hup name List.mem_cons_self
    have hup' : ∀ other ∈ ns, other ≠ up := fun other ho => hup other (List.mem_cons_of_mem _ ho)
    unfold removeFiles at hrun
    obtain ⟨found, mid, hfound, hrun⟩ := of_run_bind hrun
    rw [run_isFile] at hfound
    obtain ⟨hkind, rfl⟩ := Prod.mk.inj hfound
    have hfirst : childFault? directory name ≠ some .refused := by
      intro hrefused
      rw [(kindAt_child_eq_error hdir hname).mpr ⟨hrefused, rfl⟩] at hkind
      cases hkind
    have hrest : ∀ other ∈ ns, childFault? directory other ≠ some .refused := by
      cases found with
      | false => exact not_refused_of_removeFiles hdir hup' hrun
      | true =>
        obtain ⟨_, mid, hremove, hrun⟩ := of_run_bind hrun
        obtain ⟨removed', mid', hrun, -⟩ := of_run_bind hrun
        rw [run_mk, runPlain_remove] at hremove
        obtain ⟨names, content, -, hget, rfl⟩ := withoutFile_eq_ok.mp (of_settled_ok hremove)
        exact not_refused_of_removeFiles (hdir.mono (keepsDirectories_erase hget)) hup' hrun
    intro other hother
    rcases List.mem_cons.mp hother with rfl | hother
    · exact hfirst
    · exact hrest other hother

/-! ## 3. Cleaning a directory -/

/-- The generated files directly in a directory are gone. -/
abbrev CleanedOf (directory : Location) (fs fs' : FileSystem) (removed : List Location) : Prop :=
  Cleaned (fun name => isGenerated name = true) directory fs fs' removed

theorem run_clean (hdir : fs.HasDirectory directory) :
    fs.run (clean directory) = fs.run (removeFiles directory (generated (fs.namesAt directory))) := by
  unfold clean
  rw [run_bind, run_isDirectory, kindAt_eq_directory.mpr hdir]
  rfl

theorem ne_up_of_mem_generated {ns : List Text} : ∀ name ∈ generated ns, name ≠ up :=
  fun _ hname => ne_up_of_isGenerated (mem_generated.mp hname).2

/-- What removing the generated ones of the names in a directory does is cleaning it. -/
theorem cleanedOf_of_names {removed : List Location} (hdir : fs.HasDirectory directory)
    (h : Cleaned (· ∈ generated (fs.namesAt directory)) directory fs fs' removed) :
    CleanedOf directory fs fs' removed := by
  refine h.congr fun name content hfile => ?_
  rw [mem_generated, and_iff_right_iff_imp]
  intro hname
  obtain ⟨-, hget⟩ := (entryAt_child hdir (ne_up_of_isGenerated hname)).mp hfile
  rw [mem_namesAt (entryAt_eq_ok.mp hdir).1, hget]
  exact nofun

/-- **Cleaning a directory succeeds** unless the system does not take the name of a generated file
there. -/
theorem exists_run_clean (hdir : fs.HasDirectory directory)
    (h : ∀ name, isGenerated name = true → fs.get? (fs.place directory ++ [name]) ≠ none →
      childFault? directory name ≠ some .refused) :
    ∃ removed fs', fs.run (clean directory) = (.ok removed, fs') := by
  rw [run_clean hdir]
  have hfault : ∀ name ∈ generated (fs.namesAt directory),
      childFault? directory name ≠ some .refused := by
    intro name hmem
    obtain ⟨hlisted, hname⟩ := mem_generated.mp hmem
    exact h name hname ((mem_namesAt (entryAt_eq_ok.mp hdir).1).mp hlisted)
  obtain ⟨removed, fs', hrun, -⟩ := removeFiles_spec hdir ne_up_of_mem_generated hfault
  exact ⟨removed, fs', hrun⟩

theorem not_refused_of_clean {removed : List Location} (hdir : fs.HasDirectory directory)
    (h : fs.run (clean directory) = (.ok removed, fs')) {name : Text}
    (hname : isGenerated name = true) (hget : fs.get? (fs.place directory ++ [name]) ≠ none) :
    childFault? directory name ≠ some .refused := by
  rw [run_clean hdir] at h
  have hlisted := (mem_namesAt (entryAt_eq_ok.mp hdir).1).mpr hget
  exact not_refused_of_removeFiles hdir ne_up_of_mem_generated h name
    (mem_generated.mpr ⟨hlisted, hname⟩)

/-- **What a successful cleaning does.** -/
theorem clean_ok {removed : List Location} (h : fs.run (clean directory) = (.ok removed, fs')) :
    CleanedOf directory fs fs' removed := by
  by_cases hdir : fs.HasDirectory directory
  · have hfault : ∀ name ∈ generated (fs.namesAt directory),
        childFault? directory name ≠ some .refused := by
      rw [run_clean hdir] at h
      exact not_refused_of_removeFiles hdir ne_up_of_mem_generated h
    obtain ⟨removed', fs'', hrun, hclean⟩ := removeFiles_spec hdir ne_up_of_mem_generated hfault
    rw [run_clean hdir, hrun] at h
    cases h
    exact cleanedOf_of_names hdir hclean
  · unfold clean at h
    obtain ⟨found, mid, hfound, hrest⟩ := of_run_bind h
    rw [run_isDirectory] at hfound
    obtain ⟨hkind, rfl⟩ := Prod.mk.inj hfound
    cases found with
    | true =>
      refine absurd (kindAt_eq_directory.mp ?_) hdir
      generalize fs.kindAt directory = kind at hkind
      rcases kind with fault | _ | _ | _ <;> cases hkind
      rfl
    | false =>
      cases hrest
      exact Cleaned.refl fun name content _ hfile => hdir hfile.hasDirectory

/-- A directory that cannot be found is not cleaned. -/
theorem run_clean_of_not_hasDirectory (hdir : ¬ fs.HasDirectory directory) :
    (fs.run (clean directory)).2 = fs := by
  unfold clean
  rw [run_bind, run_isDirectory]
  rcases hk : fs.kindAt directory with fault | _ | _ | _
  · rfl
  · rfl
  · rfl
  · exact absurd (kindAt_eq_directory.mp hk) hdir

/-- **After cleaning a directory there is no generated file in it.** -/
theorem Cleaned.no_file {removed : List Location} (h : CleanedOf directory fs fs' removed)
    {name : Text} (hname : isGenerated name = true) (content : ByteArray) :
    ¬ fs'.HasFile (directory.child name) content := by
  intro hfile
  obtain ⟨hresolve, hget⟩ := entryAt_eq_ok.mp hfile
  -- cleaning makes no directories, so the file was found before as well
  have hdirs : KeepsDirectories fs' fs := by
    refine ⟨h.working.symm, fun other hother => ?_⟩
    by_cases hs : Stale (fun name => isGenerated name = true) directory fs other
    · rw [h.gone other hs] at hother
      cases hother
    · rwa [← h.kept other hs]
  by_cases hs : Stale (fun name => isGenerated name = true) directory fs
      (fs'.place (directory.child name))
  · rw [h.gone _ hs] at hget
    cases hget
  · rw [h.kept _ hs] at hget
    rw [place_congr h.working] at hs hresolve hget
    exact hs ⟨name, hname, rfl, content,
      entryAt_eq_ok.mpr ⟨resolve_mono hdirs hresolve, hget⟩⟩

end ApiDocs.Output
