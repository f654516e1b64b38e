import ApiDocs.Proofs.Output.Writing

/-!
# Building twice, and cleaning after a build

After a successful build the generated files in the directory are exactly those of the build
(`Emitted.hasFile_iff`).  So cleaning the directory now succeeds and takes away just these: what is
left is what the cleaning within the build had left (`Emitted.run_clean`).  From there the files can
be written again, and a second build ends where the first one ended (`Emitted.run_emit`).

What the cleaning within the build leaves is what cleaning leaves without any build, up to the
directories made on the way to the directory (`Emitted.clean_alone`).  That is for directories
whose path does not lead back up: a path like `a/b/..` leads nowhere as long as there is no `b`, and
only making `b` brings the files of `a` within the reach of cleaning.
-/

namespace ApiDocs.Output

open FileSystem FileAccess

variable {directory : Location} {base : List Text} {files : List (Text × Text)}
  {fs made cleaned fs' : FileSystem} {removed : List Location}

/-! ## 1. What stands in the directory -/

theorem keepsDirectories_putAll (h : ∀ f ∈ files, Writable directory base fs f) :
    KeepsDirectories fs (putAll base fs files) := by
  refine ⟨working_putAll base files fs, fun names hdir => ?_⟩
  rw [get?_putAll_of_ne, hdir]
  rintro f hf rfl
  exact (h f hf).free hdir

namespace Emitted

variable (h : Emitted directory base files fs made cleaned fs' removed)

include h

theorem cleanedOf : CleanedOf directory made cleaned removed := clean_ok h.cleans

theorem frame_made : Frame (fun _ => False) directory fs made := by
  have hsteps := within_makeDirectories (fun _ => False) directory fs
  rw [h.makes] at hsteps
  exact hsteps.frame

/-- Making the directory has left everything else as it was. -/
theorem get?_made (names : List Text) : made.get? names = fs.get? names ∨
    (OnWay fs directory names ∧ fs.get? names = none ∧ made.get? names = some .directory) := by
  rcases h.frame_made.kept names with hsame | ⟨⟨_, _, hfalse⟩, _⟩ | ⟨hway, hnone, hmade⟩
  · exact Or.inl hsame
  · exact hfalse.elim
  · exact Or.inr ⟨hway, hnone, hmade⟩

theorem hasDirectory_cleaned : cleaned.HasDirectory directory := by
  have hsteps := within_clean directory made
  rw [h.cleans] at hsteps
  exact h.hasDirectory.mono hsteps.frame.keepsDirectories

theorem hasDirectory_after : fs'.HasDirectory directory := by
  rw [h.puts]
  exact h.hasDirectory_cleaned.mono (keepsDirectories_putAll h.writable)

/-- The directory has the same place at all times. -/
theorem places : made.place directory = base ∧ cleaned.place directory = base ∧
    fs'.place directory = base := by
  have hmade : made.place directory = base :=
    (place_congr h.frame_made.working directory).trans h.place
  have hcleaned : cleaned.place directory = base :=
    (place_congr h.cleanedOf.working directory).trans hmade
  refine ⟨hmade, hcleaned, ?_⟩
  rw [h.puts]
  exact (place_congr (working_putAll base files cleaned) directory).trans hcleaned

/-- Where a file of the build was put it stands. -/
theorem get?_file (hnodup : (files.map Prod.fst).Nodup) {f : Text × Text} (hf : f ∈ files) :
    fs'.get? (namesOf base f) = some (.file (bytesOf f.2)) := by
  rw [h.puts]
  exact get?_putAll (h.writable f hf).not_front hnodup hf

/-- Under a name that is none of the files stands what the cleaning has left. -/
theorem get?_of_no_file {name : Text} (hmem : ¬ ∃ f ∈ files, f.1 = name) :
    fs'.get? (base ++ [name]) = cleaned.get? (base ++ [name]) := by
  rw [h.puts]
  refine get?_putAll_of_ne fun f hf hsame => hmem ⟨f, hf, ?_⟩
  exact (List.singleton_inj.mp (List.append_cancel_left hsame)).symm

variable (hnames : ProperNames files)

include hnames

/-- **The generated files after a build are those of the build**, with their texts. -/
theorem hasFile_iff {name : Text} (hname : isGenerated name = true) {content : ByteArray} :
    fs'.HasFile (directory.child name) content ↔
      ∃ f ∈ files, f.1 = name ∧ Text.encode? f.2 = some content := by
  have hup := ne_up_of_isGenerated hname
  obtain ⟨-, hcleaned, hafter⟩ := h.places
  rw [HasFile, entryAt_child h.hasDirectory_after hup, hafter]
  constructor
  · rintro ⟨hfault, hget⟩
    by_cases hmem : ∃ f ∈ files, f.1 = name
    · obtain ⟨f, hf, rfl⟩ := hmem
      have hput := h.get?_file hnames.nodup hf
      rw [namesOf, hget] at hput
      cases hput
      exact ⟨f, hf, rfl, (h.writable f hf).encoded⟩
    · rw [h.get?_of_no_file hmem] at hget
      refine absurd ?_ (h.cleanedOf.no_file hname content)
      exact (entryAt_child h.hasDirectory_cleaned hup).mpr ⟨hfault, hcleaned.symm ▸ hget⟩
  · rintro ⟨f, hf, rfl, hcontent⟩
    have hwritable := h.writable f hf
    rw [hwritable.encoded] at hcontent
    cases hcontent
    exact ⟨hwritable.fault, h.get?_file hnames.nodup hf⟩

/-- Each file of the build is there after it, with its text. -/
theorem contentAt_file {name t : Text} (hf : (name, t) ∈ files) :
    fs'.contentAt (directory.child name) = .ok (bytesOf t) :=
  FileSystem.hasFile_iff.mp ((h.hasFile_iff hnames (hnames.isGenerated _ hf)).mpr
    ⟨(name, t), hf, rfl, (h.writable _ hf).encoded⟩)

/-- There is a generated file under some names after a build exactly if the build put it there. -/
theorem stale_iff_mem (names : List Text) :
    Stale (fun name => isGenerated name = true) directory fs' names ↔
      ∃ f ∈ files, names = namesOf base f := by
  obtain ⟨-, -, hafter⟩ := h.places
  rw [stale_iff h.hasDirectory_after fun name => ne_up_of_isGenerated]
  constructor
  · rintro ⟨name, content, hname, rfl, hfault, hget⟩
    obtain ⟨f, hf, rfl, -⟩ := (h.hasFile_iff hnames hname).mp
      ((entryAt_child h.hasDirectory_after (ne_up_of_isGenerated hname)).mpr ⟨hfault, hget⟩)
    exact ⟨f, hf, by rw [hafter]; rfl⟩
  · rintro ⟨f, hf, rfl⟩
    exact ⟨_, bytesOf f.2, hnames.isGenerated f hf, by rw [hafter]; rfl, (h.writable f hf).fault,
      h.get?_file hnames.nodup hf⟩

/-- Where the build puts a file there was nothing left. -/
theorem get?_cleaned {f : Text × Text} (hf : f ∈ files) :
    cleaned.get? (namesOf base f) = none := by
  have hwritable := h.writable f hf
  have hname := hnames.isGenerated f hf
  rcases hget : cleaned.get? (namesOf base f) with _ | ⟨content⟩ | _
  · rfl
  · refine absurd ?_ (h.cleanedOf.no_file hname content)
    exact (entryAt_child h.hasDirectory_cleaned (ne_up_of_isGenerated hname)).mpr
      ⟨hwritable.fault, h.places.2.1.symm ▸ hget⟩
  · exact absurd hget hwritable.free

/-! ## 2. Cleaning after a build -/

/-- **Cleaning after a build succeeds and takes away what the build wrote.** -/
theorem run_clean : ∃ removed' cleaned', fs'.run (clean directory) = (.ok removed', cleaned') ∧
    (∀ names, cleaned'.get? names = cleaned.get? names) ∧
      ∀ l, l ∈ removed' ↔ l ∈ files.map (fun f => directory.child f.1) := by
  obtain ⟨removed', cleaned', hrun⟩ : ∃ removed' cleaned',
      fs'.run (clean directory) = (.ok removed', cleaned') := by
    obtain ⟨hmade, -, hafter⟩ := h.places
    refine exists_run_clean h.hasDirectory_after fun name hname hget => ?_
    rw [hafter] at hget
    by_cases hmem : ∃ f ∈ files, f.1 = name
    · obtain ⟨f, hf, rfl⟩ := hmem
      rw [(h.writable f hf).fault]
      exact fun hbad => by cases hbad
    · -- the name was there before the build, which has looked at it already
      refine not_refused_of_clean h.hasDirectory h.cleans hname fun hnone => hget ?_
      rw [hmade] at hnone
      rw [h.get?_of_no_file hmem]
      by_cases hs : Stale (fun name => isGenerated name = true) directory made (base ++ [name])
      · exact h.cleanedOf.gone _ hs
      · rw [h.cleanedOf.kept _ hs, hnone]
  have hclean := clean_ok hrun
  refine ⟨removed', cleaned', hrun, fun names => ?_, fun l => ?_⟩
  · by_cases hmem : ∃ f ∈ files, names = namesOf base f
    · rw [hclean.gone names ((h.stale_iff_mem hnames names).mpr hmem)]
      obtain ⟨f, hf, rfl⟩ := hmem
      exact (h.get?_cleaned hnames hf).symm
    · rw [hclean.kept names fun hs => hmem ((h.stale_iff_mem hnames names).mp hs), h.puts,
        get?_putAll_of_ne fun f hf hsame => hmem ⟨f, hf, hsame⟩]
  · rw [hclean.removed, List.mem_map]
    constructor
    · rintro ⟨name, hname, rfl, content, hfile⟩
      obtain ⟨f, hf, rfl, -⟩ := (h.hasFile_iff hnames hname).mp hfile
      exact ⟨f, hf, rfl⟩
    · rintro ⟨f, hf, rfl⟩
      have hname := hnames.isGenerated f hf
      exact ⟨_, hname, rfl, bytesOf f.2,
        (h.hasFile_iff hnames hname).mpr ⟨f, hf, rfl, (h.writable f hf).encoded⟩⟩

end Emitted

/-! ## 3. Building once more -/

theorem get?_put_congr {fs₁ fs₂ : FileSystem} (hworking : fs₁.working = fs₂.working)
    (h : ∀ names, fs₁.get? names = fs₂.get? names) (file : Text × Text) (names : List Text) :
    (put base fs₁ file).get? names = (put base fs₂ file).get? names := by
  unfold put
  by_cases heq : names = namesOf base file
  · subst heq
    by_cases hprefix : namesOf base file <+: fs₁.working
    · rw [@get?_of_front _ (fs₁.insert _ _) hprefix,
        @get?_of_front _ (fs₂.insert _ _) (hworking ▸ hprefix)]
    · rw [get?_insert_self hprefix, get?_insert_self (hworking ▸ hprefix)]
  · rw [get?_insert_ne heq, get?_insert_ne heq, h]

theorem get?_putAll_congr : ∀ {files : List (Text × Text)} {fs₁ fs₂ : FileSystem},
    fs₁.working = fs₂.working → (∀ names, fs₁.get? names = fs₂.get? names) →
      ∀ names, (putAll base fs₁ files).get? names = (putAll base fs₂ files).get? names
  | [], _, _, _, h => h
  | file :: files, fs₁, fs₂, hworking, h =>
    @get?_putAll_congr files (put base fs₁ file) (put base fs₂ file) hworking
      (get?_put_congr hworking h file)

namespace Emitted

variable {link : LinkSource} {n : Navigation} {pages : List (Text × Page)}

/-- **A second build succeeds and changes nothing.**  It removes what the first one wrote. -/
theorem run_emit
    (h : Emitted directory base (Output.files link n pages) fs made cleaned fs' removed)
    (hnames : ProperNames (Output.files link n pages)) :
    ∃ report fs'', fs'.run (emit link n pages directory) = (.ok report, fs'') ∧
      report.written = (Output.files link n pages).map (fun f => directory.child f.1) ∧
      (∀ l, l ∈ report.removed ↔
        l ∈ (Output.files link n pages).map (fun f => directory.child f.1)) ∧
      ∀ names, fs''.get? names = fs'.get? names := by
  obtain ⟨removed', cleaned', hclean, hsame, hremoved⟩ := h.run_clean hnames
  have hdir := h.hasDirectory_after
  have hframe : Frame (fun name => isGenerated name = true) directory fs' cleaned' := by
    have hsteps := within_clean directory fs'
    rw [hclean] at hsteps
    exact hsteps.frame
  have hdir' := hdir.mono hframe.keepsDirectories
  have hplace : cleaned'.place directory = base :=
    (place_congr hframe.working directory).trans h.places.2.2
  have hworking : cleaned'.working = cleaned.working := by
    rw [hframe.working, h.puts, working_putAll]
  have hup : ∀ f ∈ Output.files link n pages, f.1 ≠ up :=
    fun f hf => ne_up_of_isGenerated (hnames.isGenerated f hf)
  have hwritable : ∀ f ∈ Output.files link n pages, Writable directory base cleaned' f := by
    intro f hf
    obtain ⟨hfault, hfree, hencoded⟩ := h.writable f hf
    exact ⟨hfault, by rwa [hsame], hencoded⟩
  have hwrites := (writeFiles_iff hdir' hplace hup).mpr ⟨hwritable, rfl, rfl⟩
  refine ⟨⟨_, removed', Reference.broken link (pages.map (·.1)) n⟩,
    putAll base cleaned' (Output.files link n pages), ?_, rfl, hremoved, fun names => ?_⟩
  · unfold emit
    rw [run_bind_ok (run_makeDirectories hdir), run_bind_ok hclean, run_bind_ok hwrites]
    rfl
  · rw [h.puts]
    exact get?_putAll_congr hworking hsame names

end Emitted

/-! ## 4. Cleaning without a build -/

theorem along_of_not_mem_up : ∀ {parts names : List Text}, up ∉ parts →
    along names parts = names ++ parts
  | [], names, _ => by rw [along_nil, List.append_nil]
  | part :: parts, names, h => by
    rw [List.mem_cons, not_or] at h
    rw [along_cons, enter_of_ne_up (Ne.symm h.1), along_of_not_mem_up h.2, List.append_assoc]
    rfl

/-- A way down through a tree needs nothing but a directory at its end. -/
theorem walk_of_isTree (htree : IsTree fs) : ∀ {parts names q : List Text},
    up ∉ parts → fs.get? (names ++ parts) = some .directory →
      made.walk names parts = .ok q → fs.walk names parts = .ok q
  | [], _, _, _, _, h => h
  | part :: parts, names, q, hup, hdir, h => by
    rw [List.mem_cons, not_or] at hup
    have happ : names ++ part :: parts = (names ++ [part]) ++ parts := by
      rw [List.append_assoc]
      rfl
    rw [happ] at hdir
    obtain ⟨hpasses, hrest⟩ := of_walk_cons h
    have henter := enter_of_ne_up (Ne.symm hup.1) names
    have hpasses' : fs.Passes names part parts := by
      refine hpasses.imp_right fun ⟨hsize, _⟩ => ⟨hsize, Or.inr ?_⟩
      rw [henter]
      exact htree.front (List.prefix_append _ parts) hdir
    rw [walk_cons_of_passes hpasses', henter]
    rw [henter] at hrest
    exact walk_of_isTree htree hup.2 hdir hrest

/-- In a tree a directory whose path does not lead back up is found if it is there. -/
theorem hasDirectory_of_isTree (htree : IsTree fs) (hup : up ∉ directory.parts)
    (hworking : made.working = fs.working) (hmade : made.HasDirectory directory)
    (hdir : fs.get? (fs.place directory) = some .directory) : fs.HasDirectory directory := by
  obtain ⟨hname, hsize, hwalk⟩ := of_resolve_ok (entryAt_eq_ok.mp hmade).1
  have hplace : fs.place directory = fs.startOf directory.root ++ directory.parts :=
    along_of_not_mem_up hup
  refine entryAt_eq_ok.mpr ⟨?_, hdir⟩
  rw [resolve_eq_walk fs hname hsize]
  rw [place_congr hworking, startOf, hworking] at hwalk
  exact walk_of_isTree htree hup (hplace ▸ hdir) hwalk

/-- **What cleaning leaves within a build is what it leaves alone**, up to the directories that the
build made: in a tree, if the path of the directory does not lead back up. -/
theorem Emitted.clean_alone (h : Emitted directory base files fs made cleaned fs' removed)
    (htree : IsTree fs) (hup : up ∉ directory.parts) (names : List Text) :
    cleaned.get? names = (fs.run (clean directory)).2.get? names ∨
      (OnWay fs directory names ∧ (fs.run (clean directory)).2.get? names = none ∧
        cleaned.get? names = some .directory) := by
  by_cases hdir : fs.HasDirectory directory
  · have hmade : fs = made := (Prod.mk.inj ((run_makeDirectories hdir).symm.trans h.makes)).2
    rw [hmade, h.cleans]
    exact Or.inl rfl
  · rw [run_clean_of_not_hasDirectory hdir]
    -- a file in the way would show that the directory was there before
    have hstale : ¬ Stale (fun name => isGenerated name = true) directory made names := by
      rw [stale_iff h.hasDirectory fun name => ne_up_of_isGenerated, h.places.1]
      rintro ⟨name, content, -, rfl, -, hget⟩
      rcases h.get?_made (base ++ [name]) with hsame | ⟨-, -, hmade⟩
      · rw [hget] at hsame
        refine hdir (hasDirectory_of_isTree htree hup h.frame_made.working h.hasDirectory ?_)
        rw [h.place]
        refine htree base name ?_
        rw [← hsame]
        exact nofun
      · rw [hget] at hmade
        cases hmade
    rw [h.cleanedOf.kept names hstale]
    exact h.get?_made names

end ApiDocs.Output
