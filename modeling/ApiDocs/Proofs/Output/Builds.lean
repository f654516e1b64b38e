import ApiDocs.Proofs.Output.Rebuilding
import ApiDocs.Proofs.Page.Pages

/-!
# Runs of builds

A directory is built into and cleaned any number of times, by builds of any documents, and some of
these calls may fail on their way.  This is what can be said about it at any time
(`run_spec`):

* everything but the generated files in the directory is as it was at the start, except that
  directories on the way to it may have been made;
* after a build that succeeded the generated files in the directory are those of the build, and
  building once more changes nothing;
* after a cleaning that succeeded there are none, and cleaning after a build leaves what cleaning
  would have left without the build.

The files of a build have different names, and they are names of generated files, because the slugs
of a compiled tree are different (`Build.properNames`).
-/

namespace ApiDocs.Output

open FileSystem Navigation

/-! ## 1. Builds -/

/-- A compiled tree and pages that were rendered for it, all of them or some. -/
structure Build where
  link : LinkSource
  tree : Navigation
  pages : List (Text × Page)
  compiled : ∃ options site document all, compile options document = .ok tree ∧
    Page.renderAll site document tree = .ok all ∧ pages.Sublist all

/-- The files of a build, with their names. -/
def Build.files (b : Build) : List (Text × Text) := Output.files b.link b.tree b.pages

theorem isGenerated_append {ending : Text} (h : ending ∈ Page.endings) (slug : Text) :
    isGenerated (slug ++ ending) = true := by
  have hpattern : Pattern.ending ending ∈ patterns := by
    revert h
    revert ending
    decide
  refine List.any_eq_true.mpr ⟨_, hpattern, ?_⟩
  exact List.isSuffixOf_iff_suffix.mpr (List.suffix_append _ _)

/-- Files of the sidebar are named differently from those of pages. -/
theorem append_ending_ne {ending : Text} (h : ending ∈ Page.endings) (slug : Text) :
    slug ++ ending ≠ sidebarJson ∧ slug ++ ending ≠ sidebarTypeScript := by
  have hlast : ending.getLast? = some (.char 'x') := by
    revert h
    revert ending
    decide
  have hname : (slug ++ ending).getLast? = some (.char 'x') := by
    rw [List.getLast?_append, hlast]
    rfl
  constructor
  · intro heq
    rw [heq] at hname
    exact absurd hname (by decide)
  · intro heq
    rw [heq] at hname
    exact absurd hname (by decide)

/-- **The files of a build have different names, which are names of generated files.** -/
theorem Build.properNames (b : Build) : ProperNames b.files := by
  obtain ⟨options, site, d, all, hcompile, hrender, hsub⟩ := b.compiled
  rw [compile_eq] at hcompile
  rw [← Except.ok.inj hcompile] at hrender
  obtain ⟨ps, rfl, hbears⟩ := Page.renderAll_ok hrender
  have hnames : (b.pages.map (fun p => p.2.fileName)).Sublist (ps.map (·.fileName)) := by
    have := hsub.map (fun p : Text × Page => p.2.fileName)
    rwa [List.map_map] at this
  have hname : ∀ name ∈ b.pages.map (fun p => p.2.fileName),
      ∃ slug ending, ending ∈ Page.endings ∧ name = slug ++ ending := by
    intro name hmem
    obtain ⟨p, hp, rfl⟩ := List.mem_map.mp (hnames.subset hmem)
    exact Page.fileName_of_mem hbears hp
  have hfst : b.files.map Prod.fst
      = b.pages.map (fun p => p.2.fileName) ++ [sidebarJson, sidebarTypeScript] := by
    unfold Build.files Output.files
    rw [List.map_append, List.map_map]
    rfl
  refine ⟨fun f hf => ?_, ?_⟩
  · have hmem : f.1 ∈ b.files.map Prod.fst := List.mem_map_of_mem hf
    rw [hfst, List.mem_append] at hmem
    rcases hmem with hmem | hmem
    · obtain ⟨slug, ending, hending, heq⟩ := hname f.1 hmem
      rw [heq]
      exact isGenerated_append hending slug
    · rcases List.mem_pair.mp hmem with heq | heq
      · rw [heq]
        exact isGenerated_sidebarJson
      · rw [heq]
        exact isGenerated_sidebarTypeScript
  · rw [hfst]
    refine List.Nodup.append (hnames.nodup (Page.nodup_fileNames hbears)) (by decide) ?_
    intro name hpage hside
    obtain ⟨slug, ending, hending, rfl⟩ := hname name hpage
    obtain ⟨hjson, htypescript⟩ := append_ending_ne hending slug
    exact (List.mem_pair.mp hside).elim hjson htypescript

/-! ## 2. Runs -/

/-- What is done to a directory. -/
inductive Call where
  | emit (b : Build)
  | clean

/-- What a call leaves, whether it succeeds or fails on its way. -/
def Call.leaves (directory : Location) (fs : FileSystem) : Call → FileSystem
  | .emit b => (fs.run (Output.emit b.link b.tree b.pages directory)).2
  | .clean => (fs.run (Output.clean directory)).2

/-- What several calls leave, one after another. -/
def runCalls (directory : Location) (fs : FileSystem) (calls : List Call) : FileSystem :=
  calls.foldl (Call.leaves directory) fs

theorem Call.steps (directory : Location) (fs : FileSystem) (call : Call) :
    Steps (fun name => isGenerated name = true) directory fs (call.leaves directory fs) := by
  cases call with
  | emit b => exact within_emit b.properNames.isGenerated directory fs
  | clean => exact within_clean directory fs

/-- A run takes no other steps than its calls. -/
theorem runCalls_steps (directory : Location) : ∀ (calls : List Call) (fs : FileSystem),
    Steps (fun name => isGenerated name = true) directory fs (runCalls directory fs calls)
  | [], _ => .refl
  | call :: calls, fs =>
    (call.steps directory fs).trans (runCalls_steps directory calls (call.leaves directory fs))

/-- What holds when a build has succeeded, for the file system before it and the one it leaves. -/
structure Built (directory : Location) (b : Build) (here fs' : FileSystem) (report : Report) :
    Prop where
  /-- The files of the build are reported in their order. -/
  written : report.written = b.files.map (fun f => directory.child f.1)
  /-- They are the generated files that stand directly in the directory. -/
  generated : ∀ l, l ∈ report.written ↔ ∃ name content, isGenerated name = true ∧
    l = directory.child name ∧ fs'.contentAt l = .ok content
  /-- Each has the text that was rendered for it. -/
  contents : ∀ f ∈ b.files, ∃ content, Text.encode? f.2 = some content ∧
    fs'.contentAt (directory.child f.1) = .ok content
  /-- Building once more changes nothing, and removes what was written. -/
  again : ∃ report' fs'', fs'.run (emit b.link b.tree b.pages directory) = (.ok report', fs'') ∧
    (∀ l, l ∈ report'.removed ↔ l ∈ report.written) ∧
    ∀ names, fs''.get? names = fs'.get? names
  /-- Cleaning leaves what it leaves where the directory was only made. -/
  cleaning : ∃ removed made cleaned,
    fs'.run (clean directory) = (.ok removed, cleaned) ∧
    (∀ l, l ∈ removed ↔ l ∈ report.written) ∧
    here.run (FileAccess.makeDirectories directory) = (.ok (), made) ∧
    ∀ names, cleaned.get? names = (made.run (clean directory)).2.get? names

/-- Cleaning after a build leaves what cleaning leaves without it, up to directories on the way to
the directory that were missing. -/
def LeavesSame (directory : Location) (here fs' : FileSystem) : Prop :=
  ∀ names, (fs'.run (clean directory)).2.get? names = (here.run (clean directory)).2.get? names ∨
    (OnWay here directory names ∧ (here.run (clean directory)).2.get? names = none ∧
      (fs'.run (clean directory)).2.get? names = some .directory)

theorem built_of_emit {directory : Location} {b : Build} {here fs' : FileSystem} {report : Report}
    (hrun : here.run (emit b.link b.tree b.pages directory) = (.ok report, fs')) :
    Built directory b here fs' report := by
  have hnames := b.properNames
  obtain ⟨base, made, cleaned, hemit, hwritten, -⟩ := emit_ok hnames hrun
  have hfiles : ∀ l, l ∈ report.written ↔ l ∈ b.files.map (fun f => directory.child f.1) := by
    intro l
    rw [hwritten]
    rfl
  refine ⟨hwritten, fun l => ?_, fun f hf => ?_, ?_, ?_⟩
  · rw [hfiles, List.mem_map]
    constructor
    · rintro ⟨f, hf, rfl⟩
      exact ⟨_, bytesOf f.2, hnames.isGenerated f hf, rfl, hemit.contentAt_file hnames hf⟩
    · rintro ⟨name, content, hname, rfl, hcontent⟩
      obtain ⟨f, hf, rfl, -⟩ := (hemit.hasFile_iff hnames hname).mp (hasFile_iff.mpr hcontent)
      exact ⟨f, hf, rfl⟩
  · exact ⟨bytesOf f.2, (hemit.writable f hf).encoded, hemit.contentAt_file hnames hf⟩
  · obtain ⟨report', fs'', hrun', -, hremoved, hsame⟩ := hemit.run_emit hnames
    exact ⟨report', fs'', hrun', fun l => (hremoved l).trans (hfiles l).symm, hsame⟩
  · obtain ⟨removed, cleaned', hclean, hsame, hremoved⟩ := hemit.run_clean hnames
    refine ⟨removed, made, cleaned', hclean, fun l => (hremoved l).trans (hfiles l).symm,
      hemit.makes, ?_⟩
    rw [hemit.cleans]
    exact hsame

theorem leavesSame_of_emit {directory : Location} {b : Build} {here fs' : FileSystem}
    {report : Report} (htree : IsTree here) (hup : up ∉ directory.parts)
    (hrun : here.run (emit b.link b.tree b.pages directory) = (.ok report, fs')) :
    LeavesSame directory here fs' := by
  intro names
  obtain ⟨base, made, cleaned, hemit, -, -⟩ := emit_ok b.properNames hrun
  obtain ⟨removed, cleaned', hclean, hsame, -⟩ := hemit.run_clean b.properNames
  rw [hclean, hsame names]
  exact hemit.clean_alone htree hup names

/-- **What holds at any time of a run of builds and cleanings**, some of which may have failed.

Everything but the generated files in the directory is as it was at the start, up to directories
that were made on the way to it.  Whatever build succeeds next, the generated files in the directory
are then exactly those that it reports, building once more changes nothing, and cleaning leaves what
it leaves where the directory was only made; if the path of the directory does not lead back up,
that is what cleaning leaves without the build.  When a cleaning succeeds next, there are no
generated files in the directory. -/
theorem run_spec (directory : Location) (fs : FileSystem) (calls : List Call) :
    Frame (fun name => isGenerated name = true) directory fs (runCalls directory fs calls) ∧
    (∀ (b : Build) (report : Report) (fs' : FileSystem),
      (runCalls directory fs calls).run (emit b.link b.tree b.pages directory)
          = (.ok report, fs') →
        Built directory b (runCalls directory fs calls) fs' report ∧
          (IsTree fs → up ∉ directory.parts →
            LeavesSame directory (runCalls directory fs calls) fs')) ∧
    ∀ (removed : List Location) (fs' : FileSystem),
      (runCalls directory fs calls).run (clean directory) = (.ok removed, fs') →
        ∀ name content, isGenerated name = true →
          fs'.contentAt (directory.child name) ≠ .ok content := by
  have hsteps := runCalls_steps directory calls fs
  refine ⟨hsteps.frame, fun b report fs' hrun => ?_, fun removed fs' hrun name content hname => ?_⟩
  · exact ⟨built_of_emit hrun,
      fun htree hup => leavesSame_of_emit (hsteps.isTree htree) hup hrun⟩
  · exact fun hcontent => (clean_ok hrun).no_file hname content (hasFile_iff.mpr hcontent)

/-! ## 3. A build, and a path that leads back up -/

/-- A description without operations. -/
def bareDocument : Document := { dialect := .openapi3 }

/-- The build of a description without operations. -/
def bareBuild : Build where
  link := .tag
  tree := treeOf {} bareDocument
  pages := [Page.overview {} bareDocument (treeOf {} bareDocument)].map (fun p => (p.id, p))
  compiled := ⟨{}, {}, bareDocument, _, compile_eq {} bareDocument, rfl, .refl _⟩

/-- A directory with a sidebar of an earlier build in it. -/
def earlier : FileSystem where
  entries := [([Text.ofString "a"], .directory), ([Text.ofString "a", sidebarJson], .file .empty)]

theorem isTree_earlier : IsTree earlier := by
  have hpaths : earlier.paths = [[], [Text.ofString "a"], [Text.ofString "a", sidebarJson]] := by
    decide +kernel
  intro names name hentry
  have hmem := mem_paths.mpr hentry
  rw [hpaths] at hmem
  simp only [List.mem_cons, List.not_mem_nil, or_false] at hmem
  rcases hmem with hnil | hname | hnames
  · exact absurd hnil (List.append_ne_nil_of_right_ne_nil _ (List.cons_ne_nil name []))
  · rw [(List.append_inj' (show names ++ [name] = [] ++ [_] from hname) rfl).1]
    rfl
  · rw [(List.append_inj' (show names ++ [name] = [_] ++ [_] from hnames) rfl).1]
    rfl

/-- Building into the directory replaces the sidebar that it holds. -/
theorem run_spec_earlier :
    ∃ report fs', earlier.run (emit bareBuild.link bareBuild.tree bareBuild.pages
          ⟨"", [Text.ofString "a"]⟩) = (.ok report, fs') ∧
      Built ⟨"", [Text.ofString "a"]⟩ bareBuild earlier fs' report ∧
        LeavesSame ⟨"", [Text.ofString "a"]⟩ earlier fs' := by
  have hbuild : (earlier.run (emit bareBuild.link bareBuild.tree bareBuild.pages
      ⟨"", [Text.ofString "a"]⟩)).1.toOption.isSome = true := by decide +kernel
  rcases hrun : earlier.run (emit bareBuild.link bareBuild.tree bareBuild.pages
    ⟨"", [Text.ofString "a"]⟩) with ⟨_ | report, fs'⟩
  · rw [hrun] at hbuild
    cases hbuild
  · obtain ⟨hbuilt, hsame⟩ :=
      (run_spec ⟨"", [Text.ofString "a"]⟩ earlier []).2.1 bareBuild report fs' hrun
    exact ⟨report, fs', rfl, hbuilt, hsame isTree_earlier (by decide)⟩

/-- The way to the directory through one that is not there. -/
def roundabout : Location := ⟨"", [Text.ofString "a", Text.ofString "b", up]⟩

/-- **Where the path leads back up, cleaning may reach further after a build than without one**:
alone it does not find the directory, since a part of the way is missing, but the build makes it. -/
theorem not_leavesSame_roundabout :
    ¬ ∀ (directory : Location) (here : FileSystem) (b : Build) (report : Report)
      (fs' : FileSystem), IsTree here →
        here.run (emit b.link b.tree b.pages directory) = (.ok report, fs') →
          LeavesSame directory here fs' := by
  intro h
  have hbuild : (earlier.run (emit bareBuild.link bareBuild.tree bareBuild.pages
      roundabout)).1.toOption.isSome = true := by decide +kernel
  have hgone : (((earlier.run (emit bareBuild.link bareBuild.tree bareBuild.pages roundabout)).2.run
      (clean roundabout)).2.get? [Text.ofString "a", sidebarJson]).isNone = true := by
    decide +kernel
  have hleft : ((earlier.run (clean roundabout)).2.get?
      [Text.ofString "a", sidebarJson]).isSome = true := by
    decide +kernel
  rcases hrun : earlier.run (emit bareBuild.link bareBuild.tree bareBuild.pages roundabout)
    with ⟨_ | report, fs'⟩
  · rw [hrun] at hbuild
    cases hbuild
  · rw [hrun] at hgone
    rcases h roundabout earlier bareBuild report fs' isTree_earlier hrun
      [Text.ofString "a", sidebarJson] with hsame | ⟨-, hnone, -⟩
    · rw [← hsame, Option.isNone_iff_eq_none.mp hgone] at hleft
      cases hleft
    · rw [hnone] at hleft
      cases hleft

end ApiDocs.Output
