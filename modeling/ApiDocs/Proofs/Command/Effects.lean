import ApiDocs.Command.Run
import ApiDocs.Proofs.Output.Faults

/-!
# What commands do to the files

Whatever the arguments are, `sidebar`, `check` and the list of commands change nothing at all, and
neither does a command line that is refused.  A build has four ways to end (`BuildEffect`).

* It fails before it writes, and everything is as it was.
* It fails while it writes, by a fault of the system or because a text has no form in bytes.
* It succeeds.
* It has written everything, but its last line cannot be printed.

In the last three cases, too, nothing has changed outside the `Frame` of the directory: generated
files directly in it, and directories that were missing on the way to it (`run_effects`).

The proof follows the commands: all that comes before the writing only looks (`Looks`), so that what
is left to consider is `emit`.
-/

namespace ApiDocs

open FileSystem

/-! ## 1. Programs that only look -/

section Programs

variable {ε α β : Type}

/-- The program leaves every file system as it is. -/
def Looks (p : StateM FileSystem α) : Prop := ∀ fs : FileSystem, (fs.runPlain p).2 = fs

theorem Looks.pure (a : α) : Looks (pure a) := fun _ => rfl

theorem Looks.bind {p : StateM FileSystem α} {k : α → StateM FileSystem β} (hp : Looks p)
    (hk : ∀ a, Looks (k a)) : Looks (p >>= k) := by
  intro fs
  rw [runPlain_bind, hp fs]
  exact hk _ fs

/-- The same for programs that may fail. -/
theorem Looks.andThen {p : ExceptT ε (StateM FileSystem) α}
    {k : α → ExceptT ε (StateM FileSystem) β} (hp : Looks p.run) (hk : ∀ a, Looks (k a).run) :
    Looks (p >>= k).run := by
  refine Looks.bind (k := ExceptT.bindCont k) hp fun outcome => ?_
  cases outcome with
  | error fault => exact Looks.pure _
  | ok a => exact hk a

theorem Looks.lift {p : StateM FileSystem α} (h : Looks p) :
    Looks (monadLift p : ExceptT ε (StateM FileSystem) α).run := h.bind fun _ => Looks.pure _

theorem Looks.adapt {ε' : Type} {f : ε → ε'} {p : ExceptT ε (StateM FileSystem) α}
    (h : Looks p.run) : Looks (p.adapt f).run := h.bind fun _ => Looks.pure _

theorem Looks.run {p : ExceptT ε (StateM FileSystem) α} (h : Looks p.run) (fs : FileSystem) :
    fs.run p = ((fs.run p).1, fs) := Prod.ext rfl (h fs)

end Programs

theorem looks_kind? (l : Location) : Looks (FileAccess.kind? (m := StateM FileSystem) l) :=
  fun _ => rfl

theorem looks_readText (l : Location) : Looks (FileAccess.readText (m := StateM FileSystem) l) :=
  fun _ => rfl

theorem looks_isFile (l : Location) :
    Looks (FileAccess.isFile (m := StateM FileSystem) l).run :=
  Looks.andThen (looks_kind? l) fun _ => Looks.pure _

theorem looks_isDirectory (l : Location) :
    Looks (FileAccess.isDirectory (m := StateM FileSystem) l).run :=
  Looks.andThen (looks_kind? l) fun _ => Looks.pure _

theorem looks_idsOf (directory : Location) (idPrefix : Text) : ∀ files : List (List Text),
    Looks (Output.idsOf (m := StateM FileSystem) directory idPrefix files).run
  | [] => Looks.pure _
  | names :: rest => by
    unfold Output.idsOf
    refine Looks.andThen (looks_readText _).lift fun text => ?_
    refine Looks.andThen (Looks.pure _) fun own => ?_
    exact Looks.andThen (looks_idsOf directory idPrefix rest) fun _ => Looks.pure _

theorem looks_documentIds (directory : Location) (idPrefix : Text) :
    Looks (Output.documentIds (m := StateM FileSystem) directory idPrefix).run := by
  unfold Output.documentIds
  refine Looks.andThen (looks_isDirectory directory).adapt fun isDirectory => ?_
  split
  · refine Looks.andThen (Looks.lift fun _ => rfl) fun files => ?_
    exact looks_idsOf directory idPrefix _
  · exact Looks.pure _

namespace Command

/-! ## 2. Commands that only look -/

theorem looks_failed (failure : Failure) : Looks (failed (m := StateM FileSystem) failure) :=
  Looks.pure _

theorem looks_say {rest : StateM FileSystem Outcome} (t : Text) (h : Looks rest) :
    Looks (say t rest) := by
  unfold say
  split
  · exact h.bind fun _ => Looks.pure _
  · exact looks_failed _

theorem looks_sayLines {rest : StateM FileSystem Outcome} (h : Looks rest) : ∀ lines : List Text,
    Looks (sayLines lines rest)
  | [] => h
  | _ :: lines => looks_say _ (looks_sayLines h lines)

theorem looks_checkPath (rule : PathRule) (path : Text) :
    Looks (checkPath (m := StateM FileSystem) rule path).run := by
  have hkind : Looks (kindAt? (m := StateM FileSystem) path) := by
    unfold kindAt?
    split
    · exact Looks.pure _
    · refine Looks.bind (looks_kind? _) fun kind => ?_
      split
      · exact Looks.pure _
      · exact Looks.pure _
  unfold checkPath
  split
  · exact Looks.pure _
  · refine Looks.andThen hkind.lift fun kind => ?_
    split
    · exact Looks.pure _
    · exact Looks.pure _

theorem looks_checkValue (value : Text) (form : ValueForm) :
    Looks (checkValue (m := StateM FileSystem) value form).run := by
  unfold checkValue
  split
  · exact Looks.pure _
  · exact Looks.pure _
  · split
    · exact Looks.pure _
    · exact Looks.pure _
  · exact looks_checkPath _ _

theorem looks_checkValues : ∀ values : List (ValueForm × Text),
    Looks (checkValues (m := StateM FileSystem) values).run
  | [] => Looks.pure _
  | (form, value) :: rest => by
    unfold checkValues
    exact (looks_checkValue value form).andThen fun _ => looks_checkValues rest

theorem looks_ofFile (l : Location) : Looks (Document.ofFile (m := StateM FileSystem) l) :=
  (looks_readText l).bind fun _ => Looks.pure _

/-- **Printing the sidebar of a description** changes nothing. -/
theorem looks_runSidebar (specPath idPrefix : Text) (link : LinkSource) :
    Looks (runSidebar (m := StateM FileSystem) specPath idPrefix link) := by
  unfold runSidebar
  refine Looks.bind (looks_ofFile _) fun document => ?_
  split
  · exact looks_failed _
  · split
    · exact looks_failed _
    · exact looks_say _ (Looks.pure _)

/-- **Checking a directory** changes nothing. -/
theorem looks_runCheck (outputDir idPrefix : Text) :
    Looks (runCheck (m := StateM FileSystem) outputDir idPrefix) := by
  unfold runCheck
  refine Looks.bind ((looks_readText _).bind fun _ => Looks.pure _) fun saved => ?_
  split
  · exact looks_failed _
  · refine Looks.bind (looks_documentIds _ _) fun ids => ?_
    split
    · exact looks_failed _
    · split
      · exact looks_failed _
      · exact looks_sayLines (Looks.pure _) _

/-- Nothing has changed but generated files directly in a directory and directories that were
missing on the way to it. -/
abbrev FrameOf (directory : Location) (fs fs' : FileSystem) : Prop :=
  Output.Frame (fun name => Output.isGenerated name = true) directory fs fs'

/-- **Cleaning a directory** removes generated files only. -/
theorem frame_runClean (outputDir : Text) (fs : FileSystem) :
    FrameOf (.ofText outputDir) fs (fs.runPlain (runClean outputDir)).2 := by
  have hframe := (Output.within_clean (.ofText outputDir) fs).frame
  unfold runClean
  dsimp only
  rw [runPlain_bind]
  rcases hclean : fs.run (Output.clean (.ofText outputDir)) with ⟨fault | removed, fs'⟩
  · rw [hclean] at hframe
    rw [show fs.runPlain (Output.clean (.ofText outputDir)).run = (.error fault, fs') from hclean]
    exact hframe
  · rw [hclean] at hframe
    rw [show fs.runPlain (Output.clean (.ofText outputDir)).run = (.ok removed, fs') from hclean]
    rw [looks_sayLines (Looks.pure _) _ fs']
    exact hframe

theorem looks_settingsOf (a : BuildArguments) :
    Looks (settingsOf (m := StateM FileSystem) a).run := by
  have hfile : Looks (configFile (m := StateM FileSystem) a).run := by
    unfold configFile
    split
    · exact Looks.pure _
    · refine Looks.andThen (looks_isFile _).adapt fun found => ?_
      split
      · exact Looks.pure _
      · exact Looks.pure _
  unfold settingsOf
  refine Looks.andThen hfile fun file => ?_
  split
  · exact Looks.andThen (Looks.pure _) fun base => Looks.pure _
  · next file =>
    have hsettings : Looks (Settings.ofFile (m := StateM FileSystem) file) :=
      (looks_readText file).bind fun _ => Looks.pure _
    exact Looks.andThen (Looks.adapt hsettings) fun base => Looks.pure _

/-! ## 3. Builds -/

/-- What a build of a description comes to before it writes: settings, tree and pages. -/
def Renders (a : BuildArguments) (fs : FileSystem) (s : Settings) (n : Navigation)
    (pages : List (Text × Page)) : Prop :=
  fs.run (settingsOf a) = (.ok s, fs) ∧ ∃ spec d, s.specPath = some spec ∧
    Document.ofText (FileAccess.textOf (fs.contentAt spec)) = .ok d ∧ contents s d = .ok (n, pages)

/-- The last line of a build. -/
def doneLine (s : Settings) (n : Navigation) (pages : List (Text × Page)) : Text :=
  "Done! " ++ Text.ofNat n.categories.length ++ " categories, "
    ++ Text.ofNat pages.length ++ " pages in " ++ s.outputDir.text

/-- How a build may end: with a failure or without one, and what it leaves. -/
inductive BuildEffect (a : BuildArguments) (fs : FileSystem) :
    Option Failure → FileSystem → Prop
  /-- It fails and has changed nothing. -/
  | nothing (failure : Failure) : BuildEffect a fs (some failure) fs
  /-- Writing fails, by a fault of the system or since a text has no form in bytes. -/
  | fault {s : Settings} {n : Navigation} {pages : List (Text × Page)} {fault : FileFault}
    {fs' : FileSystem} (hrenders : Renders a fs s n pages)
    (hemit : fs.run (Output.emit s.categoryLink n pages s.outputDir) = (.error fault, fs'))
    (hfault : fault.isSystemFault = true ∨ fault = .unencodable ∧
      ∃ f ∈ Output.files s.categoryLink n pages, Text.encode? f.2 = none)
    (hframe : FrameOf s.outputDir fs fs') : BuildEffect a fs (some (.files fault)) fs'
  /-- Everything is written, but the last line cannot be printed. -/
  | unprintable {s : Settings} {n : Navigation} {pages : List (Text × Page)}
    {report : Output.Report} {fs' : FileSystem} (hrenders : Renders a fs s n pages)
    (hemit : fs.run (Output.emit s.categoryLink n pages s.outputDir) = (.ok report, fs'))
    (hline : Text.toString? (Text.withoutStyling (doneLine s n pages ++ "\n")) = none)
    (hframe : FrameOf s.outputDir fs fs') : BuildEffect a fs (some .unprintable) fs'
  /-- It succeeds. -/
  | done {s : Settings} {n : Navigation} {pages : List (Text × Page)} {report : Output.Report}
    {fs' : FileSystem} (hrenders : Renders a fs s n pages)
    (hemit : fs.run (Output.emit s.categoryLink n pages s.outputDir) = (.ok report, fs'))
    (hframe : FrameOf s.outputDir fs fs') : BuildEffect a fs none fs'

theorem contents_eq_ok {s : Settings} {d : Document} {n : Navigation} {pages : List (Text × Page)} :
    contents s d = .ok (n, pages) ↔
      Navigation.compile { idPrefix := s.idPrefix, overviewId := s.overviewId } d = .ok n ∧
        Page.renderAll { baseUrl := s.baseUrl, routeBasePath := s.routeBasePath } d n
          = .ok pages := by
  unfold contents
  dsimp only
  rw [bind_eq_ok]
  constructor
  · rintro ⟨n', hcompile, h⟩
    obtain ⟨pages', hrender, h⟩ := bind_eq_ok.mp h
    cases h
    exact ⟨mapError_eq_ok.mp hcompile, mapError_eq_ok.mp hrender⟩
  · rintro ⟨hcompile, hrender⟩
    exact ⟨n, mapError_eq_ok.mpr hcompile,
      bind_eq_ok.mpr ⟨pages, mapError_eq_ok.mpr hrender, rfl⟩⟩

/-- The files that a description is rendered into have proper names. -/
theorem properNames_of_contents {s : Settings} {d : Document} {n : Navigation}
    {pages : List (Text × Page)} (h : contents s d = .ok (n, pages)) (link : LinkSource) :
    Output.ProperNames (Output.files link n pages) := by
  obtain ⟨hcompile, hrender⟩ := contents_eq_ok.mp h
  exact Output.Build.properNames
    { link, tree := n, pages
      compiled := ⟨_, _, d, pages, hcompile, hrender, .refl pages⟩ }

/-- These names can be used, too. -/
theorem isUsable_of_contents {s : Settings} {d : Document} {n : Navigation}
    {pages : List (Text × Page)} (hmethods : ∀ o ∈ d.operations, o.method ∈ methods)
    (h : contents s d = .ok (n, pages)) (link : LinkSource) :
    ∀ f ∈ Output.files link n pages, ∀ p ∈ f.1, p.IsUsable := by
  obtain ⟨hcompile, hrender⟩ := contents_eq_ok.mp h
  rw [Navigation.compile_eq] at hcompile
  obtain rfl := Except.ok.inj hcompile
  obtain ⟨ps, rfl, hbears⟩ := Page.renderAll_ok hrender
  intro f hf
  have hmem : f.1 ∈ (Output.files link _ _).map Prod.fst := List.mem_map_of_mem hf
  rw [Output.map_fst_files, List.mem_append, List.map_map] at hmem
  rcases hmem with hmem | hmem
  · obtain ⟨page, hpage, hname⟩ := List.mem_map.mp hmem
    obtain ⟨sheet, hsheet, hbear⟩ := Page.sheet_of_mem hbears hpage
    rw [← hname]
    show ∀ p ∈ page.fileName, _
    rw [hbear.fileName]
    exact Page.isUsable_fileName
      (Navigation.isKebab_of_mem_slugs hmethods (Page.slug_mem_slugs hsheet))
      (Page.ending_mem hsheet)
  · rcases List.mem_pair.mp hmem with hname | hname
    · rw [hname]
      decide
    · rw [hname]
      decide

/-- A text is printed before the rest is done, or it cannot be printed and the rest is not done. -/
theorem say_cases (t : Text) (rest : StateM FileSystem Outcome) (fs : FileSystem) :
    (Text.toString? (Text.withoutStyling t) = none ∧
      (fs.runPlain (say t rest)).1.failure = some .unprintable ∧
        (fs.runPlain (say t rest)).2 = fs) ∨
    (fs.runPlain (say t rest)).1.failure = (fs.runPlain rest).1.failure ∧
      (fs.runPlain (say t rest)).2 = (fs.runPlain rest).2 := by
  unfold say
  cases Text.toString? (Text.withoutStyling t) with
  | none => exact Or.inl ⟨rfl, rfl, rfl⟩
  | some s => exact Or.inr ⟨rfl, rfl⟩

theorem effect_sayLine {a : BuildArguments} {fs : FileSystem} {rest : StateM FileSystem Outcome}
    (line : Text) (h : BuildEffect a fs (fs.runPlain rest).1.failure (fs.runPlain rest).2) :
    BuildEffect a fs (fs.runPlain (sayLine line rest)).1.failure
      (fs.runPlain (sayLine line rest)).2 := by
  unfold sayLine
  rcases say_cases (line ++ "\n") rest fs with ⟨-, hfailure, hfs⟩ | ⟨hfailure, hfs⟩
  · rw [hfailure, hfs]
    exact .nothing _
  · rw [hfailure, hfs]
    exact h

/-- **Writing the pages of a description** and saying so. -/
theorem buildDocument_effect {a : BuildArguments} {fs : FileSystem} {s : Settings} {spec : Location}
    {d : Document} (hsettings : fs.run (settingsOf a) = (.ok s, fs)) (hspec : s.specPath = some spec)
    (hread : Document.ofText (FileAccess.textOf (fs.contentAt spec)) = .ok d) :
    BuildEffect a fs (fs.runPlain (buildDocument s d)).1.failure
      (fs.runPlain (buildDocument s d)).2 := by
  unfold buildDocument
  cases hcontents : contents s d with
  | error failure => exact .nothing failure
  | ok tree =>
    obtain ⟨n, pages⟩ := tree
    have hrenders : Renders a fs s n pages := ⟨hsettings, spec, d, hspec, hread, hcontents⟩
    have hproper := properNames_of_contents hcontents s.categoryLink
    have husable := isUsable_of_contents (method_mem_of_ofText hread) hcontents s.categoryLink
    have hframe := (Output.within_emit hproper.isGenerated s.outputDir fs).frame
    dsimp only
    rw [runPlain_bind]
    rcases hemit : fs.run (Output.emit s.categoryLink n pages s.outputDir) with ⟨fault | report, fs'⟩
    · rw [hemit] at hframe
      rw [show fs.runPlain (Output.emit s.categoryLink n pages s.outputDir).run
        = (.error fault, fs') from hemit]
      rcases Output.emit_fault husable hemit with rfl | hfault
      · exact .nothing _
      · exact .fault hrenders hemit hfault hframe
    · rw [hemit] at hframe
      rw [show fs.runPlain (Output.emit s.categoryLink n pages s.outputDir).run
        = (.ok report, fs') from hemit]
      dsimp only
      unfold sayLine
      rcases say_cases (doneLine s n pages ++ "\n") (pure _) fs' with
        ⟨hline, hfailure, hfs⟩ | ⟨hfailure, hfs⟩
      · rw [doneLine] at hfailure hfs
        rw [hfailure, hfs]
        exact .unprintable hrenders hemit hline hframe
      · rw [doneLine] at hfailure hfs
        rw [hfailure, hfs]
        exact .done hrenders hemit hframe

theorem runBuild_effect (a : BuildArguments) (fs : FileSystem) :
    BuildEffect a fs (fs.runPlain (runBuild a)).1.failure (fs.runPlain (runBuild a)).2 := by
  have hlooks := (looks_settingsOf a).run fs
  unfold runBuild
  rw [runPlain_bind]
  cases hsettings : (fs.run (settingsOf a)).1 with
  | error failure =>
    rw [hsettings] at hlooks
    rw [show fs.runPlain (settingsOf a).run = (.error failure, fs) from hlooks]
    exact .nothing failure
  | ok s =>
    rw [hsettings] at hlooks
    rw [show fs.runPlain (settingsOf a).run = (.ok s, fs) from hlooks]
    dsimp only
    cases hspec : s.specPath with
    | none => exact .nothing _
    | some spec =>
      refine effect_sayLine _ ?_
      unfold Document.ofFile
      rw [bind_assoc, runPlain_bind, runPlain_readText]
      dsimp only
      rw [pure_bind]
      cases hread : Document.ofText (FileAccess.textOf (fs.contentAt spec)) with
      | error fault => exact .nothing _
      | ok d => exact effect_sayLine _ (buildDocument_effect hlooks hspec hread)

/-! ## 4. Command lines -/

/-- The command that arguments ask for. -/
def commandOf (args : List Text) : Option Command :=
  (Invocation.read? args).bind (·.command)

/-- A command changes what is said of it, after the values of its arguments have been looked at. -/
theorem run_eq {args : List Text} {i : Invocation} (h : Invocation.read? args = some i)
    (fs : FileSystem) : fs.runPlain (run args) = match (fs.run (checkValues i.values)).1 with
      | .error fault => fs.runPlain (failed fault.failure)
      | .ok () => match i.command with
        | some command => fs.runPlain (perform command)
        | none => fs.runPlain (failed .usage) := by
  have hlooks := (looks_checkValues i.values).run fs
  unfold run
  rw [h]
  dsimp only
  rw [runPlain_bind, show fs.runPlain (checkValues i.values).run = _ from hlooks]
  dsimp only
  cases (fs.run (checkValues i.values)).1 with
  | error fault => rfl
  | ok _ => cases i.command <;> rfl

/-- **What a command line does to the files.**  A build ends in one of four ways, a cleaning removes
generated files, and any other command line changes nothing, whether it makes up a command or not. -/
theorem run_effects (args : List Text) (fs : FileSystem) :
    match commandOf args with
    | some (.build a) =>
      BuildEffect a fs (fs.runPlain (run args)).1.failure (fs.runPlain (run args)).2
    | some (.clean outputDir) => FrameOf (.ofText outputDir) fs (fs.runPlain (run args)).2
    | _ => (fs.runPlain (run args)).2 = fs := by
  unfold commandOf
  cases hread : Invocation.read? args with
  | none =>
    unfold run
    rw [hread]
    rfl
  | some i =>
    rw [run_eq hread]
    dsimp only [Option.bind_some]
    cases (fs.run (checkValues i.values)).1 with
    | error fault =>
      rcases i.command with _ | ⟨a⟩ | _ | _ | outputDir | _
      · rfl
      · exact .nothing _
      · rfl
      · rfl
      · exact Output.Frame.refl _ _ _
      · rfl
    | ok _ =>
      rcases i.command with
        _ | a | ⟨specPath, idPrefix, link⟩ | ⟨outputDir, idPrefix⟩ | outputDir | _
      · rfl
      · exact runBuild_effect a fs
      · exact looks_runSidebar specPath idPrefix link fs
      · exact looks_runCheck outputDir idPrefix fs
      · exact frame_runClean outputDir fs
      · exact looks_sayLines (Looks.pure _) _ fs

/-- The fault of a failure that comes from working with files. -/
def Failure.fileFault? : Failure → Option FileFault
  | .files fault => some fault
  | _ => none

/-- A file system with a description whose title is a half of a surrogate pair. -/
def halfTitle : FileSystem where
  entries := [([Text.ofString "openapi.yaml"],
    .file "openapi: 3.0.0\ninfo:\n  title: \"\\ud800\"\n".toUTF8)]

/-- **A build may fail after it has begun to write, and not by a fault of the system**: the page of
the overview is opened before it turns out that its text has no form in bytes. -/
theorem not_run_effects_halfTitle :
    ¬ ∀ (args : List Text) (fs : FileSystem) (a : BuildArguments),
      commandOf args = some (.build a) →
      (fs.runPlain (run args)).1.failure ≠ none →
      (∃ fault, (fs.runPlain (run args)).1.failure = some (.files fault) ∧
        fault.isSystemFault = true) ∨ (fs.runPlain (run args)).2 = fs := by
  intro h
  have hcommand : commandOf ["build", "openapi.yaml"]
      = some (.build { specPath := some "openapi.yaml" }) := by
    decide +kernel
  have hfailure : (halfTitle.runPlain (run ["build", "openapi.yaml"])).1.failure.bind
      Failure.fileFault? = some .unencodable := by
    decide +kernel
  have hmade : ((halfTitle.runPlain (run ["build", "openapi.yaml"])).2.get?
      [Text.ofString "docs"]).isSome = true := by
    decide +kernel
  rcases h _ halfTitle _ hcommand (fun hnone => by rw [hnone] at hfailure; cases hfailure) with
    ⟨fault, hfault, hsystem⟩ | hsame
  · rw [hfault] at hfailure
    cases hfailure
    cases hsystem
  · rw [hsame] at hmade
    exact absurd hmade (by decide)

/-- A file system with a description and with settings that name a directory which cannot be
printed, but can be made. -/
def halfDirectory : FileSystem where
  entries := [([Text.ofString "openapi.yaml"], .file "openapi: 3.0.0\n".toUTF8),
    ([Text.ofString "openapi-sidebar.yaml"], .file "output_dir: \"\\udc80\"\n".toUTF8)]

/-- A build may also fail after it has written everything. -/
theorem not_run_effects_halfDirectory :
    ¬ ∀ (args : List Text) (fs : FileSystem) (a : BuildArguments),
      commandOf args = some (.build a) →
      (fs.runPlain (run args)).1.failure ≠ none →
      (∃ fault, (fs.runPlain (run args)).1.failure = some (.files fault)) ∨
        (fs.runPlain (run args)).2 = fs := by
  intro h
  have hcommand : commandOf ["build", "openapi.yaml"]
      = some (.build { specPath := some "openapi.yaml" }) := by
    decide +kernel
  have hfailure : (halfDirectory.runPlain (run ["build", "openapi.yaml"])).1.failure.map
      Failure.fileFault? = some none := by
    decide +kernel
  have hmade : ((halfDirectory.runPlain (run ["build", "openapi.yaml"])).2.get?
      [[.half 0x480]]).isSome = true := by
    decide +kernel
  rcases h _ halfDirectory _ hcommand (fun hnone => by rw [hnone] at hfailure; cases hfailure) with
    ⟨fault, hfault⟩ | hsame
  · rw [hfault] at hfailure
    cases hfailure
  · rw [hsame] at hmade
    exact absurd hmade (by decide)

end Command

end ApiDocs
