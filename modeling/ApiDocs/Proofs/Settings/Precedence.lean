import ApiDocs.Command.Run
import ApiDocs.Proofs.FileSystem.Program
import ApiDocs.Proofs.Settings.Loading

/-!
# One rule of precedence

A field of the settings is what its option says, else what the file says, else its default
(`Prefers`, `Follows`).  Null among the options stands for an option that is not given, and in a file
for a path or an overview that is not chosen.

Options are laid over each other as settings are: to override settings twice is to override them
once, with the second options laid over the first ones (`overlay`).  So all that matters of options
is what is given under each name (`lookup_given_overlay`).
-/

namespace ApiDocs.Settings

open Record (Problem)

variable {α : Type} {directory file : Location} {options a b changes : Changes} {s c c' : Settings}
  {name : Text} {v : Value}

/-! ## 1. Options that are given -/

/-- The options that are given; null stands for one that is not. -/
def given (options : Changes) : Changes := options.filter (fun o => !o.2.isNull)

/-- Options with those of others that are given in place of their own. -/
def overlay (options others : Changes) : Changes :=
  (given others).foldl (fun acc o => Keyed.put (· == ·) o.1 o.2 acc) options

/-- The name of the file of the settings is among the options. -/
def IsReserved (options : Changes) : Prop := fileOption ∈ options.map Prod.fst

instance (options : Changes) : Decidable (IsReserved options) :=
  inferInstanceAs (Decidable (fileOption ∈ options.map Prod.fst))

theorem mem_given {o : Text × Value} : o ∈ given options ↔ o ∈ options ∧ o.2 ≠ .null := by
  have hnull : ∀ v : Value, v.isNull = false ↔ v ≠ .null := by
    intro v
    cases v <;> simp [Value.isNull]
  simp [given, hnull]

theorem any_eq_fileOption : options.any (fun o => o.1 == fileOption) = true ↔ IsReserved options := by
  simp [IsReserved]

theorem override_of_isReserved (h : IsReserved options) : override options c = .error .reserved := by
  unfold override
  rw [if_pos (any_eq_fileOption.mpr h)]

theorem override_of_not_isReserved (h : ¬ IsReserved options) :
    override options c = (update {} (given options) c).mapError .invalid := by
  unfold override
  rw [if_neg (any_eq_fileOption.not.mpr h)]
  rfl

theorem override_eq_ok : override options c = .ok c' ↔
    ¬ IsReserved options ∧ complaints {} (given options) = [] ∧ picked {} (given options) c = c' := by
  by_cases h : IsReserved options
  · simp [override_of_isReserved h, h]
  · rw [override_of_not_isReserved h, mapError_eq_ok, update_eq_ok, and_iff_right h]

theorem mem_put {o : Text × Value} : ∀ {options : Changes},
    o ∈ Keyed.put (· == ·) name v options → o = (name, v) ∨ o ∈ options
  | [], h => by simpa [Keyed.put] using h
  | (name', v') :: options, h => by
    unfold Keyed.put at h
    split at h
    · next hsame =>
      rcases List.mem_cons.mp h with rfl | h
      · exact Or.inl (by rw [beq_iff_eq.mp hsame])
      · exact Or.inr (List.mem_cons_of_mem _ h)
    · rcases List.mem_cons.mp h with rfl | h
      · exact Or.inr List.mem_cons_self
      · exact (mem_put h).imp_right (List.mem_cons_of_mem _)

theorem lookup_cons_eq (other : Text) :
    List.lookup other ((name, v) :: options)
      = if other = name then some v else options.lookup other := by
  rw [List.lookup_cons]
  by_cases h : other = name
  · simp [h]
  · rw [beq_false_of_ne h, if_neg h]

/-- What is put under a name is given under it, and nothing else changes. -/
theorem lookup_given_put (hv : v.isNull = false) (other : Text) : ∀ options : Changes,
    (given (Keyed.put (· == ·) name v options)).lookup other
      = if other = name then some v else (given options).lookup other
  | [] => by simp [Keyed.put, given, hv, lookup_cons_eq]
  | (name', v') :: options => by
    have ih := lookup_given_put hv other options
    unfold given at ih ⊢
    unfold Keyed.put
    by_cases hsame : name' = name
    · subst hsame
      by_cases hother : other = name' <;> by_cases hnull : v'.isNull = true <;>
        simp [hv, hnull, hother, lookup_cons_eq]
    · have hbeq : (name' == name) = false := beq_false_of_ne hsame
      by_cases hother : other = name'
      · subst hother
        by_cases hnull : v'.isNull = true <;> simp [hbeq, hnull, ih, hsame]
      · by_cases hnull : v'.isNull = true <;> simp [hbeq, hnull, ih, hother, lookup_cons_eq]

/-- **What is given under a name** by options that are laid over others. -/
theorem lookup_given_overlay (hset : IsSet b) (name : Text) :
    (given (overlay a b)).lookup name = ((given b).lookup name).or ((given a).lookup name) := by
  have hgiven : IsSet (given b) := List.Nodup.sublist (List.filter_sublist.map _) hset
  have hnull : ∀ o ∈ given b, o.2.isNull = false := fun o ho => by simpa using (List.mem_filter.mp ho).2
  unfold overlay
  -- the options are put one after another, and no name comes again
  generalize given b = others at hgiven hnull
  induction others generalizing a with
  | nil => simp
  | cons o others ih =>
    obtain ⟨hnew, hrest⟩ := List.nodup_cons.mp (show ((o :: others).map Prod.fst).Nodup from hgiven)
    rw [List.foldl_cons, ih hrest fun o' ho' => hnull o' (List.mem_cons_of_mem _ ho'),
      lookup_given_put (hnull o List.mem_cons_self), lookup_cons_eq]
    by_cases hname : name = o.1
    · subst hname
      have hnone : others.lookup o.1 = none := by
        refine List.lookup_eq_none_iff.mpr fun o' ho' => bne_iff_ne.mpr fun hsame => hnew ?_
        exact hsame ▸ List.mem_map_of_mem ho'
      simp [hnone]
    · simp [hname]

/-- Nothing is made up where options are laid over others. -/
theorem mem_overlay {o : Text × Value} (h : o ∈ overlay a b) : o ∈ a ∨ o ∈ given b := by
  unfold overlay at h
  generalize given b = others at h ⊢
  induction others generalizing a with
  | nil => exact Or.inl h
  | cons o' others ih =>
    rw [List.foldl_cons] at h
    rcases ih h with h | h
    · rcases mem_put h with rfl | h
      · exact Or.inr List.mem_cons_self
      · exact Or.inl h
    · exact Or.inr (List.mem_cons_of_mem _ h)

/-! ## 2. Overriding twice -/

/-- The field of an update with a value under its name that can be read. -/
theorem pick_of_or {read : Value → Except Problem α} {others : Changes} {old : α}
    (hlookup : changes.lookup name = (others.lookup name).or (options.lookup name))
    (hread : IsReadable others name read) :
    pick others name read (pick options name read old) = pick changes name read old := by
  unfold pick
  rw [hlookup]
  cases hv : others.lookup name with
  | none => simp
  | some v =>
    obtain ⟨content, hcontent⟩ := hread v hv
    simp [hcontent, Except.toOption]

/-- **To override settings twice** is to override them once with both options. -/
theorem picked_overlay (hset : IsSet b) (h : complaints {} (given b) = []) :
    picked {} (given b) (picked {} (given a) c) = picked {} (given (overlay a b)) c := by
  have hread := (complaints_eq_nil_iff.mp h).1
  have hpick : ∀ f ∈ fields {}, ∀ old,
      pick (given b) f.name f.read (pick (given a) f.name f.read old)
        = pick (given (overlay a b)) f.name f.read old :=
    fun f hf old => pick_of_or (lookup_given_overlay hset f.name) (hread f hf)
  simp only [fields, List.forall_mem_cons] at hpick
  obtain ⟨hspec, hout, -, hlink, hlocale, hbase, hroute, hprefix, hoverview, -⟩ := hpick
  simp only [picked, hspec, hout, hlink, hlocale, hbase, hroute, hprefix, hoverview]

theorem override_overlay {c₁ c₂ : Settings} (hset : IsSet b) (ha : override a c = .ok c₁)
    (hb : override b c₁ = .ok c₂) : override (overlay a b) c = .ok c₂ := by
  obtain ⟨hfree, hnil, rfl⟩ := override_eq_ok.mp ha
  obtain ⟨hfree', hnil', rfl⟩ := override_eq_ok.mp hb
  refine override_eq_ok.mpr ⟨?_, ?_, (picked_overlay hset hnil').symm⟩
  · intro hreserved
    obtain ⟨o, ho, hname⟩ := List.mem_map.mp hreserved
    rcases mem_overlay ho with ho | ho
    · exact hfree (List.mem_map.mpr ⟨o, ho, hname⟩)
    · exact hfree' (List.mem_map.mpr ⟨o, (mem_given.mp ho).1, hname⟩)
  · obtain ⟨hread, hnames⟩ := complaints_eq_nil_iff.mp hnil
    obtain ⟨hread', hnames'⟩ := complaints_eq_nil_iff.mp hnil'
    refine complaints_eq_nil_iff.mpr ⟨fun f hf v hv => ?_, fun o ho => ?_⟩
    · rw [lookup_given_overlay hset] at hv
      rcases Option.or_eq_some_iff.mp hv with hv | ⟨-, hv⟩
      · exact hread' f hf v hv
      · exact hread f hf v hv
    · obtain ⟨ho, hnull⟩ := mem_given.mp ho
      rcases mem_overlay ho with ho | ho
      · exact hnames o (mem_given.mpr ⟨ho, hnull⟩)
      · exact hnames' o ho

/-- **Whether options are refused** is up to them alone. -/
theorem override_invalid_iff (hset : IsSet a) : (∃ cs, override a c = .error (.invalid cs)) ↔
    ¬ IsReserved a ∧ ∃ o ∈ a, o.2 ≠ .null ∧ IsRefused o.1 o.2 := by
  have hgiven : IsSet (given a) := List.Nodup.sublist (List.filter_sublist.map _) hset
  by_cases hreserved : IsReserved a
  · simp [override_of_isReserved hreserved, hreserved]
  · have hcomplaints : (∃ cs, update {} (given a) c = .error cs) ↔
        ∃ o ∈ a, o.2 ≠ .null ∧ IsRefused o.1 o.2 := by
      rw [update_eq_error_iff, ne_eq, complaints_eq_nil hgiven]
      simp only [not_forall, not_not, mem_given, exists_prop, and_assoc]
    rw [override_of_not_isReserved hreserved, ← hcomplaints, and_iff_right hreserved]
    cases update {} (given a) c <;> simp [Except.mapError]

/-! ## 3. The rule -/

/-- **The rule of precedence** for one field: what its option says, else what its entry in the file
says, else the default. -/
inductive Prefers (option entry : Option Value) (ofOption ofEntry : Value → α → Prop) (default : α) :
    α → Prop
  | option {v : Value} {content : α} (h : option = some v) (hread : ofOption v content) :
    Prefers option entry ofOption ofEntry default content
  | entry {v : Value} {content : α} (hnone : option = none) (h : entry = some v)
    (hread : ofEntry v content) : Prefers option entry ofOption ofEntry default content
  | default (hnone : option = none) (h : entry = none) :
    Prefers option entry ofOption ofEntry default default

/-- All fields follow the rule.  A path among the options is seen from the working directory, and one
in the file from the directory. -/
structure Follows (directory : Location) (option entry : String → Option Value) (s : Settings) :
    Prop where
  specPath : Prefers (option "spec_path") (entry "spec_path") (OrNull (IsPathFrom {}))
    (OrNull (IsPathFrom directory)) none s.specPath
  outputDir : Prefers (option "output_dir") (entry "output_dir") (IsPathFrom {})
    (IsPathFrom directory) (.ofText "docs/api") s.outputDir
  grouping : Prefers (option "group_paths_by") (entry "group_paths_by")
    (IsWordFor [("tag", .tag)]) (IsWordFor [("tag", .tag)]) .tag s.grouping
  categoryLink : Prefers (option "category_link_source") (entry "category_link_source")
    (IsWordFor [("tag", .tag), ("none", .nothing)])
    (IsWordFor [("tag", .tag), ("none", .nothing)]) .tag s.categoryLink
  locale : Prefers (option "locale") (entry "locale") IsText IsText "en" s.locale
  baseUrl : Prefers (option "base_url") (entry "base_url") IsText IsText "/" s.baseUrl
  routeBasePath : Prefers (option "route_base_path") (entry "route_base_path") IsText IsText "docs"
    s.routeBasePath
  idPrefix : Prefers (option "id_prefix") (entry "id_prefix") IsText IsText "api" s.idPrefix
  overviewId : Prefers (option "overview_id") (entry "overview_id") (OrNull IsText)
    (OrNull IsText) none s.overviewId

theorem prefers_pick {read read' : Value → Except Problem α} {R R' : Value → α → Prop} {default : α}
    (hoption : IsReadable options name read) (hentry : IsReadable changes name read')
    (hR : ∀ {v content}, read v = .ok content ↔ R v content)
    (hR' : ∀ {v content}, read' v = .ok content ↔ R' v content) :
    Prefers (options.lookup name) (changes.lookup name) R R' default
      (pick options name read (pick changes name read' default)) := by
  unfold pick
  cases hv : options.lookup name with
  | some v =>
    obtain ⟨content, hcontent⟩ := hoption v hv
    simpa [hcontent, Except.toOption] using .option rfl (hR.mp hcontent)
  | none =>
    cases hw : changes.lookup name with
    | some w =>
      obtain ⟨content, hcontent⟩ := hentry w hw
      simpa [hcontent, Except.toOption] using .entry rfl rfl (hR'.mp hcontent)
    | none => exact .default rfl rfl

/-- **Settings that are overridden follow the rule.** -/
theorem follows_picked (hoptions : complaints {} (given options) = [])
    (hchanges : complaints directory changes = []) :
    Follows directory (fun name => (given options).lookup (Text.ofString name))
      (fun name => changes.lookup (Text.ofString name))
      (picked {} (given options) (picked directory changes {})) := by
  have hoption := (complaints_eq_nil_iff.mp hoptions).1
  have hentry := (complaints_eq_nil_iff.mp hchanges).1
  simp only [fields, List.forall_mem_cons] at hoption hentry
  obtain ⟨hspec, hout, hgroup, hlink, hlocale, hbase, hroute, hprefix, hoverview, -⟩ := hoption
  obtain ⟨hspec', hout', hgroup', hlink', hlocale', hbase', hroute', hprefix', hoverview', -⟩ := hentry
  exact {
    specPath := prefers_pick hspec hspec' optional_path_eq_ok optional_path_eq_ok
    outputDir := prefers_pick hout hout' path_eq_ok path_eq_ok
    grouping := prefers_pick hgroup hgroup' choice_eq_ok choice_eq_ok
    categoryLink := prefers_pick hlink hlink' choice_eq_ok choice_eq_ok
    locale := prefers_pick hlocale hlocale' text_eq_ok text_eq_ok
    baseUrl := prefers_pick hbase hbase' text_eq_ok text_eq_ok
    routeBasePath := prefers_pick hroute hroute' text_eq_ok text_eq_ok
    idPrefix := prefers_pick hprefix hprefix' text_eq_ok text_eq_ok
    overviewId := prefers_pick hoverview hoverview' optional_text_eq_ok optional_text_eq_ok }

/-- The values of the options, under their names. -/
abbrev optionOf (options : Changes) (name : String) : Option Value :=
  (given options).lookup (Text.ofString name)

/-- The values in a loaded file, under their names. -/
abbrev entryOf (v : Value) (name : String) : Option Value := Value.lookup? name (mapped v)

theorem follows_of_ofText {text : Except TextFault String} (hfile : ofText file text = .ok c)
    (hoptions : override options c = .ok s) : ∃ t v, text = .ok t ∧ Yaml.load t = .ok v ∧
      Follows file.parent (optionOf options) (entryOf v) s := by
  obtain ⟨t, v, changes, rfl, hload, -, -, hentries, hupdate⟩ := ofText_eq_ok.mp hfile
  obtain ⟨hchanges, rfl⟩ := update_eq_ok.mp hupdate
  obtain ⟨-, hgiven, rfl⟩ := override_eq_ok.mp hoptions
  have hentry : (fun name => changes.lookup (Text.ofString name)) = entryOf v :=
    funext fun name => by rw [entryOf, hentries, lookup_entriesOf]
  exact ⟨t, v, rfl, hload, hentry ▸ follows_picked hgiven hchanges⟩

theorem follows_of_default (hoptions : override options {} = .ok s) :
    Follows {} (optionOf options) (fun _ => none) s := by
  obtain ⟨-, hgiven, rfl⟩ := override_eq_ok.mp hoptions
  have hchanges : complaints {} [] = [] := rfl
  exact follows_picked hgiven hchanges

/-! ## 4. The command line -/

/-- The file with the settings of a build: the one that is named, or else the one in the working
directory, if there is one. -/
def IsConfigFile (fs : FileSystem) (a : BuildArguments) : Option Location → Prop
  | some file => a.config.map (fun path => Location.ofText path) = some file ∨
    a.config = none ∧ file = Command.defaultConfig ∧
      fs.kindAt Command.defaultConfig = .ok (some .file)
  | none => a.config = none ∧ fs.kindAt Command.defaultConfig ≠ .ok (some .file)

theorem isConfigFile_of_run {fs fs' : FileSystem} {a : BuildArguments} {found : Option Location}
    (h : fs.run (Command.configFile a) = (.ok found, fs')) : fs' = fs ∧ IsConfigFile fs a found := by
  unfold Command.configFile at h
  cases hconfig : a.config with
  | some path =>
    rw [hconfig] at h
    cases h
    exact ⟨rfl, Or.inl (by rw [hconfig]; rfl)⟩
  | none =>
    rw [hconfig] at h
    dsimp only at h
    obtain ⟨isFile, mid, hkind, h⟩ := FileSystem.of_run_bind h
    rw [FileSystem.run_adapt, FileSystem.run_isFile, Prod.mk.injEq, mapError_eq_ok, map_eq_ok]
      at hkind
    obtain ⟨⟨kind, hkind, rfl⟩, hmid⟩ := hkind
    cases h
    refine ⟨hmid.symm, ?_⟩
    by_cases hfile : kind = some .file
    · subst hfile
      exact Or.inr ⟨hconfig, rfl, hkind⟩
    · rw [if_neg (by simpa using hfile)]
      exact ⟨hconfig, fun hfound => hfile (Except.ok.inj (hkind.symm.trans hfound))⟩

/-- **The settings of a build** follow the rule. -/
theorem follows_of_run {fs fs' : FileSystem} {a : BuildArguments}
    (h : fs.run (Command.settingsOf a) = (.ok s, fs')) : ∃ found, IsConfigFile fs a found ∧
      match found with
      | none => Follows {} (optionOf (Command.BuildArguments.changes a)) (fun _ => none) s
      | some file => ∃ t v, FileAccess.textOf (fs.contentAt file) = .ok t ∧ Yaml.load t = .ok v ∧
        Follows file.parent (optionOf (Command.BuildArguments.changes a)) (entryOf v) s := by
  unfold Command.settingsOf at h
  obtain ⟨found, mid, hfound, h⟩ := FileSystem.of_run_bind h
  obtain ⟨hmid, hconfig⟩ := isConfigFile_of_run hfound
  rw [hmid] at h
  refine ⟨found, hconfig, ?_⟩
  cases found with
  | none => exact follows_of_default (mapError_eq_ok.mp (Prod.mk.inj h).1)
  | some file =>
    obtain ⟨base, mid', hbase, h⟩ := FileSystem.of_run_bind h
    rw [FileSystem.run_adapt] at hbase
    have hfile : ofText file (FileAccess.textOf (fs.contentAt file)) = .ok base :=
      mapError_eq_ok.mp (Prod.mk.inj hbase).1
    exact follows_of_ofText hfile (mapError_eq_ok.mp (Prod.mk.inj h).1)

/-! ## 5. All of it -/

/-- **Settings have one rule of precedence.**  Each field is what its option says, else what the
file says, else its default, for settings from a file, for those without one, and for those of a
build on the command line.  No options change nothing, and to override twice is to override once with
both.  Options are refused exactly if one that is given has the name of no field, or a value that its
field does not take, whatever the settings are.  One name cannot be used at all: that of the file of
the settings. -/
theorem settings_precedence :
    (∀ (file : Location) (text : Except TextFault String) (options : Changes) (c s : Settings),
      ofText file text = .ok c → override options c = .ok s →
        ∃ t v, text = .ok t ∧ Yaml.load t = .ok v ∧
          Follows file.parent (optionOf options) (entryOf v) s) ∧
    (∀ (options : Changes) (s : Settings), override options {} = .ok s →
      Follows {} (optionOf options) (fun _ => none) s) ∧
    (∀ (fs fs' : FileSystem) (a : BuildArguments) (s : Settings),
      fs.run (Command.settingsOf a) = (.ok s, fs') → ∃ found, IsConfigFile fs a found ∧
        match found with
        | none => Follows {} (optionOf (Command.BuildArguments.changes a)) (fun _ => none) s
        | some file => ∃ t v, FileAccess.textOf (fs.contentAt file) = .ok t ∧
          Yaml.load t = .ok v ∧
            Follows file.parent (optionOf (Command.BuildArguments.changes a)) (entryOf v) s) ∧
    (∀ c : Settings, override [] c = .ok c) ∧
    (∀ (a b : Changes) (c c₁ c₂ : Settings), IsSet b → override a c = .ok c₁ →
      override b c₁ = .ok c₂ → override (overlay a b) c = .ok c₂) ∧
    (∀ (a : Changes) (c : Settings), IsSet a → ((∃ cs, override a c = .error (.invalid cs)) ↔
      ¬ IsReserved a ∧ ∃ o ∈ a, o.2 ≠ .null ∧ IsRefused o.1 o.2)) ∧
    (∀ (a : Changes) (c : Settings), override a c = .error .reserved ↔ IsReserved a) := by
  refine ⟨fun file text options c s => follows_of_ofText, fun options s => follows_of_default,
    fun fs fs' a s => follows_of_run, fun c => rfl, fun a b c c₁ c₂ => override_overlay,
    fun a c => override_invalid_iff, fun a c => ⟨fun h => ?_, override_of_isReserved⟩⟩
  by_contra hfree
  rw [override_of_not_isReserved hfree] at h
  cases hupdate : update {} (given a) c with
  | ok s =>
    rw [hupdate] at h
    cases h
  | error cs =>
    rw [hupdate] at h
    cases h

/-- A file of settings in a directory of its own, with a path and with an overview id that is not
chosen. -/
def sampleFile : String := "spec_path: ../api.yaml\nlocale: id\noverview_id: null\n"

def sampleLocation : Location := .ofText "conf/settings.yaml"

/-- Options of which one is not given. -/
def sampleOptions : Changes :=
  [("locale", .null), ("id_prefix", .str "reference"), ("output_dir", .str "/srv//docs")]

/-- Other options, of which one takes the place of an earlier one and one is not given. -/
def laterOptions : Changes := [("id_prefix", .str ""), ("output_dir", .null)]

/-- The settings that the file holds. -/
def sampleBase : Settings := { specPath := some (.ofText "conf/../api.yaml"), locale := "id" }

/-- The settings with the options. -/
def sampleSettings : Settings :=
  { sampleBase with outputDir := .ofText "/srv/docs", idPrefix := "reference" }

/-- What is not given by an option comes from the file, and what is in neither is the default. -/
theorem settings_precedence_sample :
    ofText sampleLocation (.ok sampleFile) = .ok sampleBase ∧
    override sampleOptions sampleBase = .ok sampleSettings ∧
    (∃ v, Yaml.load sampleFile = .ok v ∧
      Follows (.ofText "conf") (optionOf sampleOptions) (entryOf v) sampleSettings) ∧
    IsSet laterOptions ∧
    override laterOptions sampleSettings = .ok { sampleSettings with idPrefix := [] } ∧
    override (overlay sampleOptions laterOptions) sampleBase
      = .ok { sampleSettings with idPrefix := [] } ∧
    ∃ cs, override [("locale", .int 5)] sampleBase = .error (.invalid cs) := by
  obtain ⟨hfile, -, -, -, hoverlay, hinvalid, -⟩ := settings_precedence
  have hbase : ofText sampleLocation (.ok sampleFile) = .ok sampleBase := by decide +kernel
  have hoptions : override sampleOptions sampleBase = .ok sampleSettings := by decide +kernel
  have hset : IsSet laterOptions := by decide
  have hlater : override laterOptions sampleSettings = .ok { sampleSettings with idPrefix := [] } := by
    decide +kernel
  have hrefused : IsRefused "locale" (.int 5) :=
    Or.inr ⟨("locale", fun v => ∃ t, IsText v t), by simp [rules], rfl, by simp [IsText]⟩
  obtain ⟨t, v, ht, hload, hfollows⟩ := hfile _ _ _ _ _ hbase hoptions
  cases ht
  refine ⟨hbase, hoptions, ⟨v, hload, hfollows⟩, hset, hlater,
    hoverlay _ _ _ _ _ hset hoptions hlater, (hinvalid _ _ (by decide)).mpr ⟨by decide, ?_⟩⟩
  exact ⟨("locale", .int 5), List.mem_singleton_self _, by simp, hrefused⟩

/-- **The name of the file of the settings** is the name of no field, and yet an option of this name
is not refused like others. -/
theorem not_settings_precedence_config :
    ¬ (∀ (a : Changes) (c : Settings), IsSet a → ((∃ cs, override a c = .error (.invalid cs)) ↔
      ∃ o ∈ a, o.2 ≠ .null ∧ IsRefused o.1 o.2)) ∧
    override [("config", .str "x")] {} = .error .reserved := by
  have hreserved : override [("config", .str "x")] {} = .error .reserved := by decide
  refine ⟨fun h => ?_, hreserved⟩
  obtain ⟨cs, hcs⟩ := (h [("config", .str "x")] {} (by decide)).mpr
    ⟨("config", .str "x"), List.mem_singleton_self _, by simp, Or.inl (by decide)⟩
  rw [hreserved] at hcs
  cases hcs

end ApiDocs.Settings
