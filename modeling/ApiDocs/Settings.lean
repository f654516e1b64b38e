import ApiDocs.Record
import ApiDocs.FileSystem.Access
import ApiDocs.Navigation.Basic
import ApiDocs.Value.Text
import ApiDocs.Yaml.Reading

/-!
# Settings

What a build can be told: where the description is, where the pages go, and how they refer to each
other.

**One rule of precedence:** an option comes before the file, and the file before the default.
Settings are changed by `update`, which checks every field that is named and leaves the others as
they are; a file is an update of the defaults, and options are an update of that.  An update without
changes changes nothing (`update_nil`), and whether one is refused does not depend on what it
changes (`update_eq_error_iff`).
-/

namespace ApiDocs

/-- By what the operations are put into categories. -/
inductive Grouping where
  /-- By their first tag. -/
  | tag
  deriving Repr, DecidableEq, Inhabited

/-- The settings of a build. -/
structure Settings where
  /-- The file of the description. -/
  specPath : Option Location := none
  /-- The directory of the pages. -/
  outputDir : Location := ⟨"", ["docs", "api"]⟩
  grouping : Grouping := .tag
  /-- Whether categories link to their pages. -/
  categoryLink : LinkSource := .tag
  locale : Text := "en"
  baseUrl : Text := "/"
  routeBasePath : Text := "docs"
  /-- What comes before the slug in a document id. -/
  idPrefix : Text := "api"
  /-- The slug of the overview, unless it is taken from the title. -/
  overviewId : Option Text := none
  deriving Repr, DecidableEq, Inhabited

namespace Settings

open Record (Problem Complaint)

/-! ## 1. Fields -/

/-- The value of a field that may be null. -/
def optional {α : Type} (read : Value → Except Problem α) : Value → Except Problem (Option α)
  | .null => .ok none
  | v => (read v).map some

/-- The value of a field for a path, which is seen from a directory. -/
def path (directory : Location) : Value → Except Problem Location
  | .str s => .ok (directory.join (.ofText s))
  | _ => .error .notPath

/-- The value of a field for one of several words.  A text that is no string is refused as such. -/
def choice {α : Type} (words : List (String × α)) : Value → Except Problem α
  | .str t => match Text.toString? t with
    | some s => match words.lookup s with
      | some a => .ok a
      | none => .error .notChoice
    | none => .error .notUtf8
  | _ => .error .notChoice

/-- The words for the ways of grouping. -/
def groupings : List (String × Grouping) := [("tag", .tag)]

/-- The words for what categories link to. -/
def linkSources : List (String × LinkSource) := [("tag", .tag), ("none", .nothing)]

/-- What the word says that categories link to. -/
def linkSource? (word : Text) : Option LinkSource :=
  (Text.toString? word).bind (fun s => linkSources.lookup s)

/-- A field: its name, how its value is read, and where the content goes. -/
structure SettingField where
  name : Text
  Content : Type
  read : Value → Except Problem Content
  put : Content → Settings → Settings

/-- All fields, in the order of their complaints.  Paths are seen from a directory. -/
def fields (directory : Location) : List SettingField :=
  [⟨"spec_path", _, optional (path directory), fun a s => { s with specPath := a }⟩,
    ⟨"output_dir", _, path directory, fun a s => { s with outputDir := a }⟩,
    ⟨"group_paths_by", _, choice groupings, fun a s => { s with grouping := a }⟩,
    ⟨"category_link_source", _, choice linkSources, fun a s => { s with categoryLink := a }⟩,
    ⟨"locale", _, Record.text, fun a s => { s with locale := a }⟩,
    ⟨"base_url", _, Record.text, fun a s => { s with baseUrl := a }⟩,
    ⟨"route_base_path", _, Record.text, fun a s => { s with routeBasePath := a }⟩,
    ⟨"id_prefix", _, Record.text, fun a s => { s with idPrefix := a }⟩,
    ⟨"overview_id", _, optional Record.text, fun a s => { s with overviewId := a }⟩]

/-- The names of all fields. -/
def names : List Text := (fields {}).map (·.name)

/-! ## 2. Updates -/

/-- Values for fields, under their names. -/
abbrev Changes := List (Text × Value)

/-- What is wrong with the value of a field. -/
def complaint? (changes : Changes) (f : SettingField) : Option Complaint :=
  match changes.lookup f.name with
  | none => none
  | some v => match f.read v with
    | .ok _ => none
    | .error problem => some ⟨f.name, problem⟩

/-- The complaints about names that are no fields. -/
def unknownNames (changes : Changes) : List Complaint :=
  (changes.filter (fun c => !names.contains c.1)).map (fun c => ⟨c.1, .unknown⟩)

/-- All complaints about changes: those about fields come first. -/
def complaints (directory : Location) (changes : Changes) : List Complaint :=
  (fields directory).filterMap (complaint? changes) ++ unknownNames changes

/-- The settings with the value of one field. -/
def updateField (changes : Changes) (s : Settings) (f : SettingField) : Settings :=
  match changes.lookup f.name with
  | none => s
  | some v => match f.read v with
    | .ok a => f.put a s
    | .error _ => s

/-- The settings with changes, or the complaints about them.  Paths are seen from a directory. -/
def update (directory : Location) (changes : Changes) (s : Settings) :
    Except (List Complaint) Settings :=
  match complaints directory changes with
  | [] => .ok ((fields directory).foldl (updateField changes) s)
  | cs => .error cs

@[simp] theorem update_nil (directory : Location) (s : Settings) : update directory [] s = .ok s :=
  rfl

/-- An update is refused exactly if there is something to complain about. -/
theorem update_eq_error_iff (directory : Location) (changes : Changes) (s : Settings) :
    (∃ cs, update directory changes s = .error cs) ↔ complaints directory changes ≠ [] := by
  unfold update
  cases complaints directory changes <;> simp

/-- The reason why options are refused. -/
inductive OptionFault where
  /-- One of them is named as the file of the settings is, and so is no setting. -/
  | reserved
  | invalid (complaints : List Complaint)
  deriving Repr, DecidableEq, Inhabited

/-- The name under which the file of the settings is given. -/
def fileOption : Text := "config"

/-- The settings with options, where null stands for an option that is not given. -/
def override (options : Changes) (s : Settings) : Except OptionFault Settings :=
  if options.any (fun o => o.1 == fileOption) then .error .reserved
  else (update {} (options.filter (fun o => !o.2.isNull)) s).mapError .invalid

/-! ## 3. Files -/

/-- The reason why there are no settings in a file. -/
inductive Fault where
  /-- The file cannot be read, or it holds no YAML document. -/
  | unreadable
  /-- The document is no mapping. -/
  | notMapping
  /-- Fields are refused. -/
  | invalid (complaints : List Complaint)
  /-- The file is no text. -/
  | notUtf8
  /-- The path cannot name a file. -/
  | path (fault : FileFault)
  /-- The text is YAML but cannot be loaded. -/
  | load (fault : Yaml.Fault)
  /-- A path is no text. -/
  | notPath
  /-- The name of a field is no text. -/
  | notName
  deriving Repr, DecidableEq, Inhabited

/-- What the text of a file denotes; a document that counts as false is an empty mapping. -/
def load : Except TextFault String → Except Fault Value.Entries
  | .error (.file fault) => .error (if fault.isNameFault then .path fault else .unreadable)
  | .error .notUtf8 => .error .notUtf8
  | .ok text => match Yaml.load text with
    | .error .malformed => .error .unreadable
    | .error fault => .error (.load fault)
    | .ok v =>
      if v.isTruthy then match v.entries? with
        | some entries => .ok entries
        | none => .error .notMapping
      else .ok []

/-- The names of the fields for paths. -/
def pathNames : List Text := ["spec_path", "output_dir"]

/-- Whether the value can stand for a path in a file. -/
def isPath : Value → Bool
  | .null => true
  | .str _ => true
  | _ => false

/-- The changes that the entries of a file stand for.  Paths are looked at before anything else. -/
def changesOf (entries : Value.Entries) : Except Fault Changes := do
  let fits (name : Text) : Bool := entries.all (fun e => !e.1.sameKey (.str name) || isPath e.2)
  unless pathNames.all fits do throw .notPath
  entries.mapM fun (key, v) => match key with
    | .str name => .ok (name, v)
    | _ => .error .notName

/-- The settings that the text of a file holds; its paths are seen from its directory. -/
def ofText (file : Location) (text : Except TextFault String) : Except Fault Settings := do
  let changes ← changesOf (← load text)
  (update file.parent changes {}).mapError .invalid

variable {m : Type → Type} [Monad m] [FileAccess m]

/-- The settings in a file. -/
def ofFile (file : Location) : m (Except Fault Settings) :=
  return ofText file (← FileAccess.readText file)

/-! ## 4. Messages -/

/-- The message of a fault that has one, for the file it was found in.  The account of the cause
that follows, in parentheses or on further lines, is left out. -/
def Fault.message? (file : Location) : Fault → Option Text
  | .unreadable => some (file.text ++ ": cannot load config")
  | .notMapping => some (file.text ++ ": config must be a mapping")
  | .invalid _ => some (file.text ++ ": invalid config")
  | _ => none

/-- The message about options that are refused, without the account of the cause on further
lines. -/
def invalidOption : Text := "invalid option"

end Settings

end ApiDocs
