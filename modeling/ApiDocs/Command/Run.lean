import ApiDocs.Command.Basic
import ApiDocs.Document.File
import ApiDocs.Navigation.Compile
import ApiDocs.Output.Documents
import ApiDocs.Output.Emit
import ApiDocs.Output.SavedSidebar
import ApiDocs.Text.Styling
import ApiDocs.Value.Json

/-!
# Running a command

`Command.run` does what a command asks for and returns what there is to print.  A command that fails
keeps what it had printed before; nothing is undone.

**Texts are printed plainly** (`say`): sequences that would style them on a terminal are left out.
A text with a half of a surrogate pair cannot be printed at all, so the attempt is a failure, too.

**Before a build writes anything** it has read, compiled and rendered everything: only the writing
itself can fail part-way.
-/

namespace ApiDocs.Command

/-! ## 1. Outcomes -/

/-- The reason why a command fails. -/
inductive Failure where
  /-- The arguments do not make up a command. -/
  | usage
  /-- There is no path of a description, neither among the arguments nor in the settings. -/
  | noSpec
  /-- Options are refused. -/
  | options (fault : Settings.OptionFault)
  | settings (file : Location) (fault : Settings.Fault)
  | document (file : Location) (fault : Document.Fault)
  | tree (conflict : Navigation.Conflict)
  | page (fault : Page.Fault)
  | files (fault : FileFault)
  | sidebar (file : Location) (fault : Output.SidebarFault)
  | documents (fault : Output.DocumentFault)
  | references (fault : Reference.Fault)
  /-- The output has no form in bytes. -/
  | unprintable
  deriving Repr, Inhabited

/-- The failure of a value that is refused. -/
def ValueFault.failure : ValueFault → Failure
  | .unfit => .usage
  | .path fault => .files fault

/-- The message of a failure, where there is one for the user.  The others are not foreseen. -/
def Failure.message? : Failure → Option Text
  | .usage => some "The arguments do not make up a command (--help lists the commands)."
  | .noSpec => some "No OpenAPI document given (argument or 'spec_path' in config)."
  | .options (.invalid _) => some Settings.invalidOption
  | .settings file fault => fault.message? file
  | .document file (.defect (.malformed cause)) => some (cause.messageIn (some file.text))
  | .tree (.sameId id holders) => some (Navigation.Conflict.sameId id holders).message
  | .sidebar file fault => fault.message? file
  | _ => none

/-- The exit code of a failure. -/
def Failure.exitCode : Failure → UInt32
  | .usage => 2
  | .noSpec => 2
  | _ => 1

/-- What a command has printed and reported, and how it ended. -/
structure Outcome where
  output : String := ""
  /-- The notes for the user that are no output. -/
  notes : List Text := []
  /-- The references without a document. -/
  broken : List Json := []
  failure : Option Failure := none
  deriving Repr, Inhabited

variable {m : Type → Type} [Monad m] [FileAccess m]

/-- The outcome of a command that fails. -/
def failed (failure : Failure) : m Outcome := return { failure := some failure }

/-- Prints a text and goes on, unless the text cannot be printed. -/
def say (text : Text) (rest : m Outcome) : m Outcome :=
  match Text.toString? (Text.withoutStyling text) with
  | some s => do
    let o ← rest
    return { o with output := s ++ o.output }
  | none => failed .unprintable

/-- A line for the user that is no output.  Every text has such a line: halves of surrogate pairs
are written as escapes. -/
def noteChars (line : Text) : List Char := Text.escapeHalves (Text.withoutStyling line)

/-- Prints a line and goes on. -/
def sayLine (line : Text) (rest : m Outcome) : m Outcome := say (line ++ "\n") rest

/-- Prints several lines and goes on. -/
def sayLines (lines : List Text) (rest : m Outcome) : m Outcome := lines.foldr sayLine rest

/-! ## 2. The commands -/

/-- The file with the settings of a build unless another one is named. -/
def defaultConfig : Location := .ofText "openapi-sidebar.yaml"

/-- The value of an option of a build; null, if it is not given. -/
def optionValue : Option Text → Value
  | some text => .str text
  | none => .null

/-- The options of a build that change its settings. -/
def BuildArguments.changes (a : BuildArguments) : Settings.Changes :=
  [("spec_path", optionValue a.specPath), ("output_dir", optionValue a.outputDir),
    ("id_prefix", optionValue a.idPrefix), ("base_url", optionValue a.baseUrl),
    ("category_link_source", optionValue a.categoryLink), ("locale", optionValue a.locale)]

/-- The file with the settings of a build, if there is one. -/
def configFile (a : BuildArguments) : ExceptT Failure m (Option Location) := do
  match a.config with
  | some path => return some (.ofText path)
  | none =>
    let found ← (FileAccess.isFile defaultConfig : ExceptT FileFault m Bool).adapt .files
    return if found then some defaultConfig else none

/-- The settings of a build. -/
def settingsOf (a : BuildArguments) : ExceptT Failure m Settings := do
  let base ← match ← configFile a with
    | none => pure {}
    | some file => ExceptT.adapt (Failure.settings file) (ExceptT.mk (Settings.ofFile file))
  ExceptT.mk (return (Settings.override (BuildArguments.changes a) base).mapError .options)

/-- The tree and the pages of a document. -/
def contents (s : Settings) (d : Document) : Except Failure (Navigation × List (Text × Page)) := do
  let options : Navigation.Options := { idPrefix := s.idPrefix, overviewId := s.overviewId }
  let n ← (Navigation.compile options d).mapError .tree
  let site : Page.Site := { baseUrl := s.baseUrl, routeBasePath := s.routeBasePath }
  let pages ← (Page.renderAll site d n).mapError .page
  return (n, pages)

/-- Writes the pages and the sidebar of a document. -/
def buildDocument (s : Settings) (d : Document) : m Outcome := do
  match contents s d with
  | .error failure => failed failure
  | .ok (n, pages) =>
    match ← (Output.emit s.categoryLink n pages s.outputDir).run with
    | .error fault => failed (.files fault)
    | .ok report =>
      sayLine ("Done! " ++ Text.ofNat n.categories.length ++ " categories, "
          ++ Text.ofNat pages.length ++ " pages in " ++ s.outputDir.text) (return {
        notes := report.broken.map (fun id => "  Warning: broken reference " ++ id)
        broken := report.broken.map .str })

/-- Writes the pages and the sidebar of a description. -/
def runBuild (a : BuildArguments) : m Outcome := do
  match ← (settingsOf a).run with
  | .error failure => failed failure
  | .ok s =>
    match s.specPath with
    | none => failed .noSpec
    | some spec => sayLine ("Parsing " ++ spec.text ++ "...") do
      match ← Document.ofFile spec with
      | .error fault => failed (.document spec fault)
      | .ok d =>
        sayLine ("Found " ++ Text.ofNat d.operations.length ++ " operations.") (buildDocument s d)

/-- Prints the sidebar of a description. -/
def runSidebar (specPath idPrefix : Text) (link : LinkSource) : m Outcome := do
  let spec := Location.ofText specPath
  match ← Document.ofFile spec with
  | .error fault => failed (.document spec fault)
  | .ok d =>
    match Navigation.compile { idPrefix } d with
    | .error conflict => failed (.tree conflict)
    | .ok n => say (n.toJson link) (return {})

/-- The line about a reference. -/
def brokenLine (id : Json) : Text := "  Broken reference: " ++ Reference.idText id

/-- Lists the references of a saved sidebar for which there is no document. -/
def runCheck (outputDir idPrefix : Text) : m Outcome := do
  let directory := Location.ofText outputDir
  let file := directory.child Output.sidebarJson
  match ← Output.savedSidebar file with
  | .error fault => failed (.sidebar file fault)
  | .ok items =>
    match ← (Output.documentIds directory idPrefix).run with
    | .error fault => failed (.documents fault)
    | .ok ids =>
      match Reference.brokenItems ids items with
      | .error fault => failed (.references fault)
      | .ok broken =>
        let total : Text := Text.ofNat broken.length ++ " broken references."
        sayLines (broken.map brokenLine ++ [total]) (return { broken })

/-- The line about a file that is removed. -/
def removedLine (l : Location) : Text := "  Removed " ++ l.text

/-- Removes what was generated. -/
def runClean (outputDir : Text) : m Outcome := do
  let directory := Location.ofText outputDir
  match ← (Output.clean directory).run with
  | .error fault => failed (.files fault)
  | .ok removed =>
    let total : Text :=
      "Removed " ++ Text.ofNat removed.length ++ " files from " ++ directory.text
    sayLines (removed.map removedLine ++ [total]) (return {})

/-- The list of commands. -/
def helpLines : List Text :=
  ["Commands:",
    "  build [SPEC] [-o DIR] [-c FILE] [--id-prefix TEXT] [--base-url TEXT]",
    "      [--category-link-source tag|none] [--locale TEXT]",
    "  sidebar SPEC [--id-prefix TEXT] [--category-link-source tag|none]",
    "  check DIR [--id-prefix TEXT]",
    "  clean DIR"]

/-- Does what a command asks for. -/
def perform : Command → m Outcome
  | .build a => runBuild a
  | .sidebar specPath idPrefix link => runSidebar specPath idPrefix link
  | .check outputDir idPrefix => runCheck outputDir idPrefix
  | .clean outputDir => runClean outputDir
  | .help => sayLines helpLines (return {})

/-- Runs the command that arguments ask for. -/
def run (args : List Text) : m Outcome := do
  match Invocation.read? args with
  | none => failed .usage
  | some i =>
    match ← (checkValues i.values).run with
    | .error fault => failed fault.failure
    | .ok () =>
      match i.command with
      | some command => perform command
      | none => failed .usage

end ApiDocs.Command
