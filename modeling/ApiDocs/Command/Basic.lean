import ApiDocs.Command.Arguments
import ApiDocs.Keyed
import ApiDocs.FileSystem.Access
import ApiDocs.Navigation.Basic
import ApiDocs.Settings

/-!
# Commands

What can be asked for on the command line: `build` writes pages and sidebar, `sidebar` prints the
sidebar, `check` looks for references without a document, and `clean` removes what was generated.

A command line is read in two steps.  `Invocation.read?` goes by the form of the arguments alone.
Then `checkValues` looks at each value by itself: words have to be known ones, and paths have to
lead to what the command needs.

**The values are checked in a fixed order:** options as they first appear, then the argument, and
only after that it matters whether the argument is missing or there are too many.  The order shows
because a path that cannot name a file is another kind of failure than arguments that do not fit.
-/

namespace ApiDocs

/-- The arguments of `build`; what is not given comes from the settings. -/
structure BuildArguments where
  specPath : Option Text := none
  outputDir : Option Text := none
  config : Option Text := none
  idPrefix : Option Text := none
  baseUrl : Option Text := none
  categoryLink : Option Text := none
  locale : Option Text := none
  deriving Repr, DecidableEq, Inhabited

/-- A command with its arguments. -/
inductive Command where
  | build (arguments : BuildArguments)
  | sidebar (specPath idPrefix : Text) (link : LinkSource)
  | check (outputDir idPrefix : Text)
  | clean (outputDir : Text)
  | help
  deriving Repr, DecidableEq, Inhabited

namespace Command

/-! ## 1. Reading -/

/-- The option that asks for the list of commands. -/
def helpForm : OptionForm := { name := "help", value := .nothing }

/-- The options before the command. -/
def commonForms : List OptionForm :=
  [{ name := "verbose", letter := some 'v', value := .nothing }, helpForm]

/-- The option for the prefix of document ids. -/
def idPrefixForm : OptionForm := { name := "id-prefix" }

/-- The option for what categories link to. -/
def linkForm : OptionForm :=
  { name := "category-link-source", value := .word (Settings.linkSources.map (fun w => w.1)) }

/-- The options of `build`. -/
def buildForms : List OptionForm :=
  [{ name := "output", letter := some 'o', value := .path .place },
    { name := "config", letter := some 'c', value := .path .file },
    idPrefixForm, { name := "base-url" }, linkForm, { name := "locale" }, helpForm]

/-- The prefix of document ids where no settings are read. -/
def idPrefixOf (a : Arguments) : Text :=
  (a.value? idPrefixForm.name).getD ({} : Settings).idPrefix

/-- The command `build`. -/
def build? (a : Arguments) : Option Command :=
  let command (specPath : Option Text) : Command := .build {
    specPath
    outputDir := a.value? "output"
    config := a.value? "config"
    idPrefix := a.value? idPrefixForm.name
    baseUrl := a.value? "base-url"
    categoryLink := a.value? linkForm.name
    locale := a.value? "locale" }
  match a.rest with
  | [] => some (command none)
  | [specPath] => some (command (some specPath))
  | _ => none

/-- The command `sidebar`. -/
def sidebar? (a : Arguments) : Option Command :=
  match a.rest, Settings.linkSource? ((a.value? linkForm.name).getD "tag") with
  | [specPath], some link => some (.sidebar specPath (idPrefixOf a) link)
  | _, _ => none

/-- The command `check`. -/
def check? (a : Arguments) : Option Command :=
  match a.rest with
  | [outputDir] => some (.check outputDir (idPrefixOf a))
  | _ => none

/-- The command `clean`. -/
def clean? (a : Arguments) : Option Command :=
  match a.rest with
  | [outputDir] => some (.clean outputDir)
  | _ => none

/-- A command by its form. -/
structure CommandForm where
  options : List OptionForm
  /-- What the path that is its argument has to lead to. -/
  argument : PathRule
  /-- The command for arguments, if there are as many as it has. -/
  command? : Arguments → Option Command

/-- The commands, by name. -/
def commands : List (Text × CommandForm) :=
  [("build", ⟨buildForms, .file, build?⟩),
    ("sidebar", ⟨[idPrefixForm, linkForm, helpForm], .file, sidebar?⟩),
    ("check", ⟨[idPrefixForm, helpForm], .directory, check?⟩),
    ("clean", ⟨[helpForm], .place, clean?⟩)]

/-- A command line of the right form. -/
structure Invocation where
  /-- The values that have to be checked. -/
  values : List (ValueForm × Text) := []
  /-- The command, unless its argument is missing or there are too many. -/
  command : Option Command
  deriving Repr, DecidableEq, Inhabited

/-- The form of the value of an option. -/
def valueForm (forms : List OptionForm) (name : String) : ValueForm :=
  match forms.find? (fun f => f.name == name) with
  | some f => f.value
  | none => .nothing

/-- The values among the arguments of a command: those of the options and the argument. -/
def CommandForm.values (form : CommandForm) (a : Arguments) : List (ValueForm × Text) :=
  (Keyed.ofList (· == ·) a.options).map (fun o => (valueForm form.options o.1, o.2))
    ++ a.rest.head?.toList.map (fun path => (.path form.argument, path))

/-- The command line that arguments make up, if they have its form. -/
def Invocation.read? (args : List Text) : Option Invocation := do
  let common ← Arguments.read? commonForms false args
  if common.has helpForm.name then return { command := some .help }
  match common.rest with
  | [] => none
  | name :: args =>
    let form ← commands.lookup name
    let a ← Arguments.read? form.options true args
    if a.has helpForm.name then return { command := some .help }
    return { values := form.values a, command := form.command? a }

/-! ## 2. Values -/

/-- Whether the rule is met by what stands at the path. -/
def PathRule.accepts : PathRule → Option FileKind → Bool
  | .file, kind => kind == some .file
  | .directory, kind => kind == some .directory
  | .place, kind => kind != some .file

/-- Whether a path asks for a directory by its form: it ends in a slash or in a single point. -/
def endsInDirectory (path : Text) : Bool :=
  match Text.splitAt (CodePoint.isIn (· == '/')) path |>.reverse with
  | last :: _ :: _ => last == [] || last == Text.ofString "."
  | _ => false

/-- The reason why a value is refused. -/
inductive ValueFault where
  /-- The value is none that the command takes. -/
  | unfit
  /-- The path cannot name a file. -/
  | path (fault : FileFault)
  deriving Repr, DecidableEq, Inhabited

variable {m : Type → Type} [Monad m] [FileAccess m]

/-- What stands at a path that was given as an argument.  The empty path leads nowhere, one that
asks for a directory does not lead to a file, and there is nothing under a name that the system does
not take. -/
def kindAt? (path : Text) : m (Option FileKind) := do
  if path = [] then return none
  match ← FileAccess.kind? (Location.ofText path) with
  | .error _ => return none
  | .ok kind => return if kind == some .file && endsInDirectory path then none else kind

/-- Checks a path. -/
def checkPath (rule : PathRule) (path : Text) : ExceptT ValueFault m Unit := do
  match nameFault? (Location.ofText path) with
  | some fault => throw (.path fault)
  | none =>
    let kind ← (kindAt? path : m (Option FileKind))
    unless rule.accepts kind do throw .unfit

/-- Checks a value. -/
def checkValue (value : Text) : ValueForm → ExceptT ValueFault m Unit
  | .nothing => return ()
  | .text => return ()
  | .word words => unless words.contains value do throw .unfit
  | .path rule => checkPath rule value

/-- Checks values in their order. -/
def checkValues : List (ValueForm × Text) → ExceptT ValueFault m Unit
  | [] => return ()
  | (form, value) :: rest => do
    checkValue value form
    checkValues rest

end Command

end ApiDocs
