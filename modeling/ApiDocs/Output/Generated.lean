import ApiDocs.FileSystem.Access

/-!
# Generated files

The files of a build are told from those written by hand by their names.  `clean` removes them: of
what stands directly in a directory, the files whose names follow a pattern, in the order of the
patterns and, for each, of the names.  No other name is among those it looks at (`mem_generated`).
-/

namespace ApiDocs.Output

/-- A form of file names. -/
inductive Pattern where
  /-- Any name that ends in a certain way. -/
  | ending (text : Text)
  /-- One name. -/
  | exactly (name : Text)
  deriving Repr, DecidableEq, Inhabited

/-- Whether a name has the form. -/
def Pattern.accepts (name : Text) : Pattern → Bool
  | .ending text => text.isSuffixOf name
  | .exactly n => n == name

/-- The file of the sidebar in JSON. -/
def sidebarJson : Text := "sidebar.json"

/-- The file of the sidebar in TypeScript. -/
def sidebarTypeScript : Text := "sidebar.ts"

/-- The forms of the names of generated files. -/
def patterns : List Pattern :=
  [.ending ".api.mdx", .ending ".tag.mdx", .ending ".info.mdx", .exactly sidebarJson,
    .exactly sidebarTypeScript]

/-- Whether a file of the name is generated. -/
def isGenerated (name : Text) : Bool := patterns.any (·.accepts name)

/-- The generated ones of several names, in the order in which they are removed. -/
def generated (names : List Text) : List Text :=
  patterns.flatMap fun p => (names.filter (fun name => p.accepts name)).mergeSort Text.notAfter

theorem mem_generated {name : Text} {names : List Text} :
    name ∈ generated names ↔ name ∈ names ∧ isGenerated name = true := by
  simp only [generated, isGenerated, List.mem_flatMap, List.mem_mergeSort, List.mem_filter,
    List.any_eq_true]
  constructor
  · rintro ⟨p, hp, hn, ha⟩
    exact ⟨hn, p, hp, ha⟩
  · rintro ⟨hn, p, hp, ha⟩
    exact ⟨p, hp, hn, ha⟩

theorem isGenerated_sidebarJson : isGenerated sidebarJson = true := by decide

theorem isGenerated_sidebarTypeScript : isGenerated sidebarTypeScript = true := by decide

variable {m : Type → Type} [Monad m] [FileAccess m]

/-- Removes those of several names in a directory that are files, and returns where they were. -/
def removeFiles (directory : Location) : List Text → ExceptT FileFault m (List Location)
  | [] => return []
  | name :: names => do
    let l := directory.child name
    if ← FileAccess.isFile l then
      ExceptT.mk (FileAccess.remove l)
      return l :: (← removeFiles directory names)
    else removeFiles directory names

/-- Removes the generated files in a directory and returns where they were. -/
def clean (directory : Location) : ExceptT FileFault m (List Location) := do
  if ← FileAccess.isDirectory directory then
    let names ← (FileAccess.names directory : m (List Text))
    removeFiles directory (generated names)
  else return []

end ApiDocs.Output
