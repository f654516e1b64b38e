import ApiDocs.Log
import ApiDocs.Navigation.Sidebar
import ApiDocs.Output.Generated
import ApiDocs.Page.Render
import ApiDocs.Reference

/-!
# Writing a build

`emit` replaces the generated files of a directory by the pages and the sidebar of a build.  It
reports the references of the sidebar for which there is no page; they do not stop it.

Nothing is compared with what was there before: the old files go, the new ones come.
-/

namespace ApiDocs.Output

/-- What was written and removed, and the references without a page. -/
structure Report where
  written : List Location
  removed : List Location
  broken : List Text
  deriving Repr, Inhabited

/-- The files of a build, with their names. -/
def files (link : LinkSource) (n : Navigation) (pages : List (Text × Page)) :
    List (Text × Text) :=
  pages.map (fun p => (p.2.fileName, p.2.content))
    ++ [(sidebarJson, n.toJson link), (sidebarTypeScript, n.toTypeScript link)]

variable {m : Type → Type} [Monad m] [FileAccess m]

/-- Writes files into a directory and returns where they are. -/
def writeFiles (directory : Location) : List (Text × Text) → ExceptT FileFault m (List Location)
  | [] => return []
  | (name, content) :: rest => do
    let l := directory.child name
    FileAccess.writeText l content
    return l :: (← writeFiles directory rest)

/-- Writes the pages and the sidebar of a build into a directory, instead of what was generated
there before. -/
def emit (link : LinkSource) (n : Navigation) (pages : List (Text × Page))
    (directory : Location) : ExceptT FileFault m Report := do
  FileAccess.makeDirectories directory
  let removed ← clean directory
  let written ← writeFiles directory (files link n pages)
  return { written, removed, broken := Reference.broken link (pages.map (·.1)) n }

/-- The lines of writing a build. -/
def Report.log (directory : Location) (r : Report) : List Log.Line :=
  r.broken.map Log.brokenReference
    ++ [⟨.info, .emitting,
      "Wrote " ++ Text.ofNat r.written.length ++ " files to " ++ directory.text⟩]

end ApiDocs.Output
