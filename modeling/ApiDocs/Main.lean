import ApiDocs.Command.Run

/-!
# The command line program

Access to the files of the system, and the entry point: it runs the command that the arguments ask
for, prints what there is to print and returns the exit code.
-/

namespace ApiDocs.Program

/-- The fault that an error of the system stands for. -/
def faultOf : IO.Error → FileFault
  | .noFileOrDirectory .. => .notFound
  | .alreadyExists .. => .alreadyExists
  | .inappropriateType .. => .isDirectory
  | _ => .refused

/-- The result of an action, with its fault if it fails. -/
def attempt {α : Type} (action : IO α) : IO (Except FileFault α) := do
  match ← action.toBaseIO with
  | .ok a => return .ok a
  | .error e => return .error (faultOf e)

/-- The path of a location for the system. -/
def pathOf (l : Location) : Except FileFault String :=
  match nameFault? l, Text.toString? l.text with
  | some fault, _ => .error fault
  | none, none => .error .unencodable
  | none, some path => .ok path

/-- The result of an action on the path of a location. -/
def attemptAt {α : Type} (l : Location) (action : String → IO α) : IO (Except FileFault α) :=
  match pathOf l with
  | .error fault => return .error fault
  | .ok path => attempt (action path)

/-- The kind of what stands at a path. -/
def kindOf (path : String) : IO (Option FileKind) := do
  let here := (← IO.currentDir) / path
  if ← here.isDir then return some .directory
  return if ← here.pathExists then some .file else none

/-- The names in a directory; none if it cannot be read. -/
def namesIn (path : String) : IO (List String) := do
  match ← ((← IO.currentDir) / path).readDir.toBaseIO with
  | .ok entries => return entries.toList.map (fun e => e.fileName)
  | .error _ => return []

/-- The files below a directory.  Directories are entered as long as there are any. -/
partial def filesIn (path : String) : IO (List (List String)) := do
  let mut files := []
  for name in ← namesIn path do
    let here := path ++ "/" ++ name
    match ← kindOf here with
    | some .directory => files := files ++ (← filesIn here).map (fun names => name :: names)
    | some .file => files := files ++ [[name]]
    | none => pure ()
  return files

instance : FileAccess IO where
  kind? l := match pathOf l with
    | .error _ => return .ok none
    | .ok path => return .ok (← kindOf path)
  read l := attemptAt l (fun path => IO.FS.readBinFile path)
  write l content := attemptAt l (fun path => IO.FS.writeBinFile path content)
  remove l := attemptAt l (fun path => IO.FS.removeFile path)
  makeDirectory l := attemptAt l (fun path => IO.FS.createDir path)
  names l := match pathOf l with
    | .error _ => return []
    | .ok path => return (← namesIn path).map Text.ofString
  filesBelow l := match pathOf l with
    | .error _ => return []
    | .ok path => return (← filesIn path).map (fun names => names.map Text.ofString)

/-- The text for the user about a failure. -/
def complaint (failure : Command.Failure) : Text :=
  "Error: " ++ failure.message?.getD "the command cannot be carried out"

/-- Prints a line for the user that is no output. -/
def tell (line : Text) : IO Unit := IO.eprintln (String.ofList (Command.noteChars line))

end ApiDocs.Program

open ApiDocs in
/-- The entry point. -/
def main (args : List String) : IO UInt32 := do
  let outcome ← Command.run (args.map Text.ofString)
  (← IO.getStdout).putStr outcome.output
  for note in outcome.notes do
    Program.tell note
  match outcome.failure with
  | none => return 0
  | some failure =>
    Program.tell (Program.complaint failure)
    return failure.exitCode
