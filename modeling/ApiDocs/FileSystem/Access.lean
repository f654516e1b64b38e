import ApiDocs.FileSystem.Location
import ApiDocs.Text.File

/-!
# Access to files

`FileAccess m` says what a program in the monad `m` can do with files.  Whatever the program does is
written in these few operations, so that it runs on a disk and, for reasoning, on a file system that
is a value.

An operation that can fail returns its fault; the program goes on from there.  A path that cannot
name a file at all (`nameFault?`) is refused by every operation except the question what stands
there: nothing does.
-/

namespace ApiDocs

/-- The reason why a file operation fails. -/
inductive FileFault where
  | notFound
  | notDirectory
  | isDirectory
  | alreadyExists
  /-- The system does not take the name, or does not allow the operation. -/
  | refused
  /-- The path holds the character of code zero. -/
  | zeroInName
  /-- A name, or a text that is to be stored, has no form in bytes. -/
  | unencodable
  /-- Too many directories are missing one in another. -/
  | tooDeep
  deriving Repr, DecidableEq, Inhabited

/-- The reason why a file cannot be read as a text. -/
inductive TextFault where
  | file (fault : FileFault)
  | notUtf8
  deriving Repr, DecidableEq, Inhabited

/-- What can stand at a location. -/
inductive FileKind where
  | file
  | directory
  deriving Repr, DecidableEq, Inhabited

/-- Whether the fault lies in the name itself, so that it does not depend on what is stored. -/
def FileFault.isNameFault : FileFault → Bool
  | .zeroInName => true
  | .unencodable => true
  | _ => false

/-- The reason why a path cannot name a file. -/
def nameFault? (l : Location) : Option FileFault :=
  let path := l.text
  if !path.all CodePoint.isStorable then some .unencodable
  else if path.contains (.char '\x00') then some .zeroInName
  else none

/-- Operations on files. -/
class FileAccess (m : Type → Type) where
  /-- What stands at a location.  There is nothing where something is missing on the way. -/
  kind? : Location → m (Except FileFault (Option FileKind))
  /-- The content of a file. -/
  read : Location → m (Except FileFault ByteArray)
  /-- Gives a file a content; the file may be new, its directory has to be there. -/
  write : Location → ByteArray → m (Except FileFault Unit)
  /-- Removes a file. -/
  remove : Location → m (Except FileFault Unit)
  /-- Makes a directory; the one above it has to be there. -/
  makeDirectory : Location → m (Except FileFault Unit)
  /-- The names in a directory, in any order. -/
  names : Location → m (List Text)
  /-- The files below a directory on any level, in any order, each as the names that lead to it from
  the directory. -/
  filesBelow : Location → m (List (List Text))

namespace FileAccess

variable {m : Type → Type} [Monad m] [FileAccess m]

/-- Whether there is a file at a location. -/
def isFile (l : Location) : ExceptT FileFault m Bool := do
  return (← ExceptT.mk (kind? l)) == some .file

/-- Whether there is a directory at a location. -/
def isDirectory (l : Location) : ExceptT FileFault m Bool := do
  return (← ExceptT.mk (kind? l)) == some .directory

/-- The text that the content of a file spells, with its line ends unified. -/
def textOf : Except FileFault ByteArray → Except TextFault String
  | .error fault => .error (.file fault)
  | .ok bytes => match Text.ofFile? bytes with
    | some s => .ok s
    | none => .error .notUtf8

/-- The text of a file. -/
def readText (l : Location) : m (Except TextFault String) := do return textOf (← read l)

/-- Gives a file a text.  A text without a form in bytes leaves the file empty. -/
def writeText (l : Location) (t : Text) : ExceptT FileFault m Unit := do
  match Text.encode? t with
  | some bytes => ExceptT.mk (write l bytes)
  | none =>
    ExceptT.mk (write l .empty)
    throw .unencodable

/-- Makes the directories that lead on from a place, as far as they are missing. -/
def makeDirectoriesFrom (place : Location) : List Text → ExceptT FileFault m Unit
  | [] => return ()
  | part :: parts => do
    let here := place.child part
    match ← (ExceptT.mk (kind? here) : ExceptT FileFault m (Option FileKind)) with
    | some .directory => makeDirectoriesFrom here parts
    | some .file => throw (if parts.isEmpty then .alreadyExists else .notDirectory)
    | none =>
      ExceptT.mk (makeDirectory here)
      makeDirectoriesFrom here parts

/-- How many directories can be made one in another. -/
def maxMissing : Nat := 970

/-- How many places are missing on the way to a location, counted from its end.  The parts are given
in reverse. -/
def missing (root : String) : List Text → m Nat
  | [] => return 0
  | part :: parts => do
    match ← (kind? ⟨root, (part :: parts).reverse⟩ : m (Except FileFault (Option FileKind))) with
    | .ok (some _) => return 0
    | _ => return (← missing root parts) + 1

/-- Makes a directory and those above it, as far as they are missing.  A path that is refused as a
whole makes none of them, and so does one that misses too many. -/
def makeDirectories (l : Location) : ExceptT FileFault m Unit := do
  match nameFault? l with
  | some fault => throw fault
  | none =>
    discard (ExceptT.mk (kind? l) : ExceptT FileFault m (Option FileKind))
    if maxMissing < (← (missing l.root l.parts.reverse : m Nat)) then throw .tooDeep
    makeDirectoriesFrom { l with parts := [] } l.parts

end FileAccess

end ApiDocs
