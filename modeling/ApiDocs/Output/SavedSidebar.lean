import ApiDocs.FileSystem.Access
import ApiDocs.Json.Reader
import ApiDocs.Output.Generated

/-!
# The sidebar of an earlier build

The file in which a build leaves its sidebar holds a list in JSON.
-/

namespace ApiDocs.Output

/-- The reason why there is no sidebar in a file. -/
inductive SidebarFault where
  /-- The file cannot be read, or it holds no JSON. -/
  | unreadable
  | notList
  /-- The file is no text. -/
  | notUtf8
  /-- The path cannot name a file. -/
  | path (fault : FileFault)
  /-- An integer in the file has too many digits. -/
  | longInteger
  /-- Arrays and objects in the file are nested too deeply. -/
  | tooDeep
  deriving Repr, DecidableEq, Inhabited

/-- The message of a fault that has one, for the file it was found in.  Of a file that cannot be
read it says no more than this; the account of the cause that follows in parentheses is left
out. -/
def SidebarFault.message? (file : Location) : SidebarFault → Option Text
  | .unreadable => some (file.text ++ ": cannot load sidebar")
  | .notList => some (file.text ++ ": sidebar must be a list")
  | _ => none

/-- The sidebar that the text of a file holds. -/
def sidebarOf : Except TextFault String → Except SidebarFault Json
  | .error (.file fault) => .error (if fault.isNameFault then .path fault else .unreadable)
  | .error .notUtf8 => .error .notUtf8
  | .ok text => match Json.read text with
    | .error .malformed => .error .unreadable
    | .error .longInteger => .error .longInteger
    | .error .tooDeep => .error .tooDeep
    | .ok (.arr items) => .ok (.arr items)
    | .ok _ => .error .notList

variable {m : Type → Type} [Monad m] [FileAccess m]

/-- The sidebar in a file. -/
def savedSidebar (file : Location) : m (Except SidebarFault Json) :=
  return sidebarOf (← FileAccess.readText file)

end ApiDocs.Output
